import HybridSearch.Proofs.Metrics.Recording
import HybridSearch.Proofs.Rerank.Report

/-! Reranking fails open. Whatever comes of the call, there is an outcome; where the call is skipped or
fails the list stays as it is, and an answer that can be used never leaves it so. Every call that is
attempted is observed once. -/

namespace HybridSearch.Rerank

/-- There is an answer to a call, and it can be used. -/
def Call.Succeeds (call : Call) (endpoint : Endpoint) : Prop :=
  ∃ status body items, call.answer? endpoint = some (status, body) ∧ Usable status body items

/-- What is to be observed of a call: the status of its answer, or 500 where there is none. -/
def Call.observation (call : Call) (endpoint : Endpoint) : Metrics.Observation :=
  .external (.string "rerank") (.string "rerank")
    (toString ((call.answer? endpoint).elim 500 Prod.fst)) (.float 0.0)

/-- What is observed of reranking. -/
def Report.observations (report : Report) : List Metrics.Observation :=
  report.exchange?.toList.map observation

/-- A report of reranking that was skipped or attempted a call, or found nothing to send. -/
structure FailsOpen (endpoint : Endpoint) (skipped : Prop) (call? : Option Call)
    (report : Report) : Prop where
  untouched_iff : report.outcome = .untouched ↔
    skipped ∨ ∃ call, call? = some call ∧ ¬call.Succeeds endpoint
  unchanged : report.outcome = .untouched → ∀ {α : Type} (values : List α),
    report.outcome.apply values = values
  observed : report.observations = call?.toList.map (·.observation endpoint)
  recorded : ∀ backend : Metrics.Backend, backend.HasNumericBounds →
    ∀ observation ∈ report.observations, (backend.observe observation).2 = none

variable {settings : Settings} {context? : Option String} {endpoint : Endpoint} {query : String}
  {options : Options}

theorem observation_make (endpoint : Endpoint) (call : Call) :
    observation (.make endpoint call) = call.observation endpoint := by
  rw [observation, Exchange.status_make]
  rfl

theorem ranked?_make_eq_none_iff {call : Call} :
    (Exchange.make endpoint call).ranked? = none ↔ ¬call.Succeeds endpoint := by
  rw [Option.eq_none_iff_forall_ne_some]
  simp only [Ne, Exchange.ranked?_make_eq_some_iff, Call.Succeeds]
  constructor
  · intro unranked succeeds
    rcases succeeds with ⟨status, body, items, answered, usable⟩
    exact unranked _ ⟨status, body, items, answered, usable, rfl⟩
  · intro fails ranked found
    rcases found with ⟨status, body, items, answered, usable, _⟩
    exact fails ⟨status, body, items, answered, usable⟩

/-- What is said of a report follows from its outcome and its call. -/
theorem FailsOpen.of_call {skipped : Prop} {call? : Option Call} {report : Report}
    (untouched : report.outcome = .untouched ↔
      skipped ∨ ∃ call, call? = some call ∧ ¬call.Succeeds endpoint)
    (made : report.exchange? = call?.map (.make endpoint)) :
    FailsOpen endpoint skipped call? report where
  untouched_iff := untouched
  unchanged same _ values := by
    rw [same]
    rfl
  observed := by
    rw [Report.observations, made]
    cases call? with
    | none => rfl
    | some call => exact congrArg (fun observed => [observed]) (observation_make endpoint call)
  recorded backend numeric observation member := by
    rcases List.mem_map.mp member with ⟨exchange, _, rfl⟩
    exact Metrics.Backend.observe_external_succeeds numeric ..

theorem FailsOpen.of_skip {skipped : Prop} (really : skipped) (skip : Skip)
    (requestId? : Option String) :
    FailsOpen endpoint skipped none (skip.report requestId?) :=
  .of_call (iff_of_true rfl (.inl really)) rfl

/-! ## The two ways of reranking -/

/-- The call that reranking results attempts, if any. -/
def resultsCall? (settings : Settings) (query : String) (contents : List String)
    (options : Options) : Option Call :=
  if Needed settings options query contents.length then
    some (resultsCall settings query contents options)
  else none

/-- The call that reranking items attempts, if any. -/
def contentsCall? (settings : Settings) (query : String) (contents : List (Option String))
    (options : Options) : Option Call :=
  if Needed settings options query contents.length ∧
      sentContents settings contents options ≠ [] then
    some (contentsCall settings query contents options)
  else none

/-- No candidate is sent exactly when none of them has a content that is not blank. -/
theorem sentContents_eq_nil_iff {contents : List (Option String)} :
    sentContents settings contents options = [] ↔
      ∀ text, some text ∈ takeTo contents (options.limits settings).candidates →
        Text.allBlank text = true := by
  rw [sentContents, withContent, List.filterMap_eq_nil_iff]
  constructor
  · intro none text member
    rcases List.mem_iff_getElem?.mp member with ⟨position, found⟩
    have passed := none (some text, position) (List.mem_zipIdx_iff_getElem?.mpr found)
    by_contra content
    simp [content] at passed
  · intro blank candidate member
    rcases candidate with ⟨content?, position⟩
    cases content? with
    | none => rfl
    | some text =>
        have listed := List.mem_of_getElem? (List.mem_zipIdx_iff_getElem?.mp member)
        simp [blank text listed]

theorem rerankResults_fails_open (contents : List String) :
    FailsOpen endpoint (¬Needed settings options query contents.length)
      (resultsCall? settings query contents options)
      (rerankResults settings context? endpoint query contents options) := by
  cases skipped : skip? settings options query contents.length with
  | some skip =>
      have unneeded := not_needed_of_skip skipped
      rw [rerankResults_of_skip skipped, resultsCall?, if_neg unneeded]
      exact .of_skip unneeded skip _
  | none =>
      have needed := skip?_eq_none_iff.mp skipped
      rw [resultsCall?, if_pos needed]
      refine .of_call ?_ (exchange?_rerankResults needed)
      simp only [outcome_rerankResults needed, needed, not_true_eq_false, false_or,
        Option.some.injEq, exists_eq_left', ← ranked?_make_eq_none_iff]
      cases (Exchange.make endpoint (resultsCall settings query contents options)).ranked? <;> simp

theorem rerankContents_fails_open (contents : List (Option String)) :
    FailsOpen endpoint (¬Needed settings options query contents.length)
      (contentsCall? settings query contents options)
      (rerankContents settings context? endpoint query contents options) := by
  cases skipped : skip? settings options query contents.length with
  | some skip =>
      have unneeded := not_needed_of_skip skipped
      rw [rerankContents_of_skip skipped, contentsCall?, if_neg fun both => unneeded both.1]
      exact .of_skip unneeded skip _
  | none =>
      have needed := skip?_eq_none_iff.mp skipped
      by_cases sent : sentContents settings contents options = []
      · rw [rerankContents_of_empty needed sent, contentsCall?, if_neg fun both => both.2 sent]
        exact .of_call (by simp [needed]) rfl
      · rw [rerankContents_of_filled needed sent, contentsCall?, if_pos ⟨needed, sent⟩]
        refine .of_call ?_ rfl
        simp only [needed, not_true_eq_false, false_or, Option.some.injEq, exists_eq_left',
          ← ranked?_make_eq_none_iff]
        cases (Exchange.make endpoint (contentsCall settings query contents options)).ranked? <;>
          simp

/-- Reranking fails open, be it of results or of any items. Items none of which has a content to be
sent are no failure: nothing is left of them, and no call is attempted. -/
theorem reranking_fails_open (settings : Settings) (context? : Option String)
    (endpoint : Endpoint) (query : String) (options : Options) :
    (∀ contents, FailsOpen endpoint (¬Needed settings options query contents.length)
      (resultsCall? settings query contents options)
      (rerankResults settings context? endpoint query contents options)) ∧
    ∀ contents, FailsOpen endpoint (¬Needed settings options query contents.length)
        (contentsCall? settings query contents options)
        (rerankContents settings context? endpoint query contents options) ∧
      (Needed settings options query contents.length →
        (∀ text, some text ∈ takeTo contents (options.limits settings).candidates →
          Text.allBlank text = true) →
        contentsCall? settings query contents options = none ∧
          (rerankContents settings context? endpoint query contents options).outcome =
            .ranked []) := by
  refine ⟨rerankResults_fails_open, fun contents => ⟨rerankContents_fails_open contents, ?_⟩⟩
  intro needed blank
  have sent := sentContents_eq_nil_iff.mpr blank
  rw [rerankContents_of_empty needed sent, contentsCall?, if_neg fun both => both.2 sent]
  exact ⟨rfl, rfl⟩

end HybridSearch.Rerank
