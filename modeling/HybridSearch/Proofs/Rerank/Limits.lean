import HybridSearch.Proofs.Checked
import HybridSearch.Proofs.Rerank.FailOpen
import HybridSearch.Proofs.Rerank.Items

/-! The limits of reranking. Of the limits of a call those in its options are checked to be positive, but
those in the settings may be any integers, and as ends of lists integers that are not positive mean
something else. Calls keep to their limits exactly where the limits from the settings make sense. -/

namespace HybridSearch.Rerank

/-- All limits that options give are positive. -/
structure Options.Valid (options : Options) : Prop where
  count : ∀ count, options.count? = some count → 1 ≤ count
  candidates : ∀ limit, options.maxCandidates? = some limit → 1 ≤ limit
  results : ∀ limit, options.maxResults? = some limit → 1 ≤ limit
  contentLength : ∀ limit, options.maxContentLength? = some limit → 1 ≤ limit

/-- Each document of a call is the beginning of the content at its place. -/
def Call.Begins (call : Call) (contents : List String) : Prop :=
  ∀ (position : Nat) (document : String), call.documents[position]? = some document →
    ∃ content, contents[position]? = some content ∧ document.toList <+: content.toList

/-- There are documents, but no more of them and no longer ones than the limits allow, and some of them
are wanted. -/
structure Call.Within (call : Call) (limits : Limits) : Prop where
  sent : 1 ≤ call.documents.length
  candidates : call.documents.length ≤ limits.candidates
  contentLength : ∀ document ∈ call.documents, document.length ≤ limits.contentLength
  wanted : 1 ≤ call.count
  wanted_le : call.count ≤ call.documents.length

/-- The call that reached the service, if any. -/
def Report.received? (report : Report) : Option Call :=
  report.exchange?.bind (·.received?)

/-! ## Options -/

namespace Options

theorem pos_of_checkLimit {input : Json} {limit : Nat}
    (accepted : checkLimit input = .accepted (some limit)) : 1 ≤ limit := by
  rcases Checked.optional_eq_accepted_some_iff.mp accepted with ⟨_, checked⟩
  rcases Checked.map_eq_accepted_iff.mp checked with ⟨value, bounded, rfl⟩
  have positive := Checked.le_of_atLeast bounded
  omega

theorem pos_of_limitField {members : List (String × Json)} {keys : List String}
    {limit? : Option Nat}
    (accepted : Checked.fieldOr members keys none checkLimit = .accepted limit?) (limit : Nat)
    (given : limit? = some limit) : 1 ≤ limit := by
  subst given
  rcases Checked.fieldOr_cases accepted with absent | ⟨input, checked⟩
  · cases absent
  · exact pos_of_checkLimit checked

theorem valid_of_check {place : Checked.RecordPlace} {input : Json} {options : Options}
    (accepted : check place input = .accepted options) : options.Valid := by
  rcases Checked.exists_members_of_record accepted with ⟨members, _, allFields⟩
  rcases Checked.seq_eq_accepted_iff.mp allFields with ⟨_, length?, withResults, length, rfl⟩
  rcases Checked.seq_eq_accepted_iff.mp withResults with ⟨_, results?, withCandidates, results, rfl⟩
  rcases Checked.seq_eq_accepted_iff.mp withCandidates with
    ⟨_, candidates?, withId, candidates, rfl⟩
  rcases Checked.seq_eq_accepted_iff.mp withId with ⟨_, id?, withCount, _, rfl⟩
  rcases Checked.seq_eq_accepted_iff.mp withCount with ⟨_, count?, withModel, count, rfl⟩
  rcases Checked.seq_eq_accepted_iff.mp withModel with ⟨_, model?, withEnabled, _, rfl⟩
  rcases Checked.map_eq_accepted_iff.mp withEnabled with ⟨enabled, _, rfl⟩
  exact {
    count := pos_of_limitField count
    candidates := pos_of_limitField candidates
    results := pos_of_limitField results
    contentLength := pos_of_limitField length
  }

/-- A limit that may be given is at least a bound of zero or one exactly when the one that stands for it
is, should it not be given. -/
theorem le_limit_iff {limit? : Option Nat} {default bound : Int} (low : bound ≤ 1)
    (positive : ∀ limit, limit? = some limit → 1 ≤ limit) :
    bound ≤ (limit?.map Int.ofNat).getD default ↔ (limit? = none → bound ≤ default) := by
  cases limit? with
  | none => simp
  | some limit =>
      have given := positive limit rfl
      simp only [Option.map_some, Option.getD_some, Int.ofNat_eq_natCast]
      exact iff_of_true (by omega) nofun

end Options

/-! ## Slices -/

section Slices

variable {α : Type} {values : List α} {limit : Int}

theorem isPrefix_takeTo (values : List α) (limit : Int) : takeTo values limit <+: values := by
  rw [takeTo]
  split <;> exact List.take_prefix ..

/-- A list is cut to a limit exactly when the limit is not negative. -/
theorem length_takeTo_le_iff : (takeTo values limit).length ≤ limit ↔ 0 ≤ limit := by
  constructor
  · intro short
    omega
  · intro nonneg
    rw [takeTo_of_nonneg _ nonneg, List.length_take]
    omega

theorem one_le_length_takeTo (given : values ≠ []) (positive : 1 ≤ limit) :
    1 ≤ (takeTo values limit).length := by
  have filled := List.length_pos_iff.mpr given
  rw [takeTo_of_nonneg _ (by omega), List.length_take]
  omega

theorem toList_clip (limit : Int) (text : String) :
    (clip limit text).toList = takeTo text.toList limit := by
  simp [clip]

theorem length_clip_le_iff {text : String} : (clip limit text).length ≤ limit ↔ 0 ≤ limit := by
  rw [← String.length_toList, toList_clip, length_takeTo_le_iff]

end Slices

/-! ## Calls -/

section Calls

variable {settings : Settings} {context? : Option String} {endpoint : Endpoint} {query : String}
  {options : Options} {contents : List String}

/-- The call that reaches the service was needed, and has the documents of the first contents. -/
theorem needed_of_received? {call : Call}
    (received : (rerankResults settings context? endpoint query contents options).received? =
      some call) :
    Needed settings options query contents.length ∧
      call.documents = (takeTo contents (options.limits settings).candidates).map
        (clip (options.limits settings).contentLength) ∧
      call.count = options.wanted contents.length call.documents.length := by
  cases skips : skip? settings options query contents.length with
  | some skip =>
      rw [rerankResults_of_skip skips] at received
      cases received
  | none =>
      have needed := skip?_eq_none_iff.mp skips
      rw [Report.received?, exchange?_rerankResults needed, Option.bind_some,
        Exchange.received?_eq] at received
      rcases Option.map_eq_some_iff.mp received with ⟨sent, isSent, rfl⟩
      rcases Call.documents_of_sent? isSent with ⟨documents, count⟩
      refine ⟨needed, documents, ?_⟩
      rw [count, documents, resultsCall, callFor, List.length_map]

theorem begins_of_received? {call : Call}
    (received : (rerankResults settings context? endpoint query contents options).received? =
      some call) : call.Begins contents := by
  rcases needed_of_received? received with ⟨_, documents, _⟩
  intro position document listed
  rw [documents, List.getElem?_map] at listed
  rcases Option.map_eq_some_iff.mp listed with ⟨content, candidate, rfl⟩
  refine ⟨content, ?_, ?_⟩
  · rcases List.getElem?_eq_some_iff.mp candidate with ⟨within, rfl⟩
    exact List.prefix_iff_getElem?.mp (isPrefix_takeTo ..) position within
  · rw [toList_clip]
    apply isPrefix_takeTo

theorem within_iff_of_received? {call : Call} (valid : options.Valid)
    (received : (rerankResults settings context? endpoint query contents options).received? =
      some call) :
    call.Within (options.limits settings) ↔
      1 ≤ (options.limits settings).candidates ∧ 0 ≤ (options.limits settings).contentLength := by
  rcases needed_of_received? received with ⟨needed, documents, count⟩
  have given : contents ≠ [] := List.ne_nil_of_length_pos (Nat.pos_of_ne_zero needed.filled)
  have size : call.documents.length =
      (takeTo contents (options.limits settings).candidates).length := by
    rw [documents, List.length_map]
  constructor
  · intro within
    rcases List.exists_mem_of_length_pos within.sent with ⟨document, member⟩
    have short := within.contentLength document member
    have few := within.candidates
    have some := within.sent
    constructor <;> omega
  · intro sensible
    rcases sensible with ⟨positive, nonneg⟩
    have sent : 1 ≤ call.documents.length := size ▸ one_le_length_takeTo given positive
    have wanted : 1 ≤ options.count?.getD contents.length := by
      cases counted : options.count? with
      | none => exact List.length_pos_iff.mpr given
      | some count => exact valid.count count counted
    constructor
    · exact sent
    · rw [size]
      exact length_takeTo_le_iff.mpr (by omega)
    · intro document member
      rw [documents] at member
      rcases List.mem_map.mp member with ⟨content, _, rfl⟩
      exact length_clip_le_iff.mpr nonneg
    · rw [count]
      exact Nat.le_min.mpr ⟨wanted, sent⟩
    · rw [count]
      exact Nat.min_le_right ..

/-- An answer that can be used leaves no more results than the limit allows, as long as the limit is
not negative. -/
theorem length_results_le_iff {α : Type} (needed : Needed settings options query contents.length)
    (succeeds : (resultsCall settings query contents options).Succeeds endpoint)
    (values : List α) :
    ((rerankResults settings context? endpoint query contents options).outcome.apply
        values).length ≤ (options.limits settings).results ↔
      0 ≤ (options.limits settings).results := by
  constructor
  · intro short
    omega
  · intro nonneg
    rcases succeeds with ⟨status, body, items, answered, usable⟩
    rw [outcome_rerankResults needed, ranked?_eq_ranking answered usable]
    simp only
    rw [takeTo_of_nonneg _ nonneg, ← List.map_take]
    apply (Int.le_toNat nonneg).mp
    calc
      _ ≤ (List.take _ (chosen items _ (options.limits settings).results.toNat)).length :=
        List.length_filterMap_le ..
      _ ≤ (chosen items _ (options.limits settings).results.toNat).length :=
        List.length_take_le' ..
      _ ≤ (options.limits settings).results.toNat := length_chosen_le ..

end Calls

/-- Which calls keep to their limits. A call that reaches the service always has the beginnings of the
first contents, one after the other. It keeps to the limits that its options give; it keeps to those that
are taken from the settings exactly when they let something be sent and are not negative, and so does
what an answer leaves. -/
theorem limits_kept_iff (settings : Settings) (place : Checked.RecordPlace) (input : Json)
    (options : Options) (accepted : Options.check place input = .accepted options)
    (context? : Option String) (endpoint : Endpoint) (query : String) (contents : List String) :
    let limits := options.limits settings
    let report := rerankResults settings context? endpoint query contents options
    (∀ call, report.received? = some call → call.Begins contents ∧
      (call.Within limits ↔
        (options.maxCandidates? = none → 1 ≤ settings.rerankMaxCandidates) ∧
        (options.maxContentLength? = none → 0 ≤ settings.rerankMaxContentLength))) ∧
    (Needed settings options query contents.length →
      (resultsCall settings query contents options).Succeeds endpoint →
        ∀ {α : Type} (results : List α),
          (report.outcome.apply results).length ≤ limits.results ↔
            (options.maxResults? = none → 0 ≤ settings.rerankMaxResults)) := by
  intro limits report
  have valid := Options.valid_of_check accepted
  constructor
  · intro call received
    refine ⟨begins_of_received? received, ?_⟩
    rw [← Options.le_limit_iff le_rfl valid.candidates,
      ← Options.le_limit_iff zero_le_one valid.contentLength]
    exact within_iff_of_received? valid received
  · intro needed succeeds α results
    rw [← Options.le_limit_iff zero_le_one valid.results]
    exact length_results_le_iff needed succeeds results

/-- The settings that a key makes together with no room for candidates. -/
def roomlessSettings : Settings :=
  { writtenSettings with rerankMaxCandidates := 0 }

theorem check_roomlessSettings :
    Settings.check [("RERANK_API_KEY", "key"), ("RERANK_MAX_CANDIDATES", "0")] =
      .accepted roomlessSettings := by
  apply Checked.value?_eq_some_iff.mp
  decide +kernel

/-- Room that the options give is kept to, though the settings give none, and so is the limit from the
settings on what the answer leaves. -/
theorem singleCandidate_within :
    Options.check .plain (.object [("maxCandidates", .integer 1)]) =
      .accepted { maxCandidates? := some 1 } ∧
    (∃ call, (rerankResults roomlessSettings none crowdedEndpoint "query" ["a", "b"]
        { maxCandidates? := some 1 }).received? = some call ∧
      call.documents = ["a"] ∧ call.Within ⟨1, 10, 4000⟩) ∧
    Needed roomlessSettings { maxCandidates? := some 1 } "query" 2 ∧
    (resultsCall roomlessSettings "query" ["a", "b"] { maxCandidates? := some 1 }).Succeeds
      crowdedEndpoint ∧
    let outcome := (rerankResults roomlessSettings none crowdedEndpoint "query" ["a", "b"]
      { maxCandidates? := some 1 }).outcome
    outcome.apply ["a", "b"] = ["a"] ∧ ((outcome.apply ["a", "b"]).length : Int) ≤ 10 := by
  have accepted : Options.check .plain (.object [("maxCandidates", .integer 1)]) =
      .accepted { maxCandidates? := some 1 } := rfl
  have reaches : ((rerankResults roomlessSettings none crowdedEndpoint "query" ["a", "b"]
      { maxCandidates? := some 1 }).received?.map Call.documents) = some ["a"] := by
    decide +kernel
  rcases Option.map_eq_some_iff.mp reaches with ⟨call, received, documents⟩
  have needed : Needed roomlessSettings { maxCandidates? := some 1 } "query" 2 :=
    skip?_eq_none_iff.mp (by decide +kernel)
  rcases crowdedBody_usable with ⟨items, usable, _⟩
  have succeeds : (resultsCall roomlessSettings "query" ["a", "b"]
      { maxCandidates? := some 1 }).Succeeds crowdedEndpoint :=
    ⟨200, crowdedBody, items, by decide +kernel, usable⟩
  rcases limits_kept_iff roomlessSettings .plain _ _ accepted none crowdedEndpoint "query"
    ["a", "b"] with ⟨sends, leaves⟩
  have within := (sends call received).2.mpr (by decide)
  have bounded := (leaves needed succeeds ["a", "b"]).mpr (by decide)
  exact ⟨accepted, ⟨call, received, documents, within⟩, needed, succeeds, by decide +kernel, bounded⟩

/-- Settings that are accepted can let a call be sent that has no documents. -/
theorem not_all_limits_kept :
    ¬∀ (environment : List (String × String)) (settings : Settings)
        (place : Checked.RecordPlace) (input : Json) (options : Options) (endpoint : Endpoint)
        (query : String) (contents : List String) (call : Call),
      Settings.check environment = .accepted settings →
        Options.check place input = .accepted options →
          (rerankResults settings none endpoint query contents options).received? = some call →
            call.Within (options.limits settings) := by
  intro claim
  have reaches : ((rerankResults roomlessSettings none crowdedEndpoint "query" ["a", "b"]
      {}).received?.map Call.documents) = some [] := by
    decide +kernel
  rcases Option.map_eq_some_iff.mp reaches with ⟨call, received, documents⟩
  have within := claim _ roomlessSettings .plain (.object []) {} crowdedEndpoint "query" ["a", "b"]
    call check_roomlessSettings rfl received
  have sent := within.sent
  rw [documents] at sent
  cases sent

end HybridSearch.Rerank
