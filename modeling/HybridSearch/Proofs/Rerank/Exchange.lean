import HybridSearch.Proofs.Number.Order
import HybridSearch.Proofs.Number.Overflow
import HybridSearch.Rerank

/-! Which answers of the scoring service can be used, said of their bytes and of the values in them. A
single score that cannot be represented makes a whole answer useless; any other item that does not
say what it should is only passed over. -/

namespace HybridSearch.Rerank

/-- An item has a score: a finite number, or an integer with a number near it. -/
def HasScore (item : Json) (score : Float) : Prop :=
  item.member? "relevance_score" = some (.float score) ∧ score.isFinite = true ∨
    ∃ value, item.member? "relevance_score" = some (.integer value) ∧
      Number.ofInteger? value = some score

/-- An item has an integer for its score that lies beyond all numbers. -/
def HasOversizedScore (item : Json) : Prop :=
  ∃ value, item.member? "relevance_score" = some (.integer value) ∧
    Number.overflowBound ≤ value.natAbs

/-- An answer that can be used, and its items: it reports success, and its body is an object with a
list of results, none of which has a score beyond all numbers. -/
structure Usable (status : Nat) (body : List UInt8) (items : List Json) : Prop where
  success : 200 ≤ status ∧ status < 300
  listed : ∃ answer, Json.readBytes body = .ok answer ∧
    answer.member? "results" = some (.array items)
  representable : ∀ item ∈ items, ¬HasOversizedScore item

/-! ## Items -/

theorem HasScore.le_self {item : Json} {score : Float} (scored : HasScore item score) :
    score ≤ score := by
  rcases scored with ⟨_, finite⟩ | ⟨_, _, near⟩
  · exact Number.le_self_of_isFinite finite
  · exact Number.le_self_iff.mpr (Number.isNumber_of_ofInteger? near)

namespace Scored

variable {item : Json}

theorem scoreOf?_eq_none_iff :
    scoreOf? (item.member? "relevance_score") = none ↔ HasOversizedScore item := by
  unfold scoreOf? HasOversizedScore
  split
  · next value given => simp [given, Number.ofInteger?_eq_none_iff]
  · next value given => simp [given]
  · next neither _ => exact iff_of_false nofun fun oversized => neither _ oversized.choose_spec.1

theorem scoreOf?_eq_some_iff {score : Float} :
    scoreOf? (item.member? "relevance_score") = some (some score) ↔ HasScore item score := by
  unfold scoreOf? HasScore
  split
  · next value given => simp [given]
  · next value given =>
    simp only [given, Option.some.injEq, Option.filter_eq_some_iff, Json.float.injEq]
    constructor
    · intro kept
      rcases kept with ⟨rfl, finite⟩
      exact .inl ⟨rfl, finite⟩
    · intro scored
      rcases scored with ⟨rfl, finite⟩ | ⟨_, impossible, _⟩
      · exact ⟨rfl, finite⟩
      · cases impossible
  · next notInteger notFloat =>
    refine iff_of_false (by simp) fun scored => ?_
    rcases scored with ⟨given, _⟩ | ⟨_, given, _⟩
    · exact notFloat _ given
    · exact notInteger _ given

theorem ofItem?_eq_none_iff : ofItem? item = none ↔ HasOversizedScore item := by
  rw [ofItem?, Option.map_eq_none_iff, scoreOf?_eq_none_iff]

theorem ofItem?_eq_some_iff {scored : Scored} :
    ofItem? item = some (some scored) ↔
      HasScore item scored.score ∧ indexOf? (item.member? "index") = scored.index? := by
  rcases scored with ⟨index?, score⟩
  simp only [ofItem?, Option.map_eq_some_iff, ← scoreOf?_eq_some_iff]
  constructor
  · intro found
    rcases found with ⟨_, scoreFound, _, rfl, equal⟩
    cases equal
    exact ⟨scoreFound, rfl⟩
  · intro found
    exact ⟨_, found.1, score, rfl, by rw [found.2]⟩

theorem indexOf?_eq_some_iff {member? : Option Json} {index : Int} :
    indexOf? member? = some index ↔ member? = some (.integer index) := by
  unfold indexOf?
  split
  · simp
  · next notInteger => exact iff_of_false nofun fun given => notInteger index given

theorem position?_eq_some_iff {size position : Nat} {scored : Scored} :
    position? size scored = some position ↔
      scored.index? = some (position : Int) ∧ position < size := by
  unfold position?
  split
  · next index given =>
    rw [given]
    split
    · next within =>
      simp only [Option.some.injEq]
      omega
    · next outside =>
      refine iff_of_false nofun fun found => outside ?_
      have same := Option.some.inj found.1
      omega
  · next absent => simp [absent]

end Scored

/-! ## Answers -/

/-- The scores in an answer, in its order. -/
def scoresOf (items : List Json) : List Scored :=
  items.filterMap fun item => (Scored.ofItem? item).join

theorem mapM_ofItem?_eq_some_iff {items : List Json} {found : List (Option Scored)} :
    items.mapM Scored.ofItem? = some found ↔ items.map Scored.ofItem? = found.map some := by
  induction items generalizing found with
  | nil => cases found <;> simp
  | cons item rest induction =>
      simp only [List.mapM_cons, Option.bind_eq_bind, Option.bind_eq_some_iff, induction]
      cases found with
      | nil => simp
      | cons first others => simp

theorem mapM_ofItem?_eq_none_iff {items : List Json} :
    items.mapM Scored.ofItem? = none ↔ ∃ item ∈ items, HasOversizedScore item := by
  induction items with
  | nil => simp
  | cons item rest induction =>
      simp only [List.mem_cons, exists_eq_or_imp]
      rw [List.mapM_cons, ← induction, ← Scored.ofItem?_eq_none_iff]
      cases Scored.ofItem? item with
      | none => simp
      | some scored? => cases rest.mapM Scored.ofItem? <;> simp

theorem filterMap_of_mapM {items : List Json} {found : List (Option Scored)}
    (read : items.mapM Scored.ofItem? = some found) : found.filterMap id = scoresOf items := by
  have same := congrArg (List.filterMap Option.join) (mapM_ofItem?_eq_some_iff.mp read)
  rw [List.filterMap_map, List.filterMap_map] at same
  exact same.symm

theorem Reply.ofBytes_eq_scores_iff {body : List UInt8} {scored : List Scored} :
    Reply.ofBytes body = .scores scored ↔ ∃ answer items, Json.readBytes body = .ok answer ∧
      answer.member? "results" = some (.array items) ∧
      (∀ item ∈ items, ¬HasOversizedScore item) ∧ scored = scoresOf items := by
  rw [ofBytes]
  cases Json.readBytes body with
  | error failure => simp
  | ok answer =>
      simp only [ofJson]
      split
      · next items listed =>
        cases read : items.mapM Scored.ofItem? with
        | none =>
            rcases mapM_ofItem?_eq_none_iff.mp read with ⟨item, member, oversized⟩
            refine iff_of_false nofun fun found => ?_
            rcases found with ⟨_, _, same, alsoListed, representable, _⟩
            cases same
            cases listed.symm.trans alsoListed
            exact representable item member oversized
        | some found =>
            have representable : ∀ item ∈ items, ¬HasOversizedScore item := by
              intro item member oversized
              cases read.symm.trans (mapM_ofItem?_eq_none_iff.mpr ⟨item, member, oversized⟩)
            simp only [filterMap_of_mapM read, scores.injEq]
            constructor
            · intro equal
              exact ⟨answer, items, rfl, listed, representable, equal.symm⟩
            · intro same
              rcases same with ⟨_, _, sameAnswer, alsoListed, _, rfl⟩
              cases sameAnswer
              cases listed.symm.trans alsoListed
              rfl
      · next unlisted =>
        refine iff_of_false nofun fun found => ?_
        rcases found with ⟨_, items, same, listed, _⟩
        cases same
        exact unlisted items listed

/-! ## Calls -/

/-- What the service answers to a call. There is no answer when the call cannot be sent, when it goes
to no host, and when it fails on its way. -/
def Call.answer? (call : Call) (endpoint : Endpoint) : Option (Nat × List UInt8) :=
  call.sent?.bind fun sent =>
    if sent.namesHost then
      match endpoint sent.call with
      | .answered status body => some (status, body)
      | .failed => none
    else none

namespace Exchange

theorem isSuccess_iff {status : Nat} : isSuccess status = true ↔ 200 ≤ status ∧ status < 300 := by
  simp [isSuccess]

/-- The items that a reply leaves, the best first. -/
def rankedBy : Reply → Option (List Scored)
  | .scores scored => some (bestFirst scored)
  | .noData | .unreadable => none

/-- What comes of a call is decided by its answer alone. -/
theorem make_of_answer (endpoint : Endpoint) (call : Call) :
    ((make endpoint call).status, (make endpoint call).ranked?) =
      match call.answer? endpoint with
      | none => (failureStatus, none)
      | some (status, body) =>
          (status, if isSuccess status then rankedBy (.ofBytes body) else none) := by
  rw [make, Call.answer?]
  cases call.sent? with
  | none => rfl
  | some sent =>
      simp only [Option.bind_some]
      cases endpoint sent.call with
      | failed => cases sent.namesHost <;> rfl
      | answered status body =>
          cases sent.namesHost with
          | false => rfl
          | true =>
              simp only [Bool.not_true, Bool.false_eq_true, if_false, if_true]
              split
              · cases Reply.ofBytes body <;> rfl
              · rfl

/-- A call that was made has the status of its answer, or that of a failed service. -/
theorem status_make (endpoint : Endpoint) (call : Call) :
    (make endpoint call).status = (call.answer? endpoint).elim failureStatus Prod.fst := by
  have both := make_of_answer endpoint call
  cases answered : call.answer? endpoint <;> rw [answered] at both <;> exact congrArg Prod.fst both

theorem ranked?_make (endpoint : Endpoint) (call : Call) :
    (make endpoint call).ranked? = (call.answer? endpoint).bind fun (status, body) =>
      if isSuccess status then rankedBy (.ofBytes body) else none := by
  have both := make_of_answer endpoint call
  cases answered : call.answer? endpoint <;> rw [answered] at both <;> exact congrArg Prod.snd both

theorem rankedBy_eq_some_iff {reply : Reply} {ranked : List Scored} :
    rankedBy reply = some ranked ↔ ∃ scored, reply = .scores scored ∧ bestFirst scored = ranked := by
  cases reply <;> simp [rankedBy]

/-- A call has scores, the best first, exactly when its answer can be used. -/
theorem ranked?_make_eq_some_iff {endpoint : Endpoint} {call : Call} {ranked : List Scored} :
    (make endpoint call).ranked? = some ranked ↔ ∃ status body items,
      call.answer? endpoint = some (status, body) ∧ Usable status body items ∧
        bestFirst (scoresOf items) = ranked := by
  simp only [ranked?_make, Option.bind_eq_some_iff, Option.ite_none_right_eq_some, isSuccess_iff,
    rankedBy_eq_some_iff, Reply.ofBytes_eq_scores_iff]
  constructor
  · intro ranks
    rcases ranks with ⟨⟨status, body⟩, answered, success, _,
      ⟨value, items, read, listed, representable, rfl⟩, sorted⟩
    exact ⟨status, body, items, answered, ⟨success, ⟨value, read, listed⟩, representable⟩, sorted⟩
  · intro used
    rcases used with ⟨status, body, items, answered,
      ⟨success, ⟨value, read, listed⟩, representable⟩, sorted⟩
    exact ⟨(status, body), answered, success, _, ⟨value, items, read, listed, representable, rfl⟩,
      sorted⟩

end Exchange

end HybridSearch.Rerank
