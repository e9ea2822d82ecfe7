import HybridSearch.Proofs.Rerank.Agreement
import HybridSearch.Proofs.Rerank.FailOpen

/-! The order of the items of an answer makes no difference. They are sorted by their scores before any of
them is cut off or passed over, so where no two scores are equal, answers with the same items leave the
same results. -/

namespace HybridSearch.Rerank

/-- The service reports success to a call, and its answer is an object that lists these results. -/
def Call.Lists (call : Call) (endpoint : Endpoint) (items : List Json) : Prop :=
  ∃ status body answer, call.answer? endpoint = some (status, body) ∧
    (200 ≤ status ∧ status < 300) ∧ Json.readBytes body = .ok answer ∧
      answer.member? "results" = some (.array items)

/-- No two items of an answer have scores that are equal as numbers. Items without a score may stand
anywhere. -/
def DistinctScores (items : List Json) : Prop :=
  items.Pairwise fun earlier later => ∀ first second,
    HasScore earlier first → HasScore later second → (first == second) = false

/-- Two reports leave the same of every list, which is the list itself under a certain condition. -/
structure SameOutcome (untouched : Prop) (report other : Report) : Prop where
  same : report.outcome = other.outcome
  untouched_iff : report.outcome = .untouched ↔ untouched
  left : ∀ {α : Type} (values : List α), report.outcome.apply values = other.outcome.apply values

/-! ## Sorted items -/

section Items

variable {items others : List Json}

/-- The best items stand in the order of their scores. -/
theorem bestFirst_pairwise (items : List Json) :
    (bestFirst (scoresOf items)).Pairwise fun better worse => worse.score ≤ better.score := by
  rw [← map_snd_ranking, List.pairwise_map]
  apply (ranking_pairwise items).imp
  intro better worse ahead
  exact ahead.1

theorem distinctScores_iff :
    DistinctScores items ↔
      (scoresOf items).Pairwise fun left right => (left.score == right.score) = false := by
  rw [DistinctScores, scoresOf, List.pairwise_filterMap]
  apply List.Pairwise.iff
  intro earlier later
  constructor
  · intro different first firstRead second secondRead
    exact different first.score second.score (mem_join_ofItem?_iff.mp firstRead).1
      (mem_join_ofItem?_iff.mp secondRead).1
  · intro different first second firstScore secondScore
    exact different ⟨Scored.indexOf? (earlier.member? "index"), first⟩
      (mem_join_ofItem?_iff.mpr ⟨firstScore, rfl⟩)
      ⟨Scored.indexOf? (later.member? "index"), second⟩
      (mem_join_ofItem?_iff.mpr ⟨secondScore, rfl⟩)

/-- Of two items with different scores one stands above the other one. -/
theorem DistinctScores.eq_of_tied (distinct : DistinctScores items) {first second : Scored}
    (firstMember : first ∈ scoresOf items) (secondMember : second ∈ scoresOf items)
    (below : first.score ≤ second.score) (above : second.score ≤ first.score) : first = second := by
  have apart : (scoresOf items).Pairwise fun left right =>
      ¬(left.score ≤ right.score ∧ right.score ≤ left.score) := by
    apply (distinctScores_iff.mp distinct).imp
    intro left right different tied
    rw [Number.beq_of_le_of_le tied.1 tied.2] at different
    cases different
  have symmetric : Std.Symm fun left right : Scored =>
      ¬(left.score ≤ right.score ∧ right.score ≤ left.score) :=
    ⟨fun _ _ different tied => different tied.symm⟩
  by_contra different
  exact apart.forall firstMember secondMember different ⟨below, above⟩

/-- Items in another order are sorted alike. -/
theorem DistinctScores.bestFirst_eq (distinct : DistinctScores items)
    (reordered : items.Perm others) :
    bestFirst (scoresOf items) = bestFirst (scoresOf others) := by
  have scored : (scoresOf items).Perm (scoresOf others) := reordered.filterMap _
  have sorted : (bestFirst (scoresOf items)).Perm (bestFirst (scoresOf others)) :=
    (sortBy_perm ..).trans (scored.trans (sortBy_perm ..).symm)
  apply sorted.eq_of_pairwise _ (bestFirst_pairwise items) (bestFirst_pairwise others)
  intro first second firstMember secondMember above below
  exact distinct.eq_of_tied ((mem_sortBy ..).mp firstMember)
    (scored.mem_iff.mpr ((mem_sortBy ..).mp secondMember)) below above

end Items

/-! ## Calls -/

section Calls

variable {call : Call} {endpoint first second : Endpoint} {items others : List Json}

/-- What an answer lists is what makes it usable. -/
theorem Call.Lists.eq_of_usable (lists : call.Lists endpoint items) {status : Nat}
    {body : List UInt8} {listed : List Json} (answered : call.answer? endpoint = some (status, body))
    (usable : Usable status body listed) : listed = items := by
  rcases lists with ⟨_, _, _, alsoAnswered, _, read, isListed⟩
  cases answered.symm.trans alsoAnswered
  rcases usable.listed with ⟨_, alsoRead, alsoListed⟩
  cases read.symm.trans alsoRead
  cases isListed.symm.trans alsoListed
  rfl

/-- An answer that lists results can be used unless one of them has a score beyond all numbers. -/
theorem Call.Lists.not_succeeds_iff (lists : call.Lists endpoint items) :
    ¬call.Succeeds endpoint ↔ ∃ item ∈ items, HasOversizedScore item := by
  constructor
  · intro fails
    by_contra representable
    simp only [not_exists, not_and] at representable
    rcases lists with ⟨status, body, answer, answered, success, read, listed⟩
    exact fails ⟨status, body, items, answered, success, ⟨answer, read, listed⟩, representable⟩
  · rintro ⟨item, member, oversized⟩ ⟨status, body, listed, answered, usable⟩
    cases lists.eq_of_usable answered usable
    exact usable.representable item member oversized

theorem Call.Lists.ranked?_of_succeeds (lists : call.Lists endpoint items)
    (succeeds : call.Succeeds endpoint) :
    (Exchange.make endpoint call).ranked? = some (bestFirst (scoresOf items)) := by
  rcases succeeds with ⟨status, body, listed, answered, usable⟩
  cases lists.eq_of_usable answered usable
  exact Exchange.ranked?_make_eq_some_iff.mpr ⟨status, body, items, answered, usable, rfl⟩

/-- Answers with the same items rank them alike, or none of them can be used. -/
theorem Call.Lists.ranked?_eq (lists : call.Lists first items)
    (listsOther : call.Lists second others) (reordered : items.Perm others)
    (distinct : DistinctScores items) :
    (Exchange.make first call).ranked? = (Exchange.make second call).ranked? := by
  have fails_iff : ¬call.Succeeds first ↔ ¬call.Succeeds second := by
    rw [lists.not_succeeds_iff, listsOther.not_succeeds_iff]
    simp only [reordered.mem_iff]
  by_cases succeeds : call.Succeeds first
  · have alsoSucceeds : call.Succeeds second := not_not.mp fun fails => fails_iff.mpr fails succeeds
    rw [lists.ranked?_of_succeeds succeeds, listsOther.ranked?_of_succeeds alsoSucceeds,
      distinct.bestFirst_eq reordered]
  · rw [ranked?_make_eq_none_iff.mpr succeeds, ranked?_make_eq_none_iff.mpr (fails_iff.mp succeeds)]

variable {settings : Settings} {context? : Option String} {query : String} {options : Options}

/-- Of an answer nothing but its ranking decides which results are left. -/
theorem outcome_rerankResults_congr {contents : List String}
    (same : (Exchange.make first (resultsCall settings query contents options)).ranked? =
      (Exchange.make second (resultsCall settings query contents options)).ranked?) :
    (rerankResults settings context? first query contents options).outcome =
      (rerankResults settings context? second query contents options).outcome := by
  cases skips : skip? settings options query contents.length with
  | some skip => rw [rerankResults_of_skip skips, rerankResults_of_skip skips]
  | none =>
      have needed := skip?_eq_none_iff.mp skips
      rw [outcome_rerankResults needed, outcome_rerankResults needed, same]

theorem outcome_rerankContents_congr {contents : List (Option String)}
    (same : (Exchange.make first (contentsCall settings query contents options)).ranked? =
      (Exchange.make second (contentsCall settings query contents options)).ranked?) :
    (rerankContents settings context? first query contents options).outcome =
      (rerankContents settings context? second query contents options).outcome := by
  cases skips : skip? settings options query contents.length with
  | some skip => rw [rerankContents_of_skip skips, rerankContents_of_skip skips]
  | none =>
      have needed := skip?_eq_none_iff.mp skips
      by_cases sent : sentContents settings contents options = []
      · rw [rerankContents_of_empty needed sent, rerankContents_of_empty needed sent]
      · rw [rerankContents_of_filled needed sent, rerankContents_of_filled needed sent, same]

theorem SameOutcome.of_eq {untouched : Prop} {report other : Report}
    (same : report.outcome = other.outcome)
    (untouched_iff : report.outcome = .untouched ↔ untouched) :
    SameOutcome untouched report other where
  same := same
  untouched_iff := untouched_iff
  left _ := by rw [same]

end Calls

/-- It makes no difference to reranking in which order the scoring service lists the items of its
answer, as long as no two scores are equal. Whatever else the items hold, both answers leave the same
list: the one that is reranked, where it need not be or one of the scores lies beyond all numbers, and
else the same elements of it in the same order. -/
theorem reranked_same_in_any_order (settings : Settings) (context? : Option String)
    (query : String) (options : Options) (first second : Endpoint) {items others : List Json}
    (reordered : items.Perm others) (distinct : DistinctScores items) :
    (∀ contents, (resultsCall settings query contents options).Lists first items →
      (resultsCall settings query contents options).Lists second others →
        SameOutcome
          (¬Needed settings options query contents.length ∨ ∃ item ∈ items, HasOversizedScore item)
          (rerankResults settings context? first query contents options)
          (rerankResults settings context? second query contents options)) ∧
    ∀ contents, (contentsCall settings query contents options).Lists first items →
      (contentsCall settings query contents options).Lists second others →
        SameOutcome
          (¬Needed settings options query contents.length ∨
            sentContents settings contents options ≠ [] ∧ ∃ item ∈ items, HasOversizedScore item)
          (rerankContents settings context? first query contents options)
          (rerankContents settings context? second query contents options) := by
  constructor
  · intro contents lists listsOther
    apply SameOutcome.of_eq
    · exact outcome_rerankResults_congr (lists.ranked?_eq listsOther reordered distinct)
    · rw [(rerankResults_fails_open contents).untouched_iff, ← lists.not_succeeds_iff, resultsCall?]
      by_cases needed : Needed settings options query contents.length <;> simp [needed]
  · intro contents lists listsOther
    apply SameOutcome.of_eq
    · exact outcome_rerankContents_congr (lists.ranked?_eq listsOther reordered distinct)
    · rw [(rerankContents_fails_open contents).untouched_iff, ← lists.not_succeeds_iff, contentsCall?]
      by_cases needed : Needed settings options query contents.length <;> simp [needed]

/-! ## Two answers -/

/-- Items of which two name one document, two have no score, and one is no object. -/
def scatteredItems : List Json :=
  [.object [("index", .integer 0), ("relevance_score", .float 0.5)],
    .object [("index", .integer 1), ("relevance_score", .float Number.notANumber)],
    .object [("index", .integer 1), ("relevance_score", .integer 2)],
    .integer 7,
    .object [("index", .integer 0), ("relevance_score", .string "3")],
    .object [("index", .integer 1), ("relevance_score", .float 0.25)]]

def scatteredText : String :=
  "\x7b\"results\":[\x7b\"index\":0,\"relevance_score\":0.5\x7d," ++
    "\x7b\"index\":1,\"relevance_score\":NaN\x7d,\x7b\"index\":1,\"relevance_score\":2\x7d,7," ++
    "\x7b\"index\":0,\"relevance_score\":\"3\"\x7d,\x7b\"index\":1,\"relevance_score\":0.25\x7d]\x7d"

/-- The items backwards. -/
def reversedText : String :=
  "\x7b\"results\":[\x7b\"index\":1,\"relevance_score\":0.25\x7d," ++
    "\x7b\"index\":0,\"relevance_score\":\"3\"\x7d,7,\x7b\"index\":1,\"relevance_score\":2\x7d," ++
    "\x7b\"index\":1,\"relevance_score\":NaN\x7d,\x7b\"index\":0,\"relevance_score\":0.5\x7d]\x7d"

/-- A service that answers every call with a text. -/
def saying (text : String) : Endpoint :=
  fun _ => .answered 200 (text.toList.map fun character => UInt8.ofNat character.toNat)

theorem lists_of_saying {call : Call} {text : String} {items : List Json}
    (namesHost : (call.sent?.any Sent.namesHost) = true)
    (decoded : Text.decode? (text.toList.map fun character => UInt8.ofNat character.toNat) =
      some text.toList)
    (read : Json.read Json.nestingLimit text.toList = .ok (.object [("results", .array items)])) :
    call.Lists (saying text) items := by
  rcases (Option.any_eq_true ..).mp namesHost with ⟨sent, isSent, named⟩
  have answered : call.answer? (saying text) =
      some (200, text.toList.map fun character => UInt8.ofNat character.toNat) := by
    rw [Call.answer?, isSent, Option.bind_some, if_pos named]
    rfl
  have readBytes : Json.readBytes (text.toList.map fun character => UInt8.ofNat character.toNat) =
      .ok (.object [("results", .array items)]) := by
    rw [Json.readBytes, decoded]
    exact read
  exact ⟨200, _, _, answered, by decide, readBytes, rfl⟩

set_option maxRecDepth 10000 in
theorem scatteredText_read : Json.read Json.nestingLimit scatteredText.toList =
    .ok (.object [("results", .array scatteredItems)]) := by
  rfl

set_option maxRecDepth 10000 in
theorem reversedText_read : Json.read Json.nestingLimit reversedText.toList =
    .ok (.object [("results", .array scatteredItems.reverse)]) := by
  rfl

theorem scatteredItems_distinct : DistinctScores scatteredItems :=
  distinctScores_iff.mpr (by decide +kernel)

/-- Both orders leave the second result before the first one. -/
theorem scatteredItems_reversed :
    scatteredItems.Perm scatteredItems.reverse ∧ DistinctScores scatteredItems ∧
    ∃ call : Call, call = resultsCall writtenSettings "query" ["a", "b"] {} ∧
      call.Lists (saying scatteredText) scatteredItems ∧
      call.Lists (saying reversedText) scatteredItems.reverse ∧
      (rerankResults writtenSettings none (saying scatteredText) "query" ["a", "b"] {}).outcome =
        .ranked [1, 0] ∧
      (rerankResults writtenSettings none (saying reversedText) "query" ["a", "b"] {}).outcome =
        .ranked [1, 0] := by
  have reordered := (List.reverse_perm scatteredItems).symm
  have lists : (resultsCall writtenSettings "query" ["a", "b"] {}).Lists (saying scatteredText)
      scatteredItems :=
    lists_of_saying (by decide +kernel) (by decide +kernel) scatteredText_read
  have listsReversed : (resultsCall writtenSettings "query" ["a", "b"] {}).Lists
      (saying reversedText) scatteredItems.reverse :=
    lists_of_saying (by decide +kernel) (by decide +kernel) reversedText_read
  have ranked : (rerankResults writtenSettings none (saying scatteredText) "query" ["a", "b"]
      {}).outcome = .ranked [1, 0] := by
    decide +kernel
  have same := (reranked_same_in_any_order writtenSettings none "query" {} (saying scatteredText)
    (saying reversedText) reordered scatteredItems_distinct).1 ["a", "b"] lists listsReversed
  exact ⟨reordered, scatteredItems_distinct, _, rfl, lists, listsReversed, ranked,
    same.same.symm.trans ranked⟩

end HybridSearch.Rerank
