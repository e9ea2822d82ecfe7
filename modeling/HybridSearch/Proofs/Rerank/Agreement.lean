import HybridSearch.Proofs.Rerank.Items

/-! The two ways of reranking agree. They cut the items of an answer at different points: results are
reranked by the best items that an answer holds, and of the documents that these name the first are
kept; other items are reranked by as many of the best items as are wanted. Where every item names a
document of its own, items and documents go hand in hand and it does not matter which of them are cut. -/

namespace HybridSearch.Rerank

/-- Each item with a score names a document of its own, among so many that were sent. -/
structure NamesApart (items : List Json) (sent : Nat) : Prop where
  named : ∀ item ∈ items, ∀ score, HasScore item score →
    ∃ position < sent, item.member? "index" = some (.integer position)
  apart : items.Pairwise fun earlier later => ∀ first second, HasScore earlier first →
    HasScore later second → earlier.member? "index" ≠ later.member? "index"

/-- As many items of an answer are looked at as are wanted, and if the answer can be used, its items
name different documents. -/
structure Call.Settled (call : Call) (endpoint : Endpoint) (considered : Int) : Prop where
  room : call.count ≤ considered
  apart : ∀ status body items, call.answer? endpoint = some (status, body) →
    Usable status body items → NamesApart items call.documents.length

/-! ## Answers -/

section Answers

variable {items : List Json} {sent : Nat}

theorem mem_join_ofItem?_iff {item : Json} {scored : Scored} :
    scored ∈ (Scored.ofItem? item).join ↔ HasScore item scored.score ∧
      Scored.indexOf? (item.member? "index") = scored.index? := by
  rw [Option.mem_def, Option.join_eq_some_iff, Scored.ofItem?_eq_some_iff]

theorem NamesApart.exists_position (apart : NamesApart items sent) {scored : Scored}
    (member : scored ∈ scoresOf items) : ∃ position, scored.position? sent = some position := by
  rcases List.mem_filterMap.mp member with ⟨item, among, read⟩
  rcases mem_join_ofItem?_iff.mp read with ⟨hasScore, index⟩
  rcases apart.named item among scored.score hasScore with ⟨position, within, isIndex⟩
  refine ⟨position, Scored.position?_eq_some_iff.mpr ⟨?_, within⟩⟩
  rw [← index]
  exact Scored.indexOf?_eq_some_iff.mpr isIndex

/-- Each of the items leads to a position. -/
theorem NamesApart.map_position (apart : NamesApart items sent) {found : List Scored}
    (among : ∀ scored ∈ found, scored ∈ scoresOf items) :
    found.map (Scored.position? sent) = (found.filterMap (Scored.position? sent)).map some := by
  symm
  apply map_some_filterMap
  intro scored member
  exact Option.isSome_iff_exists.mpr (apart.exists_position (among scored member))

/-- No two of the items lead to the same position. -/
theorem NamesApart.nodup_positions (apart : NamesApart items sent) :
    ((scoresOf items).filterMap (Scored.position? sent)).Nodup := by
  rw [scoresOf, List.filterMap_filterMap, List.Nodup, List.pairwise_filterMap]
  apply apart.apart.imp
  intro earlier later different first firstRead second secondRead same
  rcases Option.bind_eq_some_iff.mp firstRead with ⟨left, leftRead, leftNames⟩
  rcases Option.bind_eq_some_iff.mp secondRead with ⟨right, rightRead, rightNames⟩
  rcases mem_join_ofItem?_iff.mp leftRead with ⟨leftScore, leftIndex⟩
  rcases mem_join_ofItem?_iff.mp rightRead with ⟨rightScore, rightIndex⟩
  apply different left.score right.score leftScore rightScore
  rw [(Scored.position?_eq_some_iff.mp leftNames).1, Scored.indexOf?_eq_some_iff] at leftIndex
  rw [(Scored.position?_eq_some_iff.mp rightNames).1, ← same,
    Scored.indexOf?_eq_some_iff] at rightIndex
  rw [leftIndex, rightIndex]

/-- The items of an answer name different documents exactly when they lead to different positions. -/
theorem namesApart_iff_exists_positions :
    NamesApart items sent ↔ ∃ positions : List Nat,
      (scoresOf items).map (Scored.position? sent) = positions.map some ∧ positions.Nodup := by
  constructor
  · intro apart
    exact ⟨_, apart.map_position fun _ member => member, apart.nodup_positions⟩
  · rintro ⟨positions, leads, nodup⟩
    constructor
    · intro item among score hasScore
      have member : ⟨Scored.indexOf? (item.member? "index"), score⟩ ∈ scoresOf items :=
        List.mem_filterMap.mpr ⟨item, among, mem_join_ofItem?_iff.mpr ⟨hasScore, rfl⟩⟩
      have placed := List.mem_map_of_mem (f := Scored.position? sent) member
      rw [leads] at placed
      rcases List.mem_map.mp placed with ⟨position, _, names⟩
      rcases Scored.position?_eq_some_iff.mp names.symm with ⟨index, within⟩
      exact ⟨position, within, Scored.indexOf?_eq_some_iff.mp index⟩
    · have different : ((scoresOf items).map (Scored.position? sent)).Nodup := by
        rw [leads]
        exact nodup.map (Option.some_injective _)
      rw [List.Nodup, List.pairwise_map, scoresOf, List.pairwise_filterMap] at different
      apply different.imp
      intro earlier later apart first second firstScore secondScore same
      -- Where two items name the same, they lead to the same position, whatever their scores.
      apply apart ⟨Scored.indexOf? (earlier.member? "index"), first⟩
        (mem_join_ofItem?_iff.mpr ⟨firstScore, rfl⟩)
        ⟨Scored.indexOf? (earlier.member? "index"), second⟩
        (mem_join_ofItem?_iff.mpr ⟨secondScore, by rw [same]⟩)
      rfl

/-- The best items lead to different positions too. -/
theorem NamesApart.exists_ranked_positions (apart : NamesApart items sent) :
    ∃ positions : List Nat,
      (bestFirst (scoresOf items)).map (Scored.position? sent) = positions.map some ∧
        positions.Nodup := by
  have positions : ((bestFirst (scoresOf items)).filterMap (Scored.position? sent)).Perm
      ((scoresOf items).filterMap (Scored.position? sent)) := (sortBy_perm ..).filterMap _
  refine ⟨_, apart.map_position fun scored => (mem_sortBy ..).mp, ?_⟩
  exact positions.nodup_iff.mpr apart.nodup_positions

/-- Items that lead to different positions are cut together with the positions. -/
theorem named_take {ranked : List Scored} {positions : List Nat}
    (leads : ranked.map (Scored.position? sent) = positions.map some) (nodup : positions.Nodup)
    (count : Nat) : named sent (ranked.take count) = positions.take count := by
  have cut : (ranked.take count).filterMap (Scored.position? sent) = positions.take count := by
    have both := congrArg (fun found => (found.take count).filterMap id) leads
    simpa [← List.map_take, List.filterMap_map] using both
  rw [named, cut]
  exact eraseDups_of_nodup (nodup.sublist (List.take_sublist ..))

end Answers

/-! ## Calls -/

theorem takeTo_map {α β : Type} (transform : α → β) (values : List α) (limit : Int) :
    takeTo (values.map transform) limit = (takeTo values limit).map transform := by
  rw [takeTo, takeTo, List.length_map]
  split <;> exact List.map_take.symm

/-- Of contents none of which is blank all are sent. -/
theorem withContent_of_filled {contents : List String}
    (filled : ∀ content ∈ contents, Text.allBlank content = false) :
    withContent (contents.map some) = contents.zipIdx.map Prod.swap := by
  rw [withContent_eq, List.zipIdx_map, List.filterMap_map, ← List.filterMap_eq_map]
  apply List.filterMap_congr
  intro entry listed
  rcases entry with ⟨content, position⟩
  have member := List.mem_of_getElem? (List.mem_zipIdx_iff_getElem?.mp listed)
  simp [filled content member, Option.filter]

section Calls

variable {settings : Settings} {endpoint : Endpoint} {query : String} {options : Options}
  {contents : List String}
  (filled : ∀ content ∈ takeTo contents (options.limits settings).candidates,
    Text.allBlank content = false)

include filled

theorem sentContents_of_filled :
    sentContents settings (contents.map some) options =
      (takeTo contents (options.limits settings).candidates).zipIdx.map Prod.swap := by
  rw [sentContents, takeTo_map, withContent_of_filled filled]

theorem length_sentContents_of_filled :
    (sentContents settings (contents.map some) options).length =
      (takeTo contents (options.limits settings).candidates).length := by
  rw [sentContents_of_filled filled, List.length_map, List.length_zipIdx]

theorem wantedContents_of_filled :
    wantedContents settings (contents.map some) options =
      options.wanted contents.length (takeTo contents (options.limits settings).candidates).length := by
  rw [wantedContents, length_sentContents_of_filled filled, takeTo_map, List.length_map,
    List.length_map]
  apply Nat.min_eq_left
  exact Nat.min_le_right ..

/-- Both ways of reranking make the same call. -/
theorem contentsCall_of_filled :
    contentsCall settings query (contents.map some) options =
      resultsCall settings query contents options := by
  have documents : (sentContents settings (contents.map some) options).map Prod.snd =
      takeTo contents (options.limits settings).candidates := by
    rw [sentContents_of_filled filled, List.map_map]
    exact List.zipIdx_map_fst ..
  rw [contentsCall, resultsCall, wantedContents_of_filled filled, ← documents, List.map_map]
  rfl

/-- The document at an index was made of the content at the same place. -/
theorem places_of_filled {indices : List Nat}
    (within : ∀ index ∈ indices,
      index < (takeTo contents (options.limits settings).candidates).length) :
    (indices.filterMap fun index =>
      (sentContents settings (contents.map some) options)[index]?.map Prod.fst) = indices := by
  have same : ∀ index ∈ indices,
      (sentContents settings (contents.map some) options)[index]?.map Prod.fst = some index := by
    intro index member
    rw [sentContents_of_filled filled]
    simp [within index member]
  rw [List.filterMap_congr same, List.filterMap_some]

end Calls

/-! ## Outcomes -/

theorem lt_of_mem_named {size index : Nat} {ranked : List Scored}
    (member : index ∈ named size ranked) : index < size := by
  rcases List.mem_filterMap.mp (List.mem_eraseDups.mp member) with ⟨scored, _, names⟩
  exact (Scored.position?_eq_some_iff.mp names).2

section Outcomes

variable {settings : Settings} {endpoint : Endpoint} {query : String} {options : Options}
  {contents : List String}

/-- Where all contents are sent, items are reranked by the call that results are reranked by, and of the
best items only as many are looked at as are wanted. -/
theorem rerankContents_of_all_filled (context? : Option String) (endpoint : Endpoint)
    (needed : Needed settings options query contents.length)
    (given : takeTo contents (options.limits settings).candidates ≠ [])
    (filled : ∀ content ∈ takeTo contents (options.limits settings).candidates,
      Text.allBlank content = false) :
    let exchange := Exchange.make endpoint (resultsCall settings query contents options)
    let candidates := (takeTo contents (options.limits settings).candidates).length
    let report := rerankContents settings context? endpoint query (contents.map some) options
    report.exchange? = some exchange ∧
      report.outcome =
        match exchange.ranked? with
        | none => .untouched
        | some ranked =>
            .ranked (named candidates
              (ranked.take (options.wanted contents.length candidates))) := by
  intro exchange candidates report
  have sent : sentContents settings (contents.map some) options ≠ [] := by
    rw [← List.length_pos_iff, length_sentContents_of_filled filled]
    exact List.length_pos_iff.mpr given
  have neededHere : Needed settings options query (contents.map some).length := by
    rwa [List.length_map]
  have came : report = _ := rerankContents_of_filled neededHere sent
  rw [came, contentsCall_of_filled filled, wantedContents_of_filled filled,
    length_sentContents_of_filled filled]
  refine ⟨rfl, ?_⟩
  change Report.outcome ⟨match exchange.ranked? with
    | none => _
    | some ranked => _, _, _, _⟩ = _
  cases exchange.ranked? with
  | none => rfl
  | some ranked =>
      apply congrArg Outcome.ranked
      apply places_of_filled filled
      intro index member
      exact lt_of_mem_named member

/-- Looking at more of the best items than are wanted makes no difference when the answer is settled. -/
theorem Call.Settled.named_eq {call : Call} {considered : Int} {ranked : List Scored}
    (settled : call.Settled endpoint considered)
    (ranks : (Exchange.make endpoint call).ranked? = some ranked) :
    (named call.documents.length (takeTo ranked considered)).take call.count =
      named call.documents.length (ranked.take call.count) := by
  rcases Exchange.ranked?_make_eq_some_iff.mp ranks with
    ⟨status, body, items, answered, usable, rfl⟩
  rcases (settled.apart status body items answered usable).exists_ranked_positions with
    ⟨positions, leads, nodup⟩
  have room := settled.room
  rw [takeTo_of_nonneg _ (by omega), named_take leads nodup, named_take leads nodup, List.take_take,
    Nat.min_eq_left (by omega)]

/-- The two ways of reranking agree on contents all of which are sent. -/
theorem rerankContents_agrees (context? : Option String)
    (needed : Needed settings options query contents.length)
    (given : takeTo contents (options.limits settings).candidates ≠ [])
    (filled : ∀ content ∈ takeTo contents (options.limits settings).candidates,
      Text.allBlank content = false)
    (settled : (resultsCall settings query contents options).Settled endpoint
      (options.limits settings).results) :
    let ofResults := rerankResults settings context? endpoint query contents options
    let ofItems := rerankContents settings context? endpoint query (contents.map some) options
    ofItems.exchange? = ofResults.exchange? ∧ ofItems.outcome = ofResults.outcome := by
  intro ofResults ofItems
  rcases rerankContents_of_all_filled context? endpoint needed given filled with
    ⟨made, came⟩
  refine ⟨made.trans (exchange?_rerankResults needed).symm,
    came.trans (Eq.trans ?_ (outcome_rerankResults needed).symm)⟩
  cases ranks : (Exchange.make endpoint (resultsCall settings query contents options)).ranked? with
  | none => rfl
  | some ranked =>
      have sent : (resultsCall settings query contents options).documents.length =
          (takeTo contents (options.limits settings).candidates).length := List.length_map ..
      have cut := settled.named_eq ranks
      rw [sent] at cut
      exact congrArg Outcome.ranked cut.symm

end Outcomes

/-- The two ways of reranking agree on a list whose candidates all have contents: they make the same
call, and they leave the same of the list, be it that the call fails or that its answer names different
documents. -/
theorem rerankings_agree {α : Type} (settings : Settings) (options : Options)
    (limits : LimitsPositive settings options) (context? : Option String) (endpoint : Endpoint)
    (query : String) (results : List α) (content : α → String)
    (filled : ∀ result ∈ results.take (options.limits settings).candidates.toNat,
      Text.allBlank (content result) = false)
    (settled : Needed settings options query results.length →
      (resultsCall settings query (results.map content) options).Settled endpoint
        (options.limits settings).results) :
    let ofResults := rerankResults settings context? endpoint query (results.map content) options
    let ofItems := rerankContents settings context? endpoint query
      (results.map fun result => some (content result)) options
    ofItems.exchange? = ofResults.exchange? ∧
      ofItems.outcome.apply results = ofResults.outcome.apply results := by
  intro ofResults ofItems
  have contents : (results.map fun result => some (content result)) =
      (results.map content).map some := List.map_map.symm
  have positive := limits.candidates
  have candidates : takeTo (results.map content) (options.limits settings).candidates =
      (results.take (options.limits settings).candidates.toNat).map content := by
    rw [takeTo_of_nonneg _ (by omega), List.map_take]
  have size : (results.map content).length = results.length := List.length_map ..
  rw [← size] at settled
  cases skips : skip? settings options query (results.map content).length with
  | some skip =>
      have skipsItems : skip? settings options query ((results.map content).map some).length =
          some skip := by
        rwa [List.length_map]
      have same : ofItems = ofResults := by
        unfold ofItems
        rw [contents, rerankContents_of_skip skipsItems]
        exact (rerankResults_of_skip skips).symm
      exact same ▸ ⟨rfl, rfl⟩
  | none =>
      have needed := skip?_eq_none_iff.mp skips
      have given : takeTo (results.map content) (options.limits settings).candidates ≠ [] := by
        have something := needed.filled
        rw [List.length_map] at something
        rw [candidates, ← List.length_pos_iff, List.length_map, List.length_take]
        omega
      have agree := rerankContents_agrees context? needed given
        (candidates ▸ List.forall_mem_map.mpr filled) (settled needed)
      rw [← contents] at agree
      exact ⟨agree.1, congrArg (fun outcome => outcome.apply results) agree.2⟩

/-- An answer that names two documents, the second one before the first. -/
def reversedBody : List UInt8 :=
  let item (index score : String) : List Char :=
    "\x7b\"index\":".toList ++ index.toList ++ ",\"relevance_score\":".toList ++ score.toList ++
      "\x7d".toList
  ("\x7b\"results\":[".toList ++ item "0" "0.5" ++ ",".toList ++ item "1" "0.9" ++
    "]\x7d".toList).map fun character => UInt8.ofNat character.toNat

def reversedEndpoint : Endpoint := fun _ => .answered 200 reversedBody

def twoCandidates : Options where
  maxCandidates? := some 2

theorem twoCandidates_limits : LimitsPositive writtenSettings twoCandidates where
  candidates := by decide
  results := by decide
  contentLength := by decide
  count _ given := by cases given

theorem reversedBody_settled :
    (resultsCall writtenSettings "query" ["a", "b", " "] twoCandidates).Settled reversedEndpoint
      (twoCandidates.limits writtenSettings).results where
  room := by decide +kernel
  apart status body items answered usable := by
    have call : (resultsCall writtenSettings "query" ["a", "b", " "] twoCandidates).answer?
        reversedEndpoint = some (200, reversedBody) := by
      decide +kernel
    have read : Reply.ofBytes reversedBody = .scores [⟨some 0, 0.5⟩, ⟨some 1, 0.9⟩] := by
      decide +kernel
    cases call.symm.trans answered
    rcases usable.listed with ⟨answer, parsed, listed⟩
    have scores := Reply.ofBytes_eq_scores_iff.mpr
      ⟨answer, items, parsed, listed, usable.representable, rfl⟩
    have positions : (scoresOf items).map (Scored.position? 2) = [0, 1].map some := by
      rw [← Reply.scores.inj (read.symm.trans scores)]
      rfl
    exact namesApart_iff_exists_positions.mpr ⟨[0, 1], positions, by decide⟩

/-- The last content is blank, but it is no candidate. Both ways of reranking turn the first two
around. -/
theorem reversedBody_agreed :
    LimitsPositive writtenSettings twoCandidates ∧
    (∀ content ∈ ["a", "b", " "].take 2, Text.allBlank content = false) ∧
    (resultsCall writtenSettings "query" ["a", "b", " "] twoCandidates).Settled reversedEndpoint
      (twoCandidates.limits writtenSettings).results ∧
    (rerankContents writtenSettings none reversedEndpoint "query"
      [some "a", some "b", some " "] twoCandidates).outcome.apply ["a", "b", " "] = ["b", "a"] := by
  have filled : ∀ content ∈ ["a", "b", " "].take 2, Text.allBlank content = false := by
    decide +kernel
  have agree := rerankings_agree writtenSettings twoCandidates twoCandidates_limits none
    reversedEndpoint "query" ["a", "b", " "] id filled fun _ => reversedBody_settled
  exact ⟨twoCandidates_limits, filled, reversedBody_settled, agree.2.trans (by decide +kernel)⟩

end HybridSearch.Rerank
