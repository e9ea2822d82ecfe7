import Mathlib.Data.Option.Basic
import HybridSearch.Proofs.Rerank.Emptiness

/-! Items that are reranked by their contents. An item without a content is not sent, so the documents
that an answer names are counted without it, and the items behind it stand at other places than their
documents. Reranking leaves the items whose documents the answer means all the same. -/

namespace HybridSearch.Rerank

/-- There is a content to be scored, and it is not blank. -/
def hasContent : Option String → Bool
  | some content => !Text.allBlank content
  | none => false

/-- The first characters of a content. -/
def beginning (limit : Nat) (content : String) : String :=
  String.ofList (content.toList.take limit)

/-- The first items that have a content, with their places. -/
def sentItems {α : Type} (limit : Nat) (extract : α → Option String) (items : List α) :
    List (α × Nat) :=
  (items.take limit).zipIdx.filter fun entry => hasContent (extract entry.1)

/-! ## Documents and places -/

theorem withContent_eq (candidates : List (Option String)) :
    withContent candidates = candidates.zipIdx.filterMap fun entry =>
      (entry.1.filter fun content => !Text.allBlank content).map (entry.2, ·) := by
  refine List.filterMap_congr fun entry _ => ?_
  rcases entry with ⟨_ | content, position⟩
  · rfl
  · cases blank : Text.allBlank content <;> simp [blank, Option.filter]

/-- What is sent of some candidates: all of their contents that are not blank, in their order. -/
theorem map_snd_withContent (candidates : List (Option String)) :
    (withContent candidates).map Prod.snd =
      (candidates.filterMap id).filter fun content => !Text.allBlank content := by
  have forgets : (fun entry : Option String × Nat =>
      ((entry.1.filter fun content => !Text.allBlank content).map (entry.2, ·)).map Prod.snd) =
        (Option.filter fun content => !Text.allBlank content) ∘ Prod.fst := by
    funext entry
    simp [Option.map_map, Function.comp_def]
  rw [withContent_eq, List.map_filterMap, forgets, ← List.filterMap_map, List.zipIdx_map_fst,
    List.filter_filterMap]
  rfl

section Items

variable {α : Type} {limit : Nat} {extract : α → Option String} {items : List α}

/-- What is sent of some items: the contents of those that have one, each with the place of the
item. -/
theorem map_some_withContent :
    (withContent ((items.map extract).take limit)).map some =
      (sentItems limit extract items).map fun entry => (extract entry.1).map (entry.2, ·) := by
  rw [withContent_eq, sentItems, ← List.map_take, List.zipIdx_map, List.filterMap_map,
    List.map_filterMap, ← List.filterMap_eq_map, List.filterMap_filter]
  refine List.filterMap_congr fun entry _ => ?_
  cases given : extract entry.1 with
  | none => simp [given, hasContent]
  | some content =>
      cases blank : Text.allBlank content <;> simp [given, hasContent, blank, Option.filter]

theorem mem_sentItems {item : α} {place : Nat}
    (sent : (item, place) ∈ sentItems limit extract items) :
    items[place]? = some item ∧ hasContent (extract item) = true := by
  rcases List.mem_filter.mp sent with ⟨listed, content⟩
  have found := List.mem_zipIdx_iff_getElem?.mp listed
  rw [List.getElem?_take] at found
  split at found
  · exact ⟨found, content⟩
  · cases found

theorem map_fst_withContent :
    (withContent ((items.map extract).take limit)).map Prod.fst =
      (sentItems limit extract items).map Prod.snd := by
  refine List.map_injective_iff.mpr (Option.some_injective _) ?_
  have places := congrArg (List.map (Option.map Prod.fst))
    (@map_some_withContent α limit extract items)
  simp only [List.map_map] at places ⊢
  refine places.trans (List.map_congr_left fun entry sent => ?_)
  have content := (mem_sentItems sent).2
  cases given : extract entry.1 with
  | none => simp [given, hasContent] at content
  | some content => simp [given]

/-- No two of the items that are sent have one place. -/
theorem nodup_places_sentItems : ((sentItems limit extract items).map Prod.snd).Nodup := by
  refine List.Nodup.sublist (List.filter_sublist.map Prod.snd) ?_
  rw [List.zipIdx_map_snd]
  exact List.nodup_range'

end Items

/-! ## Whole calls -/

/-- A call is sent with the documents that it was made with. -/
theorem Call.documents_of_sent? {call : Call} {sent : Sent} (found : call.sent? = some sent) :
    sent.call.documents = call.documents ∧ sent.call.count = call.count := by
  rw [sent?] at found
  split at found
  · cases found
  · dsimp only at found
    split at found
    · cases found
      exact ⟨rfl, rfl⟩
    · cases found

/-- A call reaches the service as it is sent. -/
theorem Exchange.received?_eq (endpoint : Endpoint) (call : Call) :
    (make endpoint call).received? = call.sent?.map Sent.call := by
  rw [make]
  cases call.sent? with
  | none => rfl
  | some sent =>
      simp only [Option.map_some]
      repeat' split
      all_goals rfl

/-- A call that is answered has reached the service. -/
theorem Exchange.received?_make {endpoint : Endpoint} {call : Call} {answer : Nat × List UInt8}
    (answered : call.answer? endpoint = some answer) :
    ∃ received, (make endpoint call).received? = some received ∧
      received.documents = call.documents ∧ received.count = call.count := by
  rw [Call.answer?] at answered
  rcases Option.bind_eq_some_iff.mp answered with ⟨sent, isSent, _⟩
  have reached : (make endpoint call).received? = some sent.call := by
    rw [received?_eq, isSent, Option.map_some]
  exact ⟨sent.call, reached, Call.documents_of_sent? isSent⟩

section Calls

variable {α : Type} {limit : Nat} {settings : Settings} {endpoint : Endpoint} {query : String}
  {options : Options} {items : List α} {extract : α → Option String} {status : Nat}
  {body : List UInt8} {answer : List Json}

theorem sentContents_eq (limits : LimitsPositive settings options) :
    sentContents settings (items.map extract) options =
      withContent ((items.map extract).take (options.limits settings).candidates.toNat) := by
  have positive := limits.candidates
  rw [sentContents, takeTo_of_nonneg _ (by omega)]

theorem clip_of_positive (limits : LimitsPositive settings options) :
    clip (options.limits settings).contentLength =
      beginning (options.limits settings).contentLength.toNat := by
  have positive := limits.contentLength
  funext content
  rw [clip, takeTo_of_nonneg _ (by omega), beginning]

/-- The documents of a call are the beginnings of the contents that are not blank. -/
theorem documents_contentsCall (limits : LimitsPositive settings options) :
    (contentsCall settings query (items.map extract) options).documents =
      (((items.take (options.limits settings).candidates.toNat).filterMap extract).filter
        fun content => !Text.allBlank content).map
          (beginning (options.limits settings).contentLength.toNat) := by
  have contents : (sentContents settings (items.map extract) options).map Prod.snd =
      ((items.take (options.limits settings).candidates.toNat).filterMap extract).filter
        fun content => !Text.allBlank content := by
    rw [sentContents_eq limits, map_snd_withContent, ← List.map_take, List.filterMap_map,
      Function.id_comp]
  rw [← contents, List.map_map, ← clip_of_positive limits]
  rfl

/-- Each document of a call is made of the item that is sent at its index. -/
theorem map_some_documents (limits : LimitsPositive settings options) :
    (contentsCall settings query (items.map extract) options).documents.map some =
      (sentItems (options.limits settings).candidates.toNat extract items).map fun entry =>
        (extract entry.1).map (beginning (options.limits settings).contentLength.toNat) := by
  have documents := congrArg
    (List.map (Option.map (clip (options.limits settings).contentLength ∘ Prod.snd)))
    (@map_some_withContent α (options.limits settings).candidates.toNat extract items)
  rw [← sentContents_eq limits, List.map_map, List.map_map] at documents
  rw [contentsCall, callFor, List.map_map, ← clip_of_positive limits]
  refine documents.trans (List.map_congr_left fun entry _ => ?_)
  rw [Function.comp_apply, Option.map_map]
  rfl

theorem map_fst_sentContents (limits : LimitsPositive settings options) :
    (sentContents settings (items.map extract) options).map Prod.fst =
      (sentItems (options.limits settings).candidates.toNat extract items).map Prod.snd := by
  rw [sentContents_eq limits, map_fst_withContent]

theorem sentContents_eq_nil_iff_sentItems (limits : LimitsPositive settings options) :
    sentContents settings (items.map extract) options = [] ↔
      sentItems (options.limits settings).candidates.toNat extract items = [] := by
  have places := @map_fst_sentContents α settings options items extract limits
  rw [← @List.map_eq_nil_iff _ _ Prod.fst, places, List.map_eq_nil_iff]

/-- The indices that an answer means, and with them the places of the items that are left. -/
theorem outcome_rerankContents (context? : Option String)
    (limits : LimitsPositive settings options)
    (needed : Needed settings options query items.length)
    (filled : sentItems (options.limits settings).candidates.toNat extract items ≠ [])
    (answered : (contentsCall settings query (items.map extract) options).answer? endpoint =
      some (status, body)) (usable : Usable status body answer) :
    let sent := sentItems (options.limits settings).candidates.toNat extract items
    let report := rerankContents settings context? endpoint query (items.map extract) options
    report.exchange? =
        some (.make endpoint (contentsCall settings query (items.map extract) options)) ∧
      report.outcome = .ranked
        ((chosen answer sent.length
          (wantedContents settings (items.map extract) options)).filterMap fun index =>
            sent[index]?.map Prod.snd) := by
  intro sent report
  have places : _ = sent.map Prod.snd := map_fst_sentContents limits
  have lengths : (sentContents settings (items.map extract) options).length = sent.length := by
    rw [← List.length_map Prod.fst, places, List.length_map]
  have given := (sentContents_eq_nil_iff_sentItems limits).not.mpr filled
  have neededHere : Needed settings options query (items.map extract).length := by
    rwa [List.length_map]
  have came : report = _ := rerankContents_of_filled neededHere given
  rw [came, ranked?_eq_ranking answered usable]
  refine ⟨rfl, ?_⟩
  simp only [← List.getElem?_map, places, lengths, ← List.map_take]
  rfl

/-- Where no item has a content, nothing is sent and nothing is left. -/
theorem rerankContents_of_no_content (context? : Option String)
    (limits : LimitsPositive settings options)
    (needed : Needed settings options query items.length)
    (empty : sentItems (options.limits settings).candidates.toNat extract items = []) :
    let report := rerankContents settings context? endpoint query (items.map extract) options
    report.exchange? = none ∧ report.outcome = .ranked [] := by
  intro report
  have neededHere : Needed settings options query (items.map extract).length := by
    rwa [List.length_map]
  have came : report = _ :=
    rerankContents_of_empty neededHere ((sentContents_eq_nil_iff_sentItems limits).mpr empty)
  exact came ▸ ⟨rfl, rfl⟩

theorem chosen_respects_all (answer : List Json) (candidates count : Nat) :
    RespectsScores answer candidates count count (chosen answer candidates count) := by
  have respects := chosen_respects_scores answer candidates count count
  rwa [List.take_of_length_le (length_chosen_le ..)] at respects

section Sent

variable {sent : List (α × Nat)} {indices : List Nat}

/-- At the places of documents stand the items that the documents were made of. -/
theorem apply_places (located : ∀ entry ∈ sent, items[entry.2]? = some entry.1) :
    (Outcome.ranked (indices.filterMap fun index => sent[index]?.map Prod.snd)).apply items =
      indices.filterMap fun index => sent[index]?.map Prod.fst := by
  rw [Outcome.apply, List.filterMap_filterMap]
  refine List.filterMap_congr fun index _ => ?_
  cases found : sent[index]? with
  | none => rfl
  | some entry => exact located entry (List.mem_of_getElem? found)

/-- Different documents were made of items at different places. -/
theorem nodup_places (distinct : indices.Nodup) (apart : (sent.map Prod.snd).Nodup) :
    (indices.filterMap fun index => sent[index]?.map Prod.snd).Nodup := by
  refine List.Nodup.filterMap ?_ distinct
  intro left right place leftPlace rightPlace
  rw [Option.mem_def, ← List.getElem?_map] at leftPlace rightPlace
  rcases List.getElem?_eq_some_iff.mp leftPlace with ⟨within, _⟩
  exact (List.getElem?_inj within apart).mp (leftPlace.trans rightPlace.symm)

/-- An index of a document leads to what the document was made of. -/
theorem map_some_of_within {β : Type} (part : α × Nat → β)
    (within : ∀ index ∈ indices, index < sent.length) :
    (indices.filterMap fun index => sent[index]?.map part).map some =
      indices.map fun index => sent[index]?.map part := by
  refine map_some_filterMap fun index member => ?_
  simp [within index member]

/-- No place of a document is the place of an item without a content. -/
theorem exists_content_of_mem_places {place : Nat}
    (member : place ∈ indices.filterMap fun index =>
      (sentItems limit extract items)[index]?.map Prod.snd) :
    ∃ item, items[place]? = some item ∧ hasContent (extract item) = true := by
  rcases List.mem_filterMap.mp member with ⟨index, _, found⟩
  rcases Option.map_eq_some_iff.mp found with ⟨entry, listed, rfl⟩
  exact ⟨entry.1, mem_sentItems (List.mem_of_getElem? listed)⟩

end Sent

theorem wantedContents_le {contents : List (Option String)} {count : Nat}
    (given : options.count? = some count) : wantedContents settings contents options ≤ count := by
  rw [wantedContents, Options.wanted, given, Option.getD_some]
  omega

end Calls

/-- Reranking items leaves those that the answer means. Of the first items exactly those with a content
are sent, in their order, each by the beginning of its content; where there are none, nothing is sent
and nothing is left. The answer chooses among the documents by its scores, and the items that are left
are the ones that these documents were made of: none of them twice, none without a content, no more
than are wanted, and in the order of the scores. -/
theorem items_left_as_meant {α : Type} (settings : Settings) (options : Options)
    (limits : LimitsPositive settings options) (context? : Option String) (endpoint : Endpoint)
    (query : String) (items : List α) (extract : α → Option String)
    (needed : Needed settings options query items.length)
    (status : Nat) (body : List UInt8) (answer : List Json)
    (answered : (contentsCall settings query (items.map extract) options).answer? endpoint =
      some (status, body)) (usable : Usable status body answer) :
    let bounds := options.limits settings
    let sent := sentItems bounds.candidates.toNat extract items
    let report := rerankContents settings context? endpoint query (items.map extract) options
    (sent = [] → report.exchange? = none ∧ report.outcome = .ranked []) ∧
    (sent ≠ [] → ∃ exchange call indices positions,
      report.exchange? = some exchange ∧ exchange.received? = some call ∧
      call.documents = (((items.take bounds.candidates.toNat).filterMap extract).filter
        fun content => !Text.allBlank content).map (beginning bounds.contentLength.toNat) ∧
      call.documents.map some = sent.map (fun entry =>
        (extract entry.1).map (beginning bounds.contentLength.toNat)) ∧
      (∀ count, options.count? = some count → call.count ≤ count) ∧
      RespectsScores answer call.documents.length call.count call.count indices ∧
      report.outcome = .ranked positions ∧ positions.Nodup ∧
      (∀ position ∈ positions, ∃ item,
        items[position]? = some item ∧ hasContent (extract item) = true) ∧
      positions.map some = indices.map (fun index => sent[index]?.map Prod.snd) ∧
      (report.outcome.apply items).map some =
        indices.map (fun index => sent[index]?.map Prod.fst)) := by
  intro bounds sent report
  refine ⟨rerankContents_of_no_content context? limits needed, fun filled => ?_⟩
  rcases outcome_rerankContents context? limits needed filled answered usable with ⟨made, ranks⟩
  rcases Exchange.received?_make answered with ⟨call, reached, documents, count⟩
  have size : call.documents.length = sent.length := by
    rw [documents, ← List.length_map some, map_some_documents limits, List.length_map]
  have left : report.outcome = .ranked ((chosen answer sent.length call.count).filterMap
      fun index => sent[index]?.map Prod.snd) := by
    rw [count]
    exact ranks
  have respects := chosen_respects_all answer sent.length call.count
  have applied : report.outcome.apply items = _ :=
    left ▸ apply_places fun entry member => (mem_sentItems member).1
  refine ⟨_, call, chosen answer sent.length call.count, _, made, reached,
    documents.trans (documents_contentsCall limits), ?_, ?_, size ▸ respects,
    left, nodup_places respects.distinct nodup_places_sentItems,
    fun _ => exists_content_of_mem_places, map_some_of_within Prod.snd respects.within, ?_⟩
  · rw [documents, map_some_documents limits]
  · intro wanted given
    rw [count]
    exact wantedContents_le given
  · rw [applied, map_some_of_within Prod.fst respects.within]

/-- Two items with a content among items without one, and one that is no candidate. -/
def interleavedItems : List (Nat × Option String) :=
  [(0, none), (1, some "ab"), (2, some " "), (3, some "cd"), (4, some "e")]

def fourCandidates : Options where
  maxCandidates? := some 4
  maxContentLength? := some 1

theorem fourCandidates_limits : LimitsPositive writtenSettings fourCandidates where
  candidates := by decide
  results := by decide
  contentLength := by decide
  count _ given := by cases given

/-- Two documents are sent, and the item that the first one was made of is the second item. -/
theorem interleavedItems_left :
    LimitsPositive writtenSettings fourCandidates ∧
    Needed writtenSettings fourCandidates "query" interleavedItems.length ∧
    ∃ (answer : List Json) (call : Call) (indices : List Nat), Usable 200 crowdedBody answer ∧
      call.documents = ["a", "c"] ∧
      RespectsScores answer call.documents.length call.count call.count indices ∧
      [some (1, some "ab")] = indices.map fun index =>
        (sentItems 4 Prod.snd interleavedItems)[index]?.map Prod.fst := by
  have needed : Needed writtenSettings fourCandidates "query" interleavedItems.length := by
    decide +kernel
  have answered : (contentsCall writtenSettings "query" (interleavedItems.map Prod.snd)
      fourCandidates).answer? crowdedEndpoint = some (200, crowdedBody) := by
    decide +kernel
  have kept : (rerankContents writtenSettings none crowdedEndpoint "query"
      (interleavedItems.map Prod.snd) fourCandidates).outcome.apply interleavedItems =
        [(1, some "ab")] := by
    decide +kernel
  rcases crowdedBody_usable with ⟨answer, usable, _⟩
  rcases (items_left_as_meant writtenSettings fourCandidates fourCandidates_limits none
    crowdedEndpoint "query" interleavedItems Prod.snd needed 200 crowdedBody answer answered
    usable).2 (by decide) with
    ⟨_, call, indices, _, _, _, documents, _, _, respects, _, _, _, _, left⟩
  rw [kept] at left
  exact ⟨fourCandidates_limits, needed, answer, call, indices, usable,
    documents.trans (by decide +kernel), respects, left⟩

end HybridSearch.Rerank
