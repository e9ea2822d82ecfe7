import HybridSearch.Proofs.Filter.Overflow

/-! What dropped filters leave behind: nothing but, at most, the place of a clause. Filters are grouped
by the slots that they name before any of them is read, so a filter that is dropped can still bring
the clause of its slot forward, where it stands ahead of all filters that are kept on that slot. -/

namespace HybridSearch

namespace RawFilter

/-- A filter makes sense. -/
def IsKept (raw : RawFilter) : Prop :=
  ∃ filter, raw.read = .ok (.kept filter)

/-- A filter has the shape of one and makes no sense. -/
def IsDropped (raw : RawFilter) : Prop :=
  ∃ reason, raw.read = .ok (.dropped reason)

instance (raw : RawFilter) : Decidable raw.IsKept :=
  decidable_of_iff (raw.kept?.isSome = true) <| by
    rw [Option.isSome_iff_exists]
    simp only [kept?_eq_some_iff, IsKept]

/-- A filter that is dropped stands before the first one that is kept on the slot that it names. -/
def DroppedAhead (filters : List RawFilter) : Prop :=
  ∃ front dropped between first behind,
    filters = front ++ dropped :: (between ++ first :: behind) ∧
      dropped.IsDropped ∧ first.IsKept ∧ dropped.slot = first.slot ∧
        ∀ earlier ∈ front ++ dropped :: between, earlier.slot = first.slot → ¬earlier.IsKept

theorem kept?_eq_none_iff {raw : RawFilter} : raw.kept? = none ↔ ¬raw.IsKept := by
  rw [Option.eq_none_iff_forall_ne_some]
  simp only [ne_eq, kept?_eq_some_iff, IsKept, not_exists]

theorem isDropped_of_not_isKept {raw : RawFilter} (readable : ¬raw.Overflows)
    (unkept : ¬raw.IsKept) : raw.IsDropped := by
  rcases raw.exists_read_eq_ok_iff.mpr readable with ⟨filter | reason, read⟩
  · exact absurd ⟨filter, read⟩ unkept
  · exact ⟨reason, read⟩

theorem not_isKept_of_isDropped {raw : RawFilter} (dropped : raw.IsDropped) : ¬raw.IsKept := by
  intro kept
  rcases dropped with ⟨reason, readDropped⟩
  rcases kept with ⟨filter, readKept⟩
  cases readDropped.symm.trans readKept

end RawFilter

/-- A value without the shape of a filter, or with the shape of one that makes no sense. -/
def Json.IsDropped (value : Json) : Prop :=
  ∀ raw, (RawFilter.check .plain value).value? = some raw → raw.IsDropped

instance (raw : RawFilter) : Decidable raw.IsDropped :=
  match read : raw.read with
  | .ok (.dropped reason) => isTrue ⟨reason, read⟩
  | .ok (.kept _) => isFalse fun dropped => by
      rcases dropped with ⟨reason, same⟩
      cases read.symm.trans same
  | .error _ => isFalse fun dropped => by
      rcases dropped with ⟨reason, same⟩
      cases read.symm.trans same

instance (value : Json) : Decidable value.IsDropped :=
  match shaped : (RawFilter.check .plain value).value? with
  | none => isTrue fun _ same => by cases shaped.symm.trans same
  | some raw => decidable_of_iff raw.IsDropped
      ⟨fun dropped _ same => by
        cases shaped.symm.trans same
        exact dropped, fun all => all raw shaped⟩

/-- Those of some values that are not dropped. -/
def Json.withoutDropped (values : List Json) : List Json :=
  values.filter fun value => ¬value.IsDropped

namespace Compiled

variable {filters : List RawFilter}

/-- The filters that are kept, in their order. -/
def keptAmong (filters : List RawFilter) : List Filter :=
  filters.filterMap RawFilter.kept?

theorem shaped_withoutDropped {values : List Json}
    (readable : ∀ raw ∈ RawFilter.shaped values, ¬raw.Overflows) :
    RawFilter.shaped (Json.withoutDropped values) =
      (RawFilter.shaped values).filter fun raw => raw.IsKept := by
  rw [RawFilter.shaped, RawFilter.shaped, Json.withoutDropped, List.filterMap_filter,
    List.filter_filterMap]
  refine List.filterMap_congr fun value listed => ?_
  cases shaped : (RawFilter.check .plain value).value? with
  | none => simp
  | some raw =>
      have fine := readable raw (List.mem_filterMap.mpr ⟨value, listed, shaped⟩)
      have same : value.IsDropped ↔ ¬raw.IsKept := by
        constructor
        · intro dropped
          exact RawFilter.not_isKept_of_isDropped (dropped raw shaped)
        · intro unkept other alsoShaped
          cases shaped.symm.trans alsoShaped
          exact RawFilter.isDropped_of_not_isKept fine unkept
      simp [same, Option.filter]

theorem keptUnder_filter (filters : List RawFilter) (name : String) :
    keptUnder (filters.filter fun raw => raw.IsKept) name = keptUnder filters name := by
  rw [keptUnder, keptUnder, List.filter_filter, List.filterMap_filter, List.filterMap_filter]
  refine List.filterMap_congr fun raw _ => ?_
  cases kept : raw.kept? with
  | none => simp
  | some filter =>
      have isKept : raw.IsKept := ⟨filter, RawFilter.kept?_eq_some_iff.mp kept⟩
      simp [isKept]

theorem clause?_filter (filters : List RawFilter) :
    clause? (filters.filter fun raw => raw.IsKept) = clause? filters := by
  funext name
  rw [clause?, clause?, keptUnder_filter]

/-- A slot has a clause exactly when a filter that names it is kept. -/
theorem isSome_clause?_iff {name : String} :
    (clause? filters name).isSome = true ↔ ∃ raw ∈ filters, raw.IsKept ∧ raw.slot = name := by
  rw [Option.isSome_iff_exists]
  constructor
  · intro found
    rcases found with ⟨clause, found⟩
    rcases exists_mem_of_clause? found with ⟨filter, listed⟩
    rcases mem_keptUnder_iff.mp listed with ⟨⟨raw, member, read⟩, rfl⟩
    exact ⟨raw, member, ⟨filter, read⟩, (RawFilter.slot_of_read read).symm⟩
  · intro named
    rcases named with ⟨raw, member, ⟨filter, read⟩, rfl⟩
    exact exists_clause?_of_mem
      (mem_keptUnder_iff.mpr ⟨⟨raw, member, read⟩, RawFilter.slot_of_read read⟩)

/-- Names without a clause can be passed over beforehand. -/
theorem filterMap_clause?_eq (names : List String) :
    names.filterMap (clause? filters) =
      (names.filter fun name => (clause? filters name).isSome).filterMap (clause? filters) := by
  rw [List.filterMap_filter]
  refine List.filterMap_congr fun name _ => ?_
  cases clause? filters name <;> rfl

/-- A name of a filter that is kept stays when the other filters are removed. -/
theorem keptNames_perm (filters : List RawFilter) :
    (((filters.filter fun raw => raw.IsKept).map RawFilter.slot).eraseDups).Perm
      ((filters.map RawFilter.slot).eraseDups.filter fun name => (clause? filters name).isSome) := by
  refine (List.perm_ext_iff_of_nodup (nodup_eraseDups _) ((nodup_eraseDups _).filter _)).mpr ?_
  intro name
  simp only [List.mem_eraseDups, List.mem_map, List.mem_filter, decide_eq_true_eq, isSome_clause?_iff]
  constructor
  · intro named
    rcases named with ⟨raw, ⟨member, kept⟩, rfl⟩
    exact ⟨⟨raw, member, rfl⟩, raw, member, kept, rfl⟩
  · intro named
    rcases named with ⟨_, raw, member, kept, rfl⟩
    exact ⟨raw, ⟨member, kept⟩, rfl⟩

/-- The first filter that is kept on a slot is the first one on it, unless one was dropped ahead. -/
theorem keptNames_eq (readable : ∀ raw ∈ filters, ¬raw.Overflows)
    (inOrder : ¬RawFilter.DroppedAhead filters) :
    ((filters.filter fun raw => raw.IsKept).map RawFilter.slot).eraseDups =
      (filters.map RawFilter.slot).eraseDups.filter fun name => (clause? filters name).isSome := by
  refine eraseDups_map_filter filters ?_ ?_
  · intro raw member kept
    exact isSome_clause?_iff.mpr ⟨raw, member, of_decide_eq_true kept, rfl⟩
  · intro front dropped behind split unkept wanted
    have droppedUnkept := of_decide_eq_false unkept
    by_contra noneEarlier
    push Not at noneEarlier
    rcases isSome_clause?_iff.mp wanted with ⟨raw, member, kept, sameSlot⟩
    have rawBehind : raw ∈ behind := by
      rw [split, List.mem_append, List.mem_cons] at member
      rcases member with ahead | same | later
      · exact absurd sameSlot (noneEarlier raw ahead (decide_eq_true kept))
      · exact absurd (same ▸ kept) droppedUnkept
      · exact later
    have isSome : (behind.find? fun raw => raw.IsKept ∧ raw.slot = dropped.slot).isSome = true :=
      List.find?_isSome.mpr ⟨raw, rawBehind, decide_eq_true ⟨kept, sameSlot⟩⟩
    rcases Option.isSome_iff_exists.mp isSome with ⟨first, found⟩
    rcases List.find?_eq_some_iff_append.mp found with ⟨isFirst, between, rest, behindSplit, others⟩
    rcases of_decide_eq_true isFirst with ⟨firstKept, firstSlot⟩
    have readableDropped := readable dropped (by rw [split]; simp)
    refine inOrder ⟨front, dropped, between, first, rest, by rw [split, behindSplit],
      RawFilter.isDropped_of_not_isKept readableDropped droppedUnkept, firstKept, firstSlot.symm, ?_⟩
    intro earlier among earlierSlot earlierKept
    rw [firstSlot] at earlierSlot
    rw [List.mem_append, List.mem_cons] at among
    rcases among with ahead | same | later
    · exact noneEarlier earlier ahead (decide_eq_true earlierKept) earlierSlot
    · exact droppedUnkept (same ▸ earlierKept)
    · have notFound := others earlier later
      simp [earlierKept, earlierSlot] at notFound

/-! ## The clauses of filters that are kept -/

theorem keptAmong_filter (filters : List RawFilter) :
    keptAmong (filters.filter fun raw => raw.IsKept) = keptAmong filters := by
  rw [keptAmong, keptAmong, List.filterMap_filter]
  refine List.filterMap_congr fun raw _ => ?_
  split
  · rfl
  · next unkept => exact (RawFilter.kept?_eq_none_iff.mpr (by simpa using unkept)).symm

theorem keptNames_eq_map (filters : List RawFilter) :
    (filters.filter fun raw => raw.IsKept).map RawFilter.slot =
      ((keptAmong filters).map Filter.slot).map Slot.name := by
  rw [← List.filterMap_eq_map, List.filterMap_filter, keptAmong, List.map_filterMap,
    List.map_filterMap]
  refine List.filterMap_congr fun raw _ => ?_
  cases kept : raw.kept? with
  | none =>
      have unkept := RawFilter.kept?_eq_none_iff.mp kept
      simp [unkept]
  | some filter =>
      have read := RawFilter.kept?_eq_some_iff.mp kept
      have isKept : raw.IsKept := ⟨filter, read⟩
      simp [isKept, RawFilter.slot_of_read read]

theorem keptUnder_name (filters : List RawFilter) (slot : Slot) :
    keptUnder filters slot.name = (keptAmong filters).filter fun filter => filter.slot = slot := by
  rw [keptUnder, keptAmong, List.filterMap_filter, List.filter_filterMap]
  refine List.filterMap_congr fun raw _ => ?_
  cases kept : raw.kept? with
  | none => simp
  | some filter =>
      have sameSlot : raw.slot = slot.name ↔ filter.slot = slot := by
        rw [← RawFilter.slot_of_read (RawFilter.kept?_eq_some_iff.mp kept)]
        exact ⟨Slot.name_injective _ _, congrArg Slot.name⟩
      simp [sameSlot, Option.filter]

/-- The clauses of the filters that are kept: one for each slot, in the order in which the slots first
come, with a predicate for each filter on it, in their order. -/
theorem map_members_clauses (filters : List RawFilter) :
    ((((filters.filter fun raw => raw.IsKept).map RawFilter.slot).eraseDups).filterMap
        (clause? filters)).map Clause.members =
      ((keptAmong filters).map Filter.slot).eraseDups.map fun slot =>
        ((keptAmong filters).filter fun filter => filter.slot = slot).map Filter.predicate := by
  rw [keptNames_eq_map, eraseDups_map _ Slot.name_injective, List.filterMap_map, List.map_filterMap]
  refine (List.filterMap_congr fun slot member => ?_).trans (congrFun List.filterMap_eq_map _)
  rcases List.mem_map.mp (List.mem_eraseDups.mp member) with ⟨filter, kept, sameSlot⟩
  have listed : filter ∈ keptUnder filters slot.name := by
    rw [keptUnder_name]
    exact List.mem_filter.mpr ⟨kept, decide_eq_true sameSlot⟩
  rcases exists_clause?_of_mem listed with ⟨clause, found⟩
  rw [Function.comp_apply, Function.comp_apply, found, Option.map_some, members_of_clause? found,
    keptUnder_name]

/-- Filters that are dropped leave no trace. Without them the filters are compiled to the same clauses,
each with the same predicates in the same order, and these stand in the same order too unless a filter
is dropped ahead of the first one that is kept on its slot. The filters that remain make one clause for
each slot, in the order in which the slots first come, and a clause has a predicate for each filter on
its slot, in the order of the filters. -/
theorem dropped_leave_no_trace (values : List Json) (compiled : Compiled)
    (returned : ofValues values = .ok compiled) :
    let others := Json.withoutDropped values
    let kept := keptAmong (RawFilter.shaped others)
    ∃ known, ofValues others = .ok known ∧
      compiled.clauses.Perm known.clauses ∧
      (¬RawFilter.DroppedAhead (RawFilter.shaped values) → compiled.clauses = known.clauses) ∧
      known.clauses.map Clause.members = (kept.map Filter.slot).eraseDups.map fun slot =>
        (kept.filter fun filter => filter.slot = slot).map Filter.predicate := by
  intro others kept
  have readable := (exists_ofValues_eq_ok_iff values).mp ⟨compiled, returned⟩
  have shaped := shaped_withoutDropped readable
  have othersReadable : ∀ raw ∈ RawFilter.shaped others, ¬raw.Overflows := by
    intro raw member
    rw [shaped] at member
    exact readable raw (List.mem_filter.mp member).1
  rcases (exists_ofValues_eq_ok_iff others).mpr othersReadable with ⟨known, knownReturned⟩
  rcases ofValues_eq_ok returned with ⟨_, ofFilters, sameClauses⟩
  rcases ofValues_eq_ok knownReturned with ⟨_, ofOthers, sameKnown⟩
  have clauses := clauses_of_ofFilters ofFilters
  have knownClauses := clauses_of_ofFilters ofOthers
  rw [← sameClauses, filterMap_clause?_eq] at clauses
  rw [← sameKnown, shaped, clause?_filter] at knownClauses
  refine ⟨known, knownReturned, ?_, ?_, ?_⟩
  · rw [clauses, knownClauses]
    exact ((keptNames_perm _).symm).filterMap _
  · intro inOrder
    rw [clauses, knownClauses, keptNames_eq readable inOrder]
  · have sameKept : kept = keptAmong (RawFilter.shaped values) :=
      (congrArg keptAmong shaped).trans (keptAmong_filter _)
    rw [knownClauses, sameKept]
    exact map_members_clauses _

/-- Filters on two slots, mixed with each other, with a value that is no filter, and with a filter
that is dropped. -/
def mixedValues : List Json :=
  let filter (slot fieldType operator : String) (value : Json) : Json :=
    .object [("tagSlot", .string slot), ("fieldType", .string fieldType),
      ("operator", .string operator), ("value", value)]
  [filter "tag1" "text" "eq" (.string "Invoice"), .null,
    filter "boolean2" "boolean" "neq" (.bool true), filter "tag1" "text" "gt" (.string "a"),
    filter "tag1" "text" "starts_with" (.string "A_")]

/-- The clauses of the filters on the two slots. -/
def mixedClauses : Compiled where
  clauses :=
    [⟨.textEqual 0 false "invoice", [.textLike 0 false ⟨false, ['a', '/', '_'], true⟩]⟩,
      ⟨.boolean 1 true true, []⟩]
  dropped := [.malformed, .operator]

/-- The only filter that is dropped stands behind one that is kept on its slot. -/
theorem mixedValues_inOrder : ¬RawFilter.DroppedAhead (RawFilter.shaped mixedValues) := by
  intro ahead
  rcases ahead with ⟨front, dropped, between, first, behind, split, isDropped, _, sameSlot, noneKept⟩
  have onSlot : ∀ raw ∈ RawFilter.shaped mixedValues, raw.IsDropped → raw.slot = "tag1" := by
    decide +kernel
  have member : dropped ∈ RawFilter.shaped mixedValues := by rw [split]; simp
  have start : ∃ raw, (RawFilter.shaped mixedValues).head? = some raw ∧ raw.slot = "tag1" ∧
      raw.IsKept := ⟨_, rfl, rfl, _, rfl⟩
  rcases start with ⟨raw, isHead, rawSlot, rawKept⟩
  refine noneKept raw ?_ (by rw [rawSlot, ← onSlot dropped member isDropped, sameSlot]) rawKept
  rw [split] at isHead
  cases front with
  | nil =>
      cases isHead
      exact List.mem_cons_self ..
  | cons =>
      cases isHead
      exact List.mem_cons_self ..

/-- A value that is no filter and a filter that is dropped go without a trace. -/
theorem mixedValues_without_trace : ofValues mixedValues = .ok mixedClauses ∧
    ¬RawFilter.DroppedAhead (RawFilter.shaped mixedValues) ∧
    ∃ known, ofValues (Json.withoutDropped mixedValues) = .ok known ∧
      known.clauses = mixedClauses.clauses ∧
      known.clauses.map (fun clause => clause.members.length) = [2, 1] := by
  have returned : ofValues mixedValues = .ok mixedClauses := by rfl
  rcases dropped_leave_no_trace mixedValues mixedClauses returned with
    ⟨known, knownReturned, _, inOrder, members⟩
  have same := (inOrder mixedValues_inOrder).symm
  exact ⟨returned, mixedValues_inOrder, known, knownReturned, same, by rw [same]; rfl⟩

end Compiled

end HybridSearch
