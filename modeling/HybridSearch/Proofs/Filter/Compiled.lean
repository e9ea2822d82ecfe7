import HybridSearch.Proofs.Distinct
import HybridSearch.Proofs.Filter.Meaning
import HybridSearch.Proofs.Filter.Reading

/-! What compiled filters come to in the store. The clauses hold of tags exactly when, on each slot with
a filter that is kept, one of those filters is satisfied. Slots may come in any order and be mixed with
each other and with values that are no filters; what is dropped asks nothing. -/

namespace HybridSearch

/-- Those of some values that have the shape of a filter. -/
def RawFilter.shaped (values : List Json) : List RawFilter :=
  values.filterMap fun value => (RawFilter.check .plain value).value?

/-- A filter that one of some raw filters is kept as. -/
def Filter.KeptFrom (filters : List RawFilter) (filter : Filter) : Prop :=
  ∃ raw ∈ filters, raw.read = .ok (.kept filter)

/-- Whether tags are what raw filters ask for, where timestamps lie on days in some way: on each slot
with a filter that is kept, one of those filters is satisfied. -/
def Tags.Satisfy (tags : Tags) (dayOf? : Timestamp → Option Date) (filters : List RawFilter) :
    Prop :=
  ∀ slot : Slot, (∃ filter : Filter, filter.KeptFrom filters ∧ filter.slot = slot) →
    ∃ filter : Filter, filter.KeptFrom filters ∧ filter.slot = slot ∧
      filter.SatisfiedBy dayOf? tags

/-- Whether tags are what raw filters ask for, when timestamps lie on the days that they are written
with. -/
def Tags.SatisfyAsWritten (tags : Tags) (filters : List RawFilter) : Prop :=
  tags.Satisfy (fun stored => some stored.date) filters

theorem Tags.KeepDays.satisfyAsWritten_iff {dayOf? : Timestamp → Option Date} {tags : Tags}
    (keep : tags.KeepDays dayOf?) (filters : List RawFilter) :
    tags.SatisfyAsWritten filters ↔ tags.Satisfy dayOf? filters := by
  simp only [SatisfyAsWritten, Satisfy, keep.satisfiedBy_iff]

namespace Compiled

/-- The filters that are kept on the slot with a name. -/
def keptUnder (filters : List RawFilter) (name : String) : List Filter :=
  (filters.filter fun filter => filter.slot = name).filterMap RawFilter.kept?

/-- The clause of the slot with a name, if a filter on it is kept. -/
def clause? (filters : List RawFilter) (name : String) : Option Clause :=
  Clause.ofList? ((keptUnder filters name).map Filter.predicate)

theorem mem_keptUnder_iff {filters : List RawFilter} {name : String} {filter : Filter} :
    filter ∈ keptUnder filters name ↔ filter.KeptFrom filters ∧ filter.slot.name = name := by
  simp only [keptUnder, List.mem_filterMap, List.mem_filter, decide_eq_true_eq,
    RawFilter.kept?_eq_some_iff, Filter.KeptFrom]
  constructor
  · intro compiled
    rcases compiled with ⟨raw, ⟨member, rfl⟩, kept⟩
    exact ⟨⟨raw, member, kept⟩, RawFilter.slot_of_read kept⟩
  · intro compiled
    rcases compiled with ⟨⟨raw, member, kept⟩, rfl⟩
    exact ⟨raw, ⟨member, (RawFilter.slot_of_read kept).symm⟩, kept⟩

/-! ## The clauses, slot by slot -/

theorem keptFilters_of_mapM {group : List RawFilter} {readings : List Reading}
    (read : group.mapM RawFilter.read = .ok readings) :
    keptFilters readings = group.filterMap RawFilter.kept? := by
  have oneByOne := Outcome.map_results_of_mapM read Reading.filter? RawFilter.kept? (by
    intro raw reading outcome
    rw [RawFilter.kept?, outcome]
    rfl)
  have joined := congrArg (List.filterMap id) oneByOne
  simp only [List.filterMap_map, Function.id_comp] at joined
  exact joined

/-- The clauses are those of the slots that are named, in the order in which they first are. -/
theorem clauses_of_ofFilters {filters : List RawFilter} {compiled : Compiled}
    (returned : ofFilters filters = .ok compiled) :
    compiled.clauses = (filters.map RawFilter.slot).eraseDups.filterMap (clause? filters) := by
  rcases Outcome.map_eq_ok_iff.mp returned with ⟨readings, read, rfl⟩
  have oneByOne := Outcome.map_results_of_mapM read keptFilters
    (List.filterMap RawFilter.kept?) fun _ _ => keptFilters_of_mapM
  have joined := congrArg
    (List.filterMap fun kept => Clause.ofList? (kept.map Filter.predicate)) oneByOne
  simp only [groups, List.map_map, List.filterMap_map] at joined
  exact joined

theorem members_of_clause? {filters : List RawFilter} {name : String} {clause : Clause}
    (found : clause? filters name = some clause) :
    clause.members = (keptUnder filters name).map Filter.predicate := by
  rw [clause?] at found
  cases predicates : (keptUnder filters name).map Filter.predicate with
  | nil => simp [predicates, Clause.ofList?] at found
  | cons first others =>
      rw [predicates, Clause.ofList?, Option.some.injEq] at found
      rw [← found, Clause.members]

/-- A clause has a first predicate, so a filter under its name was kept. -/
theorem exists_mem_of_clause? {filters : List RawFilter} {name : String} {clause : Clause}
    (found : clause? filters name = some clause) : ∃ filter, filter ∈ keptUnder filters name := by
  have filled : clause.first ∈ clause.members := by simp [Clause.members]
  rw [members_of_clause? found] at filled
  rcases List.mem_map.mp filled with ⟨filter, kept, _⟩
  exact ⟨filter, kept⟩

theorem exists_clause?_of_mem {filters : List RawFilter} {name : String} {filter : Filter}
    (kept : filter ∈ keptUnder filters name) : ∃ clause, clause? filters name = some clause := by
  rw [clause?]
  cases predicates : (keptUnder filters name).map Filter.predicate with
  | nil =>
      rw [List.map_eq_nil_iff] at predicates
      simp [predicates] at kept
  | cons first others => exact ⟨⟨first, others⟩, rfl⟩

theorem clause_holds_iff {filters : List RawFilter} {name : String} {clause : Clause}
    (found : clause? filters name = some clause) (dayOf? : Timestamp → Option Date) (tags : Tags) :
    clause.holds dayOf? tags = some true ↔
      ∃ filter ∈ keptUnder filters name, filter.SatisfiedBy dayOf? tags := by
  rw [Clause.holds_iff, members_of_clause? found]
  constructor
  · intro satisfied
    rcases satisfied with ⟨predicate, member, holds⟩
    rcases List.mem_map.mp member with ⟨filter, kept, rfl⟩
    exact ⟨filter, kept, filter.predicate_holds_iff.mp holds⟩
  · intro satisfied
    rcases satisfied with ⟨filter, kept, satisfied⟩
    exact ⟨filter.predicate, List.mem_map_of_mem kept, filter.predicate_holds_iff.mpr satisfied⟩

theorem mem_clauses_iff {filters : List RawFilter} {compiled : Compiled}
    (returned : ofFilters filters = .ok compiled) (clause : Clause) :
    clause ∈ compiled.clauses ↔ ∃ name, clause? filters name = some clause := by
  rw [clauses_of_ofFilters returned, List.mem_filterMap]
  constructor
  · intro found
    rcases found with ⟨name, _, found⟩
    exact ⟨name, found⟩
  · intro found
    rcases found with ⟨name, found⟩
    refine ⟨name, ?_, found⟩
    rcases exists_mem_of_clause? found with ⟨filter, kept⟩
    rcases mem_keptUnder_iff.mp kept with ⟨⟨raw, member, read⟩, rfl⟩
    rw [List.mem_eraseDups, RawFilter.slot_of_read read]
    exact List.mem_map_of_mem member

/-- The clauses of filters whose shape is known hold of exactly the tags that the filters ask
for. -/
theorem ofFilters_holds_iff {filters : List RawFilter} {compiled : Compiled}
    (returned : ofFilters filters = .ok compiled) (dayOf? : Timestamp → Option Date) (tags : Tags) :
    (∀ clause ∈ compiled.clauses, clause.holds dayOf? tags = some true) ↔
      tags.Satisfy dayOf? filters := by
  constructor
  · intro holds slot asked
    rcases asked with ⟨filter, kept, rfl⟩
    have listed := mem_keptUnder_iff.mpr ⟨kept, rfl⟩
    rcases exists_clause?_of_mem listed with ⟨clause, found⟩
    have holdsHere := holds clause ((mem_clauses_iff returned clause).mpr ⟨_, found⟩)
    rcases (clause_holds_iff found dayOf? tags).mp holdsHere with ⟨other, otherListed, satisfied⟩
    rcases mem_keptUnder_iff.mp otherListed with ⟨otherKept, sameName⟩
    exact ⟨other, otherKept, Slot.name_injective _ _ sameName, satisfied⟩
  · intro satisfied clause member
    rcases (mem_clauses_iff returned clause).mp member with ⟨name, found⟩
    rw [clause_holds_iff found]
    rcases exists_mem_of_clause? found with ⟨filter, listed⟩
    rcases mem_keptUnder_iff.mp listed with ⟨kept, rfl⟩
    rcases satisfied filter.slot ⟨filter, kept, rfl⟩ with ⟨other, otherKept, sameSlot, holds⟩
    exact ⟨other, mem_keptUnder_iff.mpr ⟨otherKept, by rw [sameSlot]⟩, holds⟩

/-! ## Values of any kind -/

/-- Values without the shape of a filter are passed over. -/
theorem ofValues_eq_map (values : List Json) :
    ofValues values = (ofFilters (RawFilter.shaped values)).map fun compiled =>
      { compiled with
        dropped :=
          List.replicate ((values.map fun value =>
            (RawFilter.check .plain value).value?).countP Option.isNone) .malformed ++
              compiled.dropped } := by
  simp only [ofValues, RawFilter.shaped, List.filterMap_map, Function.id_comp]

theorem ofValues_eq_ok {values : List Json} {compiled : Compiled}
    (returned : ofValues values = .ok compiled) :
    ∃ known, ofFilters (RawFilter.shaped values) = .ok known ∧
      compiled.clauses = known.clauses := by
  rw [ofValues_eq_map] at returned
  rcases Outcome.map_eq_ok_iff.mp returned with ⟨known, knownReturned, rfl⟩
  exact ⟨known, knownReturned, rfl⟩

/-- Whatever some values are, the clauses that they are compiled to are true of exactly the tags that
satisfy, on each slot with a filter that is kept, one of the filters on it. -/
theorem ofValues_holds_iff {values : List Json} {compiled : Compiled}
    (returned : ofValues values = .ok compiled) (dayOf? : Timestamp → Option Date) (tags : Tags) :
    (∀ clause ∈ compiled.clauses, clause.holds dayOf? tags = some true) ↔
      tags.Satisfy dayOf? (RawFilter.shaped values) := by
  rcases ofValues_eq_ok returned with ⟨known, knownReturned, same⟩
  rw [same]
  exact ofFilters_holds_iff knownReturned dayOf? tags

end Compiled

end HybridSearch
