import HybridSearch.Proofs.Retrieval.Search
import HybridSearch.Proofs.Store.Agreement

/-! No search of some knowledge bases tells two stores apart that agree on what can be seen there. It
has the same results or the same failure, and opens as many sessions. -/

namespace HybridSearch

theorem Retrieved.after_congr {α : Type} {prepared : Except Failure α} {run other : α → Retrieved}
    (same : ∀ value, prepared = .ok value → run value = other value) :
    after prepared run = after prepared other := by
  cases prepared with
  | error failure => rfl
  | ok value => exact same value rfl

namespace Store

variable {left right : Store} {bases : List String} (agrees : left.AgreesOn right bases)
  (leftKeyed : left.Keyed) (rightKeyed : right.Keyed) (outage : Outage)

include agrees leftKeyed rightKeyed

namespace AgreesOn

theorem fetch_eq (session : Nat) (selection : Selection) (within : selection.bases ⊆ bases) :
    left.fetch outage session selection = right.fetch outage session selection := by
  rw [fetch, fetch, agrees.canAnswer_eq leftKeyed rightKeyed selection within,
    agrees.select_eq leftKeyed rightKeyed selection within]

theorem fanOut_eq {requested : List String} {part : String → Selection}
    (within : ∀ base ∈ requested, (part base).bases ⊆ bases) :
    left.fanOut outage requested part = right.fanOut outage requested part := by
  refine congrArg gather (List.map_congr_left fun numbered member => ?_)
  have listed : numbered.1 ∈ requested := List.fst_mem_of_mem_zipIdx member
  exact agrees.fetch_eq leftKeyed rightKeyed outage numbered.2 _ (within _ listed)

theorem searchTagged_eq {scope : Scope} (within : scope.bases ⊆ bases) (strategy : Strategy)
    (count : Nat) :
    left.searchTagged outage strategy scope count =
      right.searchTagged outage strategy scope count := by
  have parts : ∀ base ∈ scope.bases, (Selection.bases <|
      .tagged ⟨[base], scope.clauses⟩ strategy.parallelLimit) ⊆ bases :=
    fun base listed => List.cons_subset.mpr ⟨within listed, List.nil_subset _⟩
  rw [searchTagged, searchTagged, agrees.fanOut_eq leftKeyed rightKeyed outage parts,
    agrees.fetch_eq leftKeyed rightKeyed outage 0 (.tagged scope count) within]

theorem searchNearest_eq {requested : List String} (within : requested ⊆ bases)
    (strategy : Strategy) (nearness : Nearness) (count : Nat) :
    left.searchNearest outage strategy requested nearness count =
      right.searchNearest outage strategy requested nearness count := by
  have parts : ∀ base ∈ requested, (Selection.bases <|
      .nearest [base] nearness strategy.parallelLimit) ⊆ bases :=
    fun base listed => List.cons_subset.mpr ⟨within listed, List.nil_subset _⟩
  rw [searchNearest, searchNearest, agrees.fanOut_eq leftKeyed rightKeyed outage parts,
    agrees.fetch_eq leftKeyed rightKeyed outage 0 (.nearest requested nearness count) within]

theorem searchHybrid_eq {scope : Scope} (within : scope.bases ⊆ bases) (strategy : Strategy)
    (nearness : Nearness) (count : Nat) :
    left.searchHybrid outage strategy scope nearness count =
      right.searchHybrid outage strategy scope nearness count := by
  rw [searchHybrid, searchHybrid, agrees.candidates_eq scope within,
    agrees.fetch_eq leftKeyed rightKeyed outage 1 (.nearestAmong scope nearness count) within]

variable {request : SearchRequest} (within : request.bases ⊆ bases)

include within

theorem searchIn_eq (mode : Mode) :
    left.searchIn outage mode request = right.searchIn outage mode request := by
  cases mode with
  | tag =>
      refine Retrieved.after_congr fun prepared given => ?_
      simp only [Outcome.bind_eq_ok_iff, Outcome.pure_eq_ok_iff] at given
      rcases given with ⟨_, _, strategy, _, scope, narrowed, rfl⟩
      rw [← SearchRequest.bases_of_scope narrowed] at within
      exact agrees.searchTagged_eq leftKeyed rightKeyed outage within strategy request.count
  | vector =>
      refine Retrieved.after_congr fun prepared _ => ?_
      exact agrees.searchNearest_eq leftKeyed rightKeyed outage within prepared.2 prepared.1
        request.count
  | hybrid =>
      refine Retrieved.after_congr fun prepared given => ?_
      simp only [Outcome.bind_eq_ok_iff, Outcome.pure_eq_ok_iff] at given
      rcases given with ⟨_, _, nearness, _, strategy, _, scope, narrowed, rfl⟩
      rw [← SearchRequest.bases_of_scope narrowed] at within
      exact agrees.searchHybrid_eq leftKeyed rightKeyed outage within strategy nearness
        request.count

theorem search_eq : left.search outage request = right.search outage request := by
  rw [Store.search_eq, Store.search_eq]
  cases request.mode? with
  | none => rfl
  | some mode =>
      refine Retrieved.after_congr fun completed given => ?_
      have sameBases : completed.bases = request.bases := by rw [eq_of_withThreshold given]
      exact agrees.searchIn_eq leftKeyed rightKeyed outage (sameBases ▸ within) mode

end AgreesOn

end Store

end HybridSearch
