import HybridSearch.Proofs.Outcome
import HybridSearch.Retrieval

/-! Gathering the parts of a split search. However the parts come in, once all of them have there is
either a failure of one of them or all values, in the order of the parts. -/

namespace HybridSearch.Gathering

variable {α : Type}

/-- The failure that a part came to, if it failed. -/
def failureOf? : Except Failure (List α) → Option Failure
  | .ok _ => none
  | .error failure => some failure

/-- What a gathering holds after the parts at some positions have come in: those parts at their
places, nothing at the other places, and the first failure. -/
structure Received (outcomes : List (Except Failure (List α))) (received : List Nat)
    (gathering : Gathering α) : Prop where
  parts : ∀ position, gathering.parts[position]? =
    outcomes[position]?.map fun outcome =>
      if position ∈ received then outcome.toOption else none
  failure : gathering.failure? =
    received.findSome? fun position => outcomes[position]?.bind failureOf?

/-- The part at a position comes in, if there is one. -/
def arrive (outcomes : List (Except Failure (List α))) (gathering : Gathering α)
    (position : Nat) : Gathering α :=
  match outcomes[position]? with
  | some part => gathering.receive position part
  | none => gathering

theorem receiveAll_eq_foldl (outcomes : List (Except Failure (List α))) (order : List Nat) :
    receiveAll outcomes order = order.foldl (arrive outcomes) (start outcomes.length) :=
  rfl

theorem received_start (outcomes : List (Except Failure (List α))) :
    Received outcomes [] (start outcomes.length) where
  parts position := by
    rw [start, List.getElem?_replicate]
    split
    · next inside => simp [List.getElem?_eq_getElem inside]
    · next outside => simp [List.getElem?_eq_none (Nat.le_of_not_lt outside)]
  failure := rfl

namespace Received

variable {outcomes : List (Except Failure (List α))} {received : List Nat}
  {gathering : Gathering α}

/-- A place without a value stays empty however often its part has come in. -/
theorem parts_of_valueless (invariant : Received outcomes received gathering) {position : Nat}
    (valueless : outcomes[position]?.bind Except.toOption = none) (other : Nat) :
    gathering.parts[other]? = outcomes[other]?.map fun outcome =>
      if other ∈ received ++ [position] then outcome.toOption else none := by
  rw [invariant.parts other]
  cases found : outcomes[other]? with
  | none => rfl
  | some outcome =>
      by_cases equal : other = position
      · subst other
        rw [found] at valueless
        simp only [Option.bind_some] at valueless
        simp [valueless]
      · simp [equal]

/-- One more part that comes in is kept. -/
theorem next (invariant : Received outcomes received gathering) (position : Nat) :
    Received outcomes (received ++ [position]) (arrive outcomes gathering position) := by
  rw [arrive]
  cases found : outcomes[position]? with
  | none =>
      exact {
        parts := invariant.parts_of_valueless (by rw [found]; rfl)
        failure := by simp [invariant.failure, List.findSome?_append, found]
      }
  | some outcome =>
      cases outcome with
      | error failure =>
          refine ⟨invariant.parts_of_valueless (by rw [found]; rfl), ?_⟩
          have first : (receive gathering position (.error failure)).failure? =
            some (gathering.failure?.getD failure) := rfl
          rw [first, invariant.failure, List.findSome?_append]
          simp [found, failureOf?]
      | ok values =>
          refine ⟨fun other => ?_, ?_⟩
          · have stored : (receive gathering position (.ok values)).parts =
              gathering.parts.set position (some values) := rfl
            rw [stored, List.getElem?_set]
            split
            · next equal =>
                subst other
                have place := invariant.parts position
                rw [found] at place
                have inside := (List.getElem?_eq_some_iff.mp place).1
                simp [inside, found, Except.toOption]
            · next different =>
                have kept : other ∈ received ++ [position] ↔ other ∈ received := by
                  simp [Ne.symm different]
                simp [invariant.parts other, kept]
          · simp [receive, invariant.failure, List.findSome?_append, found, failureOf?]

theorem foldl (invariant : Received outcomes received gathering) (order : List Nat) :
    Received outcomes (received ++ order) (order.foldl (arrive outcomes) gathering) := by
  induction order generalizing received gathering with
  | nil => simpa using invariant
  | cons position rest induction =>
      rw [List.foldl_cons, List.append_cons]
      exact induction (invariant.next position)

end Received

/-- After a whole run the gathering holds what came in. -/
theorem received_receiveAll (outcomes : List (Except Failure (List α))) (order : List Nat) :
    Received outcomes order (receiveAll outcomes order) := by
  simpa [receiveAll_eq_foldl] using (received_start outcomes).foldl order

/-! ## All parts have come in -/

section Complete

variable {outcomes : List (Except Failure (List α))} {order : List Nat}

theorem parts_of_perm (permutation : order.Perm (List.range outcomes.length)) :
    (receiveAll outcomes order).parts = outcomes.map Except.toOption := by
  refine List.ext_getElem? fun position => ?_
  rw [(received_receiveAll outcomes order).parts position, List.getElem?_map]
  cases found : outcomes[position]? with
  | none => rfl
  | some outcome =>
      have inside := (List.getElem?_eq_some_iff.mp found).1
      have arrived : position ∈ order := by
        rw [permutation.mem_iff, List.mem_range]
        exact inside
      simp [arrived]

theorem failure_eq_none_iff_of_perm (permutation : order.Perm (List.range outcomes.length)) :
    (receiveAll outcomes order).failure? = none ↔
      ∀ outcome ∈ outcomes, ∃ values, outcome = .ok values := by
  rw [(received_receiveAll outcomes order).failure, List.findSome?_eq_none_iff]
  constructor
  · intro noFailure outcome member
    rcases List.getElem_of_mem member with ⟨position, inside, found⟩
    have none := noFailure position (permutation.mem_iff.mpr (List.mem_range.mpr inside))
    rw [List.getElem?_eq_getElem inside, found, Option.bind_some] at none
    cases outcome with
    | ok values => exact ⟨values, rfl⟩
    | error failure => cases none
  · intro allOk position _
    cases found : outcomes[position]? with
    | none => rfl
    | some outcome =>
        rcases allOk outcome (List.mem_of_getElem? found) with ⟨values, rfl⟩
        rfl

/-- A failure that is reported is that of a part. -/
theorem mem_of_failure {failure : Failure}
    (failed : (receiveAll outcomes order).failure? = some failure) :
    .error failure ∈ outcomes := by
  rw [(received_receiveAll outcomes order).failure] at failed
  rcases List.exists_of_findSome?_eq_some failed with ⟨position, _, found⟩
  rcases Option.bind_eq_some_iff.mp found with ⟨outcome, place, equal⟩
  cases outcome with
  | ok values => cases equal
  | error other =>
      cases equal
      exact List.mem_of_getElem? place

theorem result_of_parts (permutation : order.Perm (List.range outcomes.length))
    {parts : List (List α)} (allOk : outcomes = parts.map .ok) :
    (receiveAll outcomes order).result = .ok parts.flatten := by
  have noFailure := (failure_eq_none_iff_of_perm permutation).mpr (by
    intro outcome member
    rw [allOk] at member
    rcases List.mem_map.mp member with ⟨values, _, rfl⟩
    exact ⟨values, rfl⟩)
  rw [result, noFailure, parts_of_perm permutation, allOk]
  simp [List.flatMap_map, Except.toOption]

/-- Whatever the order, there are results exactly when every part has some, and then they are those
of the parts one after the other. -/
theorem result_eq_ok_iff_of_perm (permutation : order.Perm (List.range outcomes.length))
    {values : List α} :
    (receiveAll outcomes order).result = .ok values ↔
      ∃ parts : List (List α), outcomes = parts.map .ok ∧ parts.flatten = values := by
  constructor
  · intro succeeded
    cases failed : (receiveAll outcomes order).failure? with
    | some failure =>
        rw [result, failed] at succeeded
        cases succeeded
    | none =>
        have allOk := (failure_eq_none_iff_of_perm permutation).mp failed
        rcases (Outcome.exists_mapM_eq_ok_iff id outcomes).mpr allOk with ⟨parts, collected⟩
        rw [Outcome.mapM_eq_ok_iff, List.map_id] at collected
        rw [result_of_parts permutation collected] at succeeded
        cases succeeded
        exact ⟨parts, collected, rfl⟩
  · intro gathered
    rcases gathered with ⟨parts, allOk, rfl⟩
    exact result_of_parts permutation allOk

theorem mem_of_result_eq_error {failure : Failure}
    (failed : (receiveAll outcomes order).result = .error failure) :
    .error failure ∈ outcomes := by
  rw [result] at failed
  split at failed
  · next found =>
      cases failed
      exact mem_of_failure found
  · cases failed

end Complete

end HybridSearch.Gathering

namespace HybridSearch

theorem gather_eq_ok_iff {α : Type} {outcomes : List (Except Failure (List α))}
    {values : List α} :
    gather outcomes = .ok values ↔
      ∃ parts : List (List α), outcomes = parts.map .ok ∧ parts.flatten = values :=
  Gathering.result_eq_ok_iff_of_perm (.refl _)

theorem mem_of_gather_eq_error {α : Type} {outcomes : List (Except Failure (List α))}
    {failure : Failure} (failed : gather outcomes = .error failure) :
    .error failure ∈ outcomes :=
  Gathering.mem_of_result_eq_error failed

end HybridSearch
