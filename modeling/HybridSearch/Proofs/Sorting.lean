import HybridSearch.Sorting
import Mathlib.Order.Lattice

/-! Sorting only rearranges: a sorted list has the elements of the list it was made of, each as many
times as before. They stand in their order, and those that either may stand first stand as they
came. -/

namespace HybridSearch

variable {α : Type}

theorem insertBy_perm (mayPrecede : α → α → Bool) (value : α) (values : List α) :
    (insertBy mayPrecede value values).Perm (value :: values) := by
  induction values with
  | nil => exact .refl _
  | cons first rest induction =>
      by_cases precedes : mayPrecede value first = true
      · simp [insertBy, precedes]
      · simp only [insertBy, precedes, Bool.false_eq_true, if_false]
        exact (induction.cons first).trans (.swap value first rest)

theorem sortBy_perm (mayPrecede : α → α → Bool) (values : List α) :
    (sortBy mayPrecede values).Perm values := by
  induction values with
  | nil => exact .refl _
  | cons first rest induction =>
      exact (insertBy_perm mayPrecede first _).trans (induction.cons first)

@[simp] theorem mem_sortBy (mayPrecede : α → α → Bool) (values : List α) (value : α) :
    value ∈ sortBy mayPrecede values ↔ value ∈ values :=
  (sortBy_perm mayPrecede values).mem_iff

@[simp] theorem length_sortBy (mayPrecede : α → α → Bool) (values : List α) :
    (sortBy mayPrecede values).length = values.length :=
  (sortBy_perm mayPrecede values).length_eq

/-! Sorting looks at no more of a value than its order does. -/

theorem insertBy_map {β : Type} (mayPrecede : β → β → Bool) (transform : α → β) (value : α)
    (values : List α) :
    insertBy mayPrecede (transform value) (values.map transform) =
      (insertBy (fun left right => mayPrecede (transform left) (transform right)) value
        values).map transform := by
  induction values with
  | nil => rfl
  | cons first rest induction =>
      simp only [List.map_cons, insertBy, induction]
      split <;> rfl

theorem sortBy_map {β : Type} (mayPrecede : β → β → Bool) (transform : α → β)
    (values : List α) :
    sortBy mayPrecede (values.map transform) =
      (sortBy (fun left right => mayPrecede (transform left) (transform right)) values).map
        transform := by
  induction values with
  | nil => rfl
  | cons first rest induction =>
      rw [List.map_cons, sortBy, induction, insertBy_map]
      rfl

/-! Values that may each stand before the other stay as they came. -/

theorem filter_insertBy {mayPrecede : α → α → Bool} {keep : α → Bool}
    (tied : ∀ left right, keep left = true → keep right = true → mayPrecede left right = true)
    (value : α) (values : List α) :
    (insertBy mayPrecede value values).filter keep = (value :: values).filter keep := by
  induction values with
  | nil => rfl
  | cons first rest induction =>
      rw [insertBy]
      split
      · rfl
      · next behind =>
          rw [List.filter_cons, induction]
          by_cases kept : keep value = true
          · have dropped : ¬keep first = true := fun also => behind (tied value first kept also)
            simp [kept, dropped]
          · simp [kept, List.filter_cons]

theorem filter_sortBy {mayPrecede : α → α → Bool} {keep : α → Bool}
    (tied : ∀ left right, keep left = true → keep right = true → mayPrecede left right = true)
    (values : List α) : (sortBy mayPrecede values).filter keep = values.filter keep := by
  induction values with
  | nil => rfl
  | cons first rest induction =>
      rw [sortBy, filter_insertBy tied, List.filter_cons, List.filter_cons, induction]

/-! ## Order -/

section Order

variable {mayPrecede : α → α → Bool} {tie : α → α → Prop}

/-- One value stands before another one: it may, and if the other one may too, the tie says so. -/
def Precedes (mayPrecede : α → α → Bool) (tie : α → α → Prop) (left right : α) : Prop :=
  mayPrecede left right = true ∧ (mayPrecede right left = true → tie left right)

/-- A value that came before all others of an ordered list finds its place in it. -/
theorem pairwise_insertBy
    (chains : ∀ first second third, mayPrecede first second = true →
      mayPrecede second third = true → mayPrecede first third = true)
    {value : α} {values : List α}
    (total : ∀ other ∈ values, mayPrecede value other = true ∨ mayPrecede other value = true)
    (came : ∀ other ∈ values, tie value other)
    (ordered : values.Pairwise (Precedes mayPrecede tie)) :
    (insertBy mayPrecede value values).Pairwise (Precedes mayPrecede tie) := by
  induction values with
  | nil => exact List.pairwise_singleton _ _
  | cons first rest induction =>
      rcases List.pairwise_cons.mp ordered with ⟨beforeRest, orderedRest⟩
      by_cases precedes : mayPrecede value first = true
      · rw [insertBy, if_pos precedes]
        refine List.pairwise_cons.mpr ⟨fun other member => ⟨?_, fun _ => came other member⟩, ordered⟩
        rcases List.mem_cons.mp member with rfl | inRest
        · exact precedes
        · exact chains value first other precedes (beforeRest other inRest).1
      · rw [insertBy, if_neg precedes]
        have placed := induction (fun other member => total other (List.mem_cons_of_mem _ member))
          (fun other member => came other (List.mem_cons_of_mem _ member)) orderedRest
        refine List.pairwise_cons.mpr ⟨fun other member => ?_, placed⟩
        rcases List.mem_cons.mp ((insertBy_perm ..).mem_iff.mp member) with rfl | inRest
        · have behind := (total first (List.mem_cons_self ..)).resolve_left precedes
          exact ⟨behind, fun before => absurd before precedes⟩
        · exact beforeRest other inRest

/-- A sorted list is ordered. What held between each value and the later ones decides where the order
leaves it open. -/
theorem pairwise_sortBy
    (chains : ∀ first second third, mayPrecede first second = true →
      mayPrecede second third = true → mayPrecede first third = true)
    {values : List α}
    (total : ∀ left ∈ values, ∀ right ∈ values,
      mayPrecede left right = true ∨ mayPrecede right left = true)
    (came : values.Pairwise tie) :
    (sortBy mayPrecede values).Pairwise (Precedes mayPrecede tie) := by
  induction values with
  | nil => exact .nil
  | cons first rest induction =>
      rcases List.pairwise_cons.mp came with ⟨firstCame, restCame⟩
      have sorted := induction
        (fun left leftMember right rightMember => total left (List.mem_cons_of_mem _ leftMember)
          right (List.mem_cons_of_mem _ rightMember)) restCame
      refine pairwise_insertBy chains (fun other member => ?_) (fun other member => ?_) sorted
      · exact total first (List.mem_cons_self ..) other
          (List.mem_cons_of_mem _ ((mem_sortBy ..).mp member))
      · exact firstCame other ((mem_sortBy ..).mp member)

/-- Values of a linear order are sorted by it. -/
theorem pairwise_sortBy_le [LinearOrder α]
    (precedes_iff : ∀ left right, mayPrecede left right = true ↔ left ≤ right) (values : List α) :
    (sortBy mayPrecede values).Pairwise (· ≤ ·) := by
  have ordered : (sortBy mayPrecede values).Pairwise (Precedes mayPrecede fun _ _ => True) := by
    apply pairwise_sortBy
    · simp only [precedes_iff]
      exact fun _ _ _ => le_trans
    · simp only [precedes_iff]
      exact fun left _ right _ => le_total left right
    · exact List.pairwise_of_forall fun _ _ => trivial
  apply ordered.imp
  intro left right precedes
  exact (precedes_iff left right).mp precedes.1

end Order

/-- Of two elements of an ordered list that may not stand the other way round, the first one stands
first. -/
theorem pair_sublist_of_mem {relates : α → α → Prop} {values : List α}
    (ordered : values.Pairwise relates) {first second : α} (firstMember : first ∈ values)
    (secondMember : second ∈ values) (different : first ≠ second)
    (notReversed : ¬relates second first) : [first, second].Sublist values := by
  induction values with
  | nil => cases firstMember
  | cons head rest induction =>
      rcases List.pairwise_cons.mp ordered with ⟨headRelates, restOrdered⟩
      rcases List.mem_cons.mp firstMember with rfl | firstInRest
      · have inRest := (List.mem_cons.mp secondMember).resolve_left different.symm
        exact (List.singleton_sublist.mpr inRest).cons_cons _
      · rcases List.mem_cons.mp secondMember with rfl | secondInRest
        · exact absurd (headRelates first firstInRest) notReversed
        · exact (induction restOrdered firstInRest secondInRest).cons _

/-- What an ordered list loses when it is cut stands behind all that is kept, and is only lost when
as many as wanted are kept. -/
theorem kept_of_lost {relates : α → α → Prop} {values : List α}
    (ordered : values.Pairwise relates) {count : Nat} {value : α} (member : value ∈ values)
    (lost : value ∉ values.take count) :
    (values.take count).length = count ∧ ∀ kept ∈ values.take count, relates kept value := by
  rw [← List.take_append_drop count values, List.mem_append] at member
  have dropped := member.resolve_left lost
  have longer : count < values.length := by
    have inside := List.length_pos_of_mem dropped
    rw [List.length_drop] at inside
    omega
  rw [← List.take_append_drop count values, List.pairwise_append] at ordered
  refine ⟨?_, fun kept keptMember => ordered.2.2 kept keptMember value dropped⟩
  rw [List.length_take]
  omega

end HybridSearch
