import HybridSearch.Slot
import Mathlib.Data.List.Nodup

/-! Tables of names. Slots and their names determine each other. -/

namespace HybridSearch

/-- A table in which no name stands twice has each value under its name. -/
theorem find?_name_eq_some_iff {α : Type} {all : List α} {name : α → String}
    (complete : ∀ value, value ∈ all) (distinct : (all.map name).Nodup) {text : String}
    {value : α} :
    (all.find? fun candidate => name candidate = text) = some value ↔ name value = text := by
  constructor
  · intro found
    simpa using List.find?_some found
  · rintro rfl
    cases found : all.find? fun candidate => name candidate = name value with
    | none => exact absurd (List.find?_eq_none.mp found value (complete value)) (by simp)
    | some other =>
        have same : name other = name value := by simpa using List.find?_some found
        rw [List.inj_on_of_nodup_map distinct (complete other) (complete value) same]

namespace Slot

theorem mem_all (slot : Slot) : slot ∈ all := by
  cases slot <;> simp [all]

theorem name_injective : ∀ left right : Slot, left.name = right.name → left = right := by
  have listed : ∀ left ∈ all, ∀ right ∈ all, left.name = right.name → left = right := by
    decide +kernel
  exact fun left right equal => listed left (mem_all left) right (mem_all right) equal

theorem ofName?_eq_some_iff {name : String} {slot : Slot} :
    ofName? name = some slot ↔ slot.name = name :=
  find?_name_eq_some_iff mem_all (by decide +kernel)

@[simp] theorem ofName?_name (slot : Slot) : ofName? slot.name = some slot :=
  ofName?_eq_some_iff.mpr rfl

end Slot

end HybridSearch
