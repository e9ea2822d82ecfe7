import HybridSearch.Proofs.Outcome
import HybridSearch.Service.Presentation

/-! Which answers can be written: those in which all numbers are finite. -/

namespace HybridSearch

namespace Json

theorem itemsFinite_eq_true_iff {items : List Json} :
    itemsFinite items = true ↔ ∀ item ∈ items, item.allFinite = true := by
  induction items with
  | nil => simp [itemsFinite]
  | cons item rest induction => simp [itemsFinite, induction]

theorem membersFinite_eq_true_iff {members : List (String × Json)} :
    membersFinite members = true ↔ ∀ member ∈ members, member.2.allFinite = true := by
  induction members with
  | nil => simp [membersFinite]
  | cons member rest induction => simp [membersFinite, induction]

theorem allFinite_optional_string (text? : Option String) :
    ((text?.map Json.string).getD .null).allFinite = true := by
  cases text? <;> rfl

end Json

/-- The numbers in the tags are finite. -/
def Tags.Finite (tags : Tags) : Prop :=
  ∀ slot number, tags.get? slot = some (.number number) → number.isFinite = true

theorem Tags.finite_of_numbers {tags : Tags}
    (finite : ∀ position number, tags.numbers.get position = some number → number.isFinite = true) :
    tags.Finite := by
  intro slot number given
  cases slot with
  | number position =>
      rcases Option.map_eq_some_iff.mp given with ⟨stored, found, same⟩
      cases same
      exact finite position number found
  | text position =>
      rcases Option.map_eq_some_iff.mp given with ⟨_, _, different⟩
      cases different
  | date position =>
      rcases Option.map_eq_some_iff.mp given with ⟨_, _, different⟩
      cases different
  | boolean position =>
      rcases Option.map_eq_some_iff.mp given with ⟨_, _, different⟩
      cases different

theorem TagValue.allFinite_json {value : TagValue}
    (finite : ∀ number, value = .number number → number.isFinite = true) :
    value.json.allFinite = true := by
  cases value with
  | text value => rfl
  | number value => exact finite value rfl
  | date value => rfl
  | boolean value => rfl

theorem Tags.Finite.allFinite_json {tags : Tags} (finite : tags.Finite) :
    tags.json.allFinite = true := by
  rw [json, Json.allFinite, Json.membersFinite_eq_true_iff]
  intro member listed
  rcases List.mem_map.mp listed with ⟨slot, _, rfl⟩
  cases given : tags.get? slot with
  | none => rfl
  | some value =>
      exact TagValue.allFinite_json fun number same => finite slot number (same ▸ given)

theorem Strategy.allFinite_json {bases count : Int} {strategy : Strategy}
    (planned : select bases count = .ok strategy) : strategy.json.allFinite = true := by
  have thresholds : looseThreshold.isFinite = true ∧ tightThreshold.isFinite = true := by
    decide +kernel
  rw [select] at planned
  split at planned
  · cases planned
  · split at planned
    · cases planned
    · rcases Outcome.map_eq_ok_iff.mp planned with ⟨limit, _, rfl⟩
      simp only [json, Json.allFinite, Json.membersFinite]
      split
      · rw [thresholds.2]
        rfl
      · rw [thresholds.1]
        rfl

namespace Service

/-- An item that can be written. -/
structure Item.Finite (item : Item) : Prop where
  tags : item.result.tags.Finite
  similarity : item.similarity.isFinite = true

theorem Item.Finite.allFinite_json {item : Item} (finite : item.Finite) :
    item.json.allFinite = true := by
  simp only [json, Json.allFinite, Json.membersFinite, finite.tags.allFinite_json,
    finite.similarity, Json.allFinite_optional_string, Bool.and_self]

theorem SearchAnswer.allFinite_json {answer : SearchAnswer}
    (items : ∀ item ∈ answer.items, item.Finite)
    (strategy : answer.strategy.json.allFinite = true) : answer.json.allFinite = true := by
  have itemsFinite : Json.itemsFinite (answer.items.map Item.json) = true := by
    rw [Json.itemsFinite_eq_true_iff]
    intro json listed
    rcases List.mem_map.mp listed with ⟨item, member, rfl⟩
    exact (items item member).allFinite_json
  have bases : Json.itemsFinite (answer.bases.map Json.string) = true := by
    rw [Json.itemsFinite_eq_true_iff]
    intro json listed
    rcases List.mem_map.mp listed with ⟨base, _, rfl⟩
    rfl
  simp only [json, Json.allFinite, Json.membersFinite, itemsFinite, bases, strategy,
    Json.allFinite_optional_string, Bool.and_self]

end Service

end HybridSearch
