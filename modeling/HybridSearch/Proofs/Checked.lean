import HybridSearch.Checked.Record
import HybridSearch.Checked.Scalar

/-! What an accepted value says about the checks it went through, one equation for each way of
putting checks together. -/

namespace HybridSearch.Checked

variable {α β : Type}

theorem map_eq_accepted_iff {transform : α → β} {outcome : Checked α} {result : β} :
    outcome.map transform = .accepted result ↔
      ∃ value, outcome = .accepted value ∧ transform value = result := by
  cases outcome <;> simp [map]

theorem seq_eq_accepted_iff {function : Checked (α → β)} {outcome : Checked α} {result : β} :
    function <*> outcome = .accepted result ↔
      ∃ transform value, function = .accepted transform ∧ outcome = .accepted value ∧
        transform value = result := by
  change function.apply outcome = _ ↔ _
  cases function <;> cases outcome <;> simp [apply]

theorem andThen_eq_accepted_iff {outcome : Checked α} {next : α → Checked β} {result : β} :
    outcome.andThen next = .accepted result ↔
      ∃ value, outcome = .accepted value ∧ next value = .accepted result := by
  cases outcome <;> simp [andThen]

theorem under_eq_accepted_iff {step : PathStep} {outcome : Checked α} {result : α} :
    outcome.under step = .accepted result ↔ outcome = .accepted result := by
  cases outcome <;> simp [under]

theorem value?_eq_some_iff {outcome : Checked α} {value : α} :
    outcome.value? = some value ↔ outcome = .accepted value := by
  cases outcome <;> simp [value?]

theorem optional_eq_accepted_some_iff {check : Json → Checked α} {input : Json} {value : α} :
    optional check input = .accepted (some value) ↔
      input ≠ .null ∧ check input = .accepted value := by
  cases input with
  | null => simp [optional]
  | bool | integer | float | string | array | object => simp [optional, map_eq_accepted_iff]

/-! ## Records and lists -/

theorem exists_members_of_record {place : RecordPlace} {name : String} {input : Json}
    {check : List (String × Json) → Checked α} {result : α}
    (accepted : record place name input check = .accepted result) :
    ∃ members, input = .object members ∧ check members = .accepted result := by
  unfold record at accepted
  split at accepted
  · exact ⟨_, rfl, accepted⟩
  · cases accepted
  · cases accepted

theorem exists_input_of_field {members : List (String × Json)} {keys : List String}
    {check : Json → Checked α} {result : α}
    (accepted : field members keys check = .accepted result) :
    ∃ key input, firstMember? members keys = some (key, input) ∧
      check input = .accepted result := by
  rw [field] at accepted
  split at accepted
  · next key input found => exact ⟨key, input, found, under_eq_accepted_iff.mp accepted⟩
  · cases accepted

/-- A field with a default has the default or a value that was checked. -/
theorem fieldOr_cases {members : List (String × Json)} {keys : List String} {default : α}
    {check : Json → Checked α} {result : α}
    (accepted : fieldOr members keys default check = .accepted result) :
    result = default ∨ ∃ input, check input = .accepted result := by
  rw [fieldOr] at accepted
  split at accepted
  · exact .inr ⟨_, under_eq_accepted_iff.mp accepted⟩
  · cases accepted
    exact .inl rfl

theorem nonemptyList_eq_accepted_iff {check : Json → Checked α} {input : Json} {values : List α} :
    nonemptyList check input = .accepted values ↔
      list check input = .accepted values ∧ values ≠ [] := by
  rw [nonemptyList, andThen_eq_accepted_iff]
  constructor
  · intro checked
    rcases checked with ⟨items, itemsChecked, filled⟩
    split at filled
    · cases filled
    · next notEmpty =>
        cases filled
        exact ⟨itemsChecked, by simpa using notEmpty⟩
  · intro checked
    refine ⟨values, checked.1, if_neg ?_⟩
    simpa using checked.2

theorem string_eq_accepted_iff {input : Json} {text : String} :
    string input = .accepted text ↔ input = .string text := by
  cases input <;> simp [string, reject]

theorem itemsFrom_cons_eq_accepted_iff {check : Json → Checked α} {position : Nat} {item : Json}
    {rest : List Json} {values : List α} :
    itemsFrom check position (item :: rest) = .accepted values ↔
      ∃ first others, check item = .accepted first ∧
        itemsFrom check (position + 1) rest = .accepted others ∧ first :: others = values := by
  rw [itemsFrom, seq_eq_accepted_iff]
  constructor
  · intro combined
    rcases combined with ⟨_, others, firstChecked, othersChecked, rfl⟩
    rcases map_eq_accepted_iff.mp firstChecked with ⟨first, checked, rfl⟩
    exact ⟨first, others, under_eq_accepted_iff.mp checked, othersChecked, rfl⟩
  · intro separate
    rcases separate with ⟨first, others, checked, othersChecked, rfl⟩
    exact ⟨_, others, map_eq_accepted_iff.mpr ⟨first, under_eq_accepted_iff.mpr checked, rfl⟩,
      othersChecked, rfl⟩

/-- A list of texts is accepted as it stands. -/
theorem list_string_eq_accepted_iff {input : Json} {texts : List String} :
    list string input = .accepted texts ↔ input = .array (texts.map .string) := by
  cases input with
  | array items =>
      rw [list, Json.array.injEq]
      generalize 0 = position
      induction items generalizing texts position with
      | nil => cases texts <;> simp [itemsFrom]
      | cons item rest induction =>
          simp only [itemsFrom_cons_eq_accepted_iff, string_eq_accepted_iff, induction]
          cases texts with
          | nil => simp
          | cons text others => simp
  | null | bool | integer | float | string | object => simp [list, reject]

theorem le_of_atLeast {least : Int} {input : Json} {value : Int}
    (accepted : atLeast least input = .accepted value) : least ≤ value := by
  rcases andThen_eq_accepted_iff.mp accepted with ⟨integer, _, bounded⟩
  split at bounded
  · cases bounded
  · cases bounded
    omega

theorem bounds_of_between {least greatest : Int} {input : Json} {value : Int}
    (accepted : between least greatest input = .accepted value) :
    least ≤ value ∧ value ≤ greatest := by
  rcases andThen_eq_accepted_iff.mp accepted with ⟨integer, _, bounded⟩
  split at bounded
  · cases bounded
  · split at bounded
    · cases bounded
    · cases bounded
      omega

end HybridSearch.Checked
