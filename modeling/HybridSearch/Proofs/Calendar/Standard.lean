import HybridSearch.Calendar.Standard
import HybridSearch.Proofs.Calendar

/-! The one form of a date that has the outline of a date. The outline lets other texts pass, and the
standard has other forms, but what both allow is the written form of a day. -/

namespace HybridSearch

theorem Text.isSome_digitValue?_of_isDigit {character : Char} (isDigit : character.isDigit = true) :
    (digitValue? character).isSome = true := by
  have bounds : 48 ≤ character.toNat ∧ character.toNat ≤ 57 := by
    simpa [Char.isDigit, UInt32.le_iff_toNat_le] using isDigit
  rw [digitValue?, Option.isSome_map, List.find?_isSome]
  refine ⟨48, by decide, ?_⟩
  simp only [Bool.and_eq_true, decide_eq_true_eq]
  omega

namespace Date

variable {characters : List Char} {date : Date}

theorem length_of_readJoined? (read : readJoined? characters = some date) :
    characters.length = 8 := by
  unfold readJoined? at read
  split at read
  · rfl
  · cases read

theorem mem_of_readWeek? (read : readWeek? characters = some date) : 'W' ∈ characters := by
  unfold readWeek? at read
  split at read
  · simp
  · simp
  · simp
  · simp
  · cases read

theorem hasOutline_iff :
    hasOutline characters = true ↔
      characters.map outlined = "0000-00-00".toList ∨
        characters.map outlined = "0000-00-00\n".toList := by
  simp only [hasOutline, Bool.or_eq_true, decide_eq_true_eq]

theorem length_of_hasOutline (outline : hasOutline characters = true) :
    10 ≤ characters.length := by
  rw [← List.length_map outlined]
  rcases hasOutline_iff.mp outline with same | same
  · rw [same]
    decide
  · rw [same]
    decide

/-- A text with the outline has no letters. -/
theorem not_mem_of_hasOutline (outline : hasOutline characters = true) : 'W' ∉ characters := by
  intro member
  have letter : outlined 'W' = 'W' := by decide
  have kept : 'W' ∈ characters.map outlined := letter ▸ List.mem_map_of_mem member
  rcases hasOutline_iff.mp outline with same | same
  · rw [same] at kept
    revert kept
    decide
  · rw [same] at kept
    revert kept
    decide

/-- Where the outline is given, no form but the one with its dashes is read. -/
theorem readStandard?_of_hasOutline (outline : hasOutline characters = true) :
    readStandard? characters = read? characters := by
  have long := length_of_hasOutline outline
  have joined : readJoined? characters = none := by
    apply Option.eq_none_iff_forall_ne_some.mpr
    intro date read
    rw [length_of_readJoined? read] at long
    omega
  have week : readWeek? characters = none := by
    apply Option.eq_none_iff_forall_ne_some.mpr
    intro date read
    exact not_mem_of_hasOutline outline (mem_of_readWeek? read)
  rw [readStandard?, joined, week, Option.or_none, Option.or_none]

theorem map_outlined_paddedDigits (width : Nat) {value : Nat} (given : 0 < width)
    (small : value < 10 ^ width) :
    (paddedDigits width value).map outlined = List.replicate width '0' := by
  apply List.eq_replicate_iff.mpr
  constructor
  · rw [List.length_map, length_paddedDigits given small]
  · intro character member
    rcases List.mem_map.mp member with ⟨digit, digitMember, rfl⟩
    exact if_pos (Text.isSome_digitValue?_of_isDigit (isDigit_of_mem_paddedDigits digitMember))

/-- The written form of a day has the outline. -/
theorem hasOutline_text (date : Date) : hasOutline date.text = true := by
  have year := map_outlined_paddedDigits 4 (by decide) (Nat.lt_succ_of_le date.year_le)
  have month := map_outlined_paddedDigits 2 (by decide)
    (Nat.lt_of_le_of_lt date.month_le (by decide))
  have day := map_outlined_paddedDigits 2 (by decide)
    (Nat.lt_of_le_of_lt date.day_le_thirtyOne (by decide))
  have dash : outlined '-' = '-' := by decide
  apply hasOutline_iff.mpr
  left
  rw [text, List.map_append, List.map_append, List.map_cons, List.map_cons, year, month, day, dash]
  rfl

/-- What has the outline and one of the forms is the written form of its day. -/
theorem outlined_and_read_iff :
    hasOutline characters = true ∧ readStandard? characters = some date ↔ characters = date.text := by
  constructor
  · intro both
    rw [readStandard?_of_hasOutline both.1] at both
    exact read?_eq_some_iff.mp both.2
  · rintro rfl
    rw [readStandard?_of_hasOutline date.hasOutline_text]
    exact ⟨date.hasOutline_text, read?_eq_some_iff.mpr rfl⟩

/-! Neither is enough by itself. -/

example : hasOutline "2024-01-31\n".toList = true ∧ readStandard? "2024-01-31\n".toList = none := by
  decide

example : hasOutline "2020W537".toList = false ∧
    readStandard? "2020W537".toList = of? 2021 1 3 := by
  decide

end Date

end HybridSearch
