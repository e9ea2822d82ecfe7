import Mathlib.Algebra.Order.BigOperators.Group.List
import HybridSearch.Proofs.Metrics.Exposition
import HybridSearch.Proofs.Split

/-! Quotes and backslashes account for what is read. A sample is only read from a line with as many of
them as its labels have when they are written in the format, so labels that are not escaped where they
have to be cannot be read back. -/

namespace HybridSearch.Metrics.Exposition

def isQuoting (character : Char) : Bool :=
  character = '"' || character = '\\'

/-- Whether a character has to be escaped in a label. -/
def needsEscape (character : Char) : Bool :=
  character = '"' || character = '\\' || character = '\n'

/-- The number of quotes and backslashes. -/
def quotings (characters : List Char) : Nat :=
  characters.countP isQuoting

def Token.quotings : Token → Nat
  | .word characters => Exposition.quotings characters
  | .quoted value => 2 + Exposition.quotings (value.flatMap Exposition.escape)
  | .mark _ => 0

/-- The number of those before a place in the part of a line that has begun. -/
def Place.quotings : Place → Nat
  | .outside word => Exposition.quotings word
  | .inside value => 1 + Exposition.quotings (value.flatMap Exposition.escape)
  | .escape value => 2 + Exposition.quotings (value.flatMap Exposition.escape)

/-- The number of those in some labels that are written in a certain way. -/
def labelQuotings (write : String → String) (labels : List (String × String)) : Nat :=
  (labels.map fun label => 2 + quotings (write label.2).toList).sum

/-! ## What is read -/

theorem quotings_wordTokens (word : List Char) :
    ((wordTokens word).map Token.quotings).sum = quotings word := by
  cases word with
  | nil => rfl
  | cons first rest => simp [wordTokens, Token.quotings]

theorem quotings_append (front back : List Char) :
    quotings (front ++ back) = quotings front + quotings back :=
  List.countP_append

theorem quotings_cons (first : Char) (rest : List Char) :
    quotings (first :: rest) = quotings rest + if isQuoting first then 1 else 0 :=
  List.countP_cons

theorem quotings_singleton (character : Char) :
    quotings [character] = if isQuoting character then 1 else 0 :=
  (quotings_cons character []).trans (Nat.zero_add _)

theorem quotings_escape_append (value : List Char) (character : Char) :
    quotings ((value ++ [character]).flatMap escape) =
      quotings (value.flatMap escape) + quotings (escape character) := by
  rw [List.flatMap_append, List.flatMap_singleton, quotings_append]

theorem isQuoting_of_isGap {character : Char} (gap : isGap character = true) :
    isQuoting character = false := by
  simp only [isGap, Bool.or_eq_true, decide_eq_true_eq] at gap
  rcases gap with rfl | rfl <;> decide

theorem isQuoting_of_isMark {character : Char} (mark : isMark character = true) :
    isQuoting character = false := by
  simp only [isMark, Bool.or_eq_true, decide_eq_true_eq] at mark
  rcases mark with ((rfl | rfl) | rfl) | rfl <;> decide

/-- What is read behind a backslash is escaped with it. -/
theorem quotings_escape_of_unescaped? {character meant : Char}
    (read : unescaped? character = some meant) :
    quotings (escape meant) = 1 + if isQuoting character then 1 else 0 := by
  unfold unescaped? at read
  split at read
  · next isBackslash =>
    cases read
    rw [isBackslash]
    decide
  · split at read
    · next isQuote =>
      cases read
      rw [isQuote]
      decide
    · next isEnd =>
      rcases Option.ite_none_right_eq_some.mp read with ⟨rfl, same⟩
      cases same
      decide

/-- A character ends some parts of its line and leads to a place. They have the quotes and backslashes
that were there before, and the character if it is one of those. -/
theorem exists_step_of_tokens? {place : Place} {character : Char} (inLine : character ≠ '\n')
    {rest : List Char} {tokens : List Token} (read : tokens? place (character :: rest) = some tokens) :
    ∃ (ended : List Token) (next : Place) (later : List Token),
      tokens? next rest = some later ∧ tokens = ended ++ later ∧
      (ended.map Token.quotings).sum + next.quotings =
        place.quotings + if isQuoting character then 1 else 0 := by
  have noQuotings : quotings [] = 0 := rfl
  cases place with
  | outside word =>
      rw [tokens?] at read
      split at read
      · next isQuote =>
        rcases Option.map_eq_some_iff.mp read with ⟨later, readLater, rfl⟩
        refine ⟨wordTokens word, .inside [], later, readLater, rfl, ?_⟩
        rw [quotings_wordTokens, isQuote]
        rfl
      · split at read
        · next gap =>
          rcases Option.map_eq_some_iff.mp read with ⟨later, readLater, rfl⟩
          refine ⟨wordTokens word, .outside [], later, readLater, rfl, ?_⟩
          rw [quotings_wordTokens, isQuoting_of_isGap gap]
          rfl
        · split at read
          · next mark =>
            rcases Option.map_eq_some_iff.mp read with ⟨later, readLater, rfl⟩
            refine ⟨wordTokens word ++ [.mark character], .outside [], later, readLater, by simp, ?_⟩
            rw [List.map_append, List.sum_append, quotings_wordTokens, isQuoting_of_isMark mark]
            rfl
          · refine ⟨[], .outside (word ++ [character]), tokens, read, rfl, ?_⟩
            simp [Place.quotings, quotings_append, quotings_singleton]
  | inside value =>
      rw [tokens?] at read
      split at read
      · next isQuote =>
        rcases Option.map_eq_some_iff.mp read with ⟨later, readLater, rfl⟩
        refine ⟨[.quoted value], .outside [], later, readLater, rfl, ?_⟩
        rw [isQuote, if_pos (by decide), List.map_singleton, List.sum_singleton]
        simp only [Place.quotings, Token.quotings, noQuotings]
        omega
      · next notQuote =>
        split at read
        · next isBackslash =>
          refine ⟨[], .escape value, tokens, read, rfl, ?_⟩
          rw [isBackslash, if_pos (by decide)]
          simp only [Place.quotings, List.map_nil, List.sum_nil]
          omega
        · next notBackslash =>
          have kept : escape character = [character] := by
            simp [escape, notQuote, notBackslash, inLine]
          refine ⟨[], .inside (value ++ [character]), tokens, read, rfl, ?_⟩
          simp only [Place.quotings, quotings_escape_append, kept, quotings_singleton, List.map_nil,
            List.sum_nil]
          omega
  | escape value =>
      rw [tokens?] at read
      split at read
      · next meant isMeant =>
        refine ⟨[], .inside (value ++ [meant]), tokens, read, rfl, ?_⟩
        simp only [Place.quotings, quotings_escape_append, quotings_escape_of_unescaped? isMeant,
          List.map_nil, List.sum_nil]
        omega
      · cases read

/-- The parts of a line have the quotes and backslashes of the line. -/
theorem quotings_tokens? {characters : List Char} (oneLine : '\n' ∉ characters) {place : Place}
    {tokens : List Token} (read : tokens? place characters = some tokens) :
    (tokens.map Token.quotings).sum = place.quotings + quotings characters := by
  induction characters generalizing place tokens with
  | nil =>
      cases place with
      | outside word =>
          cases read
          exact quotings_wordTokens word
      | inside value => cases read
      | escape value => cases read
  | cons character rest induction =>
      rw [List.mem_cons, not_or] at oneLine
      rcases exists_step_of_tokens? (Ne.symm oneLine.1) read with
        ⟨ended, next, later, readLater, rfl, step⟩
      rw [List.map_append, List.sum_append, induction oneLine.2 readLater, quotings_cons]
      omega

theorem labelQuotings_cons (write : String → String) (label : String × String)
    (labels : List (String × String)) :
    labelQuotings write (label :: labels) =
      2 + quotings (write label.2).toList + labelQuotings write labels :=
  List.sum_cons

/-- Labels are read from as many quotes and backslashes as they have in the format. -/
theorem quotings_labels? {tokens rest : List Token} {labels : List (String × String)}
    (read : labels? tokens = some (labels, rest)) :
    labelQuotings Registry.escaped labels + (rest.map Token.quotings).sum ≤
      (tokens.map Token.quotings).sum := by
  fun_induction labels? tokens generalizing labels with
  | case1 rest =>
      cases read
      exact Nat.le_of_eq rfl
  | case2 name value rest named induction =>
      rcases Option.map_eq_some_iff.mp read with ⟨⟨others, left⟩, readOthers, same⟩
      cases same
      have later := induction readOthers
      simp only [labelQuotings_cons, toList_escaped, String.toList_ofList, List.map_cons,
        List.sum_cons, Token.quotings]
      omega
  | case3 => cases read
  | case4 name value rest named =>
      cases read
      simp only [labelQuotings, toList_escaped, String.toList_ofList, List.map_cons, List.sum_cons,
        List.map_nil, List.sum_nil, Token.quotings]
      omega
  | case5 => cases read
  | case6 => cases read

theorem quotings_sample? {tokens : List Token} {sample : Sample}
    (read : sample? tokens = some sample) :
    labelQuotings Registry.escaped sample.labels ≤ (tokens.map Token.quotings).sum := by
  unfold sample? at read
  split at read
  · next name rest =>
    rcases Option.bind_eq_some_iff.mp (Option.ite_none_right_eq_some.mp read).2 with
      ⟨⟨labels, behind⟩, readLabels, readValue⟩
    rcases Option.map_eq_some_iff.mp readValue with ⟨value, _, rfl⟩
    have counted := quotings_labels? readLabels
    simp only [List.map_cons, List.sum_cons]
    omega
  · rcases Option.map_eq_some_iff.mp (Option.ite_none_right_eq_some.mp read).2 with
      ⟨value, _, rfl⟩
    exact Nat.zero_le _
  · cases read

theorem quotings_line? {characters : List Char} (oneLine : '\n' ∉ characters)
    {samples : List Sample} (read : line? characters = some samples) :
    (samples.map fun sample => labelQuotings Registry.escaped sample.labels).sum ≤
      quotings characters := by
  unfold line? at read
  split at read
  · cases read
    exact Nat.zero_le _
  · cases read
    exact Nat.zero_le _
  · rcases Option.map_eq_some_iff.mp read with ⟨sample, readSample, rfl⟩
    rcases Option.bind_eq_some_iff.mp readSample with ⟨tokens, readTokens, isSample⟩
    have shown : characters.dropWhile isGap <:+ characters := List.dropWhile_suffix _
    have total := quotings_tokens? (fun member => oneLine (shown.subset member)) readTokens
    have fewer : quotings (characters.dropWhile isGap) ≤ quotings characters :=
      shown.sublist.countP_le
    rw [List.map_singleton, List.sum_singleton]
    calc labelQuotings Registry.escaped sample.labels
        ≤ (tokens.map Token.quotings).sum := quotings_sample? isSample
      _ = quotings (characters.dropWhile isGap) := total.trans (Nat.zero_add _)
      _ ≤ quotings characters := fewer

theorem quotings_lines? {lines : List (List Char)} (oneLine : ∀ line ∈ lines, '\n' ∉ line)
    {samples : List Sample} (read : lines? lines = some samples) :
    (samples.map fun sample => labelQuotings Registry.escaped sample.labels).sum ≤
      (lines.map quotings).sum := by
  induction lines generalizing samples with
  | nil =>
      cases read
      exact Nat.zero_le _
  | cons line rest induction =>
      rw [List.forall_mem_cons] at oneLine
      rcases Option.bind_eq_some_iff.mp read with ⟨first, readFirst, readRest⟩
      rcases Option.map_eq_some_iff.mp readRest with ⟨others, readOthers, rfl⟩
      have head := quotings_line? oneLine.1 readFirst
      have tail := induction oneLine.2 readOthers
      rw [List.map_append, List.sum_append, List.map_cons, List.sum_cons]
      exact Nat.add_le_add head tail

theorem not_mem_of_mem_splitWhere {characters piece : List Char}
    (among : piece ∈ Text.splitWhere (· = '\n') characters) : '\n' ∉ piece := by
  intro member
  have inPiece := Text.not_isSeparator_of_mem_splitWhere among member
  simp at inPiece

theorem quotings_splitWhere (characters : List Char) :
    ((Text.splitWhere (· = '\n') characters).map quotings).sum = quotings characters := by
  have pieces : ((Text.splitWhere (· = '\n') characters).map quotings).sum =
      (Text.splitWhere (· = '\n') characters).flatten.countP isQuoting := List.countP_flatten.symm
  rw [pieces, Text.flatten_splitWhere, List.countP_filter, quotings]
  apply List.countP_congr
  intro character _
  by_cases isEnd : character = '\n'
  · rw [isEnd]
    decide
  · simp [isEnd]

/-- A text shows no samples with more quotes and backslashes than it has. -/
theorem quotings_read? {text : String} {samples : List Sample} (read : read? text = some samples) :
    (samples.map fun sample => labelQuotings Registry.escaped sample.labels).sum ≤
      quotings text.toList := by
  rw [← quotings_splitWhere]
  exact quotings_lines? (fun line member => not_mem_of_mem_splitWhere member) read

/-! ## What is written -/

/-- Every character that has to be escaped takes one more quote or backslash. -/
theorem quotings_flatMap_escape (value : List Char) :
    quotings (value.flatMap escape) = quotings value + value.countP needsEscape := by
  induction value with
  | nil => rfl
  | cons character rest induction =>
      have own : quotings (escape character) =
          (if isQuoting character then 1 else 0) + if needsEscape character then 1 else 0 := by
        by_cases isBackslash : character = '\\'
        · rw [isBackslash]
          decide
        · by_cases isQuote : character = '"'
          · rw [isQuote]
            decide
          · by_cases isEnd : character = '\n'
            · rw [isEnd]
              decide
            · simp [escape, isQuoting, needsEscape, quotings, isBackslash, isQuote, isEnd]
      rw [List.flatMap_cons, quotings_append, own, induction, quotings_cons, List.countP_cons]
      omega

/-- A label that is written as it is. -/
def Plain (value : String) : Prop :=
  ∀ character ∈ value.toList, needsEscape character = false

instance : DecidablePred Plain :=
  fun value => decidable_of_iff (value.toList.all fun character => !needsEscape character)
    (by simp [Plain])

theorem Plain.escaped_eq {value : String} (plain : Plain value) : Registry.escaped value = value := by
  have kept : ∀ character ∈ value.toList, escape character = [character] := by
    intro character member
    have needless := plain character member
    simp only [needsEscape, Bool.or_eq_false_iff, decide_eq_false_iff_not] at needless
    simp [escape, needless]
  rw [← String.toList_inj, toList_escaped, List.flatMap_congr kept, List.flatMap_singleton']

/-- Numbers are written without such characters. -/
theorem plain_of_isNumber {text : String} (number : isNumber text.toList = true) : Plain text := by
  intro character member
  have bare := isBare_of_isNumber number character member
  simp [needsEscape, ne_of_isBare bare '"', ne_of_isBare bare '\\', ne_of_isBare bare '\n']

/-- The characters that have to be escaped in some labels. -/
def escapes (labels : List (String × String)) : Nat :=
  (labels.map fun label => label.2.toList.countP needsEscape).sum

theorem escapes_eq_zero_iff {labels : List (String × String)} :
    escapes labels = 0 ↔ ∀ label ∈ labels, Plain label.2 := by
  rw [escapes, List.sum_eq_zero_iff, List.forall_mem_map]
  apply forall₂_congr
  intro label _
  rw [List.countP_eq_zero, Plain]
  simp

theorem labelQuotings_escaped (labels : List (String × String)) :
    labelQuotings Registry.escaped labels = labelQuotings id labels + escapes labels := by
  induction labels with
  | nil => rfl
  | cons label others induction =>
      rw [labelQuotings_cons, labelQuotings_cons, toList_escaped, quotings_flatMap_escape, induction]
      simp only [escapes, List.map_cons, List.sum_cons, id]
      omega

theorem countP_intercalate {isCounted : Char → Bool} {separator : Char}
    (uncounted : isCounted separator = false) (pieces : List (List Char)) :
    ([separator].intercalate pieces).countP isCounted = (pieces.map (List.countP isCounted)).sum := by
  induction pieces with
  | nil => rfl
  | cons piece rest induction =>
      cases rest with
      | nil => simp
      | cons next rest =>
          rw [List.intercalate_cons_cons, List.countP_append, List.countP_append, induction]
          simp [uncounted]

/-- What does not belong to names, numbers or marks stands in the labels of a line, or it is a quote
around one. -/
theorem Sample.countP_written (isCounted : Char → Bool)
    (bare : ∀ character, isBare character = true → isCounted character = false)
    (marks : ∀ character, isMark character = true → isCounted character = false)
    (blank : isCounted ' ' = false) (write : String → String) {sample : Sample}
    (proper : sample.Proper) :
    (sample.written write).toList.countP isCounted =
      (sample.labels.map fun label =>
        ('"' :: (write label.2).toList ++ ['"']).countP isCounted).sum := by
  have uncounted {characters : List Char} (allBare : ∀ character ∈ characters, isBare character = true) :
      characters.countP isCounted = 0 :=
    List.countP_eq_zero.mpr fun character member counted => by
      simp [bare character (allBare character member)] at counted
  have name := uncounted (isBare_of_isName isBare_of_isSeriesLetter proper.name)
  have value := uncounted (isBare_of_isNumber proper.value)
  have labels : (sample.labels.map (labelCharacters write)).map (List.countP isCounted) =
      sample.labels.map fun label => ('"' :: (write label.2).toList ++ ['"']).countP isCounted := by
    rw [List.map_map]
    apply List.map_congr_left
    intro label member
    have labelName := uncounted (isBare_of_isName isBare_of_isLabelLetter (proper.labels label member))
    simp [labelCharacters, labelName, marks '=' (by decide)]
  rw [toList_written]
  simp only [List.countP_append, List.countP_cons, countP_intercalate (marks ',' (by decide)), labels,
    name, value, blank, marks '\x7b' (by decide), marks '\x7d' (by decide)]
  simp

theorem isQuoting_of_isBare (character : Char) (bare : isBare character = true) :
    isQuoting character = false := by
  simp [isQuoting, ne_of_isBare bare '"', ne_of_isBare bare '\\']

/-- A line with the labels as they are has no quotes and backslashes but those of the labels. -/
theorem Sample.quotings_line {sample : Sample} (proper : sample.Proper) :
    quotings sample.line.toList = labelQuotings id sample.labels := by
  rw [quotings, line, Sample.countP_written isQuoting isQuoting_of_isBare
    (fun _ => isQuoting_of_isMark) (by decide) id proper, labelQuotings]
  congr 1
  apply List.map_congr_left
  intro label _
  simp [quotings, isQuoting]
  omega

theorem newline_not_mem_escaped (value : String) : '\n' ∉ (Registry.escaped value).toList := by
  rw [toList_escaped, List.mem_flatMap, not_exists]
  intro character both
  have escaped := both.2
  unfold escape at escaped
  split at escaped
  · revert escaped
    decide
  · split at escaped
    · revert escaped
      decide
    · split at escaped
      · revert escaped
        decide
      · next notEnd => exact notEnd (List.mem_singleton.mp escaped).symm

/-- A line in the format is one line. -/
theorem Sample.newline_not_mem_text {sample : Sample} (proper : sample.Proper) :
    '\n' ∉ sample.text.toList := by
  have unmarked (character : Char) (mark : isMark character = true) : (character == '\n') = false := by
    simp only [isMark, Bool.or_eq_true, decide_eq_true_eq] at mark
    rcases mark with ((rfl | rfl) | rfl) | rfl <;> decide
  have unbare (character : Char) (bare : isBare character = true) : (character == '\n') = false := by
    simp [ne_of_isBare bare '\n']
  have counted := Sample.countP_written (· == '\n') unbare unmarked (by decide) Registry.escaped proper
  rw [← List.count_eq_zero, List.count, text, counted, List.sum_eq_zero_iff, List.forall_mem_map]
  intro label _
  have none := List.count_eq_zero.mpr (newline_not_mem_escaped label.2)
  simp [List.countP_append, ← List.count.eq_1, none]

end HybridSearch.Metrics.Exposition
