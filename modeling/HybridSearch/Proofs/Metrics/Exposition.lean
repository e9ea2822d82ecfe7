import HybridSearch.Metrics.Collector
import HybridSearch.Metrics.Registry
import HybridSearch.Proofs.Number.Written
import HybridSearch.Text.Split

/-! The text format of metrics, as it is read. A line shows a number under a name and some labels, or it
is a comment. Labels stand in quotes, where a backslash comes before a backslash, a quote and the letter
that stands for the end of a line. What is written so is read back, whatever the labels are. -/

namespace HybridSearch.Metrics.Exposition

/-- A number that is shown, as it is written. -/
structure Sample where
  name : String
  labels : List (String × String)
  value : String
deriving Repr, DecidableEq

/-- The parts of a line. -/
inductive Token where
  /-- A name or a number. -/
  | word (characters : List Char)
  /-- What stands in quotes. -/
  | quoted (characters : List Char)
  /-- A brace, a comma or an equals sign. -/
  | mark (character : Char)
deriving Repr, DecidableEq

/-! ## The reader -/

def isGap (character : Char) : Bool :=
  character = ' ' || character = '\t'

def isMark (character : Char) : Bool :=
  character = '\x7b' || character = '\x7d' || character = ',' || character = '='

/-- Where a reader is in a line. -/
inductive Place where
  /-- Behind the start of a word, which may be empty. -/
  | outside (word : List Char)
  /-- In quotes, behind the start of a value. -/
  | inside (value : List Char)
  /-- In quotes, behind a backslash. -/
  | escape (value : List Char)

def wordTokens : List Char → List Token
  | [] => []
  | word => [.word word]

/-- What a character stands for behind a backslash. -/
def unescaped? (character : Char) : Option Char :=
  if character = '\\' then some '\\'
  else if character = '"' then some '"'
  else if character = 'n' then some '\n'
  else none

/-- The parts of the rest of a line. -/
def tokens? : Place → List Char → Option (List Token)
  | .outside word, [] => some (wordTokens word)
  | .inside _, [] => none
  | .escape _, [] => none
  | .outside word, character :: rest =>
      if character = '"' then (tokens? (.inside []) rest).map (wordTokens word ++ ·)
      else if isGap character then (tokens? (.outside []) rest).map (wordTokens word ++ ·)
      else if isMark character then
        (tokens? (.outside []) rest).map (wordTokens word ++ .mark character :: ·)
      else tokens? (.outside (word ++ [character])) rest
  | .inside value, character :: rest =>
      if character = '"' then (tokens? (.outside []) rest).map (.quoted value :: ·)
      else if character = '\\' then tokens? (.escape value) rest
      else tokens? (.inside (value ++ [character])) rest
  | .escape value, character :: rest =>
      match unescaped? character with
      | some meant => tokens? (.inside (value ++ [meant])) rest
      | none => none

def isLabelLetter (character : Char) : Bool :=
  character.isAlpha || character = '_'

def isSeriesLetter (character : Char) : Bool :=
  isLabelLetter character || character = ':'

/-- A name has a letter, and then letters and digits. -/
def isName (isLetter : Char → Bool) : List Char → Bool
  | [] => false
  | first :: rest => isLetter first && rest.all fun character => isLetter character || character.isDigit

/-- Numbers are given in decimal notation, or by a word where they are not finite. -/
def isNumber (characters : List Char) : Bool :=
  (Number.readPlain? characters).isSome

def isTime (characters : List Char) : Bool :=
  let digits := (Number.Numeral.splitSign characters).2
  !digits.isEmpty && digits.all Number.isDigit

/-- The labels up to the closing brace, and what stands behind it. A comma may stand behind the last
label. -/
def labels? : List Token → Option (List (String × String) × List Token)
  | .mark '\x7d' :: rest => some ([], rest)
  | .word name :: .mark '=' :: .quoted value :: .mark ',' :: rest =>
      if isName isLabelLetter name then
        (labels? rest).map (Prod.map ((String.ofList name, String.ofList value) :: ·) id)
      else none
  | .word name :: .mark '=' :: .quoted value :: .mark '\x7d' :: rest =>
      if isName isLabelLetter name then some ([(String.ofList name, String.ofList value)], rest)
      else none
  | _ => none

/-- The number at the end of a line. A time may stand behind it, and is not kept. -/
def value? : List Token → Option String
  | [.word value] => if isNumber value then some (String.ofList value) else none
  | [.word value, .word time] =>
      if isNumber value && isTime time then some (String.ofList value) else none
  | _ => none

def sample? : List Token → Option Sample
  | .word name :: .mark '\x7b' :: rest =>
      if isName isSeriesLetter name then
        (labels? rest).bind fun (labels, rest) => (value? rest).map (⟨String.ofList name, labels, ·⟩)
      else none
  | .word name :: rest =>
      if isName isSeriesLetter name then (value? rest).map (⟨String.ofList name, [], ·⟩) else none
  | _ => none

/-- What a line shows: nothing if it is empty or a comment, and a sample otherwise. -/
def line? (characters : List Char) : Option (List Sample) :=
  match characters.dropWhile isGap with
  | [] => some []
  | '#' :: _ => some []
  | shown => ((tokens? (.outside []) shown).bind sample?).map ([·])

def lines? : List (List Char) → Option (List Sample)
  | [] => some []
  | line :: rest => (line? line).bind fun first => (lines? rest).map (first ++ ·)

/-- The samples of a text, if all of its lines are well formed. -/
def read? (text : String) : Option (List Sample) :=
  lines? (Text.splitWhere (· = '\n') text.toList)

/-! ## Writing -/

/-- A character of a label, as it is to be written. -/
def escape (character : Char) : List Char :=
  if character = '\\' then ['\\', '\\']
  else if character = '"' then ['\\', '"']
  else if character = '\n' then ['\\', 'n']
  else [character]

namespace Sample

/-- A line with a sample, its labels written in a certain way. -/
def written (write : String → String) (sample : Sample) : String :=
  Collector.sample sample.name
    (",".intercalate (sample.labels.map fun label => label.1 ++ "=\"" ++ write label.2 ++ "\""))
    sample.value

/-- A line with the labels as they are. -/
def line (sample : Sample) : String :=
  sample.written id

/-- A line in the format. -/
def text (sample : Sample) : String :=
  sample.written Registry.escaped

/-- Its names are names, and its value is a number. -/
structure Proper (sample : Sample) : Prop where
  name : isName isSeriesLetter sample.name.toList = true
  labels : ∀ label ∈ sample.labels, isName isLabelLetter label.1.toList = true
  value : isNumber sample.value.toList = true

end Sample

theorem toList_escaped (value : String) :
    (Registry.escaped value).toList = value.toList.flatMap escape := by
  rw [Registry.escaped, String.toList_ofList]
  rfl

/-! ## Names and numbers -/

/-- What names and numbers are written with. -/
def isBare (character : Char) : Bool :=
  character.isAlphanum || character = '_' || character = ':' || character = '.' ||
    character = '+' || character = '-'

theorem ne_of_isBare {character : Char} (bare : isBare character = true) (other : Char)
    (notBare : isBare other = false := by decide) : character ≠ other := by
  rintro rfl
  exact absurd bare (by simp [notBare])

theorem isBare_of_isName {isLetter : Char → Bool} {characters : List Char}
    (letters : ∀ character, isLetter character = true → isBare character = true)
    (named : isName isLetter characters = true) :
    ∀ character ∈ characters, isBare character = true := by
  cases characters with
  | nil => simp
  | cons first rest =>
      rw [isName, Bool.and_eq_true, List.all_eq_true] at named
      rw [List.forall_mem_cons]
      refine ⟨letters first named.1, ?_⟩
      intro character member
      rcases Bool.or_eq_true _ _ |>.mp (named.2 character member) with letter | digit
      · exact letters character letter
      · simp [isBare, Char.isAlphanum, digit]

theorem isBare_of_isLabelLetter (character : Char) (letter : isLabelLetter character = true) :
    isBare character = true := by
  simp only [isLabelLetter, Bool.or_eq_true, decide_eq_true_eq] at letter
  rcases letter with alpha | rfl
  · simp [isBare, Char.isAlphanum, alpha]
  · decide

theorem isBare_of_isSeriesLetter (character : Char) (letter : isSeriesLetter character = true) :
    isBare character = true := by
  simp only [isSeriesLetter, Bool.or_eq_true, decide_eq_true_eq] at letter
  rcases letter with label | rfl
  · exact isBare_of_isLabelLetter character label
  · decide

theorem isBare_of_isNumber {characters : List Char} (number : isNumber characters = true) :
    ∀ character ∈ characters, isBare character = true := by
  intro character member
  have numeric := Number.isNumeric_of_readPlain? number character member
  simp only [Number.isNumeric, Bool.or_eq_true, decide_eq_true_eq] at numeric
  rcases numeric with ((letter | rfl) | rfl) | rfl
  · simp [isBare, letter]
  · decide
  · decide
  · decide

theorem ne_nil_of_isName {isLetter : Char → Bool} {characters : List Char}
    (named : isName isLetter characters = true) : characters ≠ [] := by
  rintro rfl
  cases named

theorem ne_nil_of_isNumber {characters : List Char} (number : isNumber characters = true) :
    characters ≠ [] := by
  rintro rfl
  revert number
  decide

/-! ## What is written is read -/

/-- The characters of a word are added to it. -/
theorem tokens?_bare {characters : List Char}
    (bare : ∀ character ∈ characters, isBare character = true) (word rest : List Char) :
    tokens? (.outside word) (characters ++ rest) = tokens? (.outside (word ++ characters)) rest := by
  induction characters generalizing word with
  | nil => rw [List.nil_append, List.append_nil]
  | cons character others induction =>
      rw [List.forall_mem_cons] at bare
      have notQuote := ne_of_isBare bare.1 '"'
      have notGap : isGap character = false := by
        simp [isGap, ne_of_isBare bare.1 ' ',
          ne_of_isBare bare.1 '\t']
      have notMark : isMark character = false := by
        simp [isMark, ne_of_isBare bare.1 '\x7b',
          ne_of_isBare bare.1 '\x7d',
          ne_of_isBare bare.1 ',',
          ne_of_isBare bare.1 '=']
      rw [List.cons_append, tokens?, if_neg notQuote, if_neg (by simp [notGap]),
        if_neg (by simp [notMark]), induction bare.2, List.append_assoc, List.singleton_append]

theorem wordTokens_eq {word : List Char} (given : word ≠ []) : wordTokens word = [.word word] := by
  rw [wordTokens]
  exact given

/-- A word ends at a mark. -/
theorem tokens?_bare_mark {characters : List Char}
    (bare : ∀ character ∈ characters, isBare character = true) {mark : Char}
    (isMark : isMark mark = true) (rest : List Char) :
    tokens? (.outside []) (characters ++ mark :: rest) =
      (tokens? (.outside []) rest).map (wordTokens characters ++ .mark mark :: ·) := by
  have notQuote : mark ≠ '"' := by
    rintro rfl
    revert isMark
    decide
  have notGap : isGap mark = false := by
    simp only [Exposition.isMark, Bool.or_eq_true, decide_eq_true_eq] at isMark
    rcases isMark with ((rfl | rfl) | rfl) | rfl <;> decide
  rw [tokens?_bare bare, List.nil_append, tokens?, if_neg notQuote, if_neg (by simp [notGap]),
    if_pos isMark]

/-- What is written in quotes is read up to the quote behind it. -/
theorem tokens?_escaped (value read rest : List Char) :
    tokens? (.inside read) (value.flatMap escape ++ '"' :: rest) =
      (tokens? (.outside []) rest).map (.quoted (read ++ value) :: ·) := by
  induction value generalizing read with
  | nil => simp [tokens?]
  | cons character others induction =>
      rw [List.flatMap_cons, List.append_assoc, List.append_cons read]
      by_cases isBackslash : character = '\\'
      · simp [escape, isBackslash, tokens?, unescaped?, induction]
      · by_cases isQuote : character = '"'
        · simp [escape, isQuote, tokens?, unescaped?, induction]
        · by_cases isEnd : character = '\n'
          · simp [escape, isEnd, tokens?, unescaped?, induction]
          · simp [escape, isBackslash, isQuote, isEnd, tokens?, induction]

/-- The parts of a label. -/
def labelTokens (label : String × String) : List Token :=
  [.word label.1.toList, .mark '=', .quoted label.2.toList]

/-- A label as it is written. -/
def labelCharacters (write : String → String) (label : String × String) : List Char :=
  label.1.toList ++ '=' :: '"' :: (write label.2).toList ++ ['"']

theorem tokens?_label {label : String × String}
    (named : isName isLabelLetter label.1.toList = true) (rest : List Char) :
    tokens? (.outside []) (labelCharacters Registry.escaped label ++ rest) =
      (tokens? (.outside []) rest).map (labelTokens label ++ ·) := by
  have bare := isBare_of_isName isBare_of_isLabelLetter named
  have word := wordTokens_eq (ne_nil_of_isName named)
  rw [labelCharacters, toList_escaped, List.append_assoc, List.append_assoc, List.cons_append,
    tokens?_bare_mark bare (by decide), word, List.cons_append, tokens?, if_pos rfl,
    List.singleton_append, tokens?_escaped]
  simp [Option.map_map, Function.comp_def, wordTokens, labelTokens]

theorem tokens?_mark {mark : Char} (marks : isMark mark = true) (rest : List Char) :
    tokens? (.outside []) (mark :: rest) = (tokens? (.outside []) rest).map (.mark mark :: ·) := by
  have none : ∀ character ∈ ([] : List Char), isBare character = true := by simp
  exact tokens?_bare_mark none marks rest

theorem intercalate_map_cons {α β : Type} (separator : β) (write : α → List β) (first next : α)
    (rest : List α) :
    [separator].intercalate ((first :: next :: rest).map write) =
      write first ++ separator :: [separator].intercalate ((next :: rest).map write) := by
  rw [List.map_cons, List.intercalate_cons_of_ne_nil (by simp), List.append_assoc,
    List.singleton_append]

theorem tokens?_labels {labels : List (String × String)}
    (named : ∀ label ∈ labels, isName isLabelLetter label.1.toList = true) (rest : List Char) :
    tokens? (.outside [])
        ([','].intercalate (labels.map (labelCharacters Registry.escaped)) ++ '\x7d' :: rest) =
      (tokens? (.outside []) rest).map
        ([.mark ','].intercalate (labels.map labelTokens) ++ .mark '\x7d' :: ·) := by
  induction labels with
  | nil => exact tokens?_mark (by decide) rest
  | cons label others induction =>
      rw [List.forall_mem_cons] at named
      cases others with
      | nil =>
          simp only [List.map_cons, List.map_nil, List.intercalate_singleton]
          rw [tokens?_label named.1, tokens?_mark (by decide), Option.map_map]
          rfl
      | cons next others =>
          rw [intercalate_map_cons, intercalate_map_cons, List.append_assoc, List.cons_append,
            tokens?_label named.1, tokens?_mark (by decide), induction named.2, Option.map_map,
            Option.map_map]
          simp only [Function.comp_def, List.append_assoc, List.cons_append]

theorem labels?_tokens {labels : List (String × String)}
    (named : ∀ label ∈ labels, isName isLabelLetter label.1.toList = true) (rest : List Token) :
    labels? ([.mark ','].intercalate (labels.map labelTokens) ++ .mark '\x7d' :: rest) =
      some (labels, rest) := by
  induction labels with
  | nil => rfl
  | cons label others induction =>
      rw [List.forall_mem_cons] at named
      cases others with
      | nil => simp [labelTokens, labels?, named.1]
      | cons next others =>
          have later := induction named.2
          rw [intercalate_map_cons, List.append_assoc, List.cons_append]
          generalize [Token.mark ','].intercalate ((next :: others).map labelTokens) = tokens at later
          simp [labelTokens, labels?, named.1, later]

namespace Sample

/-- The characters of a line. -/
theorem toList_written (write : String → String) (sample : Sample) :
    (sample.written write).toList =
      sample.name.toList ++ '\x7b' :: ([','].intercalate (sample.labels.map (labelCharacters write)) ++
        '\x7d' :: ' ' :: sample.value.toList) := by
  have labels : sample.labels.map (String.toList ∘ fun label : String × String =>
      label.1 ++ "=\"" ++ write label.2 ++ "\"") = sample.labels.map (labelCharacters write) := by
    apply List.map_congr_left
    intro label _
    simp [labelCharacters]
  simp [written, Collector.sample, String.toList_intercalate, labels]

/-- The parts of its line. -/
def tokens (sample : Sample) : List Token :=
  .word sample.name.toList :: .mark '\x7b' ::
    ([.mark ','].intercalate (sample.labels.map labelTokens) ++
      .mark '\x7d' :: [.word sample.value.toList])

variable {sample : Sample}

theorem tokens?_text (proper : sample.Proper) :
    tokens? (.outside []) sample.text.toList = some sample.tokens := by
  have nameBare := isBare_of_isName isBare_of_isSeriesLetter proper.name
  have valueBare := isBare_of_isNumber proper.value
  have value : tokens? (.outside []) (' ' :: sample.value.toList) =
      some [.word sample.value.toList] := by
    have read := tokens?_bare valueBare [] []
    rw [List.append_nil, List.nil_append] at read
    rw [tokens?, if_neg (by decide), if_pos (by decide), read, tokens?,
      wordTokens_eq (ne_nil_of_isNumber proper.value)]
    rfl
  rw [text, toList_written, tokens?_bare_mark nameBare (by decide), tokens?_labels proper.labels,
    value, wordTokens_eq (ne_nil_of_isName proper.name)]
  rfl

theorem sample?_tokens (proper : sample.Proper) : sample? sample.tokens = some sample := by
  rw [tokens, sample?, if_pos proper.name, labels?_tokens proper.labels]
  simp [value?, proper.value]

/-- A line begins with its name. -/
theorem exists_toList_text (proper : sample.Proper) :
    ∃ first rest, sample.text.toList = first :: rest ∧ isBare first = true := by
  rw [text, toList_written]
  cases name : sample.name.toList with
  | nil => exact absurd name (ne_nil_of_isName proper.name)
  | cons first rest =>
      have bare := isBare_of_isName isBare_of_isSeriesLetter proper.name
      exact ⟨first, _, rfl, bare first (name ▸ List.mem_cons_self ..)⟩

/-- What is written in the format is read back. -/
theorem line?_text (proper : sample.Proper) : line? sample.text.toList = some [sample] := by
  rcases exists_toList_text proper with ⟨first, rest, characters, bare⟩
  have notGap : isGap first = false := by simp [isGap, ne_of_isBare bare ' ', ne_of_isBare bare '\t']
  rw [line?, characters, List.dropWhile_cons_of_neg (by simp [notGap])]
  split
  · next empty => cases empty
  · next comment => exact absurd (List.cons.inj comment).1 (ne_of_isBare bare '#')
  · rw [← characters, tokens?_text proper, Option.bind_some, sample?_tokens proper, Option.map_some]

end Sample

end HybridSearch.Metrics.Exposition
