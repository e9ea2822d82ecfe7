import HybridSearch.Proofs.Metrics.Quoting

/-! Texts that show samples. Where the labels stand in a text as they are, the samples are read from it
exactly when no label has a character that must be escaped. -/

namespace HybridSearch.Metrics.Exposition

/-- A line that shows nothing, without quotes and backslashes. -/
structure IsComment (line : String) : Prop where
  silent : line? line.toList = some []
  oneLine : '\n' ∉ line.toList
  quoteless : quotings line.toList = 0

instance : DecidablePred IsComment :=
  fun line => decidable_of_iff
    (line? line.toList = some [] ∧ '\n' ∉ line.toList ∧ quotings line.toList = 0)
    ⟨fun both => ⟨both.1, both.2.1, both.2.2⟩,
      fun comment => ⟨comment.silent, comment.oneLine, comment.quoteless⟩⟩

/-- Lines that show some samples: each of them with its labels as they are, and comments. -/
inductive Shows : List String → List Sample → Prop where
  | none : Shows [] []
  | comment {line : String} {lines : List String} {samples : List Sample}
      (isComment : IsComment line) (rest : Shows lines samples) : Shows (line :: lines) samples
  | sample {sample : Sample} {lines : List String} {samples : List Sample}
      (proper : sample.Proper) (rest : Shows lines samples) :
      Shows (sample.line :: lines) (sample :: samples)

/-- Its labels have no character that must be escaped. -/
def Sample.IsPlain (sample : Sample) : Prop :=
  ∀ label ∈ sample.labels, Plain label.2

theorem Sample.IsPlain.line_eq {sample : Sample} (plain : sample.IsPlain) :
    sample.line = sample.text := by
  have labels : (sample.labels.map fun label => label.1 ++ "=\"" ++ id label.2 ++ "\"") =
      sample.labels.map fun label => label.1 ++ "=\"" ++ Registry.escaped label.2 ++ "\"" := by
    apply List.map_congr_left
    intro label member
    rw [(plain label member).escaped_eq]
    rfl
  rw [line, text, written, written, labels]

/-- A sample without such characters is read from its line. -/
theorem Sample.IsPlain.line?_line {sample : Sample} (plain : sample.IsPlain)
    (proper : sample.Proper) : line? sample.line.toList = some [sample] := by
  rw [plain.line_eq]
  exact Sample.line?_text proper

/-- The characters of a text with some lines. -/
theorem toList_text {lines : List String} (given : lines ≠ []) :
    ("\n".intercalate lines ++ "\n").toList = lines.flatMap fun line => line.toList ++ ['\n'] := by
  rw [String.toList_append, String.toList_intercalate]
  induction lines with
  | nil => exact absurd rfl given
  | cons line rest induction =>
      cases rest with
      | nil => simp
      | cons next rest =>
          rw [List.flatMap_cons, ← induction (List.cons_ne_nil next rest), List.map_cons,
            List.intercalate_cons_of_ne_nil (by simp)]
          simp

namespace Shows

variable {lines others : List String} {samples more : List Sample}

theorem append (shows : Shows lines samples) (showsMore : Shows others more) :
    Shows (lines ++ others) (samples ++ more) := by
  induction shows with
  | none => exact showsMore
  | comment isComment _ induction => exact .comment isComment induction
  | sample proper _ induction => exact .sample proper induction

theorem of_comments (comments : ∀ line ∈ lines, IsComment line) : Shows lines [] := by
  induction lines with
  | nil => exact .none
  | cons line rest induction =>
      rw [List.forall_mem_cons] at comments
      exact .comment comments.1 (induction comments.2)

theorem of_samples (proper : ∀ sample ∈ samples, sample.Proper) :
    Shows (samples.map Sample.line) samples := by
  induction samples with
  | nil => exact .none
  | cons sample rest induction =>
      rw [List.forall_mem_cons] at proper
      exact .sample proper.1 (induction proper.2)

theorem flatMap {α : Type} {values : List α} {linesOf : α → List String}
    {samplesOf : α → List Sample} (shows : ∀ value ∈ values, Shows (linesOf value) (samplesOf value)) :
    Shows (values.flatMap linesOf) (values.flatMap samplesOf) := by
  induction values with
  | nil => exact .none
  | cons value rest induction =>
      rw [List.forall_mem_cons] at shows
      exact shows.1.append (induction shows.2)

/-- The lines are read one after another. -/
theorem lines?_splitWhere (shows : Shows lines samples)
    (plain : ∀ sample ∈ samples, sample.IsPlain) :
    lines? (Text.splitWhere (· = '\n') (lines.flatMap fun line => line.toList ++ ['\n'])) =
      some samples := by
  have first {line : List Char} (oneLine : '\n' ∉ line) (rest : List Char) :
      Text.splitWhere (· = '\n') (line ++ ['\n'] ++ rest) =
        line :: Text.splitWhere (· = '\n') rest := by
    have whole : ∀ character ∈ line, decide (character = '\n') = false := by
      intro character member
      exact decide_eq_false fun isEnd => oneLine (isEnd ▸ member)
    rw [List.append_assoc, List.singleton_append, Text.splitWhere_append (by decide),
      Text.splitWhere_of_none whole, List.singleton_append]
  induction shows with
  | none => rfl
  | comment isComment _ induction =>
      rw [List.flatMap_cons, first isComment.oneLine, lines?, isComment.silent, induction plain]
      rfl
  | @sample sample lines samples proper _ induction =>
      rw [List.forall_mem_cons] at plain
      have oneLine : '\n' ∉ sample.line.toList := by
        rw [plain.1.line_eq]
        exact Sample.newline_not_mem_text proper
      rw [List.flatMap_cons, first oneLine, lines?, plain.1.line?_line proper, induction plain.2]
      rfl

/-- The quotes and backslashes of the text are those of the labels. -/
theorem quotings_flatMap (shows : Shows lines samples) :
    quotings (lines.flatMap fun line => line.toList ++ ['\n']) =
      (samples.map fun sample => labelQuotings id sample.labels).sum := by
  have ending : quotings ['\n'] = 0 := by decide
  induction shows with
  | none => rfl
  | comment isComment _ induction =>
      rw [List.flatMap_cons, quotings_append, quotings_append, isComment.quoteless, ending, induction]
      simp
  | sample proper _ induction =>
      rw [List.flatMap_cons, quotings_append, quotings_append, Sample.quotings_line proper, ending,
        induction]
      simp

/-- Samples without characters that must be escaped are read from a text that shows them. -/
theorem read?_eq (shows : Shows lines samples) (given : lines ≠ [])
    (plain : ∀ sample ∈ samples, sample.IsPlain) :
    read? ("\n".intercalate lines ++ "\n") = some samples := by
  rw [read?, toList_text given]
  exact shows.lines?_splitWhere plain

/-- No others are, in whatever order: the text has too few quotes and backslashes for them. -/
theorem isPlain_of_read? (shows : Shows lines samples) (given : lines ≠ []) {read : List Sample}
    (isRead : read? ("\n".intercalate lines ++ "\n") = some read) (same : read.Perm samples) :
    ∀ sample ∈ samples, sample.IsPlain := by
  have enough := quotings_read? isRead
  rw [toList_text given, shows.quotings_flatMap, (same.map _).sum_eq] at enough
  have split : (samples.map fun sample => labelQuotings Registry.escaped sample.labels).sum =
      (samples.map fun sample => labelQuotings id sample.labels).sum +
        (samples.map fun sample => escapes sample.labels).sum := by
    simp only [labelQuotings_escaped, List.sum_map_add]
  have none : (samples.map fun sample => escapes sample.labels).sum = 0 := by omega
  rw [List.sum_eq_zero_iff, List.forall_mem_map] at none
  intro sample member
  exact escapes_eq_zero_iff.mp (none sample member)

end Shows

end HybridSearch.Metrics.Exposition
