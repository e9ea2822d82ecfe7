import HybridSearch.Metrics.Collector
import HybridSearch.Proofs.Amount
import HybridSearch.Proofs.Keyed

/-! Labels that are equal as values. A series is kept under the first of the rows of labels like its
own, so rows that are alike name one series. -/

namespace HybridSearch.Metrics

namespace Label

theorem same_iff {left right : Label} :
    left.same right = true ↔ (left.toJson.amount? = none ∧ left = right) ∨
      ∃ first second, left.toJson.amount? = some first ∧ right.toJson.amount? = some second ∧
        first.same second = true := by
  cases left <;> cases right <;>
    simp [same, toJson, Json.same, Json.sameAmount, Json.amount?]

theorem same_symm {left right : Label} (same : left.same right = true) :
    right.same left = true := by
  rw [same_iff] at same ⊢
  rcases same with ⟨notNumeric, rfl⟩ | ⟨first, second, leftAmount, rightAmount, sameAmount⟩
  · exact .inl ⟨notNumeric, rfl⟩
  · rw [Amount.same, Bool.and_comm] at sameAmount
    exact .inr ⟨second, first, rightAmount, leftAmount, sameAmount⟩

theorem same_trans {left middle right : Label} (first : left.same middle = true)
    (second : middle.same right = true) : left.same right = true := by
  rw [same_iff] at first second ⊢
  rcases first with ⟨notNumeric, rfl⟩ | ⟨low, between, leftAmount, middleAmount, firstSame⟩
  · exact second
  · rcases second with ⟨notNumeric, rfl⟩ | ⟨same, high, sameMiddle, rightAmount, secondSame⟩
    · exact .inr ⟨low, between, leftAmount, middleAmount, firstSame⟩
    · cases middleAmount.symm.trans sameMiddle
      exact .inr ⟨low, high, leftAmount, rightAmount, Amount.same_trans firstSame secondSame⟩

theorem allSame_symm : ∀ {left right : List Label}, allSame left right = true →
    allSame right left = true
  | [], [], _ => rfl
  | _ :: _, _ :: _, same => by
      rw [allSame, Bool.and_eq_true] at same ⊢
      exact ⟨same_symm same.1, allSame_symm same.2⟩

theorem allSame_trans : ∀ {left middle right : List Label}, allSame left middle = true →
    allSame middle right = true → allSame left right = true
  | [], [], [], _, _ => rfl
  | _ :: _, _ :: _, _ :: _, first, second => by
      rw [allSame, Bool.and_eq_true] at first second ⊢
      exact ⟨same_trans first.1 second.1, allSame_trans first.2 second.2⟩

theorem allSame_dropLast : ∀ {left right : List Label}, allSame left right = true →
    allSame left.dropLast right.dropLast = true
  | [], [], _ => rfl
  | [_], [_], _ => rfl
  | [_], _ :: _ :: _, same => by simp [allSame] at same
  | _ :: _ :: _, [_], same => by simp [allSame] at same
  | _ :: second :: rest, _ :: other :: others, same => by
      rw [allSame, Bool.and_eq_true] at same
      simp only [List.dropLast_cons_cons, allSame, Bool.and_eq_true]
      exact ⟨same.1, allSame_dropLast same.2⟩

/-- Rows of labels that are equal, or equal as values. The first does not give the second: what is no
number is not equal to itself. -/
def Alike (left right : List Label) : Prop :=
  left = right ∨ allSame left right = true

instance : DecidableRel Alike :=
  fun left right => inferInstanceAs (Decidable (left = right ∨ allSame left right = true))

theorem alike_equivalence : Equivalence Alike where
  refl _ := .inl rfl
  symm alike := alike.imp Eq.symm allSame_symm
  trans first second := by
    rcases first with rfl | firstSame
    · exact second
    · rcases second with rfl | secondSame
      · exact .inr firstSame
      · exact .inr (allSame_trans firstSame secondSame)

theorem Alike.dropLast {left right : List Label} (alike : Alike left right) :
    Alike left.dropLast right.dropLast :=
  alike.imp (congrArg List.dropLast) allSame_dropLast

/-- Texts are like no other labels. -/
theorem eq_of_allSame : ∀ {left right : List Label}, (∀ label ∈ left, label.isText = true) →
    allSame left right = true → left = right
  | [], [], _, _ => rfl
  | first :: rest, other :: others, texts, same => by
      rw [allSame, Bool.and_eq_true, same_iff] at same
      have isText := texts first (List.mem_cons_self ..)
      rcases same.1 with ⟨_, rfl⟩ | ⟨amount, _, numeric, _⟩
      · rw [eq_of_allSame (fun label member => texts label (List.mem_cons_of_mem _ member)) same.2]
      · cases first with
        | text value => cases numeric
        | _ => cases isText

theorem alike_iff_eq {left right : List Label} (texts : ∀ label ∈ left, label.isText = true) :
    Alike left right ↔ left = right :=
  ⟨fun alike => alike.elim id (eq_of_allSame texts), .inl⟩

end Label

/-- The labels among some values. -/
def labelsOf (values : List Json) : List Label :=
  values.filterMap Label.ofJson?

theorem labelsOf_eq : ∀ {values : List Json} {labels : List Label}, labels? values = .ok labels →
    labelsOf values = labels
  | [], _, found => by
      cases found
      rfl
  | value :: rest, labels, found => by
      rw [labels?] at found
      split at found
      · next label isLabel =>
        cases others : labels? rest with
        | error failure => rw [others] at found; cases found
        | ok tail =>
            rw [others] at found
            cases found
            rw [labelsOf, List.filterMap_cons_some isLabel, ← labelsOf, labelsOf_eq others]
      · cases found

theorem map_string_text {values : List Json}
    (texts : ∀ value ∈ values, ∃ text, value = .string text) :
    (values.map Json.text).map .string = values := by
  rw [List.map_map]
  refine (List.map_congr_left fun value member => ?_).trans (List.map_id values)
  rcases texts value member with ⟨text, rfl⟩
  rfl

theorem labels?_map_string (names : List String) :
    labels? (names.map .string) = .ok (names.map .text) := by
  induction names with
  | nil => rfl
  | cons name rest induction =>
      rw [List.map_cons, labels?, induction]
      rfl

/-- Texts are labels that stand for themselves. -/
theorem labels?_of_texts {values : List Json}
    (texts : ∀ value ∈ values, ∃ text, value = .string text) :
    labels? values = .ok ((values.map Json.text).map .text) := by
  rw [← labels?_map_string, map_string_text texts]

theorem Collector.known_standsFor (kept : List (List Label)) (labels : List Label) :
    Keyed.StandsFor Label.Alike kept labels (known kept labels) := by
  rw [known]
  cases found : kept.find? (Label.allSame labels) with
  | some first =>
      exact .known (List.mem_of_find?_eq_some found) (.inr (List.find?_some found))
  | none =>
      rw [List.find?_eq_none] at found
      by_cases member : labels ∈ kept
      · exact .known member (.inl rfl)
      · refine .new fun other among alike => ?_
        rcases alike with rfl | same
        · exact member among
        · exact found other among same

/-! ## Series -/

def CounterSeries.Alike (left right : CounterSeries Label) : Prop :=
  left.family = right.family ∧ Label.Alike left.labels right.labels

instance : DecidableRel CounterSeries.Alike :=
  fun left right => inferInstanceAs
    (Decidable (left.family = right.family ∧ Label.Alike left.labels right.labels))

theorem CounterSeries.alike_equivalence : Equivalence Alike where
  refl _ := ⟨rfl, Label.alike_equivalence.refl _⟩
  symm alike := ⟨alike.1.symm, Label.alike_equivalence.symm alike.2⟩
  trans first second :=
    ⟨first.1.trans second.1, Label.alike_equivalence.trans first.2 second.2⟩

def HistogramSeries.Alike (left right : HistogramSeries Label) : Prop :=
  left.family = right.family ∧ Label.Alike left.labels right.labels

instance : DecidableRel HistogramSeries.Alike :=
  fun left right => inferInstanceAs
    (Decidable (left.family = right.family ∧ Label.Alike left.labels right.labels))

theorem HistogramSeries.alike_equivalence : Equivalence Alike where
  refl _ := ⟨rfl, Label.alike_equivalence.refl _⟩
  symm alike := ⟨alike.1.symm, Label.alike_equivalence.symm alike.2⟩
  trans first second :=
    ⟨first.1.trans second.1, Label.alike_equivalence.trans first.2 second.2⟩

namespace Collector

theorem counterSeries_standsFor (collector : Collector) (family : CounterFamily)
    (labels : List Label) :
    Keyed.StandsFor CounterSeries.Alike collector.counters.keys ⟨family, labels⟩
      (collector.counterSeries family labels) := by
  refine (known_standsFor _ labels).map (CounterSeries.mk family) (fun _ _ alike => ⟨rfl, alike⟩)
    (fun row member => ?_) (fun series member alike => ?_)
  · rcases List.mem_map.mp member with ⟨series, among, rfl⟩
    rw [List.mem_filter, decide_eq_true_iff] at among
    rw [← among.2]
    exact among.1
  · refine ⟨series.labels, List.mem_map_of_mem (List.mem_filter.mpr ⟨member, ?_⟩), alike.2⟩
    exact decide_eq_true alike.1.symm

theorem histogramSeries_standsFor (collector : Collector) (family : HistogramFamily)
    (labels : List Label) :
    Keyed.StandsFor HistogramSeries.Alike collector.histograms.keys ⟨family, labels⟩
      (collector.histogramSeries family labels) := by
  refine (known_standsFor _ labels).map (HistogramSeries.mk family) (fun _ _ alike => ⟨rfl, alike⟩)
    (fun row member => ?_) (fun series member alike => ?_)
  · rcases List.mem_map.mp member with ⟨series, among, rfl⟩
    rw [List.mem_filter, decide_eq_true_iff] at among
    rw [← among.2]
    exact among.1
  · refine ⟨series.labels, List.mem_map_of_mem (List.mem_filter.mpr ⟨member, ?_⟩), alike.2⟩
    exact decide_eq_true alike.1.symm

end Collector

end HybridSearch.Metrics
