import HybridSearch.Keyed
import Mathlib.Data.List.Nodup
import Mathlib.Data.List.Pairwise
import Mathlib.Tactic.Common

/-! Tables that are filled part by part. Each part comes under a key and is added to the value of the
key in the table that is like it, so the value of a key is the sum of the parts that came under keys
like it, in the order in which they came. -/

namespace HybridSearch.Keyed

variable {κ ι α : Type}

section Change

variable [DecidableEq κ] {key : κ} {default : α} {change : α → α} {entries : List (κ × α)}

theorem changeEntries_of_mem (nodup : (entries.map Prod.fst).Nodup)
    (member : key ∈ entries.map Prod.fst) :
    changeEntries key default change entries =
      entries.map fun entry => if entry.1 = key then (entry.1, change entry.2) else entry := by
  induction entries with
  | nil => cases member
  | cons first rest induction =>
      rw [List.map_cons, List.nodup_cons] at nodup
      rw [changeEntries, List.map_cons]
      by_cases same : first.1 = key
      · rw [if_pos same, if_pos same, List.cons_inj_right]
        refine (List.map_id rest).symm.trans (List.map_congr_left fun entry among => ?_)
        rw [if_neg, id]
        rintro rfl
        exact nodup.1 (same ▸ List.mem_map_of_mem among)
      · rw [if_neg same, if_neg same,
          induction nodup.2 ((List.mem_cons.mp member).resolve_left (Ne.symm same))]

theorem changeEntries_of_not_mem (notMember : key ∉ entries.map Prod.fst) :
    changeEntries key default change entries = entries ++ [(key, change default)] := by
  induction entries with
  | nil => rfl
  | cons first rest induction =>
      rw [List.map_cons, List.mem_cons, not_or] at notMember
      rw [changeEntries, if_neg (Ne.symm notMember.1), induction notMember.2]
      rfl

theorem keys_change_of_mem {table : Keyed κ α} (nodup : table.keys.Nodup)
    (member : key ∈ table.keys) : (table.change key default change).keys = table.keys := by
  rw [keys, Keyed.change, changeEntries_of_mem nodup member, List.map_map]
  refine List.map_congr_left fun entry _ => ?_
  dsimp only [Function.comp]
  split <;> rfl

theorem keys_change_of_not_mem {table : Keyed κ α} (notMember : key ∉ table.keys) :
    (table.change key default change).keys = table.keys ++ [key] := by
  rw [keys, Keyed.change, changeEntries_of_not_mem notMember, List.map_append]
  rfl

theorem get?_change (table : Keyed κ α) (key other : κ) (default : α) (change : α → α) :
    (table.change key default change).get? other =
      if other = key then some (change ((table.get? key).getD default)) else table.get? other := by
  rcases table with ⟨entries⟩
  simp only [Keyed.change, get?]
  induction entries with
  | nil => by_cases same : key = other <;> simp [changeEntries, same, eq_comm]
  | cons first rest induction =>
      rw [changeEntries]
      by_cases found : first.1 = key
      · by_cases same : other = key <;> simp [found, same, eq_comm]
      · by_cases same : first.1 = other
        · have different : other ≠ key := same ▸ found
          simp [same, different]
        · simp [found, same, induction]

/-- A value may be looked up before it is changed. -/
theorem change_get? (table : Keyed κ α) (key : κ) (default other : α) (change : α → α) :
    (table.change key other fun _ => change ((table.get? key).getD default)) =
      table.change key default change := by
  rcases table with ⟨entries⟩
  simp only [Keyed.change, get?, mk.injEq]
  induction entries with
  | nil => rfl
  | cons first rest induction =>
      by_cases same : first.1 = key
      · simp [changeEntries, same]
      · simp [changeEntries, same, induction]

end Change

/-- Rows whose values go by their keys are given by the keys. -/
theorem eq_map_fst {rows : List (κ × α)} (value : κ → α)
    (values : ∀ row ∈ rows, row.2 = value row.1) :
    rows = (rows.map Prod.fst).map fun key => (key, value key) := by
  rw [List.map_map]
  exact (List.map_id rows).symm.trans <|
    List.map_congr_left fun row member => Prod.ext rfl (values row member)

/-- The parts that came under keys like one. -/
def partsOf (alike : κ → κ → Prop) [DecidableRel alike] (key : κ) (arrivals : List (κ × ι)) :
    List ι :=
  (arrivals.filter fun arrival => alike arrival.1 key).map Prod.snd

/-- Parts that came under names are those that came under the keys that the names stand for. -/
theorem partsOf_map {ν : Type} [DecidableEq ν] {alike : κ → κ → Prop} [DecidableRel alike]
    {key : ν → κ} (alike_iff : ∀ left right, alike (key left) (key right) ↔ left = right) (name : ν)
    (arrivals : List (ν × ι)) :
    partsOf alike (key name) (arrivals.map (Prod.map key id)) = partsOf (· = ·) name arrivals := by
  simp [partsOf, List.filter_map, Function.comp_def, alike_iff]

/-- A table holds what came under its keys. -/
structure Tally (alike : κ → κ → Prop) [DecidableRel alike] (add : α → ι → α) (default : α)
    (arrivals : List (κ × ι)) (table : Keyed κ α) : Prop where
  apart : table.keys.Pairwise fun earlier later => ¬alike earlier later
  arrived : ∀ key ∈ table.keys, key ∈ arrivals.map Prod.fst
  kept : ∀ key ∈ arrivals.map Prod.fst, ∃ known ∈ table.keys, alike key known
  total : ∀ entry ∈ table.entries, entry.2 = (partsOf alike entry.1 arrivals).foldl add default

/-- A key in a table under which a part is kept that comes under another key. -/
inductive StandsFor (alike : κ → κ → Prop) (keys : List κ) (key : κ) : κ → Prop where
  | known {known : κ} (member : known ∈ keys) (same : alike key known) :
      StandsFor alike keys key known
  | new (different : ∀ known ∈ keys, ¬alike key known) : StandsFor alike keys key key

theorem StandsFor.self [DecidableEq κ] (keys : List κ) (key : κ) :
    StandsFor (· = ·) keys key key := by
  by_cases member : key ∈ keys
  · exact .known member rfl
  · refine .new fun known among same => member ?_
    exact same ▸ among

/-- Keys that are parts of others stand for each other as these do. -/
theorem StandsFor.map {π : Type} {alike : κ → κ → Prop} {alikeParts : π → π → Prop}
    {keys : List κ} {parts : List π} {part chosen : π}
    (standsFor : StandsFor alikeParts parts part chosen) (whole : π → κ)
    (wholes : ∀ left right, alikeParts left right → alike (whole left) (whole right))
    (into : ∀ part ∈ parts, whole part ∈ keys)
    (back : ∀ key ∈ keys, alike (whole part) key → ∃ other ∈ parts, alikeParts part other) :
    StandsFor alike keys (whole part) (whole chosen) := by
  cases standsFor with
  | known member same => exact .known (into _ member) (wholes _ _ same)
  | new different =>
      refine .new fun key member alike => ?_
      rcases back key member alike with ⟨other, among, same⟩
      exact different other among same

namespace Tally

variable {alike : κ → κ → Prop} [DecidableRel alike] {add : α → ι → α} {default : α}
  {arrivals : List (κ × ι)} {table : Keyed κ α}

theorem empty : Tally alike add default [] (Keyed.empty : Keyed κ α) where
  apart := .nil
  arrived _ member := nomatch member
  kept _ member := nomatch member
  total _ member := nomatch member

theorem nodup (equivalence : Equivalence alike) (tally : Tally alike add default arrivals table) :
    table.keys.Nodup := by
  refine tally.apart.imp ?_
  rintro key _ different rfl
  exact different (equivalence.refl key)

theorem eq_of_alike (equivalence : Equivalence alike)
    (tally : Tally alike add default arrivals table) {left right : κ} (leftMember : left ∈ table.keys)
    (rightMember : right ∈ table.keys) (same : alike left right) : left = right := by
  have : Std.Symm fun earlier later => ¬alike earlier later :=
    ⟨fun _ _ different also => different (equivalence.symm also)⟩
  by_contra different
  exact tally.apart.forall leftMember rightMember different same

theorem partsOf_append_alike {key known : κ} (same : alike key known) (part : ι) :
    partsOf alike known (arrivals ++ [(key, part)]) = partsOf alike known arrivals ++ [part] := by
  simp [partsOf, same]

theorem partsOf_append_different {key known : κ} (different : ¬alike key known) (part : ι) :
    partsOf alike known (arrivals ++ [(key, part)]) = partsOf alike known arrivals := by
  simp [partsOf, different]

theorem exists_known_iff (equivalence : Equivalence alike)
    (tally : Tally alike add default arrivals table) (key : κ) :
    (∃ known ∈ table.keys, alike key known) ↔ ∃ arrival ∈ arrivals, alike arrival.1 key := by
  constructor
  · rintro ⟨known, member, same⟩
    rcases List.mem_map.mp (tally.arrived known member) with ⟨arrival, came, rfl⟩
    exact ⟨arrival, came, equivalence.symm same⟩
  · rintro ⟨arrival, came, same⟩
    rcases tally.kept arrival.1 (List.mem_map_of_mem came) with ⟨known, member, also⟩
    exact ⟨known, member, equivalence.trans (equivalence.symm same) also⟩

/-- Nothing came under keys like one that is like none in the table. -/
theorem partsOf_eq_nil (equivalence : Equivalence alike)
    (tally : Tally alike add default arrivals table) {key : κ}
    (different : ∀ known ∈ table.keys, ¬alike key known) : partsOf alike key arrivals = [] := by
  rw [partsOf, List.map_eq_nil_iff, List.filter_eq_nil_iff]
  intro arrival member also
  rw [decide_eq_true_iff] at also
  rcases (tally.exists_known_iff equivalence key).mpr ⟨arrival, member, also⟩ with
    ⟨known, among, same⟩
  exact different known among same

/-- A table is its keys with what came under each. -/
theorem entries_eq (tally : Tally alike add default arrivals table) :
    table.entries = table.keys.map fun key =>
      (key, (partsOf alike key arrivals).foldl add default) :=
  eq_map_fst _ tally.total

variable [DecidableEq κ]

theorem change_known (equivalence : Equivalence alike)
    (tally : Tally alike add default arrivals table) {key known : κ} (member : known ∈ table.keys)
    (same : alike key known) (part : ι) :
    Tally alike add default (arrivals ++ [(key, part)])
      (table.change known default fun value => add value part) := by
  have nodup := tally.nodup equivalence
  have keys : (table.change known default fun value => add value part).keys = table.keys :=
    keys_change_of_mem nodup member
  constructor
  · rw [keys]
    exact tally.apart
  · rw [keys]
    intro other otherMember
    rw [List.map_append, List.mem_append]
    exact .inl (tally.arrived other otherMember)
  · rw [keys]
    intro other came
    rw [List.map_append, List.mem_append, List.map_singleton, List.mem_singleton] at came
    rcases came with before | rfl
    · exact tally.kept other before
    · exact ⟨known, member, same⟩
  · rw [Keyed.change, changeEntries_of_mem nodup member]
    intro entry among
    rcases List.mem_map.mp among with ⟨old, oldMember, rfl⟩
    have value := tally.total old oldMember
    split
    · next found =>
      rw [found, partsOf_append_alike same, List.foldl_append, ← found, ← value]
      rfl
    · next other =>
      rw [partsOf_append_different, value]
      exact fun also => other <| tally.eq_of_alike equivalence (List.mem_map_of_mem oldMember)
        member (equivalence.trans (equivalence.symm also) same)

theorem change_new (equivalence : Equivalence alike)
    (tally : Tally alike add default arrivals table) {key : κ}
    (different : ∀ known ∈ table.keys, ¬alike key known) (part : ι) :
    Tally alike add default (arrivals ++ [(key, part)])
      (table.change key default fun value => add value part) := by
  have notMember : key ∉ table.keys := fun member => different key member (equivalence.refl key)
  have keys : (table.change key default fun value => add value part).keys = table.keys ++ [key] :=
    keys_change_of_not_mem notMember
  constructor
  · rw [keys, List.pairwise_append]
    refine ⟨tally.apart, List.pairwise_singleton _ _, fun other member last isLast => ?_⟩
    rw [List.mem_singleton.mp isLast]
    exact fun also => different other member (equivalence.symm also)
  · rw [keys, List.map_append]
    exact fun other member => List.mem_append.mpr <|
      (List.mem_append.mp member).imp_left (tally.arrived other)
  · rw [keys]
    intro other came
    rw [List.map_append, List.mem_append, List.map_singleton, List.mem_singleton] at came
    rcases came with before | rfl
    · rcases tally.kept other before with ⟨old, member, same⟩
      exact ⟨old, List.mem_append_left _ member, same⟩
    · exact ⟨other, List.mem_append_right _ (List.mem_singleton_self other),
        equivalence.refl other⟩
  · rw [Keyed.change, changeEntries_of_not_mem notMember]
    intro entry among
    rcases List.mem_append.mp among with old | last
    · rw [partsOf_append_different (different entry.1 (List.mem_map_of_mem old))]
      exact tally.total entry old
    · rw [List.mem_singleton.mp last, partsOf_append_alike (equivalence.refl key),
        tally.partsOf_eq_nil equivalence different]
      rfl

/-- A part that comes under a key is added to what stands for the key. -/
theorem change (equivalence : Equivalence alike) (tally : Tally alike add default arrivals table)
    {key known : κ} (standsFor : StandsFor alike table.keys key known) (part : ι) :
    Tally alike add default (arrivals ++ [(key, part)])
      (table.change known default fun value => add value part) := by
  cases standsFor with
  | known member same => exact tally.change_known equivalence member same part
  | new different => exact tally.change_new equivalence different part

/-- The keys of a table are those under which something came. -/
theorem mem_keys_iff {arrivals : List (κ × ι)} {table : Keyed κ α}
    (tally : Tally (· = ·) add default arrivals table) {key : κ} :
    key ∈ table.keys ↔ key ∈ arrivals.map Prod.fst := by
  refine ⟨tally.arrived key, fun came => ?_⟩
  rcases tally.kept key came with ⟨known, member, rfl⟩
  exact member

/-- The names of keys that are read off a table are those under which something came. -/
theorem perm_names {ν : Type} {arrivals : List (κ × ι)} {table : Keyed κ α}
    (tally : Tally (· = ·) add default arrivals table) {names? : κ → Option ν} {key : ν → κ}
    (reads : ∀ {other name}, names? other = some name ↔ other = key name) {named : List ν}
    (nodup : named.Nodup) (came : ∀ name, name ∈ named ↔ key name ∈ arrivals.map Prod.fst) :
    (table.keys.filterMap names?).Perm named := by
  refine (List.perm_ext_iff_of_nodup ?_ nodup).mpr fun name => ?_
  · refine List.Nodup.filterMap (fun left right name leftName rightName => ?_)
      (tally.nodup eq_equivalence)
    rw [Option.mem_def, reads] at leftName rightName
    rw [leftName, rightName]
  · rw [came, ← tally.mem_keys_iff, List.mem_filterMap]
    simp only [reads, exists_eq_right]

end Tally

end HybridSearch.Keyed
