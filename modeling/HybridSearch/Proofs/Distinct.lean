import Mathlib.Data.List.Induction

/-! Lists freed of repetitions: each value stays at the place where it came first. -/

namespace HybridSearch

variable {α : Type} [DecidableEq α]

theorem nodup_eraseDups (values : List α) : values.eraseDups.Nodup := by
  induction length : values.length using Nat.strongRecOn generalizing values with
  | ind size induction =>
      cases values with
      | nil => simp
      | cons first rest =>
          rw [List.eraseDups_cons, List.nodup_cons]
          constructor
          · simp [List.mem_eraseDups]
          · refine induction _ ?_ _ rfl
            rw [← length]
            exact Nat.lt_succ_of_le (List.length_filter_le _ rest)

theorem eraseDups_of_nodup {values : List α} (nodup : values.Nodup) : values.eraseDups = values := by
  induction values with
  | nil => rfl
  | cons first rest induction =>
      rw [List.nodup_cons] at nodup
      have others : rest.filter (fun value => !value == first) = rest := by
        apply List.filter_eq_self.mpr
        intro value member
        have different : value ≠ first := fun same => nodup.1 (same ▸ member)
        simp [different]
      rw [List.eraseDups_cons, others, induction nodup.2]

theorem eraseDups_ne_nil {values : List α} (given : values ≠ []) : values.eraseDups ≠ [] := by
  rcases List.exists_mem_of_ne_nil values given with ⟨value, member⟩
  exact List.ne_nil_of_mem (List.mem_eraseDups.mpr member)

theorem eraseDups_append_singleton (values : List α) (last : α) :
    (values ++ [last]).eraseDups =
      if last ∈ values then values.eraseDups else values.eraseDups ++ [last] := by
  rw [List.eraseDups_append]
  split
  · next before => simp [List.removeAll, before]
  · next fresh => simp [List.removeAll, fresh, List.eraseDups_cons]

theorem eraseDups_filter (values : List α) (wanted : α → Bool) :
    (values.filter wanted).eraseDups = values.eraseDups.filter wanted := by
  induction values using List.reverseRecOn with
  | nil => rfl
  | append_singleton before last induction =>
      rw [List.filter_append, eraseDups_append_singleton]
      cases isWanted : wanted last with
      | false =>
          rw [List.filter_cons_of_neg (by simp [isWanted]), List.filter_nil, List.append_nil,
            induction]
          split <;> simp [isWanted]
      | true =>
          rw [List.filter_cons_of_pos isWanted, List.filter_nil, eraseDups_append_singleton,
            induction]
          simp only [List.mem_filter, isWanted, and_true]
          split <;> simp [isWanted]

theorem eraseDups_map {β : Type} [DecidableEq β] {transform : α → β} (values : List α)
    (injective : ∀ left right, transform left = transform right → left = right) :
    (values.map transform).eraseDups = values.eraseDups.map transform := by
  induction values using List.reverseRecOn with
  | nil => rfl
  | append_singleton before last induction =>
      have member : transform last ∈ before.map transform ↔ last ∈ before := by
        rw [List.mem_map]
        constructor
        · intro found
          rcases found with ⟨value, among, same⟩
          exact injective value last same ▸ among
        · intro among
          exact ⟨last, among, rfl⟩
      rw [List.map_append, List.map_singleton, eraseDups_append_singleton,
        eraseDups_append_singleton, induction]
      simp only [member]
      split <;> simp

/-- Where values are passed over only behind others with the same key, the keys of the values that
remain come in the same order as those keys do among all. -/
theorem eraseDups_map_filter {β : Type} {kept : β → Bool} {key : β → α} {wanted : α → Bool}
    (values : List β)
    (keptWanted : ∀ value ∈ values, kept value = true → wanted (key value) = true)
    (behindKept : ∀ front passed behind, values = front ++ passed :: behind →
      kept passed = false → wanted (key passed) = true →
        ∃ earlier ∈ front, kept earlier = true ∧ key earlier = key passed) :
    ((values.filter kept).map key).eraseDups = (values.map key).eraseDups.filter wanted := by
  rw [← eraseDups_filter]
  induction values using List.reverseRecOn with
  | nil => rfl
  | append_singleton before last induction =>
      have previous := induction
        (fun value among => keptWanted value (List.mem_append_left _ among))
        (fun front passed behind split => behindKept front passed (behind ++ [last])
          (by rw [split, List.append_assoc, List.cons_append]))
      have sameMembers (name : α) : name ∈ (before.filter kept).map key ↔
          name ∈ (before.map key).filter wanted := by
        rw [← List.mem_eraseDups, previous, List.mem_eraseDups]
      rw [List.filter_append, List.map_append, List.map_append, List.filter_append]
      cases isKept : kept last with
      | true =>
          have isWanted := keptWanted last (by simp) isKept
          simp only [List.filter_cons_of_pos isKept, List.map_cons, List.map_nil, List.filter_nil,
            List.filter_cons_of_pos isWanted, eraseDups_append_singleton, previous, sameMembers]
      | false =>
          have notKept : ¬kept last = true := by simp [isKept]
          simp only [List.filter_cons_of_neg notKept, List.filter_nil, List.map_nil, List.append_nil,
            List.map_cons, previous]
          cases isWanted : wanted (key last) with
          | false => simp [isWanted]
          | true =>
              rcases behindKept before last [] rfl isKept isWanted with ⟨earlier, among, _, same⟩
              have repeated : key last ∈ (before.map key).filter wanted :=
                List.mem_filter.mpr ⟨same ▸ List.mem_map_of_mem among, isWanted⟩
              rw [List.filter_cons_of_pos isWanted, List.filter_nil, eraseDups_append_singleton,
                if_pos repeated]

/-- What is read off an ordered list and freed of repetitions keeps the order: the value from which
something is read first relates to all values from which something later is read. -/
theorem pairwise_eraseDups_filterMap {β : Type} {relates : β → β → Prop} {values : List β}
    (ordered : values.Pairwise relates) (read? : β → Option α) :
    (values.filterMap read?).eraseDups.Pairwise fun earlier later =>
      ∃ value ∈ values, read? value = some earlier ∧
        ∀ other ∈ values, read? other = some later → relates value other := by
  induction values generalizing read? with
  | nil => simp
  | cons first rest induction =>
      rcases List.pairwise_cons.mp ordered with ⟨firstRelates, restOrdered⟩
      cases found : read? first with
      | none =>
          rw [List.filterMap_cons_none found]
          refine (induction restOrdered read?).imp fun {earlier later} related => ?_
          rcases related with ⟨value, member, read, relatesAll⟩
          refine ⟨value, List.mem_cons_of_mem _ member, read, fun other among otherRead => ?_⟩
          rcases List.mem_cons.mp among with rfl | inRest
          · cases found.symm.trans otherRead
          · exact relatesAll other inRest otherRead
      | some reading =>
          rw [List.filterMap_cons_some found, List.eraseDups_cons, List.filter_filterMap]
          -- What repeats the first reading is passed over, as if it were not read at all.
          let others? (value : β) := (read? value).filter fun later => !later == reading
          have othersRead : ∀ {value later}, others? value = some later ↔
              read? value = some later ∧ later ≠ reading := by
            intro value later
            simp [others?, Option.filter_eq_some_iff]
          have later_ne : ∀ {later}, later ∈ (rest.filterMap others?).eraseDups →
              later ≠ reading := by
            intro later member
            rcases List.mem_filterMap.mp (List.mem_eraseDups.mp member) with ⟨_, _, read⟩
            exact (othersRead.mp read).2
          have behindFirst : ∀ {later other}, later ≠ reading → other ∈ first :: rest →
              read? other = some later → other ∈ rest := by
            intro later other different among read
            refine (List.mem_cons.mp among).resolve_left fun same => different ?_
            rw [same, found] at read
            exact (Option.some.inj read).symm
          refine List.pairwise_cons.mpr ⟨fun later member => ?_, ?_⟩
          · exact ⟨first, List.mem_cons_self .., found, fun other among read =>
              firstRelates other (behindFirst (later_ne member) among read)⟩
          · refine (induction restOrdered others?).imp_of_mem fun _ laterMember related => ?_
            rcases related with ⟨value, among, read, relatesAll⟩
            have different := later_ne laterMember
            exact ⟨value, List.mem_cons_of_mem _ among, (othersRead.mp read).1,
              fun other otherAmong otherRead => relatesAll other
                (behindFirst different otherAmong otherRead)
                (othersRead.mpr ⟨otherRead, different⟩)⟩

end HybridSearch
