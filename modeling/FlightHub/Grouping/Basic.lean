import Mathlib.Data.List.Induction
import Mathlib.Data.List.Nodup

/-! Grouping by a key, as a dictionary of lists which keeps the order of its
insertions. A group is the items of its key in their order, and the keys stand
in the order of their first items. -/
namespace Grouping
variable {K A : Type*} [DecidableEq K]

/-- `groups.setdefault(key, []).append(item)`. -/
def append (groups : List (K × List A)) (key : K) (item : A) : List (K × List A) :=
  match groups with
  | [] => [(key, [item])]
  | (other, items) :: rest =>
    if other = key then (other, items ++ [item]) :: rest else (other, items) :: append rest key item

def groupBy (key : A → K) (items : List A) : List (K × List A) :=
  items.foldl (fun groups item => append groups (key item) item) []

abbrev keys (groups : List (K × List A)) : List K := groups.map Prod.fst

section Append
variable {groups : List (K × List A)} {key other : K} {item : A} {items : List A}

theorem keys_append (groups : List (K × List A)) (key : K) (item : A) :
    keys (append groups key item) = if key ∈ keys groups then keys groups else keys groups ++ [key] := by
  induction groups with
  | nil => rfl
  | cons group rest ih =>
    obtain ⟨other, items⟩ := group
    by_cases same : other = key
    · simp [append, same]
    · have different : key ≠ other := Ne.symm same
      simp only [append, same, if_false, List.map_cons, ih, List.mem_cons, different, false_or]
      split <;> rfl

/-- An item changes the group of its own key only. -/
theorem mem_append_of_ne (different : other ≠ key) :
    (other, items) ∈ append groups key item ↔ (other, items) ∈ groups := by
  induction groups with
  | nil => simp [append, different]
  | cons group rest ih =>
    obtain ⟨first, points⟩ := group
    by_cases same : first = key
    · have apart : other ≠ first := fun equal => different (equal.trans same)
      simp [append, same, different]
    · simp [append, same, ih]

theorem mem_append_of_mem (distinct : (keys groups).Nodup) (present : (key, items) ∈ groups)
    {extended : List A} :
    (key, extended) ∈ append groups key item ↔ extended = items ++ [item] := by
  induction groups with
  | nil => cases present
  | cons group rest ih =>
    obtain ⟨first, points⟩ := group
    obtain ⟨fresh, distinct⟩ := List.nodup_cons.mp distinct
    have absent (others : List A) : (first, others) ∉ rest :=
      fun member => fresh (List.mem_map.mpr ⟨_, member, rfl⟩)
    by_cases same : first = key
    · subst same
      have own : items = points := by
        rcases List.mem_cons.mp present with equal | later
        · exact (Prod.mk.inj equal).2
        · exact absurd later (absent items)
      simp [append, own, absent]
    · have later : (key, items) ∈ rest := by
        rcases List.mem_cons.mp present with equal | later
        · exact absurd (Prod.mk.inj equal).1.symm same
        · exact later
      have different : key ≠ first := Ne.symm same
      simp [append, same, different, ih distinct later]

theorem mem_append_of_notMem (absent : key ∉ keys groups) {extended : List A} :
    (key, extended) ∈ append groups key item ↔ extended = [item] := by
  induction groups with
  | nil => simp [append]
  | cons group rest ih =>
    obtain ⟨first, points⟩ := group
    obtain ⟨different, absent⟩ := List.ne_and_not_mem_of_not_mem_cons absent
    simp [append, different, Ne.symm different, ih absent]

end Append

section GroupBy
variable {key : A → K} {items : List A} {k : K} {members : List A}

theorem groupBy_concat (key : A → K) (items : List A) (item : A) :
    groupBy key (items ++ [item]) = append (groupBy key items) (key item) item := by
  rw [groupBy, List.foldl_concat, groupBy]

/-- The keys are those of the items, in the order of their first ones. -/
theorem keys_groupBy (key : A → K) (items : List A) :
    (keys (groupBy key items)).Nodup ∧ (keys (groupBy key items)).Sublist (items.map key) ∧
      ∀ k, k ∈ keys (groupBy key items) ↔ ∃ item ∈ items, key item = k := by
  induction items using List.reverseRecOn with
  | nil => simp [groupBy]
  | append_singleton items item ih =>
    obtain ⟨distinct, sublist, members⟩ := ih
    rw [groupBy_concat, keys_append]
    split
    · next present =>
      refine ⟨distinct, ?_, fun k => ?_⟩
      · rw [List.map_append]
        exact sublist.trans (List.sublist_append_left _ _)
      · rw [members]
        constructor
        · rintro ⟨earlier, member, same⟩
          exact ⟨earlier, List.mem_append_left _ member, same⟩
        · rintro ⟨any, member, rfl⟩
          rcases List.mem_append.mp member with before | last
          · exact ⟨any, before, rfl⟩
          · obtain rfl := List.mem_singleton.mp last
            exact (members _).mp present
    · next absent =>
      refine ⟨?_, ?_, fun k => ?_⟩
      · exact distinct.append (List.nodup_singleton _) (by simpa using absent)
      · rw [List.map_append]
        exact sublist.append (List.Sublist.refl _)
      · simp only [List.mem_append, members, List.mem_singleton, or_and_right, exists_or, exists_eq_left]
        exact or_congr_right eq_comm

/-- The group of a key is its items, in their order. -/
theorem mem_groupBy_iff :
    (k, members) ∈ groupBy key items ↔ members = items.filter (key · = k) ∧ members ≠ [] := by
  induction items using List.reverseRecOn generalizing members with
  | nil => simp [groupBy]
  | append_singleton items item ih =>
    obtain ⟨distinct, -, listed⟩ := keys_groupBy key items
    rw [groupBy_concat, List.filter_append]
    by_cases same : key item = k
    · subst same
      have last : [item].filter (key · = key item) = [item] := by simp
      rw [last]
      by_cases present : key item ∈ keys (groupBy key items)
      · obtain ⟨⟨own, points⟩, member, named⟩ := List.mem_map.mp present
        obtain rfl : own = key item := named
        obtain ⟨collected, -⟩ := ih.mp member
        rw [mem_append_of_mem distinct member, collected]
        constructor
        · rintro rfl
          exact ⟨rfl, by simp⟩
        · exact And.left
      · have none_before : items.filter (key · = key item) = [] := by
          rw [List.filter_eq_nil_iff]
          intro earlier member same
          exact present ((listed _).mpr ⟨earlier, member, of_decide_eq_true same⟩)
        rw [mem_append_of_notMem present, none_before, List.nil_append]
        constructor
        · rintro rfl
          exact ⟨rfl, List.cons_ne_nil _ _⟩
        · exact And.left
    · rw [mem_append_of_ne (Ne.symm same), ih]
      simp [same]

end GroupBy

end Grouping
