import Mathlib.Data.List.Induction
import Mathlib.Order.Lattice

/-! A snapshot kept beside an append-only log: the snapshot holds under each key
the entry recorded last. Keys, entries and the order of their stamps are
arbitrary; nothing here refers to how a snapshot or a log is stored. -/
structure Ledger (K V : Type*) where
  latest : K → Option V
  log : List V

namespace Ledger
variable {K V τ : Type*} [DecidableEq K] {key : V → K}

def empty : Ledger K V := ⟨fun _ => none, []⟩

def record (key : V → K) (ledger : Ledger K V) (entry : V) : Ledger K V :=
  ⟨Function.update ledger.latest (key entry) (some entry), ledger.log ++ [entry]⟩

def recordAll (key : V → K) (entries : List V) : Ledger K V := entries.foldl (record key) empty

theorem recordAll_concat (entries : List V) (entry : V) :
    recordAll key (entries ++ [entry]) = record key (recordAll key entries) entry := by
  simp [recordAll]

theorem log_recordAll (entries : List V) : (recordAll key entries).log = entries := by
  induction entries using List.reverseRecOn with
  | nil => rfl
  | append_singleton entries entry ih => rw [recordAll_concat, record, ih]

/-- The snapshot is a function of the log alone: the last entry of each key. -/
theorem latest_recordAll (entries : List V) (k : K) :
    (recordAll key entries).latest k = (entries.filter fun entry => key entry = k).getLast? := by
  induction entries using List.reverseRecOn with
  | nil => rfl
  | append_singleton entries entry ih =>
    rw [recordAll_concat, record, List.filter_append]
    by_cases same : key entry = k
    · simp [same]
    · simp [same, Function.update_of_ne (Ne.symm same), ih]

theorem latest_mem {entries : List V} {k : K} {entry : V}
    (found : (recordAll key entries).latest k = some entry) : entry ∈ entries ∧ key entry = k := by
  rw [latest_recordAll] at found
  simpa using List.mem_of_getLast? found

theorem latest_isSome_iff (entries : List V) (k : K) :
    ((recordAll key entries).latest k).isSome ↔ ∃ entry ∈ entries, key entry = k := by
  rw [latest_recordAll, List.getLast?_isSome, ne_eq, List.filter_eq_nil_iff]
  simp

section Stamps
variable [LinearOrder τ] {stamp : V → τ}

def Ordered (key : V → K) (stamp : V → τ) (entries : List V) : Prop :=
  entries.Pairwise fun earlier later => key earlier = key later → stamp earlier ≤ stamp later

omit [DecidableEq K] in
theorem ordered_concat {entries : List V} {entry : V} :
    Ordered key stamp (entries ++ [entry]) ↔
      Ordered key stamp entries ∧
        ∀ earlier ∈ entries, key earlier = key entry → stamp earlier ≤ stamp entry := by
  simp [Ordered, List.pairwise_append]

theorem latest_greatest {entries : List V} (ordered : Ordered key stamp entries) {k : K} {entry : V}
    (found : (recordAll key entries).latest k = some entry) :
    ∀ other ∈ entries, key other = k → stamp other ≤ stamp entry := by
  induction entries using List.reverseRecOn with
  | nil => simp
  | append_singleton entries last ih =>
    obtain ⟨before, bound⟩ := ordered_concat.mp ordered
    intro other member same
    rw [recordAll_concat, record] at found
    by_cases own : key last = k
    · have equal : last = entry := by simpa [own] using found
      rcases List.mem_append.mp member with member | member
      · exact equal ▸ bound other member (same.trans own.symm)
      · rw [List.mem_singleton.mp member, equal]
    · simp only [Function.update_of_ne (Ne.symm own)] at found
      rcases List.mem_append.mp member with member | member
      · exact ih before found other member same
      · exact absurd (List.mem_singleton.mp member ▸ same) own

/-- Recording in order never moves a snapshot stamp back, and only then. -/
theorem record_forward_iff (entries : List V) (ordered : Ordered key stamp entries) (entry : V) :
    (∀ k before after, (recordAll key entries).latest k = some before →
      (recordAll key (entries ++ [entry])).latest k = some after → stamp before ≤ stamp after) ↔
    Ordered key stamp (entries ++ [entry]) := by
  rw [ordered_concat, and_iff_right ordered]
  constructor
  · intro forward earlier member same
    obtain ⟨before, found⟩ := Option.isSome_iff_exists.mp
      ((latest_isSome_iff entries (key entry)).mpr ⟨earlier, member, same⟩)
    have next := forward (key entry) before entry found (by simp [recordAll_concat, record])
    exact (latest_greatest ordered found earlier member same).trans next
  · intro bound k before after found next
    rw [recordAll_concat, record] at next
    by_cases own : key entry = k
    · have equal : entry = after := by simpa [own] using next
      obtain ⟨member, same⟩ := latest_mem found
      exact equal ▸ bound before member (same.trans own.symm)
    · simp only [Function.update_of_ne (Ne.symm own), found, Option.some.injEq] at next
      exact next ▸ le_refl _

end Stamps
end Ledger
