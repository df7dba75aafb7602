import FlightHub.Numeric.Rounding
import Mathlib.Data.List.Basic

/-! Linear interpolation, alone and along a table of stops. A segment joins two
neighbouring stops; where the positions of the stops increase, the segments cover
everything between the first stop and the last, and two of them meet in a stop. -/
namespace Numeric

section Line
variable {K : Type*} [Field K]

/-- The number at the fraction `t` of the way. -/
def lerp (start stop t : K) : K := start + t * (stop - start)

/-- How far `x` is on the way. -/
def fraction (start stop x : K) : K := (x - start) / (stop - start)

theorem lerp_zero (start stop : K) : lerp start stop 0 = start := by
  rw [lerp, zero_mul, add_zero]

theorem lerp_one (start stop : K) : lerp start stop 1 = stop := by
  rw [lerp, one_mul, add_sub_cancel]

theorem fraction_start (start stop : K) : fraction start stop start = 0 := by
  rw [fraction, sub_self, zero_div]

variable [LinearOrder K] [IsStrictOrderedRing K] {start stop t u : K} {round : K → Int} {n m : Int}

theorem lerp_mono (up : start ≤ stop) : Monotone (lerp start stop) := by
  intro t u ordered
  have scaled := mul_le_mul_of_nonneg_right ordered (sub_nonneg.mpr up)
  exact add_le_add_right scaled start

theorem lerp_anti (down : stop ≤ start) : Antitone (lerp start stop) := by
  intro t u ordered
  have scaled := mul_le_mul_of_nonpos_right ordered (sub_nonpos.mpr down)
  exact add_le_add_right scaled start

theorem fraction_stop (less : start < stop) : fraction start stop stop = 1 :=
  div_self (sub_pos.mpr less).ne'

theorem fraction_mono (less : start < stop) : Monotone (fraction start stop) := by
  intro x y ordered
  exact div_le_div_of_nonneg_right (sub_le_sub_right ordered start) (sub_pos.mpr less).le

/-- On the way from `a` to `b`, `y` is not before `x`. -/
def Moves (a x y b : Int) : Prop :=
  (a ≤ b → a ≤ x ∧ x ≤ y ∧ y ≤ b) ∧ (b ≤ a → b ≤ y ∧ y ≤ x ∧ x ≤ a)

/-- Rounded interpolation between integers stays between them and does not turn back. -/
theorem Nearest.lerp_moves (nearest : Nearest round) (low : 0 ≤ t) (ordered : t ≤ u) (high : u ≤ 1) :
    Moves n (round (lerp (n : K) m t)) (round (lerp (n : K) m u)) m := by
  have first : round (lerp (n : K) m 0) = n := by rw [lerp_zero, nearest.intCast]
  have last : round (lerp (n : K) m 1) = m := by rw [lerp_one, nearest.intCast]
  constructor
  · intro up
    have rises : Monotone (lerp (n : K) m) := lerp_mono (Int.cast_le.mpr up)
    exact ⟨first.ge.trans (nearest.mono (rises low)), nearest.mono (rises ordered),
      (nearest.mono (rises high)).trans last.le⟩
  · intro down
    have falls : Antitone (lerp (n : K) m) := lerp_anti (Int.cast_le.mpr down)
    exact ⟨last.ge.trans (nearest.mono (falls high)), nearest.mono (falls ordered),
      (nearest.mono (falls low)).trans first.le⟩

end Line

/-! ### Tables -/

section Table
variable {K V W : Type*}

/-- The neighbouring stops of a table. -/
def segments (stops : List (K × V)) : List ((K × V) × (K × V)) := stops.zip stops.tail

theorem mem_of_mem_segments {stops : List (K × V)} {segment : (K × V) × (K × V)}
    (member : segment ∈ segments stops) : segment.1 ∈ stops ∧ segment.2 ∈ stops := by
  obtain ⟨first, second⟩ := List.of_mem_zip member
  exact ⟨first, List.mem_of_mem_tail second⟩

/-- Every stop is an end of a segment. -/
theorem exists_segment {first second stop : K × V} {rest : List (K × V)}
    (member : stop ∈ first :: second :: rest) :
    ∃ segment ∈ segments (first :: second :: rest), segment.1 = stop ∨ segment.2 = stop := by
  induction rest generalizing first second with
  | nil =>
    refine ⟨(first, second), List.mem_cons_self, ?_⟩
    simpa [eq_comm] using member
  | cons third rest ih =>
    rcases List.mem_cons.mp member with rfl | later
    · exact ⟨(stop, second), List.mem_cons_self, .inl rfl⟩
    · obtain ⟨segment, within, ends⟩ := ih later
      exact ⟨segment, List.mem_cons_of_mem _ within, ends⟩

variable [LinearOrder K]

def Covers (segment : (K × V) × (K × V)) (x : K) : Prop := segment.1.1 ≤ x ∧ x ≤ segment.2.1

instance (segment : (K × V) × (K × V)) (x : K) : Decidable (Covers segment x) :=
  inferInstanceAs (Decidable (_ ∧ _))

/-- The positions of the stops increase. -/
def Increasing (stops : List (K × V)) : Prop := stops.Pairwise fun first second => first.1 < second.1

variable {stops : List (K × V)} {segment other : (K × V) × (K × V)} {x : K}

theorem Increasing.less (increasing : Increasing stops) (member : segment ∈ segments stops) :
    segment.1.1 < segment.2.1 := by
  induction stops with
  | nil => cases member
  | cons first rest ih =>
    cases rest with
    | nil => cases member
    | cons second rest =>
      obtain ⟨before, increasing⟩ := List.pairwise_cons.mp increasing
      rcases List.mem_cons.mp member with rfl | later
      · exact before second List.mem_cons_self
      · exact ih increasing later

/-- Everything between the first stop and the last is covered. -/
theorem exists_covers {first second : K × V} {rest : List (K × V)} (low : first.1 ≤ x)
    (high : x ≤ ((first :: second :: rest).getLast (List.cons_ne_nil _ _)).1) :
    ∃ segment ∈ segments (first :: second :: rest), Covers segment x := by
  induction rest generalizing first second with
  | nil => exact ⟨(first, second), List.mem_cons_self, low, high⟩
  | cons third rest ih =>
    rcases le_total x second.1 with before | after
    · exact ⟨(first, second), List.mem_cons_self, low, before⟩
    · obtain ⟨segment, member, covers⟩ := ih after high
      exact ⟨segment, List.mem_cons_of_mem _ member, covers⟩

/-- Of two segments which cover a number the later one begins where the earlier ends. -/
theorem Increasing.meet {first second : K × V} {rest : List (K × V)}
    (increasing : Increasing (first :: second :: rest)) (covers : Covers (first, second) x)
    (member : other ∈ segments (second :: rest)) (also : Covers other x) :
    other.1 = second ∧ x = second.1 := by
  obtain ⟨-, increasing⟩ := List.pairwise_cons.mp increasing
  obtain ⟨before, -⟩ := List.pairwise_cons.mp increasing
  have bound : other.1.1 ≤ second.1 := also.1.trans covers.2
  rcases List.mem_cons.mp (mem_of_mem_segments member).1 with same | later
  · refine ⟨same, le_antisymm covers.2 ?_⟩
    rw [← same]
    exact also.1
  · exact absurd (before _ later) (not_lt.mpr bound)

/-- A value which agrees with the stops at both ends of every segment is the same
in all segments which cover a number. -/
theorem Increasing.agree {value : (K × V) × (K × V) → K → W} {own : K × V → W}
    (increasing : Increasing stops)
    (begins : ∀ segment ∈ segments stops, value segment segment.1.1 = own segment.1)
    (ends : ∀ segment ∈ segments stops, value segment segment.2.1 = own segment.2)
    (member : segment ∈ segments stops) (covers : Covers segment x)
    (other_member : other ∈ segments stops) (also : Covers other x) :
    value segment x = value other x := by
  induction stops with
  | nil => cases member
  | cons first rest ih =>
    cases rest with
    | nil => cases member
    | cons second rest =>
      have touch {later : (K × V) × (K × V)} (within : later ∈ segments (second :: rest))
          (head : Covers (first, second) x) (tail : Covers later x) :
          value (first, second) x = value later x := by
        obtain ⟨same, rfl⟩ := increasing.meet head within tail
        have start := begins later (List.mem_cons_of_mem _ within)
        rw [same] at start
        rw [start]
        exact ends (first, second) List.mem_cons_self
      rcases List.mem_cons.mp member with rfl | later
      · rcases List.mem_cons.mp other_member with rfl | later
        · rfl
        · exact touch later covers also
      · rcases List.mem_cons.mp other_member with rfl | also_later
        · exact (touch later also covers).symm
        · exact ih (List.pairwise_cons.mp increasing).2
            (fun segment within => begins segment (List.mem_cons_of_mem _ within))
            (fun segment within => ends segment (List.mem_cons_of_mem _ within)) later also_later

end Table

end Numeric
