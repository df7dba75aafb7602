import FlightHub.Common.Rounding
import FlightHub.Numeric.Interpolation
import Mathlib.Data.Fin.VecNotation

/-! The colours of the map, `_altitude_color` of `dashboard/app.py`, in exact
arithmetic. The stops increase, so the loop finds a segment for every clamped
altitude, and at a border the segments on both sides give the colour of the stop. -/
namespace FlightHub
open Python Numeric

namespace Dashboard

/-- The red, green and blue of a colour. -/
abbrev Rgb := Fin 3 → Int

abbrev Stop := ℚ × Rgb

def altitudeColorStops : List Stop := [
  (0, ![33, 102, 172]),
  (3000, ![103, 194, 165]),
  (6000, ![255, 224, 138]),
  (9000, ![252, 141, 89]),
  (12000, ![178, 24, 43])]

def firstStop : Stop := altitudeColorStops.head (List.cons_ne_nil _ _)

def lastStop : Stop := altitudeColorStops.getLast (List.cons_ne_nil _ _)

def divide (x y : ℚ) : Except Exception ℚ := if y = 0 then .error .zeroDivisionError else .ok (x / y)

/-- The colour within a segment. -/
def shade (segment : Stop × Stop) (alt : ℚ) : Except Exception Rgb := do
  let t ← divide (alt - segment.1.1) (segment.2.1 - segment.1.1)
  return fun i => roundEven (segment.1.2 i + t * (segment.2.2 i - segment.1.2 i))

/-- The loop, which returns from the first segment that covers `alt`. -/
def firstShade : List (Stop × Stop) → ℚ → Except Exception (Option Rgb)
  | [], _ => .ok none
  | segment :: rest, alt => if Covers segment alt then some <$> shade segment alt else firstShade rest alt

def rgba (rgb : Rgb) : List Int := List.ofFn rgb ++ [200]

def clamp (altitudeM : ℚ) : ℚ := max 0 (min altitudeM lastStop.1)

def altitudeColor : Option ℚ → Except Exception (List Int)
  | none => .ok [140, 140, 140, 160]
  | some altitudeM => do
    match ← firstShade (segments altitudeColorStops) (clamp altitudeM) with
    | some rgb => return rgba rgb
    | none => return rgba lastStop.2

/-! ### Segments -/

section Segments
variable {segment other : Stop × Stop} {alt : ℚ} {list : List (Stop × Stop)}

/-- What `shade` gives where the segment has a length. -/
def blend (segment : Stop × Stop) (alt : ℚ) : Rgb := fun i =>
  roundEven (lerp (segment.1.2 i) (segment.2.2 i) (fraction segment.1.1 segment.2.1 alt))

theorem shade_eq (less : segment.1.1 < segment.2.1) : shade segment alt = .ok (blend segment alt) := by
  rw [shade, divide, if_neg (sub_pos.mpr less).ne']
  rfl

theorem blend_start (segment : Stop × Stop) : blend segment segment.1.1 = segment.1.2 := by
  funext i
  rw [blend, fraction_start, lerp_zero, roundEven_nearest.intCast]

theorem blend_stop (less : segment.1.1 < segment.2.1) : blend segment segment.2.1 = segment.2.2 := by
  funext i
  rw [blend, fraction_stop less, lerp_one, roundEven_nearest.intCast]

theorem firstShade_covered (less : ∀ segment ∈ list, segment.1.1 < segment.2.1)
    (covered : ∃ segment ∈ list, Covers segment alt) :
    ∃ segment ∈ list, Covers segment alt ∧ firstShade list alt = .ok (some (blend segment alt)) := by
  induction list with
  | nil =>
    obtain ⟨_, member, _⟩ := covered
    cases member
  | cons first rest ih =>
    obtain ⟨own, less⟩ := List.forall_mem_cons.mp less
    by_cases covers : Covers first alt
    · refine ⟨first, List.mem_cons_self, covers, ?_⟩
      rw [firstShade, if_pos covers, shade_eq own]
      rfl
    · have later : ∃ segment ∈ rest, Covers segment alt := by
        obtain ⟨segment, member, also⟩ := covered
        rcases List.mem_cons.mp member with rfl | member
        · exact absurd also covers
        · exact ⟨segment, member, also⟩
      obtain ⟨segment, member, also, found⟩ := ih less later
      refine ⟨segment, List.mem_cons_of_mem _ member, also, ?_⟩
      rw [firstShade, if_neg covers, found]

theorem fraction_unit (less : segment.1.1 < segment.2.1) (covers : Covers segment alt) :
    0 ≤ fraction segment.1.1 segment.2.1 alt ∧ fraction segment.1.1 segment.2.1 alt ≤ 1 := by
  constructor
  · exact (fraction_start _ _).ge.trans (fraction_mono less covers.1)
  · exact (fraction_mono less covers.2).trans (fraction_stop less).le

/-- Within a segment each channel moves from its first colour to its second. -/
theorem blend_moves (less : segment.1.1 < segment.2.1) {x y : ℚ} (low : segment.1.1 ≤ x)
    (ordered : x ≤ y) (high : y ≤ segment.2.1) (i : Fin 3) :
    Moves (segment.1.2 i) (blend segment x i) (blend segment y i) (segment.2.2 i) := by
  apply roundEven_nearest.lerp_moves
  · exact (fraction_unit less ⟨low, ordered.trans high⟩).1
  · exact fraction_mono less ordered
  · exact (fraction_unit less ⟨low.trans ordered, high⟩).2

end Segments

/-! ### The table -/

theorem stops_increasing : Increasing altitudeColorStops := by
  unfold Increasing
  decide +kernel

theorem stops_inside : ∀ stop ∈ altitudeColorStops, 0 ≤ stop.1 ∧ stop.1 ≤ lastStop.1 := by
  decide +kernel

theorem stops_channels : ∀ stop ∈ altitudeColorStops, ∀ i, 0 ≤ stop.2 i ∧ stop.2 i ≤ 255 := by
  decide +kernel

section Table
variable {segment : Stop × Stop} {altitude : ℚ}

theorem clamp_covered (covers : Covers segment altitude) (member : segment ∈ segments altitudeColorStops) :
    clamp altitude = altitude := by
  obtain ⟨first, second⟩ := mem_of_mem_segments member
  have low : 0 ≤ altitude := (stops_inside _ first).1.trans covers.1
  have high : altitude ≤ lastStop.1 := covers.2.trans (stops_inside _ second).2
  rw [clamp, min_eq_left high, max_eq_right low]

/-- The clamped altitude is covered, so the loop returns. -/
theorem firstShade_clamp (altitude : ℚ) : ∃ segment ∈ segments altitudeColorStops,
    Covers segment (clamp altitude) ∧
      firstShade (segments altitudeColorStops) (clamp altitude) =
        .ok (some (blend segment (clamp altitude))) := by
  apply firstShade_covered
  · intro segment member
    exact stops_increasing.less member
  · apply exists_covers
    · exact le_max_left _ _
    · exact max_le (by decide +kernel) (min_le_right _ _)

theorem altitudeColor_of_shade {rgb : Rgb}
    (found : firstShade (segments altitudeColorStops) (clamp altitude) = .ok (some rgb)) :
    altitudeColor (some altitude) = .ok (rgba rgb) := by
  rw [altitudeColor, found]
  rfl

/-- The colour is that of any segment which covers the altitude. -/
theorem altitudeColor_of_covers (member : segment ∈ segments altitudeColorStops)
    (covers : Covers segment altitude) :
    altitudeColor (some altitude) = .ok (rgba (blend segment altitude)) := by
  obtain ⟨other, also_member, also, found⟩ := firstShade_clamp altitude
  rw [clamp_covered covers member] at also found
  have same : blend segment altitude = blend other altitude :=
    stops_increasing.agree (fun segment _ => blend_start segment)
      (fun segment within => blend_stop (stops_increasing.less within)) member covers also_member also
  rw [same]
  apply altitudeColor_of_shade
  rw [clamp_covered covers member, found]

theorem altitudeColor_clamp (altitude : ℚ) :
    altitudeColor (some (clamp altitude)) = altitudeColor (some altitude) := by
  have inside : clamp (clamp altitude) = clamp altitude := by
    obtain ⟨segment, member, covers, _⟩ := firstShade_clamp altitude
    exact clamp_covered covers member
  rw [altitudeColor, altitudeColor, inside]

/-- Every altitude has a colour, and a missing one too. -/
theorem exists_altitudeColor (altitudeM : Option ℚ) : ∃ color, altitudeColor altitudeM = .ok color := by
  cases altitudeM with
  | none => exact ⟨_, rfl⟩
  | some altitude =>
    obtain ⟨segment, _, _, found⟩ := firstShade_clamp altitude
    exact ⟨_, altitudeColor_of_shade found⟩

end Table

/-- The colours along the table of stops. -/
structure Gradient : Prop where
  /-- The loop returns from a segment around the clamped altitude, with a colour between its two. -/
  found : ∀ altitude, ∃ segment ∈ segments altitudeColorStops, ∃ rgb, Covers segment (clamp altitude) ∧
    firstShade (segments altitudeColorStops) (clamp altitude) = .ok (some rgb) ∧
      altitudeColor (some altitude) = .ok (rgba rgb) ∧ ∀ i,
        min (segment.1.2 i) (segment.2.2 i) ≤ rgb i ∧ rgb i ≤ max (segment.1.2 i) (segment.2.2 i) ∧
          0 ≤ rgb i ∧ rgb i ≤ 255
  /-- Both segments at a stop give its colour. -/
  ends : ∀ segment ∈ segments altitudeColorStops,
    shade segment segment.1.1 = .ok segment.1.2 ∧ shade segment segment.2.1 = .ok segment.2.2
  stops : ∀ stop ∈ altitudeColorStops, altitudeColor (some stop.1) = .ok (rgba stop.2)
  low : ∀ altitude ≤ firstStop.1, altitudeColor (some altitude) = .ok (rgba firstStop.2)
  high : ∀ altitude, lastStop.1 ≤ altitude → altitudeColor (some altitude) = .ok (rgba lastStop.2)
  monotone : ∀ segment ∈ segments altitudeColorStops, ∀ x y, segment.1.1 ≤ x → x ≤ y →
    y ≤ segment.2.1 → ∃ first second, altitudeColor (some x) = .ok (rgba first) ∧
      altitudeColor (some y) = .ok (rgba second) ∧
        ∀ i, Moves (segment.1.2 i) (first i) (second i) (segment.2.2 i)

theorem altitudeColor_stop {stop : Stop} (member : stop ∈ altitudeColorStops) :
    altitudeColor (some stop.1) = .ok (rgba stop.2) := by
  have begins : ∀ segment ∈ segments altitudeColorStops,
      altitudeColor (some segment.1.1) = .ok (rgba segment.1.2) := by
    intro segment within
    rw [altitudeColor_of_covers within ⟨le_refl _, (stops_increasing.less within).le⟩, blend_start]
  have ends : ∀ segment ∈ segments altitudeColorStops,
      altitudeColor (some segment.2.1) = .ok (rgba segment.2.2) := by
    intro segment within
    have less := stops_increasing.less within
    rw [altitudeColor_of_covers within ⟨less.le, le_refl _⟩, blend_stop less]
  obtain ⟨segment, within, rfl | rfl⟩ := exists_segment member
  · exact begins segment within
  · exact ends segment within

theorem moves_between {a x b : Int} (moves : Moves a x x b) : min a b ≤ x ∧ x ≤ max a b := by
  rcases le_total a b with up | down
  · obtain ⟨low, _, high⟩ := moves.1 up
    rw [min_eq_left up, max_eq_right up]
    exact ⟨low, high⟩
  · obtain ⟨low, _, high⟩ := moves.2 down
    rw [min_eq_right down, max_eq_left down]
    exact ⟨low, high⟩

theorem altitude_colors_interpolate : Gradient where
  found altitude := by
    obtain ⟨segment, member, covers, found⟩ := firstShade_clamp altitude
    refine ⟨segment, member, _, covers, found, altitudeColor_of_shade found, fun i => ?_⟩
    have less := stops_increasing.less member
    obtain ⟨first, second⟩ := mem_of_mem_segments member
    obtain ⟨low, high⟩ := moves_between (blend_moves less covers.1 (le_refl _) covers.2 i)
    refine ⟨low, high, ?_, ?_⟩
    · exact (le_min (stops_channels _ first i).1 (stops_channels _ second i).1).trans low
    · exact high.trans (max_le (stops_channels _ first i).2 (stops_channels _ second i).2)
  ends segment member := by
    have less := stops_increasing.less member
    rw [shade_eq less, shade_eq less, blend_start, blend_stop less]
    exact ⟨rfl, rfl⟩
  stops stop member := altitudeColor_stop member
  low altitude below := by
    have clamped : clamp altitude = firstStop.1 := by
      have below : altitude ≤ 0 := below
      rw [clamp, max_eq_left ((min_le_left _ _).trans below)]
      rfl
    rw [← altitudeColor_clamp, clamped]
    exact altitudeColor_stop (List.head_mem _)
  high altitude above := by
    have clamped : clamp altitude = lastStop.1 := by
      rw [clamp, min_eq_right above, max_eq_right (by decide +kernel)]
    rw [← altitudeColor_clamp, clamped]
    exact altitudeColor_stop (List.getLast_mem _)
  monotone segment member x y low ordered high := by
    have less := stops_increasing.less member
    refine ⟨_, _, altitudeColor_of_covers member ⟨low, ordered.trans high⟩,
      altitudeColor_of_covers member ⟨low.trans ordered, high⟩, fun i => ?_⟩
    exact blend_moves less low ordered high i

end Dashboard
end FlightHub
