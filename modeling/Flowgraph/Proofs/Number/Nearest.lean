import Mathlib.Algebra.Order.Field.Power
import Mathlib.Data.Nat.Cast.Order.Field
import Mathlib.Order.Monotone.Odd
import Mathlib.Tactic.FieldSimp
import Mathlib.Tactic.Linarith
import Mathlib.Tactic.Positivity
import Mathlib.Tactic.Ring
import Flowgraph.Number.Binary64
/-!
# The nearest double

The value of a double as a rational number, and what it is to be the double nearest to one: no other
double is nearer, and one whose value is as near leaves the even significand to it
(`Binary64.IsNearest`).

The doubles of one scale are the multiples of its spacing that have 53 bits, and those of all lower
scales lie before them. So the nearest one is found by one division (`nearestIndex_indexOfRatio`).
Beyond the last finite double it is the last one, which is how integers are rounded
(`isNearest_ofInt`).

The values are in the order of the keys (`toRat_lt_iff`). Rounding keeps that order
(`IsNearest.toRat_le_of_lt`), and leaves integers below `2 ^ 53` apart from all others
(`eq_of_toRat_ofInt_eq`).
-/

namespace Flowgraph.Binary64

/-! ## Magnitudes -/

/-- The distance between neighbouring magnitudes of a scale. -/
def spacing (scale : Nat) : ℚ :=
  2 ^ (scale - unitPlace : ℤ)

/-- The magnitude at an index as a rational number. -/
def magnitudeAt (index : Nat) : ℚ :=
  significandAt index * spacing (scaleAt index)

theorem spacing_pos (scale : Nat) : 0 < spacing scale :=
  zpow_pos two_pos _

theorem spacing_add (scale more : Nat) : spacing (scale + more) = 2 ^ more * spacing scale := by
  rw [spacing, spacing, Nat.cast_add, add_sub_right_comm, zpow_add₀ two_ne_zero, zpow_natCast,
    mul_comm]

/-- Behind the first binades, an index is a scale and a significand side by side. -/
theorem scaleAt_add {scale m : Nat} (hm : m < 2 * binade) (hscale : scale = 0 ∨ binade ≤ m) :
    scaleAt (scale * binade + m) = scale ∧ significandAt (scale * binade + m) = m := by
  rw [scaleAt, significandAt]
  split
  all_goals
    simp only [binade] at *
    omega

theorem index_eq (index : Nat) :
    index = scaleAt index * binade + significandAt index ∧
      (scaleAt index = 0 ∨ binade ≤ significandAt index) := by
  rw [scaleAt, significandAt]
  split
  all_goals
    simp only [binade] at *
    omega

/-- The magnitude of a scale and a significand, up to the first one of the next scale. -/
theorem magnitudeAt_add {scale m : Nat} (hm : m ≤ 2 * binade)
    (hscale : scale = 0 ∨ binade ≤ m) : magnitudeAt (scale * binade + m) = m * spacing scale := by
  rcases hm.lt_or_eq with hlt | rfl
  · obtain ⟨hs, hsig⟩ := scaleAt_add hlt hscale
    rw [magnitudeAt, hs, hsig]
  · have hnext : scale * binade + 2 * binade = (scale + 1) * binade + binade := by ring
    obtain ⟨hs, hsig⟩ : scaleAt ((scale + 1) * binade + binade) = scale + 1 ∧
        significandAt ((scale + 1) * binade + binade) = binade :=
      scaleAt_add (by decide) (.inr le_rfl)
    rw [hnext, magnitudeAt, hs, hsig, spacing_add]
    push_cast
    ring

theorem magnitudeAt_zero : magnitudeAt 0 = 0 := by
  have hzero : significandAt 0 = 0 := by decide
  rw [magnitudeAt, hzero, Nat.cast_zero, zero_mul]

theorem magnitudeAt_nonneg (index : Nat) : 0 ≤ magnitudeAt index :=
  mul_nonneg (Nat.cast_nonneg _) (spacing_pos _).le

theorem magnitudeAt_strictMono : StrictMono magnitudeAt := by
  refine strictMono_nat_of_lt_succ fun index => ?_
  obtain ⟨hindex, hscale⟩ := index_eq index
  have hlt := significandAt_lt index
  have hnext : magnitudeAt (index + 1) =
      (significandAt index + 1 : Nat) * spacing (scaleAt index) := by
    rw [← magnitudeAt_add hlt (hscale.imp_right fun h => h.trans (Nat.le_succ _)),
      Nat.succ_eq_add_one, ← add_assoc, ← hindex]
  rw [hnext, magnitudeAt]
  exact mul_lt_mul_of_pos_right (Nat.cast_lt.2 (Nat.lt_succ_self _)) (spacing_pos _)

/-- Every integer of at most 53 bits is a magnitude at every scale. -/
theorem exists_magnitudeAt_eq (scale : Nat) {m : Nat} (hm : m ≤ 2 * binade) :
    ∃ index ≤ scale * binade + m, magnitudeAt index = m * spacing scale := by
  induction scale generalizing m with
  | zero => exact ⟨0 * binade + m, le_rfl, magnitudeAt_add hm (.inl rfl)⟩
  | succ scale ih =>
    by_cases hlarge : binade ≤ m
    · exact ⟨_, le_rfl, magnitudeAt_add hm (.inr hlarge)⟩
    · obtain ⟨index, hle, hindex⟩ := ih (m := 2 * m) (by omega)
      refine ⟨index, hle.trans ?_, ?_⟩
      · rw [add_one_mul]
        omega
      · rw [hindex, spacing_add]
        push_cast
        ring

/-! ## Values -/

/-- The value of a double as a rational number. -/
def toRat (x : Binary64) : ℚ :=
  if x.negative then -magnitudeAt x.index else magnitudeAt x.index

/-- The value at a place in numerical order. -/
def valueAt (key : Int) : ℚ :=
  if key < 0 then -magnitudeAt key.natAbs else magnitudeAt key.natAbs

theorem toRat_eq_valueAt (x : Binary64) : x.toRat = valueAt x.key := by
  rw [toRat, valueAt, key]
  cases x.negative with
  | false => simp
  | true =>
    rcases Nat.eq_zero_or_pos x.index with hzero | hpos
    · simp [hzero, magnitudeAt_zero]
    · simp [hpos]

theorem valueAt_neg (key : Int) : valueAt (-key) = -valueAt key := by
  rw [valueAt, valueAt, Int.natAbs_neg]
  rcases lt_trichotomy key 0 with hneg | rfl | hpos
  · rw [if_neg (by omega), if_pos hneg, neg_neg]
  · simp [magnitudeAt_zero]
  · rw [if_pos (by omega), if_neg (by omega)]

/-- The values are in the order of their places. -/
theorem valueAt_lt_iff {a b : Int} : valueAt a < valueAt b ↔ a < b := by
  have hmono : StrictMono valueAt := by
    refine strictMono_of_odd_strictMonoOn_nonneg valueAt_neg fun m hm n hn hlt => ?_
    rw [valueAt, valueAt, if_neg (not_lt.2 hm), if_neg (not_lt.2 hn)]
    exact magnitudeAt_strictMono (Int.natAbs_lt_natAbs_of_nonneg_of_lt hm hlt)
  exact hmono.lt_iff_lt

theorem toRat_lt_iff (x y : Binary64) : x.toRat < y.toRat ↔ x.key < y.key := by
  rw [toRat_eq_valueAt, toRat_eq_valueAt, valueAt_lt_iff]

theorem toRat_eq_iff (x y : Binary64) : x.toRat = y.toRat ↔ x.key = y.key := by
  simp only [le_antisymm_iff, ← not_lt, toRat_lt_iff]

theorem abs_toRat (x : Binary64) : |x.toRat| = magnitudeAt x.index := by
  rw [toRat]
  split
  · rw [abs_neg, abs_of_nonneg (magnitudeAt_nonneg _)]
  · exact abs_of_nonneg (magnitudeAt_nonneg _)

/-! ## Division to the nearest integer -/

section Division

variable (num : Nat) {den : Nat}

theorem divNearestEven_bounds (den : Nat) :
    num / den ≤ divNearestEven num den ∧ divNearestEven num den ≤ num / den + 1 := by
  have hmod := Nat.mod_lt (num / den) two_pos
  simp only [divNearestEven]
  split
  · omega
  split <;> omega

/-- A rounded quotient is at most a half away, and even when it is a half away. -/
theorem abs_sub_divNearestEven (hden : 0 < den) :
    |(num / den : ℚ) - divNearestEven num den| ≤ 1 / 2 ∧
      (|(num / den : ℚ) - divNearestEven num den| = 1 / 2 → Even (divNearestEven num den)) := by
  have hpos : (0 : ℚ) < den := Nat.cast_pos.2 hden
  -- Everything is said of the part behind the whole quotient.
  obtain ⟨rest, hrest⟩ : ∃ rest : ℚ, rest = (num % den : Nat) / den := ⟨_, rfl⟩
  have hquotient : (num / den : ℚ) = (num / den : Nat) + rest := by
    have hdiv : (den * (num / den : Nat) + (num % den : Nat) : ℚ) = num := by
      exact_mod_cast Nat.div_add_mod num den
    rw [hrest, ← hdiv]
    field_simp
  have htwice : 2 * (num % den : Nat) = 2 * rest * den := by
    rw [hrest]
    field_simp
  have hrange : 0 ≤ rest ∧ rest < 1 := by
    refine ⟨hrest ▸ by positivity, ?_⟩
    rw [hrest, div_lt_one hpos]
    exact_mod_cast Nat.mod_lt num hden
  have hlt : 2 * (num % den) < den ↔ 2 * rest < 1 := by
    rw [← Nat.cast_lt (α := ℚ), Nat.cast_mul, Nat.cast_ofNat, htwice, mul_lt_iff_lt_one_left hpos]
  have hgt : den < 2 * (num % den) ↔ 1 < 2 * rest := by
    rw [← Nat.cast_lt (α := ℚ), Nat.cast_mul, Nat.cast_ofNat, htwice, lt_mul_iff_one_lt_left hpos]
  rw [hquotient, divNearestEven]
  rcases lt_trichotomy (2 * rest) 1 with hless | hhalf | hmore
  · rw [if_pos (hlt.2 hless), add_sub_cancel_left, abs_of_nonneg hrange.1]
    exact ⟨by linarith, fun h => by linarith⟩
  · rw [if_neg (mt hlt.1 hhalf.not_lt), if_neg (mt hgt.1 hhalf.not_gt)]
    rcases Nat.mod_two_eq_zero_or_one (num / den) with heven | hodd
    · rw [heven, add_zero, add_sub_cancel_left, abs_of_nonneg hrange.1]
      exact ⟨by linarith, fun _ => Nat.even_iff.2 heven⟩
    · rw [hodd, Nat.cast_add_one, add_sub_add_left_eq_sub, abs_of_neg (by linarith)]
      exact ⟨by linarith, fun _ => Nat.even_iff.2 (by omega)⟩
  · rw [if_neg (mt hlt.1 hmore.not_gt), if_pos (hgt.2 hmore), Nat.cast_add_one,
      add_sub_add_left_eq_sub, abs_of_neg (by linarith)]
    exact ⟨by linarith, fun h => by linarith⟩

/-- No natural number is nearer to a quotient than the rounded one, which is even if another one is
as near. -/
theorem divNearestEven_nearest (hden : 0 < den) (m : Nat) :
    |(num / den : ℚ) - divNearestEven num den| ≤ |(num / den : ℚ) - m| ∧
      (|(num / den : ℚ) - m| = |(num / den : ℚ) - divNearestEven num den| →
        m ≠ divNearestEven num den → Even (divNearestEven num den)) := by
  obtain ⟨hle, heven⟩ := abs_sub_divNearestEven num hden
  generalize divNearestEven num den = quotient at hle heven ⊢
  by_cases hm : m = quotient
  · exact ⟨by rw [hm], fun _ hne => absurd hm hne⟩
  · have hapart : (1 : ℚ) ≤ |(m : ℚ) - quotient| := by
      have hne : (m : ℤ) - quotient ≠ 0 := sub_ne_zero.2 (Nat.cast_injective.ne hm)
      exact_mod_cast Int.one_le_abs hne
    have htriangle := abs_sub_le (m : ℚ) (num / den) quotient
    rw [abs_sub_comm (m : ℚ) (num / den)] at htriangle
    exact ⟨by linarith, fun h _ => heven (by linarith)⟩

/-! ## Rounding a ratio -/

/-- At its scale, a ratio has a significand of 53 bits, or of fewer if the scale is the least. -/
theorem scaleOfRatio_spec {num : Nat} (hnum : num ≠ 0) (hden : den ≠ 0) :
    num * unitsPerOne / (den <<< scaleOfRatio num den) < 2 * binade ∧
      (scaleOfRatio num den = 0 ∨
        binade ≤ num * unitsPerOne / (den <<< scaleOfRatio num den)) := by
  have hbinade : binade = 2 ^ 52 := by decide
  have htwo : 2 * binade = 2 ^ 53 := by decide
  have hpos (scale : Nat) : 0 < den * 2 ^ scale :=
    Nat.mul_pos (Nat.pos_of_ne_zero hden) (Nat.two_pow_pos _)
  have hnumlow := Nat.log2_self_le hnum
  have hnumhigh := Nat.lt_log2_self (n := num)
  have hdenlow := Nat.log2_self_le hden
  have hdenhigh := Nat.lt_log2_self (n := den)
  rw [scaleOfRatio, unitsPerOne, Nat.one_shiftLeft]
  generalize hestimate : ((num.log2 : Int) - den.log2 - 53 + unitPlace).toNat = scale
  simp only [Nat.shiftLeft_eq]
  split
  · next hlt =>
    refine ⟨hlt, ?_⟩
    rcases Nat.eq_zero_or_pos scale with hzero | hscale
    · exact .inl hzero
    · refine .inr ((Nat.le_div_iff_mul_le (hpos scale)).2 ?_)
      have hplaces : 52 + (den.log2 + 1) + scale = num.log2 + unitPlace := by omega
      calc
        binade * (den * 2 ^ scale) ≤ 2 ^ 52 * (2 ^ (den.log2 + 1) * 2 ^ scale) := by
          rw [hbinade]
          gcongr
        _ = 2 ^ num.log2 * 2 ^ unitPlace := by
          rw [← pow_add, ← pow_add, ← pow_add, ← add_assoc, hplaces]
        _ ≤ num * 2 ^ unitPlace := by gcongr
  · next hge =>
    have hlow := (Nat.le_div_iff_mul_le (hpos scale)).1 (not_lt.1 hge)
    refine ⟨(Nat.div_lt_iff_lt_mul (hpos _)).2 ?_,
      .inr ((Nat.le_div_iff_mul_le (hpos _)).2 ?_)⟩
    · have hplaces : num.log2 + 1 + unitPlace ≤ 53 + (den.log2 + (scale + 1)) := by omega
      calc
        num * 2 ^ unitPlace < 2 ^ (num.log2 + 1) * 2 ^ unitPlace := by gcongr
        _ ≤ 2 ^ 53 * (2 ^ den.log2 * 2 ^ (scale + 1)) := by
          rw [← pow_add, ← pow_add, ← pow_add]
          gcongr
          decide
        _ ≤ 2 * binade * (den * 2 ^ (scale + 1)) := by
          rw [htwo]
          gcongr
    · calc
        binade * (den * 2 ^ (scale + 1)) = 2 * binade * (den * 2 ^ scale) := by
          rw [pow_succ]
          ring
        _ ≤ num * 2 ^ unitPlace := hlow

end Division

/-- Whether an index is that of the magnitude nearest to a ratio, among some indices. -/
structure NearestIndex (indices : Set Nat) (v : ℚ) (index : Nat) : Prop where
  nearest : ∀ j ∈ indices, |v - magnitudeAt index| ≤ |v - magnitudeAt j|
  even_of_tie : ∀ j ∈ indices, |v - magnitudeAt j| = |v - magnitudeAt index| → j ≠ index →
    Even (significandAt index)

/-- The magnitudes of higher scales are multiples of the spacing of a scale. -/
theorem magnitudeAt_of_le {scale index : Nat} (h : scale ≤ scaleAt index) :
    ∃ m : Nat, magnitudeAt index = m * spacing scale := by
  obtain ⟨more, hmore⟩ := Nat.exists_eq_add_of_le h
  refine ⟨significandAt index * 2 ^ more, ?_⟩
  rw [magnitudeAt, hmore, spacing_add]
  push_cast
  ring

/-- The magnitudes of lower scales are smaller than those that a scale begins with. -/
theorem magnitudeAt_of_lt {scale index : Nat} (h : scaleAt index < scale) :
    magnitudeAt index < binade * spacing scale := by
  obtain ⟨more, rfl⟩ := Nat.exists_eq_add_of_lt h
  have hsignificand : (significandAt index : ℚ) < 2 * binade := by
    exact_mod_cast significandAt_lt index
  calc
    magnitudeAt index < 2 * binade * spacing (scaleAt index) :=
      mul_lt_mul_of_pos_right hsignificand (spacing_pos _)
    _ = binade * spacing (scaleAt index + 1) := by
      rw [spacing_add]
      ring
    _ ≤ binade * spacing (scaleAt index + more + 1) := by
      rw [add_right_comm, spacing_add _ more]
      have hpow : (1 : ℚ) ≤ 2 ^ more := one_le_pow₀ one_le_two
      have hspacing := (spacing_pos (scaleAt index + 1)).le
      gcongr
      exact le_mul_of_one_le_left hspacing hpow

/-- A ratio in the spacing of a scale. -/
theorem ratio_eq_mul_spacing (num : Nat) {den : Nat} (hden : den ≠ 0) (scale : Nat) :
    (num / den : ℚ) =
      (num * unitsPerOne : Nat) / (den <<< scale : Nat) * spacing scale := by
  have hden : (den : ℚ) ≠ 0 := Nat.cast_ne_zero.2 hden
  rw [spacing, zpow_sub₀ two_ne_zero, zpow_natCast, zpow_natCast, unitsPerOne, Nat.one_shiftLeft,
    Nat.shiftLeft_eq]
  push_cast
  field_simp

/-- An even number that stands at a scale is an even significand. -/
theorem even_significandAt {scale m : Nat} (hm : m ≤ 2 * binade)
    (hscale : scale = 0 ∨ binade ≤ m) (heven : Even m) :
    Even (significandAt (scale * binade + m)) := by
  rcases hm.lt_or_eq with hlt | rfl
  · rwa [(scaleAt_add hlt hscale).2]
  · have hnext : scale * binade + 2 * binade = (scale + 1) * binade + binade := by ring
    rw [hnext, (scaleAt_add (by decide) (.inr le_rfl)).2]
    decide

/-- The nearest magnitude at a scale is the nearest of all, if what is rounded is not below the
magnitudes that the scale begins with. -/
theorem nearestIndex_of_scale {scale m : Nat} {v : ℚ} (hm : m ≤ 2 * binade)
    (hscale : scale = 0 ∨ binade ≤ m ∧ (binade : ℚ) ≤ v)
    (hnearest : ∀ other : Nat, |v - m| ≤ |v - other| ∧
      (|v - other| = |v - m| → other ≠ m → Even m)) :
    NearestIndex Set.univ (v * spacing scale) (scale * binade + m) := by
  have hstands := hscale.imp_right And.left
  have hindex := magnitudeAt_add hm hstands
  have hdistance (u : ℚ) : |v * spacing scale - u * spacing scale| = |v - u| * spacing scale := by
    rw [← sub_mul, abs_mul, abs_of_pos (spacing_pos scale)]
  have hlower (j : Nat) (hj : scaleAt j < scale) :
      |v - m| * spacing scale < |v * spacing scale - magnitudeAt j| := by
    obtain ⟨-, hv⟩ := hscale.resolve_left (by omega)
    have hlt := magnitudeAt_of_lt hj
    have hle := (hnearest binade).1
    rw [abs_of_nonneg (sub_nonneg.2 hv)] at hle
    calc
      |v - m| * spacing scale ≤ (v - binade) * spacing scale :=
        mul_le_mul_of_nonneg_right hle (spacing_pos scale).le
      _ < v * spacing scale - magnitudeAt j := by linarith
      _ ≤ |v * spacing scale - magnitudeAt j| := le_abs_self _
  constructor
  · intro j _
    rw [hindex, hdistance]
    rcases le_or_gt scale (scaleAt j) with hle | hgt
    · obtain ⟨other, hother⟩ := magnitudeAt_of_le hle
      rw [hother, hdistance]
      exact mul_le_mul_of_nonneg_right (hnearest other).1 (spacing_pos scale).le
    · exact (hlower j hgt).le
  · intro j _ htie hne
    rw [hindex, hdistance] at htie
    rcases le_or_gt scale (scaleAt j) with hle | hgt
    · obtain ⟨other, hother⟩ := magnitudeAt_of_le hle
      rw [hother, hdistance] at htie
      refine even_significandAt hm hstands ((hnearest other).2
        (mul_right_cancel₀ (spacing_pos scale).ne' htie) fun heq => hne ?_)
      exact magnitudeAt_strictMono.injective (by rw [hother, hindex, heq])
    · exact absurd htie (hlower j hgt).ne'

/-- **The rounded ratio is the nearest magnitude.** -/
theorem nearestIndex_indexOfRatio {num den : Nat} (hnum : num ≠ 0) (hden : den ≠ 0) :
    NearestIndex Set.univ (num / den) (indexOfRatio num den) := by
  obtain ⟨hbound, hscale⟩ := scaleOfRatio_spec hnum hden
  have hpos : 0 < den <<< scaleOfRatio num den := by
    rw [Nat.shiftLeft_eq]
    positivity
  have hbounds := divNearestEven_bounds (num * unitsPerOne) (den <<< scaleOfRatio num den)
  have hfloor : ((num * unitsPerOne / (den <<< scaleOfRatio num den) : Nat) : ℚ) ≤
      (num * unitsPerOne : Nat) / (den <<< scaleOfRatio num den : Nat) := Nat.cast_div_le
  rw [indexOfRatio, ratio_eq_mul_spacing num hden (scaleOfRatio num den)]
  refine nearestIndex_of_scale (by omega) (hscale.imp_right fun hle => ⟨by omega, ?_⟩)
    (divNearestEven_nearest _ hpos)
  exact (Nat.cast_le.2 hle).trans hfloor

/-- Among the indices below a bound, the nearest one is the last if the nearest of all is not below
the bound. -/
theorem NearestIndex.min {v : ℚ} {index : Nat} (h : NearestIndex Set.univ v index) (last : Nat) :
    NearestIndex (Set.Iic last) v (min index last) := by
  rcases le_or_gt index last with hle | hgt
  · rw [min_eq_left hle]
    exact ⟨fun j _ => h.nearest j trivial, fun j _ => h.even_of_tie j trivial⟩
  · rw [min_eq_right hgt.le]
    -- What is nearer to a magnitude behind the last one is not below the last one.
    have hv : magnitudeAt last ≤ v := by
      by_contra! hlt
      have hmono := magnitudeAt_strictMono hgt
      have hnear := h.nearest last trivial
      rw [abs_of_neg (by linarith), abs_of_neg (by linarith)] at hnear
      linarith
    have hdistance (j : Nat) (hj : j ≤ last) : |v - magnitudeAt j| = v - magnitudeAt j :=
      abs_of_nonneg (sub_nonneg.2 ((magnitudeAt_strictMono.monotone hj).trans hv))
    constructor
    · intro j hj
      rw [hdistance j hj, hdistance last le_rfl]
      exact sub_le_sub_left (magnitudeAt_strictMono.monotone hj) v
    · intro j hj htie hne
      rw [hdistance j hj, hdistance last le_rfl, sub_right_inj] at htie
      exact absurd (magnitudeAt_strictMono.injective htie) hne

/-! ## The nearest double -/

/-- Whether a double is the one nearest to a rational number, an even significand taking precedence
over another one at the same distance. -/
structure IsNearest (x : Binary64) (v : ℚ) : Prop where
  nearest : ∀ y : Binary64, |v - x.toRat| ≤ |v - y.toRat|
  even_of_tie : ∀ y : Binary64, |v - y.toRat| = |v - x.toRat| → y.toRat ≠ x.toRat →
    Even x.significand

/-- The double of the sign of a number and of the nearest magnitude is the nearest double. -/
theorem NearestIndex.isNearest {v : ℚ} {x : Binary64} (hsign : x.negative = decide (v < 0))
    (h : NearestIndex (Set.Iic (bound - 1)) |v| x.index) : x.IsNearest v := by
  have hmem (y : Binary64) : y.index ∈ Set.Iic (bound - 1) := Nat.le_sub_one_of_lt y.index_lt
  have hdistance : |v - x.toRat| = abs (|v| - magnitudeAt x.index) := by
    rw [toRat, hsign]
    rcases lt_or_ge v 0 with hneg | hnonneg
    · rw [decide_eq_true hneg, if_pos rfl, abs_of_neg hneg, sub_neg_eq_add, ← abs_neg, neg_add']
    · rw [decide_eq_false hnonneg.not_gt, if_neg Bool.false_ne_true, abs_of_nonneg hnonneg]
  have hle (y : Binary64) : abs (|v| - magnitudeAt y.index) ≤ |v - y.toRat| := by
    rw [← abs_toRat]
    exact abs_abs_sub_abs_le v y.toRat
  constructor
  · intro y
    rw [hdistance]
    exact (h.nearest _ (hmem y)).trans (hle y)
  · intro y htie hne
    rw [hdistance] at htie
    by_cases hindex : y.index = x.index
    · -- The double of the other sign is as near to zero alone, to which zero is nearest.
      have hother : y.toRat = -x.toRat :=
        (abs_eq_abs.1 (by rw [abs_toRat, abs_toRat, hindex])).resolve_left hne
      rw [← hdistance, hother, abs_eq_abs] at htie
      have hzero : v = 0 := by
        rcases htie with heq | heq
        · exact absurd (hother.trans (by linarith)) hne
        · linarith
      have hx := h.nearest 0 (Nat.zero_le _)
      rw [hzero, abs_zero, magnitudeAt_zero, sub_zero, abs_zero, zero_sub, abs_neg, ← abs_toRat,
        abs_abs, abs_nonpos_iff] at hx
      exact absurd (by rw [hother, hx, neg_zero]) hne
    · exact h.even_of_tie _ (hmem y)
        (le_antisymm ((hle y).trans htie.le) (h.nearest _ (hmem y))) hindex

/-! ## Integers -/

theorem index_ofInt {n : Int} (hn : n ≠ 0) :
    (ofInt n).negative = decide (n < 0) ∧
      (ofInt n).index = min (indexOfRatio n.natAbs 1) (bound - 1) := by
  rw [ofInt, ofRatio?, if_neg (Int.natAbs_ne_zero.2 hn), ofIndex?]
  split
  · next hlt => exact ⟨rfl, (min_eq_left (Nat.le_sub_one_of_lt hlt)).symm⟩
  · next hge =>
    have hle : bound - 1 ≤ indexOfRatio n.natAbs 1 := (Nat.sub_le _ _).trans (not_lt.1 hge)
    exact ⟨rfl, (min_eq_right hle).symm⟩

/-- **An integer is rounded to the nearest double.** -/
theorem isNearest_ofInt (n : Int) : (ofInt n).IsNearest n := by
  by_cases hn : n = 0
  · subst hn
    have hzero : (ofInt 0).toRat = ((0 : Int) : ℚ) := by
      have hindex : ofInt 0 = zero false := by decide
      rw [hindex, toRat, zero, if_neg Bool.false_ne_true, magnitudeAt_zero, Int.cast_zero]
    constructor
    · intro y
      rw [hzero, sub_self, abs_zero]
      exact abs_nonneg _
    · intro y htie hne
      rw [hzero, sub_self, abs_zero, abs_eq_zero, sub_eq_zero] at htie
      exact absurd (htie.symm.trans hzero.symm) hne
  · obtain ⟨hsign, hindex⟩ := index_ofInt hn
    refine NearestIndex.isNearest (hsign.trans (decide_eq_decide.2 Int.cast_lt_zero.symm)) ?_
    have hnearest := nearestIndex_indexOfRatio (Int.natAbs_ne_zero.2 hn) one_ne_zero
    rw [Nat.cast_one, div_one, Nat.cast_natAbs, Int.cast_abs] at hnearest
    rw [hindex]
    exact hnearest.min _

/-- Rounding keeps the order. -/
theorem IsNearest.toRat_le_of_lt {x y : Binary64} {v w : ℚ} (hx : x.IsNearest v)
    (hy : y.IsNearest w) (h : v < w) : x.toRat ≤ y.toRat := by
  by_contra! hlt
  have hxy := hx.nearest y
  have hyx := hy.nearest x
  rw [← sq_le_sq] at hxy hyx
  nlinarith

/-- A double of the value itself is the nearest one. -/
theorem IsNearest.toRat_eq {x : Binary64} {v : ℚ} (h : x.IsNearest v)
    (hexact : ∃ y : Binary64, y.toRat = v) : x.toRat = v := by
  obtain ⟨y, rfl⟩ := hexact
  have hdistance := h.nearest y
  rw [sub_self, abs_zero, abs_nonpos_iff, sub_eq_zero] at hdistance
  exact hdistance.symm

/-- An integer of at most 53 bits is a double. -/
theorem exists_toRat_eq {n : Int} (h : n.natAbs ≤ 2 * binade) : ∃ y : Binary64, y.toRat = n := by
  obtain ⟨index, hle, hindex⟩ := exists_magnitudeAt_eq unitPlace h
  have hlt : index < bound := by
    refine hle.trans_lt (lt_of_le_of_lt (Nat.add_le_add_left h _) ?_)
    decide
  rw [spacing, sub_self, zpow_zero, mul_one, Nat.cast_natAbs, Int.cast_abs] at hindex
  refine ⟨⟨decide (n < 0), index, hlt⟩, ?_⟩
  rw [toRat, hindex]
  rcases lt_or_ge n 0 with hneg | hnonneg
  · rw [decide_eq_true hneg, if_pos rfl, abs_of_neg (Int.cast_lt_zero.2 hneg), neg_neg]
  · rw [decide_eq_false hnonneg.not_gt, if_neg Bool.false_ne_true,
      abs_of_nonneg (Int.cast_nonneg hnonneg)]

/-- An integer below `2 ^ 53` shares its double with no other integer. -/
theorem eq_of_toRat_ofInt_eq {a b : Int} (ha : a.natAbs < 2 * binade)
    (h : (ofInt a).toRat = (ofInt b).toRat) : a = b := by
  by_contra hne
  rw [(isNearest_ofInt a).toRat_eq (exists_toRat_eq ha.le)] at h
  -- The integer next to the one, on the side of the other, is a nearer double.
  obtain ⟨c, hc, hnearer⟩ : ∃ c : Int, c.natAbs ≤ 2 * binade ∧ |b - c| < |b - a| := by
    rcases lt_or_gt_of_ne hne with hlt | hgt
    · refine ⟨a + 1, by omega, ?_⟩
      rw [abs_of_nonneg (by omega), abs_of_nonneg (by omega)]
      omega
    · refine ⟨a - 1, by omega, ?_⟩
      rw [abs_of_nonpos (by omega), abs_of_nonpos (by omega)]
      omega
  obtain ⟨y, hy⟩ := exists_toRat_eq hc
  have hnearest := (isNearest_ofInt b).nearest y
  rw [← h, hy] at hnearest
  exact absurd (by exact_mod_cast hnearest) hnearer.not_ge

end Flowgraph.Binary64
