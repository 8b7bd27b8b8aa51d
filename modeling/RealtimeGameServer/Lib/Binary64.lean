import Mathlib.Algebra.Order.Field.Power
import Mathlib.Data.Int.Log
import Mathlib.Data.Rat.Floor
import Mathlib.Tactic.FieldSimp
import Mathlib.Tactic.Linarith
import Mathlib.Tactic.Positivity
import Mathlib.Tactic.Ring

/-!
# Rounding to binary64

The finite numbers of IEEE 754 binary64 are the rationals `m * 2 ^ e` with fewer than 54
binary digits and `e` within the range of the format. `nearest` rounds a rational to the last
place its magnitude leaves it, ties to even, with no bound above, so a result beyond
`maxFinite` is an overflow. Rounding does not cross a number of the format: this is what keeps
a bounded result finite.
-/
namespace RealtimeGameServer.Lib
namespace Binary64

/-- A finite number of the format. -/
def Representable (x : ℚ) : Prop :=
  ∃ m e : ℤ, |m| < 2 ^ 53 ∧ -1074 ≤ e ∧ e ≤ 971 ∧ x = m * 2 ^ e

def maxFinite : ℚ := (2 ^ 53 - 1) * 2 ^ 971

/-- The nearest integer, the even one at a midpoint. -/
def roundEven (x : ℚ) : ℤ :=
  let k := ⌊x⌋
  if x - k < 1 / 2 then k else if 1 / 2 < x - k then k + 1 else k + k % 2

/-- The exponent of the last place of `x`, which is that of the subnormals at the least. -/
def lastPlace (x : ℚ) : ℤ := max (Int.log 2 |x| - 52) (-1074)

def nearest (x : ℚ) : ℚ := roundEven (x / 2 ^ lastPlace x) * 2 ^ lastPlace x

/-- For an `x ≥ 0` of the format, a number that rounds as the root of `x` does: the root
itself if it has 600 binary places, else the middle of the interval of 600 places that it lies
in, which no midpoint of two neighbours of the format enters. -/
def rootApprox (x : ℚ) : ℚ :=
  let n := ⌊x * 4 ^ 600⌋.toNat
  let r := n.sqrt
  if r * r = n then r / 2 ^ 600 else (r + 1 / 2) / 2 ^ 600

theorem rootApprox_nonneg (x : ℚ) : 0 ≤ rootApprox x := by
  unfold rootApprox
  dsimp only
  split <;> positivity

theorem two_zpow_pos (e : ℤ) : (0 : ℚ) < 2 ^ e := by positivity

theorem roundEven_bounds (x : ℚ) : ⌊x⌋ ≤ roundEven x ∧ roundEven x ≤ ⌊x⌋ + 1 := by
  have hparity := Int.emod_two_eq ⌊x⌋
  unfold roundEven
  dsimp only
  split_ifs <;> omega

@[simp] theorem roundEven_intCast (k : ℤ) : roundEven k = k := by
  simp [roundEven]

theorem roundEven_le {x : ℚ} {n : ℤ} (h : x ≤ n) : roundEven x ≤ n := by
  have hfloor : ⌊x⌋ ≤ n := by
    rw [← Int.floor_intCast (R := ℚ) n]
    exact Int.floor_mono h
  rcases hfloor.lt_or_eq with hlt | heq
  · exact (roundEven_bounds x).2.trans hlt
  · have hx : x = n := le_antisymm h (heq ▸ Int.floor_le x)
    rw [hx, roundEven_intCast]

theorem le_roundEven {x : ℚ} {n : ℤ} (h : (n : ℚ) ≤ x) : n ≤ roundEven x :=
  (Int.le_floor.mpr h).trans (roundEven_bounds x).1

theorem abs_roundEven_le {x : ℚ} {n : ℤ} (h : |x| ≤ n) : |roundEven x| ≤ n := by
  obtain ⟨hlower, hupper⟩ := abs_le.mp h
  refine abs_le.mpr ⟨le_roundEven ?_, roundEven_le hupper⟩
  rwa [Int.cast_neg]

theorem le_abs_roundEven {x : ℚ} {n : ℤ} (h : (n : ℚ) ≤ |x|) : n ≤ |roundEven x| := by
  rcases le_abs.mp h with hpos | hneg
  · exact (le_roundEven hpos).trans (le_abs_self _)
  · have hround : roundEven x ≤ -n := by
      refine roundEven_le ?_
      rw [Int.cast_neg]
      exact le_neg_of_le_neg hneg
    exact (le_neg_of_le_neg hround).trans (neg_le_abs _)

theorem nearest_nonneg {x : ℚ} (h : 0 ≤ x) : 0 ≤ nearest x := by
  have hquotient : ((0 : ℤ) : ℚ) ≤ x / 2 ^ lastPlace x := by
    rw [Int.cast_zero]
    exact div_nonneg h (two_zpow_pos _).le
  have hround : (0 : ℚ) ≤ roundEven (x / 2 ^ lastPlace x) := by
    exact_mod_cast le_roundEven hquotient
  exact mul_nonneg hround (two_zpow_pos _).le

theorem nearest_nonpos {x : ℚ} (h : x ≤ 0) : nearest x ≤ 0 := by
  have hquotient : x / 2 ^ lastPlace x ≤ ((0 : ℤ) : ℚ) := by
    rw [Int.cast_zero]
    exact div_nonpos_of_nonpos_of_nonneg h (two_zpow_pos _).le
  have hround : (roundEven (x / 2 ^ lastPlace x) : ℚ) ≤ 0 := by
    exact_mod_cast roundEven_le hquotient
  exact mul_nonpos_of_nonpos_of_nonneg hround (two_zpow_pos _).le

/-- A power of two below `|x|` and the next one above it. -/
theorem log_bounds {x : ℚ} (h : x ≠ 0) :
    (2 : ℚ) ^ Int.log 2 |x| ≤ |x| ∧ |x| < 2 ^ (Int.log 2 |x| + 1) := by
  have hpos : 0 < |x| := abs_pos.mpr h
  have hlower := Int.zpow_log_le_self (b := 2) (r := |x|) one_lt_two hpos
  have hupper := Int.lt_zpow_succ_log_self (b := 2) one_lt_two |x|
  exact ⟨by exact_mod_cast hlower, by exact_mod_cast hupper⟩

/-- A number of the format with the magnitude of `x ≠ 0` or more is a multiple of the last
place of `x`. -/
theorem Representable.multiple {x b : ℚ} (hb : Representable b) (hx : x ≠ 0) (h : |x| ≤ |b|) :
    ∃ n : ℤ, b = n * 2 ^ lastPlace x := by
  obtain ⟨m, e, hm, hlow, -, rfl⟩ := hb
  have hplace : lastPlace x ≤ e := by
    refine max_le ?_ hlow
    by_contra hcoarse
    have hdigits : |(m : ℚ)| < 2 ^ (53 : ℤ) := by exact_mod_cast hm
    have hsmall : |(m : ℚ) * 2 ^ e| < |x| :=
      calc
        |(m : ℚ) * 2 ^ e| = |(m : ℚ)| * 2 ^ e := by rw [abs_mul, abs_of_pos (two_zpow_pos e)]
        _ < 2 ^ (53 : ℤ) * 2 ^ e := mul_lt_mul_of_pos_right hdigits (two_zpow_pos e)
        _ = 2 ^ (53 + e) := (zpow_add₀ two_ne_zero 53 e).symm
        _ ≤ 2 ^ Int.log 2 |x| := zpow_le_zpow_right₀ one_le_two (by omega)
        _ ≤ |x| := (log_bounds hx).1
    exact absurd h hsmall.not_ge
  obtain ⟨k, rfl⟩ := Int.le.dest hplace
  refine ⟨m * 2 ^ k, ?_⟩
  rw [zpow_add₀ two_ne_zero, zpow_natCast]
  push_cast
  ring

/-- Rounding does not cross a number of the format. -/
theorem nearest_le {x b : ℚ} (hb : Representable b) (hpos : 0 ≤ b) (h : x ≤ b) :
    nearest x ≤ b := by
  rcases le_total x 0 with hneg | hx
  · exact (nearest_nonpos hneg).trans hpos
  by_cases hzero : x = 0
  · exact (nearest_nonpos hzero.le).trans hpos
  obtain ⟨n, hn⟩ := hb.multiple hzero (by rwa [abs_of_nonneg hx, abs_of_nonneg hpos])
  have hround : roundEven (x / 2 ^ lastPlace x) ≤ n := by
    refine roundEven_le ?_
    rwa [div_le_iff₀ (two_zpow_pos _), ← hn]
  rw [nearest, hn]
  exact mul_le_mul_of_nonneg_right (by exact_mod_cast hround) (two_zpow_pos _).le

theorem le_nearest {x b : ℚ} (hb : Representable b) (hneg : b ≤ 0) (h : b ≤ x) :
    b ≤ nearest x := by
  rcases le_total 0 x with hpos | hx
  · exact hneg.trans (nearest_nonneg hpos)
  by_cases hzero : x = 0
  · exact hneg.trans (nearest_nonneg hzero.ge)
  obtain ⟨n, hn⟩ := hb.multiple hzero (by
    rwa [abs_of_nonpos hx, abs_of_nonpos hneg, neg_le_neg_iff])
  have hround : n ≤ roundEven (x / 2 ^ lastPlace x) := by
    refine le_roundEven ?_
    rwa [le_div_iff₀ (two_zpow_pos _), ← hn]
  rw [nearest, hn]
  exact mul_le_mul_of_nonneg_right (by exact_mod_cast hround) (two_zpow_pos _).le

theorem Representable.neg {x : ℚ} (h : Representable x) : Representable (-x) := by
  obtain ⟨m, e, hm, hlow, hhigh, rfl⟩ := h
  refine ⟨-m, e, by rwa [abs_neg], hlow, hhigh, ?_⟩
  push_cast
  ring

theorem abs_nearest_le {x b : ℚ} (hb : Representable b) (h : |x| ≤ b) : |nearest x| ≤ b := by
  have hpos : 0 ≤ b := (abs_nonneg x).trans h
  obtain ⟨hlower, hupper⟩ := abs_le.mp h
  exact abs_le.mpr ⟨le_nearest hb.neg (neg_nonpos.mpr hpos) hlower, nearest_le hb hpos hupper⟩

/-- A number of the format is its own rounding. -/
theorem Representable.nearest_eq {x : ℚ} (h : Representable x) : nearest x = x := by
  by_cases hzero : x = 0
  · subst hzero
    exact le_antisymm (nearest_nonpos le_rfl) (nearest_nonneg le_rfl)
  obtain ⟨n, hn⟩ := h.multiple hzero le_rfl
  have hquotient : x / 2 ^ lastPlace x = n := by
    rw [div_eq_iff (two_zpow_pos _).ne']
    exact hn
  rw [nearest, hquotient, roundEven_intCast]
  exact hn.symm

theorem Representable.abs_le_max {x : ℚ} (h : Representable x) : |x| ≤ maxFinite := by
  obtain ⟨m, e, hm, -, hhigh, rfl⟩ := h
  have hdigits : |(m : ℚ)| ≤ 2 ^ 53 - 1 := by
    exact_mod_cast Int.le_sub_one_of_lt hm
  rw [abs_mul, abs_of_pos (two_zpow_pos e)]
  exact mul_le_mul hdigits (zpow_le_zpow_right₀ one_le_two hhigh) (two_zpow_pos e).le (by norm_num)

theorem representable_zero : Representable 0 := ⟨0, 0, by norm_num⟩

theorem representable_two_pow {n : ℕ} (h : n ≤ 971) : Representable (2 ^ n) :=
  ⟨1, n, by norm_num, by omega, by exact_mod_cast h, by rw [Int.cast_one, one_mul, zpow_natCast]⟩

theorem representable_maxFinite : Representable maxFinite :=
  ⟨2 ^ 53 - 1, 971, by norm_num, by norm_num, le_rfl, by norm_num [maxFinite]⟩

theorem exists_maxFinite_eq : ∃ n : ℤ, maxFinite = n :=
  ⟨(2 ^ 53 - 1) * 2 ^ 971, by
    rw [maxFinite, Int.cast_mul, Int.cast_pow]
    norm_num only⟩

theorem maxFinite_lt : maxFinite < 2 ^ (1024 : ℤ) :=
  calc
    maxFinite < 2 ^ 53 * 2 ^ 971 := mul_lt_mul_of_pos_right (by norm_num) (by positivity)
    _ = 2 ^ (1024 : ℤ) := by
      rw [← pow_add]
      rfl

/-- The significand of a rounding: 53 digits, or the power of two that rounding up carries to,
and no fewer than 53 where the last place is above that of the subnormals. -/
theorem significand_bounds {x : ℚ} (hx : x ≠ 0) :
    |roundEven (x / 2 ^ lastPlace x)| ≤ 2 ^ 53 ∧
      (-1074 < lastPlace x → 2 ^ 52 ≤ |roundEven (x / 2 ^ lastPlace x)|) := by
  obtain ⟨hlower, hupper⟩ := log_bounds hx
  have hquotient : |x / 2 ^ lastPlace x| = |x| / 2 ^ lastPlace x := by
    rw [abs_div, abs_of_pos (two_zpow_pos _)]
  constructor
  · refine abs_roundEven_le ?_
    rw [hquotient, div_le_iff₀ (two_zpow_pos _)]
    calc
      |x| ≤ 2 ^ (Int.log 2 |x| + 1) := hupper.le
      _ ≤ 2 ^ (53 + lastPlace x) :=
        zpow_le_zpow_right₀ one_le_two (by unfold lastPlace; omega)
      _ = ((2 ^ 53 : ℤ) : ℚ) * 2 ^ lastPlace x := by
        rw [zpow_add₀ two_ne_zero]
        norm_num
  · intro hnormal
    refine le_abs_roundEven ?_
    rw [hquotient, le_div_iff₀ (two_zpow_pos _)]
    calc
      ((2 ^ 52 : ℤ) : ℚ) * 2 ^ lastPlace x = 2 ^ (52 + lastPlace x) := by
        rw [zpow_add₀ two_ne_zero]
        norm_num
      _ ≤ 2 ^ Int.log 2 |x| :=
        zpow_le_zpow_right₀ one_le_two (by unfold lastPlace at hnormal ⊢; omega)
      _ ≤ |x| := hlower

/-- What rounds to no more than `maxFinite` rounds to a number of the format. -/
theorem representable_nearest {x : ℚ} (h : |nearest x| ≤ maxFinite) :
    Representable (nearest x) := by
  by_cases hx : x = 0
  · rw [hx, representable_zero.nearest_eq]
    exact representable_zero
  obtain ⟨hmost, hleast⟩ := significand_bounds hx
  have hlow : -1074 ≤ lastPlace x := le_max_right _ _
  have hbelow : ∀ n : ℕ, 2 ^ n ≤ |roundEven (x / 2 ^ lastPlace x)| → n + lastPlace x < 1024 := by
    intro n hn
    refine (zpow_lt_zpow_iff_right₀ (one_lt_two : (1 : ℚ) < 2)).mp ?_
    calc
      (2 : ℚ) ^ (n + lastPlace x) = ((2 ^ n : ℤ) : ℚ) * 2 ^ lastPlace x := by
        rw [zpow_add₀ two_ne_zero, zpow_natCast]
        push_cast
        rfl
      _ ≤ |(roundEven (x / 2 ^ lastPlace x) : ℚ)| * 2 ^ lastPlace x :=
        mul_le_mul_of_nonneg_right (by exact_mod_cast hn) (two_zpow_pos _).le
      _ = |nearest x| := by rw [nearest, abs_mul, abs_of_pos (two_zpow_pos _)]
      _ ≤ maxFinite := h
      _ < 2 ^ (1024 : ℤ) := maxFinite_lt
  rw [nearest]
  generalize roundEven (x / 2 ^ lastPlace x) = r at hmost hleast hbelow ⊢
  rcases hmost.lt_or_eq with hdigits | hcarry
  · refine ⟨r, lastPlace x, hdigits, hlow, ?_, rfl⟩
    rcases hlow.lt_or_eq with hnormal | hsubnormal
    · have := hbelow 52 (hleast hnormal)
      omega
    · omega
  · have hroom := hbelow 53 hcarry.ge
    have hdouble : (2 : ℚ) ^ (lastPlace x + 1) = 2 * 2 ^ lastPlace x := by
      rw [zpow_add_one₀ two_ne_zero, mul_comm]
    rcases abs_eq (by norm_num : (0 : ℤ) ≤ 2 ^ 53) |>.mp hcarry with rfl | rfl
    · refine ⟨2 ^ 52, lastPlace x + 1, by norm_num, by omega, by omega, ?_⟩
      rw [hdouble]
      push_cast
      ring
    · refine ⟨-2 ^ 52, lastPlace x + 1, by norm_num, by omega, by omega, ?_⟩
      rw [hdouble]
      push_cast
      ring

end Binary64

/-- A finite number of the format; the two zeros are one. -/
structure Binary64 where
  value : ℚ
  representable : Binary64.Representable value
  deriving DecidableEq, Repr

end RealtimeGameServer.Lib
