import RealtimeGameServer.Lib.Binary64
import RealtimeGameServer.Source.Domain

/-!
# JavaScript numbers

A number is a finite binary64 number, an infinity or `NaN`; `-0` is `0`, which `===` and
`JSON.stringify` do not tell apart. A literal, in the source or in a text that `JSON.parse`
reads, and the result of an operation on finite numbers are rounded once, and overflow to an
infinity. Comparisons with `NaN` are false and `Math.min`, `Math.max` return it.
-/
namespace RealtimeGameServer.Source
open Lib Lib.Binary64

inductive JsNumber where
  | finite (number : Binary64)
  | infinity (negative : Bool)
  | nan
  deriving DecidableEq, Repr

namespace JsNumber

/-- `Number.isFinite`. -/
def isFinite : JsNumber → Bool
  | finite _ => true
  | _ => false

/-- The number that a rational result rounds to. -/
def ofRat (x : ℚ) : JsNumber :=
  if h : |nearest x| ≤ maxFinite then finite ⟨nearest x, representable_nearest h⟩
  else infinity (x < 0)

instance (n : ℕ) : OfNat JsNumber n := ⟨ofRat n⟩
instance : OfScientific JsNumber := ⟨fun m s e => ofRat (OfScientific.ofScientific m s e)⟩

/-- A counter that `+= 1` raises: from `2 ** 53` on it stays. -/
def ofCount (n : ℕ) : JsNumber := ofRat (min n (2 ^ 53) : ℕ)

/-- `Date.now()`, a time value of at most `8.64e15` milliseconds from the epoch. -/
def ofTime (now : ℤ) : JsNumber := ofRat (max (-8640000000000000) (min 8640000000000000 now) : ℤ)

def add : JsNumber → JsNumber → JsNumber
  | nan, _ => nan
  | _, nan => nan
  | finite a, finite b => ofRat (a.value + b.value)
  | finite _, infinity t => infinity t
  | infinity s, finite _ => infinity s
  | infinity s, infinity t => if s = t then infinity s else nan

def neg : JsNumber → JsNumber
  | finite a => finite ⟨-a.value, a.representable.neg⟩
  | infinity s => infinity !s
  | nan => nan

/-- An infinity times a finite number. -/
def scale (negative : Bool) (a : ℚ) : JsNumber :=
  if a = 0 then nan else infinity (negative ^^ decide (a < 0))

def mul : JsNumber → JsNumber → JsNumber
  | nan, _ => nan
  | _, nan => nan
  | finite a, finite b => ofRat (a.value * b.value)
  | finite a, infinity t => scale t a.value
  | infinity s, finite b => scale s b.value
  | infinity s, infinity t => infinity (s ^^ t)

/-- `x / n` for a positive integer literal `n`. -/
def divLit (n : ℕ) : JsNumber → JsNumber
  | finite a => ofRat (a.value / n)
  | x => x

/-- `a <= b`. -/
def ble : JsNumber → JsNumber → Bool
  | nan, _ => false
  | _, nan => false
  | finite a, finite b => a.value ≤ b.value
  | finite _, infinity t => !t
  | infinity s, finite _ => s
  | infinity s, infinity t => s || !t

/-- `a < b`. -/
def blt : JsNumber → JsNumber → Bool
  | nan, _ => false
  | _, nan => false
  | finite a, finite b => a.value < b.value
  | finite _, infinity t => !t
  | infinity s, finite _ => s
  | infinity s, infinity t => s && !t

instance : Add JsNumber := ⟨add⟩
instance : Neg JsNumber := ⟨neg⟩
instance : Sub JsNumber := ⟨fun a b => a + -b⟩
instance : Mul JsNumber := ⟨mul⟩
instance : LE JsNumber := ⟨fun a b => ble a b = true⟩
instance : LT JsNumber := ⟨fun a b => blt a b = true⟩
instance (a b : JsNumber) : Decidable (a ≤ b) := inferInstanceAs (Decidable (ble a b = true))
instance (a b : JsNumber) : Decidable (a < b) := inferInstanceAs (Decidable (blt a b = true))

/-- `Math.min`. -/
def jsMin (a b : JsNumber) : JsNumber :=
  if a = nan ∨ b = nan then nan else if a ≤ b then a else b

/-- `Math.max`. -/
def jsMax (a b : JsNumber) : JsNumber :=
  if a = nan ∨ b = nan then nan else if a ≤ b then b else a

/-- `Math.sqrt`. -/
def sqrt : JsNumber → JsNumber
  | finite a => if a.value < 0 then nan else ofRat (rootApprox a.value)
  | infinity false => infinity false
  | _ => nan

/-- `Math.round`. -/
def round : JsNumber → JsNumber
  | finite a => ofRat ⌊a.value + 1 / 2⌋
  | x => x

/-- `Number.isInteger`. -/
def isInteger : JsNumber → Bool
  | finite a => a.value.den = 1
  | _ => false

@[simp] theorem isFinite_finite (number : Binary64) : (finite number).isFinite = true := rfl

theorem isFinite_iff {x : JsNumber} : x.isFinite = true ↔ ∃ number, x = finite number := by
  cases x with
  | finite number => exact iff_of_true rfl ⟨number, rfl⟩
  | infinity negative => exact iff_of_false Bool.false_ne_true fun ⟨_, h⟩ => by cases h
  | nan => exact iff_of_false Bool.false_ne_true fun ⟨_, h⟩ => by cases h

theorem ne_nan_of_isFinite {x : JsNumber} (h : x.isFinite = true) : x ≠ nan := by
  rintro rfl
  cases h

theorem ne_infinity_of_isFinite {x : JsNumber} (h : x.isFinite = true) (negative : Bool) :
    x ≠ infinity negative := by
  rintro rfl
  cases h

/-- A number of the format is its own literal. -/
theorem ofRat_eq {x : ℚ} (h : Representable x) : ofRat x = finite ⟨x, h⟩ := by
  have hkept := h.nearest_eq
  have hmax : |nearest x| ≤ maxFinite := hkept.symm ▸ h.abs_le_max
  rw [ofRat, dif_pos hmax]
  simp only [hkept]

theorem zero_eq : (0 : JsNumber) = finite ⟨0, representable_zero⟩ := by
  change ofRat ((0 : ℕ) : ℚ) = _
  rw [Nat.cast_zero]
  exact ofRat_eq _

theorem isFinite_zero : (0 : JsNumber).isFinite = true := by
  rw [zero_eq]
  rfl

theorem one_eq : (1 : JsNumber) = finite ⟨1, representable_two_pow (Nat.zero_le 971)⟩ := by
  change ofRat ((1 : ℕ) : ℚ) = _
  rw [Nat.cast_one]
  exact ofRat_eq _

theorem isFinite_ofRat {x : ℚ} (h : |x| ≤ maxFinite) : (ofRat x).isFinite = true := by
  rw [ofRat, dif_pos (abs_nearest_le representable_maxFinite h)]
  rfl

theorem ofRat_ne_nan (x : ℚ) : ofRat x ≠ nan := by
  unfold ofRat
  split <;> simp

theorem ofRat_ne_top {x : ℚ} (h : x ≤ maxFinite) : ofRat x ≠ infinity false := by
  unfold ofRat
  split
  next => simp
  next hover =>
    intro htop
    have hpos : 0 ≤ x := not_lt.mp (of_decide_eq_false (infinity.inj htop))
    refine hover (abs_nearest_le representable_maxFinite ?_)
    rwa [abs_of_nonneg hpos]

@[simp] theorem finite_le {a b : Binary64} : finite a ≤ finite b ↔ a.value ≤ b.value :=
  decide_eq_true_iff

@[simp] theorem finite_lt {a b : Binary64} : finite a < finite b ↔ a.value < b.value :=
  decide_eq_true_iff

theorem le_of_lt {x y : JsNumber} (h : x < y) : x ≤ y := by
  cases x <;> cases y
  case finite.finite a b => exact finite_le.mpr (finite_lt.mp h).le
  case infinity.infinity s t =>
    cases s <;> cases t <;> first | rfl | cases h
  all_goals exact h

@[simp] theorem zero_le_finite {a : Binary64} : 0 ≤ finite a ↔ 0 ≤ a.value := by
  rw [zero_eq, finite_le]

@[simp] theorem zero_le_infinity {negative : Bool} : 0 ≤ infinity negative ↔ negative = false := by
  rw [zero_eq, ← Bool.not_eq_true']
  rfl

@[simp] theorem not_zero_le_nan : ¬(0 : JsNumber) ≤ nan := by
  rw [zero_eq]
  exact Bool.false_ne_true

theorem nonneg_ofRat {x : ℚ} (h : 0 ≤ x) : 0 ≤ ofRat x := by
  unfold ofRat
  split
  next => exact zero_le_finite.mpr (nearest_nonneg h)
  next => exact zero_le_infinity.mpr (decide_eq_false h.not_gt)

theorem nonneg_mul_self {x : JsNumber} (h : x.isFinite = true) : 0 ≤ x * x := by
  obtain ⟨a, rfl⟩ := isFinite_iff.mp h
  exact nonneg_ofRat (mul_self_nonneg a.value)

theorem nonneg_add {x y : JsNumber} (hx : 0 ≤ x) (hy : 0 ≤ y) : 0 ≤ x + y := by
  cases x <;> cases y
  case finite.finite a b =>
    exact nonneg_ofRat (add_nonneg (zero_le_finite.mp hx) (zero_le_finite.mp hy))
  case finite.infinity => exact hy
  case infinity.finite => exact hx
  case infinity.infinity =>
    cases zero_le_infinity.mp hx
    cases zero_le_infinity.mp hy
    exact hx
  case nan.finite | nan.infinity | nan.nan => exact hx
  case finite.nan | infinity.nan => exact hy

theorem nonneg_sqrt {x : JsNumber} (h : 0 ≤ x) : 0 ≤ sqrt x := by
  cases x with
  | finite a =>
    rw [sqrt, if_neg (zero_le_finite.mp h).not_gt]
    exact nonneg_ofRat (rootApprox_nonneg _)
  | infinity negative =>
    cases zero_le_infinity.mp h
    exact h
  | nan => exact h

/-- Finite, of a magnitude of at most `c`. -/
def Within (c : ℚ) : JsNumber → Prop
  | finite a => |a.value| ≤ c
  | _ => False

theorem Within.isFinite {c : ℚ} {x : JsNumber} (h : Within c x) : x.isFinite = true := by
  cases x with
  | finite a => rfl
  | infinity negative => cases h
  | nan => cases h

theorem within_max {x : JsNumber} (h : x.isFinite = true) : Within maxFinite x := by
  obtain ⟨a, rfl⟩ := isFinite_iff.mp h
  exact a.representable.abs_le_max

theorem within_ofRat {c x : ℚ} (hc : Representable c) (h : |x| ≤ c) : Within c (ofRat x) := by
  have hrounded := abs_nearest_le hc h
  rw [ofRat, dif_pos (hrounded.trans ((le_abs_self c).trans hc.abs_le_max))]
  exact hrounded

/-- A number between two others. -/
theorem within_of_between {c : ℚ} {lo hi x : JsNumber} (hlo : Within c lo) (hhi : Within c hi)
    (lower : lo ≤ x) (upper : x ≤ hi) : Within c x := by
  obtain ⟨a, rfl⟩ := isFinite_iff.mp hlo.isFinite
  obtain ⟨b, rfl⟩ := isFinite_iff.mp hhi.isFinite
  cases x with
  | finite x =>
    exact abs_le.mpr ⟨(abs_le.mp hlo).1.trans (finite_le.mp lower),
      (finite_le.mp upper).trans (abs_le.mp hhi).2⟩
  | infinity negative =>
    cases negative with
    | false => cases upper
    | true => cases lower
  | nan => cases lower

theorem within_mul {c d : ℚ} {x y : JsNumber} (hcd : Representable (c * d)) (hx : Within c x)
    (hy : Within d y) : Within (c * d) (x * y) := by
  obtain ⟨a, rfl⟩ := isFinite_iff.mp hx.isFinite
  obtain ⟨b, rfl⟩ := isFinite_iff.mp hy.isFinite
  refine within_ofRat hcd ?_
  rw [abs_mul]
  exact mul_le_mul hx hy (abs_nonneg _) ((abs_nonneg _).trans hx)

/-- A product is finite only if both factors are. -/
theorem isFinite_of_mul {x y : JsNumber} (h : (x * y).isFinite = true) :
    x.isFinite = true ∧ y.isFinite = true := by
  have hscale : ∀ negative (a : ℚ), (scale negative a).isFinite = false := by
    intro negative a
    unfold scale
    split <;> rfl
  cases x <;> cases y
  case finite.finite => exact ⟨rfl, rfl⟩
  case finite.infinity a negative => cases (hscale negative a.value).symm.trans h
  case infinity.finite negative b => cases (hscale negative b.value).symm.trans h
  all_goals cases h

/-- A factor of at most `1` does not overflow a product. -/
theorem isFinite_unit_mul {x y : JsNumber} (hx : Within 1 x) :
    (x * y).isFinite = y.isFinite := by
  rw [Bool.eq_iff_iff]
  refine ⟨fun h => (isFinite_of_mul h).2, fun hy => ?_⟩
  have hmax : Representable (1 * maxFinite) := by
    rw [one_mul]
    exact representable_maxFinite
  exact (within_mul hmax hx (within_max hy)).isFinite

theorem mul_comm (x y : JsNumber) : x * y = y * x := by
  cases x <;> cases y
  case finite.finite a b => exact congrArg ofRat (Rat.mul_comm a.value b.value)
  case infinity.infinity s t => exact congrArg infinity (Bool.xor_comm s t)
  all_goals rfl

/-- A sum of finite numbers may overflow, but it is a number. -/
theorem add_ne_nan {x y : JsNumber} (hx : x.isFinite = true) (hy : y.isFinite = true) :
    x + y ≠ nan := by
  obtain ⟨a, rfl⟩ := isFinite_iff.mp hx
  obtain ⟨b, rfl⟩ := isFinite_iff.mp hy
  exact ofRat_ne_nan _

theorem jsMin_eq {x y : JsNumber} (hx : x ≠ nan) (hy : y ≠ nan) :
    jsMin x y = if x ≤ y then x else y :=
  if_neg (not_or.mpr ⟨hx, hy⟩)

theorem jsMax_eq {x y : JsNumber} (hx : x ≠ nan) (hy : y ≠ nan) :
    jsMax x y = if x ≤ y then y else x :=
  if_neg (not_or.mpr ⟨hx, hy⟩)

/-- The greater of a finite number and one that is not above all finite ones. -/
theorem isFinite_jsMax {lo x : JsNumber} (hlo : lo.isFinite = true) (hnan : x ≠ nan)
    (htop : x ≠ infinity false) : (jsMax lo x).isFinite = true := by
  obtain ⟨a, rfl⟩ := isFinite_iff.mp hlo
  rw [jsMax_eq (ne_nan_of_isFinite hlo) hnan]
  cases x with
  | finite b => split <;> rfl
  | infinity negative =>
    cases negative with
    | false => exact absurd rfl htop
    | true => rfl
  | nan => exact absurd rfl hnan

/-- Clamping leaves a finite number of whatever is a number. -/
theorem isFinite_clamp {lo hi x : JsNumber} (hlo : lo.isFinite = true) (hhi : hi.isFinite = true)
    (hx : x ≠ nan) : (jsMin hi (jsMax lo x)).isFinite = true := by
  obtain ⟨b, rfl⟩ := isFinite_iff.mp hhi
  by_cases htop : x = infinity false
  · obtain ⟨a, rfl⟩ := isFinite_iff.mp hlo
    subst htop
    rfl
  · have hmax := isFinite_jsMax hlo hx htop
    rw [jsMin_eq (ne_nan_of_isFinite hhi) (ne_nan_of_isFinite hmax)]
    split
    next => rfl
    next => exact hmax

/-- `Math.min(1, x)` of a magnitude. -/
theorem within_unit {x : JsNumber} (h : 0 ≤ x) : Within 1 (jsMin 1 x) := by
  have hone : Within 1 1 := by
    rw [one_eq]
    exact (abs_one (α := ℚ)).le
  cases x with
  | finite a =>
    rw [jsMin_eq (ne_nan_of_isFinite hone.isFinite) (by simp)]
    split
    next => exact hone
    next hsmall =>
      rw [one_eq, finite_le, not_le] at hsmall
      exact (abs_of_nonneg (zero_le_finite.mp h)).trans_le hsmall.le
  | infinity negative =>
    cases zero_le_infinity.mp h
    rw [one_eq] at hone ⊢
    exact hone
  | nan => exact absurd h not_zero_le_nan

/-- The time since a moment that is not before the epoch. -/
theorem isFinite_elapsed {x y : JsNumber} (hx : x.isFinite = true) (hy : y.isFinite = true)
    (hpos : 0 ≤ y) : (jsMax 0 (x - y)).isFinite = true := by
  obtain ⟨a, rfl⟩ := isFinite_iff.mp hx
  obtain ⟨b, rfl⟩ := isFinite_iff.mp hy
  refine isFinite_jsMax isFinite_zero (ofRat_ne_nan _) (ofRat_ne_top ?_)
  have hb : 0 ≤ b.value := zero_le_finite.mp hpos
  have ha : a.value ≤ maxFinite := (abs_le.mp a.representable.abs_le_max).2
  change a.value + -b.value ≤ maxFinite
  linarith

theorem isFinite_round {x : JsNumber} (h : x.isFinite = true) : (round x).isFinite = true := by
  obtain ⟨a, rfl⟩ := isFinite_iff.mp h
  obtain ⟨hlower, hupper⟩ := abs_le.mp a.representable.abs_le_max
  -- the bound is a whole number, so rounding does not pass it
  obtain ⟨n, hn⟩ := exists_maxFinite_eq
  rw [hn] at hlower hupper
  have hleast : -n ≤ ⌊a.value + 1 / 2⌋ := by
    refine Int.le_floor.mpr ?_
    push_cast
    linarith
  have hmost : ⌊a.value + 1 / 2⌋ < n + 1 := by
    refine Int.floor_lt.mpr ?_
    push_cast
    linarith
  refine isFinite_ofRat ?_
  rw [hn]
  exact_mod_cast abs_le.mpr ⟨hleast, Int.lt_add_one_iff.mp hmost⟩

theorem isFinite_divLit {n : ℕ} (hn : 1 ≤ n) {x : JsNumber} (h : x.isFinite = true) :
    (divLit n x).isFinite = true := by
  obtain ⟨a, rfl⟩ := isFinite_iff.mp h
  have hdivisor : (1 : ℚ) ≤ n := by exact_mod_cast hn
  refine isFinite_ofRat ?_
  rw [abs_div, Nat.abs_cast]
  exact (div_le_self (abs_nonneg a.value) hdivisor).trans a.representable.abs_le_max

theorem isFinite_of_isInteger {x : JsNumber} (h : isInteger x = true) : x.isFinite = true := by
  cases x with
  | finite a => rfl
  | infinity negative => cases h
  | nan => cases h

theorem within_ofCount (n : ℕ) : Within (2 ^ 53) (ofCount n) := by
  refine within_ofRat (representable_two_pow (by norm_num)) ?_
  rw [Nat.abs_cast]
  exact_mod_cast min_le_right n (2 ^ 53)

@[simp] theorem isFinite_ofCount (n : ℕ) : (ofCount n).isFinite = true :=
  (within_ofCount n).isFinite

@[simp] theorem isFinite_ofTime (now : ℤ) : (ofTime now).isFinite = true := by
  refine (within_ofRat (representable_two_pow (show 53 ≤ 971 by norm_num)) ?_).isFinite
  have hbound : |max (-8640000000000000) (min 8640000000000000 now)| ≤ (2 : ℤ) ^ 53 := by
    rw [abs_le]
    omega
  exact_mod_cast hbound

def FiniteVec (v : Vec3 JsNumber) : Prop :=
  v.x.isFinite = true ∧ v.y.isFinite = true ∧ v.z.isFinite = true

/-- No component is `NaN`. -/
def NumberVec (v : Vec3 JsNumber) : Prop := v.x ≠ nan ∧ v.y ≠ nan ∧ v.z ≠ nan

theorem FiniteVec.numberVec {v : Vec3 JsNumber} (h : FiniteVec v) : NumberVec v :=
  ⟨ne_nan_of_isFinite h.1, ne_nan_of_isFinite h.2.1, ne_nan_of_isFinite h.2.2⟩

end JsNumber
end RealtimeGameServer.Source
