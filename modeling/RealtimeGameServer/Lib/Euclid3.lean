import Mathlib.Analysis.InnerProductSpace.PiL2

/-!
# Lengths of triples and clamping to an interval

The length of a real triple as a square root of a sum of squares, identified
once with the norm of Euclidean space (`norm3_eq_norm`), from which the
triangle inequality and scaling come. Clamping is a contraction towards points
of the interval.
-/
namespace RealtimeGameServer.Lib.Euclid3

noncomputable def norm3 (x y z : ℝ) : ℝ := Real.sqrt (x * x + y * y + z * z)

theorem norm3_eq_norm (x y z : ℝ) :
    norm3 x y z = ‖(!₂[x, y, z] : EuclideanSpace ℝ (Fin 3))‖ := by
  rw [EuclideanSpace.norm_eq, Fin.sum_univ_three]
  simp [norm3, sq]

theorem norm3_nonneg (x y z : ℝ) : 0 ≤ norm3 x y z := Real.sqrt_nonneg _

@[simp] theorem norm3_zero : norm3 0 0 0 = 0 := by simp [norm3]

theorem norm3_sq (x y z : ℝ) : norm3 x y z ^ 2 = x ^ 2 + y ^ 2 + z ^ 2 := by
  rw [norm3, Real.sq_sqrt (by nlinarith [mul_self_nonneg x, mul_self_nonneg y, mul_self_nonneg z])]
  ring

theorem norm3_eq_zero {x y z : ℝ} (h : norm3 x y z = 0) : x = 0 ∧ y = 0 ∧ z = 0 := by
  have hsq := norm3_sq x y z
  rw [h] at hsq
  refine ⟨?_, ?_, ?_⟩ <;> nlinarith [sq_nonneg x, sq_nonneg y, sq_nonneg z]

theorem norm3_add_le (x y z x' y' z' : ℝ) :
    norm3 (x + x') (y + y') (z + z') ≤ norm3 x y z + norm3 x' y' z' := by
  simp only [norm3_eq_norm]
  have hsum : (!₂[x + x', y + y', z + z'] : EuclideanSpace ℝ (Fin 3)) =
      !₂[x, y, z] + !₂[x', y', z'] := by
    ext i
    fin_cases i <;> rfl
  rw [hsum]
  exact norm_add_le _ _

theorem norm3_mul (c x y z : ℝ) : norm3 (x * c) (y * c) (z * c) = norm3 x y z * |c| := by
  have hfactor : x * c * (x * c) + y * c * (y * c) + z * c * (z * c) =
      (x * x + y * y + z * z) * (c * c) := by ring
  have hsum : 0 ≤ x * x + y * y + z * z := by
    nlinarith [mul_self_nonneg x, mul_self_nonneg y, mul_self_nonneg z]
  rw [norm3, hfactor, Real.sqrt_mul hsum, Real.sqrt_mul_self_eq_abs, norm3]

theorem norm3_mono {x y z x' y' z' : ℝ} (hx : |x| ≤ |x'|) (hy : |y| ≤ |y'|) (hz : |z| ≤ |z'|) :
    norm3 x y z ≤ norm3 x' y' z' := by
  refine Real.sqrt_le_sqrt ?_
  have square : ∀ a b : ℝ, |a| ≤ |b| → a * a ≤ b * b := fun a b h => by
    rw [← abs_mul_abs_self a, ← abs_mul_abs_self b]
    exact mul_self_le_mul_self (abs_nonneg a) h
  exact add_le_add (add_le_add (square _ _ hx) (square _ _ hy)) (square _ _ hz)

section Clamp
variable {lo hi : ℝ}

theorem clamp_mem (h : lo ≤ hi) (a : ℝ) : lo ≤ min hi (max lo a) ∧ min hi (max lo a) ≤ hi :=
  ⟨le_min h (le_max_left _ _), min_le_left _ _⟩

theorem clamp_of_mem {a : ℝ} (hlo : lo ≤ a) (hhi : a ≤ hi) : min hi (max lo a) = a := by
  rw [max_eq_right hlo, min_eq_right hhi]

/-- Towards a point of the interval clamping only shortens the way. -/
theorem abs_clamp_sub_le {p : ℝ} (hlo : lo ≤ p) (hhi : p ≤ hi) (a : ℝ) :
    |min hi (max lo a) - p| ≤ |a - p| := by
  have hp : p = min hi (max lo p) := (clamp_of_mem hlo hhi).symm
  calc |min hi (max lo a) - p| = |min hi (max lo a) - min hi (max lo p)| := by rw [← hp]
    _ ≤ max |hi - hi| |max lo a - max lo p| := abs_min_sub_min_le_max _ _ _ _
    _ ≤ |a - p| := by
      rw [sub_self, abs_zero, max_comm lo a, max_comm lo p]
      exact max_le (abs_nonneg _) (abs_max_sub_max_le_abs _ _ _)

end Clamp
end RealtimeGameServer.Lib.Euclid3
