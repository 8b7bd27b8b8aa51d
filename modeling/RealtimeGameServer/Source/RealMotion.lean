import Mathlib.Algebra.Order.Round
import Mathlib.Analysis.Real.Pi.Bounds
import RealtimeGameServer.Lib.Euclid3
import RealtimeGameServer.Source.AntiCheat

/-!
# Movement validation over the real numbers

The instance that reads the source's numbers as exact reals, and what the
validator computes there. The commanded velocity has length
`maxSpeed * (min 1 |move| * |move|)`, so the position check never rejects what
passed the earlier ones and acceptance depends on the sequence number and the
input alone. The stored position is the clamp of a proposal, hence inside the
world, and lies no further from an inside position than the proposal does.
-/
namespace RealtimeGameServer.Source
open Lib.Euclid3

open Classical in
/-- Exact real arithmetic; both roundings send halves up. -/
noncomputable instance : JsMath ℝ where
  sqrt := Real.sqrt
  cos := Real.cos
  sin := Real.sin
  pi := Real.pi
  round x := (round x : ℤ)
  isInteger x := decide (∃ n : ℤ, x = n)

theorem magnitude_eq (v : Vec3 ℝ) : magnitude v = norm3 v.x v.y v.z := rfl

theorem distance3_eq (a b : Vec3 ℝ) :
    distance3 a b = norm3 (a.x - b.x) (a.y - b.y) (a.z - b.z) := rfl

theorem magnitude_nonneg (v : Vec3 ℝ) : 0 ≤ magnitude v := norm3_nonneg _ _ _

theorem distance3_self (a : Vec3 ℝ) : distance3 a a = 0 := by simp [distance3_eq]

theorem distance3_triangle (a b c : Vec3 ℝ) : distance3 a c ≤ distance3 a b + distance3 b c := by
  simp only [distance3_eq]
  have h := norm3_add_le (a.x - b.x) (a.y - b.y) (a.z - b.z) (b.x - c.x) (b.y - c.y) (b.z - c.z)
  simpa only [sub_add_sub_cancel] using h

section Velocity
variable {maxSpeed : ℝ} (hpos : 0 < maxSpeed)
include hpos

theorem magnitude_nextVelocity (move : Vec3 ℝ) :
    magnitude (nextVelocity maxSpeed move) =
      maxSpeed * (min 1 (magnitude move) * magnitude move) := by
  have hfactor : 0 ≤ min 1 (magnitude move) * maxSpeed :=
    mul_nonneg (le_min zero_le_one (magnitude_nonneg move)) hpos.le
  rw [magnitude_eq, nextVelocity, norm3_mul, abs_of_nonneg hfactor, ← magnitude_eq]
  ring

/-- The intent check alone keeps the commanded velocity within 5% of the limit. -/
theorem magnitude_nextVelocity_le {move : Vec3 ℝ} (h : magnitude move ≤ 1.05) :
    magnitude (nextVelocity maxSpeed move) ≤ maxSpeed * 1.05 := by
  rw [magnitude_nextVelocity hpos]
  refine mul_le_mul_of_nonneg_left ?_ hpos.le
  calc min 1 (magnitude move) * magnitude move
      ≤ 1 * magnitude move := mul_le_mul_of_nonneg_right (min_le_left _ _) (magnitude_nonneg _)
    _ ≤ 1.05 := by rw [one_mul]; exact h

end Velocity

theorem distance3_proposed (position velocity : Vec3 ℝ) {dt : ℝ} (hdt : 0 ≤ dt) :
    distance3 (proposedPosition position velocity dt) position = magnitude velocity * dt := by
  simp only [distance3_eq, proposedPosition, add_sub_cancel_left, norm3_mul, abs_of_nonneg hdt,
    ← magnitude_eq]

/-- The position check repeats what the earlier checks have established. -/
theorem accepted_iff {maxSpeed : ℝ} (hpos : 0 < maxSpeed) (state : RuntimePlayerState ℝ)
    (input : MovementInput ℝ) :
    (validateAndApplyMovement state input maxSpeed).accepted = true ↔
      state.lastProcessedInputSeq < input.seq ∧ Admissible maxSpeed input := by
  constructor
  · intro h
    exact ⟨(validate_accepted h).1, (validate_accepted h).2.1⟩
  · rintro ⟨hseq, hadm⟩
    have hdt : ¬(input.dt ≤ 0 ∨ input.dt > 0.25) := by
      rw [not_or]
      exact ⟨not_le.mpr hadm.dt_pos, not_lt.mpr hadm.dt_le⟩
    have hlen := magnitude_nextVelocity_le hpos hadm.move_le
    have hnear : ¬distance3 (proposedPosition state.position (nextVelocity maxSpeed input.move)
        input.dt) state.position > maxSpeed * input.dt * 1.15 := by
      rw [distance3_proposed _ _ hadm.dt_pos.le, not_lt]
      calc magnitude (nextVelocity maxSpeed input.move) * input.dt
          ≤ maxSpeed * 1.05 * input.dt := mul_le_mul_of_nonneg_right hlen hadm.dt_pos.le
        _ ≤ maxSpeed * input.dt * 1.15 := by nlinarith [mul_pos hpos hadm.dt_pos]
    unfold validateAndApplyMovement
    rw [if_neg (not_le.mpr hseq), if_neg hdt, if_neg (not_lt.mpr hadm.move_le)]
    dsimp only
    rw [if_neg (not_lt.mpr hadm.speed_le)]
    exact congrArg ValidationResult.accepted (if_neg hnear)

structure InWorld (v : Vec3 ℝ) : Prop where
  minX : -100 ≤ v.x
  maxX : v.x ≤ 100
  minY : 0 ≤ v.y
  maxY : v.y ≤ 50
  minZ : -100 ≤ v.z
  maxZ : v.z ≤ 100

theorem clampVec3_inWorld (v : Vec3 ℝ) : InWorld (clampVec3 v worldBounds) := by
  have hx := clamp_mem (show (-100 : ℝ) ≤ 100 by norm_num) v.x
  have hy := clamp_mem (show (0 : ℝ) ≤ 50 by norm_num) v.y
  have hz := clamp_mem (show (-100 : ℝ) ≤ 100 by norm_num) v.z
  exact ⟨hx.1, hx.2, hy.1, hy.2, hz.1, hz.2⟩

/-- From a position inside the world clamping only shortens the move. -/
theorem distance3_clamp_le {p : Vec3 ℝ} (hp : InWorld p) (v : Vec3 ℝ) :
    distance3 (clampVec3 v worldBounds) p ≤ distance3 v p :=
  norm3_mono (abs_clamp_sub_le hp.minX hp.maxX v.x) (abs_clamp_sub_le hp.minY hp.maxY v.y)
    (abs_clamp_sub_le hp.minZ hp.maxZ v.z)

theorem spawn_inWorld (id username : String) (spawnIndex : Nat) (now : Int) :
    InWorld (createRuntimePlayer (R := ℝ) id username spawnIndex now).position := by
  have hcos := abs_le.mp (Real.abs_cos_le_one (spawnIndex * Real.pi * 2 / 8))
  have hsin := abs_le.mp (Real.abs_sin_le_one (spawnIndex * Real.pi * 2 / 8))
  constructor <;> simp only [createRuntimePlayer, createVec3, JsMath.cos, JsMath.sin, JsMath.pi] <;>
    linarith [hcos.1, hcos.2, hsin.1, hsin.2]

/-- An accepted input moves the stored position no further than the commanded
velocity carries it in `dt`. -/
theorem distance3_advance_le {maxSpeed : ℝ} {state : RuntimePlayerState ℝ}
    {input : MovementInput ℝ} (hin : InWorld state.position) (hdt : 0 ≤ input.dt) :
    distance3 (advance maxSpeed state input).position state.position ≤
      magnitude (nextVelocity maxSpeed input.move) * input.dt := by
  rw [← distance3_proposed state.position _ hdt]
  exact distance3_clamp_le hin _

/-- Standing still is admissible under every speed limit. -/
theorem admissible_still {maxSpeed : ℝ} (hpos : 0 < maxSpeed) {input : MovementInput ℝ}
    (hdt : 0 < input.dt) (hdt' : input.dt ≤ 0.25) (hmove : input.move = ⟨0, 0, 0⟩) :
    Admissible maxSpeed input where
  dt_pos := hdt
  dt_le := hdt'
  move_le := by
    rw [hmove, magnitude_eq]
    norm_num
  speed_le := by
    rw [magnitude_nextVelocity hpos, hmove, magnitude_eq]
    norm_num
    linarith

/-- A full-speed intent along x, numbered `seq`. -/
noncomputable def runInput (seq : ℝ) : MovementInput ℝ where
  seq
  dt := 0.05
  move := ⟨1, 0, 0⟩
  look := ⟨0, 0, 0⟩

end RealtimeGameServer.Source
