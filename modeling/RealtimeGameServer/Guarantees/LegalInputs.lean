import Mathlib.Tactic.NormNum.RealSqrt
import RealtimeGameServer.Source.Protocol
import RealtimeGameServer.Source.RealMotion

/-!
# What the validator makes of a legal input

Two readings of `validateAndApplyMovement` over exact reals. A list of inputs
that the schema, the numbering and the intent check admit is accepted as a whole
exactly when none of them is numbered 0, the counter a new player starts with,
and none commands more than the speed limit and its margin
(`legal_inputs_accepted_iff`). The stored velocity of an accepted input points
along the intent; the intent's length enters it twice, so its magnitude is the
computed speed exactly for intents of length 0 and 1 (`speed_linear_iff`).
-/
namespace RealtimeGameServer.Guarantees.LegalInputs
open Lib.Euclid3 Source

section
variable {R : Type*} [Field R] [LinearOrder R] [JsMath R]

/-- The results of validating a list in turn, each input against the state that
the one before it left. -/
def validateAll (maxSpeed : R) :
    RuntimePlayerState R → List (MovementInput R) → List (ValidationResult R)
  | _, [] => []
  | state, input :: rest =>
    let result := validateAndApplyMovement state input maxSpeed
    result :: validateAll maxSpeed result.state rest

def AllAccepted (results : List (ValidationResult R)) : Prop :=
  ∀ result ∈ results, result.accepted = true

end

/-- A list is accepted when every input is admissible and the numbers rise from
the player's counter. -/
theorem validateAll_accepted_iff {maxSpeed : ℝ} (hpos : 0 < maxSpeed)
    (state : RuntimePlayerState ℝ) (inputs : List (MovementInput ℝ)) :
    AllAccepted (validateAll maxSpeed state inputs) ↔
      (∀ input ∈ inputs, Admissible maxSpeed input) ∧
        (state.lastProcessedInputSeq :: inputs.map (·.seq)).IsChain (· < ·) := by
  induction inputs generalizing state with
  | nil => simp [validateAll, AllAccepted]
  | cons input rest ih =>
    have hcons : AllAccepted (validateAll maxSpeed state (input :: rest)) ↔
        (validateAndApplyMovement state input maxSpeed).accepted = true ∧
          AllAccepted (validateAll maxSpeed
            (validateAndApplyMovement state input maxSpeed).state rest) := List.forall_mem_cons
    rw [hcons, List.forall_mem_cons, List.map_cons, List.isChain_cons_cons]
    constructor
    · rintro ⟨haccept, hrest⟩
      obtain ⟨hseq, hadm, hstate⟩ := validate_accepted haccept
      rw [hstate, ih] at hrest
      exact ⟨⟨hadm, hrest.1⟩, hseq, hrest.2⟩
    · rintro ⟨⟨hadm, hrest⟩, hseq, hchain⟩
      have haccept := (accepted_iff hpos state input).mpr ⟨hseq, hadm⟩
      rw [(validate_accepted haccept).2.2, ih]
      exact ⟨haccept, hrest, hchain⟩

/-- What the schema and the client's numbering promise of a list, with every
intent within the validator's tolerance. -/
structure Legal (inputs : List (MovementInput ℝ)) : Prop where
  schema : ∀ input ∈ inputs, ∃ value, clientMessageSchema value = some (.input input)
  numbered : inputs.Pairwise fun a b => a.seq < b.seq
  move_le : ∀ input ∈ inputs, magnitude input.move ≤ 1.05

theorem Legal.checks {inputs : List (MovementInput ℝ)} (h : Legal inputs) :
    ∀ input ∈ inputs, 0 ≤ input.seq ∧ 0 < input.dt ∧ input.dt ≤ 0.25 := by
  intro input hinput
  have hchecks := (clientMessageSchema_input_iff input).mp (h.schema input hinput)
  simp only [inputChecks, Bool.and_eq_true, decide_eq_true_eq] at hchecks
  obtain ⟨⟨⟨⟨⟨⟨-, hseq⟩, hdt⟩, hdt'⟩, -⟩, -⟩, -⟩ := hchecks
  exact ⟨hseq, hdt, hdt'⟩

/-- Within the tolerance the commanded speed exceeds the margin only for an
intent that is longer than 1. -/
theorem speed_le_iff {maxSpeed : ℝ} (hpos : 0 < maxSpeed) (move : Vec3 ℝ) :
    magnitude (nextVelocity maxSpeed move) ≤ maxSpeed + 0.01 ↔
      maxSpeed * magnitude move ≤ maxSpeed + 0.01 := by
  rw [magnitude_nextVelocity hpos]
  rcases le_total (magnitude move) 1 with hle | hge
  · rw [min_eq_right hle]
    have hnonneg := magnitude_nonneg move
    have hone : maxSpeed * magnitude move ≤ maxSpeed := mul_le_of_le_one_right hpos.le hle
    have hsquare : maxSpeed * (magnitude move * magnitude move) ≤ maxSpeed * magnitude move :=
      mul_le_mul_of_nonneg_left (mul_le_of_le_one_right hnonneg hle) hpos.le
    constructor <;> intro <;> linarith
  · rw [min_eq_left hge, one_mul]

/-- A legal list is accepted by a new player as a whole if and only if no input
is numbered 0 and none commands more than the limit and its margin of 0.01. -/
theorem legal_inputs_accepted_iff {maxSpeed : ℝ} (hpos : 0 < maxSpeed) (id username : String)
    (spawnIndex : Nat) (now : Int) {inputs : List (MovementInput ℝ)} (legal : Legal inputs) :
    AllAccepted
        (validateAll maxSpeed (createRuntimePlayer id username spawnIndex now) inputs) ↔
      ∀ input ∈ inputs, input.seq ≠ 0 ∧ maxSpeed * magnitude input.move ≤ maxSpeed + 0.01 := by
  rw [validateAll_accepted_iff hpos, List.isChain_iff_pairwise, List.pairwise_cons,
    List.pairwise_map]
  constructor
  · rintro ⟨hadm, hseq, -⟩ input hinput
    have hlt : 0 < input.seq := hseq input.seq (List.mem_map_of_mem hinput)
    exact ⟨hlt.ne', (speed_le_iff hpos input.move).mp (hadm input hinput).speed_le⟩
  · intro hmeet
    refine ⟨?_, ?_, legal.numbered⟩
    · intro input hinput
      obtain ⟨-, hdt, hdt'⟩ := legal.checks input hinput
      exact ⟨hdt, hdt', legal.move_le input hinput,
        (speed_le_iff hpos input.move).mpr (hmeet input hinput).2⟩
    · intro n hn
      obtain ⟨input, hinput, rfl⟩ := List.mem_map.mp hn
      exact lt_of_le_of_ne (legal.checks input hinput).1 (hmeet input hinput).1.symm

/-- An input with a given number and an intent in the plane `z = 0`. -/
noncomputable def planar (seq x y : ℝ) : MovementInput ℝ where
  seq := seq
  dt := 0.05
  move := ⟨x, y, 0⟩
  look := ⟨0, 0, 0⟩

theorem planar_legal (n : ℕ) {x y : ℝ} (hx : 0 ≤ x) (hx' : x ≤ 1) (hy : 0 ≤ y) (hy' : y ≤ 1)
    (hlen : magnitude (planar n x y).move ≤ 1.05) : Legal [planar n x y] where
  schema := by
    intro input hinput
    cases List.mem_singleton.mp hinput
    have hint : JsMath.isInteger (n : ℝ) = true := by
      simp only [JsMath.isInteger, decide_eq_true_eq]
      exact ⟨n, by simp⟩
    have hx0 : -1 ≤ x := by linarith
    have hy0 : -1 ≤ y := by linarith
    refine (clientMessageSchema_input_iff _).mpr ?_
    norm_num [inputChecks, planar, unitRange, hint, hx', hy', hx0, hy0]
  numbered := List.pairwise_singleton _ _
  move_le := by
    intro input hinput
    cases List.mem_singleton.mp hinput
    exact hlen

/-- An input before later ones. -/
theorem Legal.cons {input : MovementInput ℝ} {inputs : List (MovementInput ℝ)}
    (h : Legal [input]) (hrest : Legal inputs) (hrising : ∀ later ∈ inputs, input.seq < later.seq) :
    Legal (input :: inputs) where
  schema := List.forall_mem_cons.mpr ⟨h.schema input List.mem_cons_self, hrest.schema⟩
  numbered := List.pairwise_cons.mpr ⟨hrising, hrest.numbered⟩
  move_le := List.forall_mem_cons.mpr ⟨h.move_le input List.mem_cons_self, hrest.move_le⟩

/-- Full speed along the axis, full speed across, and half of it, with gaps in the numbers. -/
noncomputable def strides : List (MovementInput ℝ) :=
  [planar (1 : ℕ) 1 0, planar (4 : ℕ) 0.6 0.8, planar (9 : ℕ) 0 0.5]

theorem magnitude_planar_le {seq x y : ℝ} (h : x ^ 2 + y ^ 2 ≤ 1) :
    magnitude (planar seq x y).move ≤ 1 := by
  have hsq : magnitude (planar seq x y).move ^ 2 = x ^ 2 + y ^ 2 := by
    rw [magnitude_eq, norm3_sq]
    simp only [planar]
    ring
  have hnonneg := magnitude_nonneg (planar seq x y).move
  nlinarith

theorem strides_length : ∀ input ∈ strides, magnitude input.move ≤ 1 := by
  intro input hinput
  simp only [strides, List.mem_cons, List.not_mem_nil, or_false] at hinput
  rcases hinput with rfl | rfl | rfl <;> exact magnitude_planar_le (by norm_num)

theorem strides_legal : Legal strides := by
  have hlen : ∀ input ∈ strides, magnitude input.move ≤ 1.05 := fun input hinput =>
    (strides_length input hinput).trans (by norm_num)
  simp only [strides, List.forall_mem_cons] at hlen
  obtain ⟨hfirst, hsecond, hthird, -⟩ := hlen
  have hlast : Legal [planar (9 : ℕ) 0 0.5] :=
    planar_legal 9 le_rfl zero_le_one (by norm_num) (by norm_num) hthird
  have hmiddle : Legal [planar (4 : ℕ) 0.6 0.8, planar (9 : ℕ) 0 0.5] := by
    refine (planar_legal 4 (by norm_num) (by norm_num) (by norm_num) (by norm_num) hsecond).cons
      hlast ?_
    rw [List.forall_mem_singleton]
    norm_num [planar]
  refine (planar_legal 1 zero_le_one le_rfl le_rfl zero_le_one hfirst).cons hmiddle ?_
  simp only [List.forall_mem_cons]
  norm_num [planar]

theorem legal_inputs_accepted_strides :
    AllAccepted (validateAll 12 (createRuntimePlayer "p1" "nova" 0 0) strides) := by
  refine (legal_inputs_accepted_iff (by norm_num) "p1" "nova" 0 0 strides_legal).mpr ?_
  intro input hinput
  refine ⟨?_, by linarith [strides_length input hinput]⟩
  simp only [strides, List.mem_cons, List.not_mem_nil, or_false] at hinput
  rcases hinput with rfl | rfl | rfl <;> norm_num [planar]

/-- A legal input numbered 0 is stale for a new player, and the legal intent
`(1, 0.25, 0)` is a speed cheat at the default limit of 12. -/
theorem legal_inputs_lost :
    (Legal [planar (0 : ℕ) 0 0] ∧ ¬AllAccepted
      (validateAll 12 (createRuntimePlayer "p1" "nova" 0 0) [planar (0 : ℕ) 0 0])) ∧
    Legal [planar (1 : ℕ) 1 0.25] ∧ ¬AllAccepted
      (validateAll 12 (createRuntimePlayer "p1" "nova" 0 0) [planar (1 : ℕ) 1 0.25]) := by
  have hrest : magnitude (planar (0 : ℕ) 0 0).move = 0 := by norm_num [magnitude_eq, planar, norm3]
  have hsq : magnitude (planar (1 : ℕ) 1 0.25).move ^ 2 = 1.0625 := by
    rw [magnitude_eq, norm3_sq]
    norm_num [planar]
  have hnonneg := magnitude_nonneg (planar (1 : ℕ) 1 0.25).move
  refine ⟨⟨planar_legal 0 le_rfl zero_le_one le_rfl zero_le_one (by rw [hrest]; norm_num), ?_⟩,
    planar_legal 1 zero_le_one le_rfl (by norm_num) (by norm_num) (by nlinarith), ?_⟩
  · rw [validateAll_accepted_iff (by norm_num)]
    rintro ⟨-, hchain⟩
    norm_num [createRuntimePlayer, planar] at hchain
  · rw [validateAll_accepted_iff (by norm_num)]
    rintro ⟨hadm, -⟩
    have hspeed := (hadm _ (List.mem_singleton_self _)).speed_le
    rw [speed_le_iff (by norm_num)] at hspeed
    nlinarith

/-- The velocity points along the intent and its magnitude is the computed speed. -/
structure SpeedLinear (maxSpeed : ℝ) (move velocity : Vec3 ℝ) : Prop where
  direction : ∃ c : ℝ, 0 < c ∧ velocity = ⟨move.x * c, move.y * c, move.z * c⟩
  speed : magnitude velocity = maxSpeed * min 1 (magnitude move)

/-- The direction is right for every intent. -/
theorem nextVelocity_direction {maxSpeed : ℝ} (hpos : 0 < maxSpeed) (move : Vec3 ℝ) :
    ∃ c : ℝ, 0 < c ∧ nextVelocity maxSpeed move = ⟨move.x * c, move.y * c, move.z * c⟩ := by
  rcases (magnitude_nonneg move).eq_or_lt with hzero | hlt
  · obtain ⟨hx, hy, hz⟩ := norm3_eq_zero hzero.symm
    exact ⟨1, one_pos, by simp [nextVelocity, hx, hy, hz]⟩
  · exact ⟨_, mul_pos (lt_min one_pos hlt) hpos, rfl⟩

/-- For an accepted input the stored velocity points along the intent with
magnitude `maxSpeed * min 1 |move|` if and only if the intent has length 0 or 1. -/
theorem speed_linear_iff {maxSpeed : ℝ} (hpos : 0 < maxSpeed) (state : RuntimePlayerState ℝ)
    (input : MovementInput ℝ)
    (accepted : (validateAndApplyMovement state input maxSpeed).accepted = true) :
    SpeedLinear maxSpeed input.move
        (validateAndApplyMovement state input maxSpeed).state.velocity ↔
      magnitude input.move = 0 ∨ magnitude input.move = 1 := by
  have hstored : (validateAndApplyMovement state input maxSpeed).state.velocity =
      nextVelocity maxSpeed input.move := by
    rw [(validate_accepted accepted).2.2]
    rfl
  rw [hstored]
  have hlength := magnitude_nextVelocity hpos input.move
  constructor
  · intro hlinear
    rw [hlinear.speed] at hlength
    have hfactor := mul_left_cancel₀ hpos.ne' hlength
    rcases (magnitude_nonneg input.move).eq_or_lt with hzero | hlt
    · exact Or.inl hzero.symm
    · right
      have hmin : min 1 (magnitude input.move) ≠ 0 := (lt_min one_pos hlt).ne'
      exact (mul_left_cancel₀ hmin ((mul_one _).trans hfactor)).symm
  · intro hunit
    refine ⟨nextVelocity_direction hpos input.move, hlength.trans ?_⟩
    rcases hunit with h | h <;> simp [h]

theorem planar_accepted {x : ℝ} (hx : 0 ≤ x) (hx' : x ≤ 1) :
    (validateAndApplyMovement (createRuntimePlayer "p1" "nova" 0 0) (planar (1 : ℕ) x 0)
      12).accepted = true ∧ magnitude (planar (1 : ℕ) x 0).move = x := by
  have hlen : magnitude (planar (1 : ℕ) x 0).move = x := by
    simp [magnitude_eq, planar, norm3, Real.sqrt_mul_self hx]
  refine ⟨(accepted_iff (by norm_num) _ _).mpr ⟨?_, ?_, ?_, ?_, ?_⟩, hlen⟩
  · norm_num [planar, createRuntimePlayer]
  · norm_num [planar]
  · norm_num [planar]
  · rw [hlen]
    linarith
  · rw [speed_le_iff (by norm_num), hlen]
    linarith

theorem speed_linear_full :
    SpeedLinear 12 (planar (1 : ℕ) 1 0).move
      (validateAndApplyMovement (createRuntimePlayer "p1" "nova" 0 0) (planar (1 : ℕ) 1 0)
        12).state.velocity :=
  (speed_linear_iff (by norm_num) _ _ (planar_accepted zero_le_one le_rfl).1).mpr
    (Or.inr (planar_accepted zero_le_one le_rfl).2)

/-- Half an intent gives a quarter of the speed. -/
theorem half_intent_quarter_speed :
    (validateAndApplyMovement (createRuntimePlayer "p1" "nova" 0 0) (planar (1 : ℕ) 0.5 0)
      12).accepted = true ∧
    ¬SpeedLinear 12 (planar (1 : ℕ) 0.5 0).move
      (validateAndApplyMovement (createRuntimePlayer "p1" "nova" 0 0) (planar (1 : ℕ) 0.5 0)
        12).state.velocity := by
  obtain ⟨haccept, hlen⟩ := planar_accepted (x := 0.5) (by norm_num) (by norm_num)
  refine ⟨haccept, ?_⟩
  intro hlinear
  have hspeed := hlinear.speed
  rw [(validate_accepted haccept).2.2] at hspeed
  simp only [advance] at hspeed
  rw [magnitude_nextVelocity (by norm_num), hlen] at hspeed
  norm_num at hspeed

end RealtimeGameServer.Guarantees.LegalInputs
