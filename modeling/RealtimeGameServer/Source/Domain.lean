import Mathlib.Algebra.Field.Basic
import Mathlib.Algebra.Order.Field.Basic
import Mathlib.Data.Rat.Cast.Defs
import Mathlib.Tactic.NormNum.Ineq

/-!
# Vectors, runtime players, constants and configuration

Source: domain/value-objects/vec3.ts, domain/entities/player.ts:25-36,
shared/constants/game.ts and the fields of shared/config/env.ts that the game
loop and the gateway read. The number type is a parameter: an ordered field
with the members of `Math` the source calls. Rounding, `NaN` and the infinities
of binary64 are not represented here; `JsNumber` has them. Clock values are whole
milliseconds.
-/
namespace RealtimeGameServer.Source

/-- The members of `Math` that are not field or order operations, and
`Number.isInteger`. -/
class JsMath (R : Type*) where
  sqrt : R → R
  cos : R → R
  sin : R → R
  pi : R
  round : R → R
  isInteger : R → Bool

@[ext] structure Vec3 (R : Type*) where
  x : R
  y : R
  z : R
  deriving DecidableEq, Repr

structure Bounds (R : Type*) where
  minX : R
  maxX : R
  minY : R
  maxY : R
  minZ : R
  maxZ : R
  deriving Repr

/-- `RuntimePlayerState`, the in-memory player of a session. -/
structure RuntimePlayerState (R : Type*) where
  id : String
  username : String
  position : Vec3 R
  rotation : Vec3 R
  velocity : Vec3 R
  hp : R
  connected : Bool
  ping : R
  lastProcessedInputSeq : R
  lastHeartbeatAt : Int
  deriving DecidableEq, Repr

section
variable {R : Type*} [Field R] [LinearOrder R]

def createVec3 (x y z : R) : Vec3 R := ⟨x, y, z⟩

def distance3 [JsMath R] (a b : Vec3 R) : R :=
  let dx := a.x - b.x
  let dy := a.y - b.y
  let dz := a.z - b.z
  JsMath.sqrt (dx * dx + dy * dy + dz * dz)

def magnitude [JsMath R] (v : Vec3 R) : R :=
  JsMath.sqrt (v.x * v.x + v.y * v.y + v.z * v.z)

def clampVec3 (v : Vec3 R) (bounds : Bounds R) : Vec3 R where
  x := min bounds.maxX (max bounds.minX v.x)
  y := min bounds.maxY (max bounds.minY v.y)
  z := min bounds.maxZ (max bounds.minZ v.z)

def defaultPlayerHp : R := 100

def worldBounds : Bounds R where
  minX := -100
  maxX := 100
  minY := 0
  maxY := 50
  minZ := -100
  maxZ := 100

/-- The validated environment. The schema's `.positive()` is a field, so a
configuration that did not boot cannot be built. -/
structure Env (R : Type*) [Field R] [LinearOrder R] where
  maxMoveSpeed : R
  gameTickRate : Nat
  heartbeatTimeoutMs : Int
  wsRateLimitPerSecond : Nat
  wsConnectRateLimitPerMinute : Nat
  trustProxy : Bool
  maxMoveSpeed_pos : 0 < maxMoveSpeed
  gameTickRate_pos : 0 < gameTickRate
  heartbeatTimeoutMs_pos : 0 < heartbeatTimeoutMs
  wsRateLimitPerSecond_pos : 0 < wsRateLimitPerSecond
  wsConnectRateLimitPerMinute_pos : 0 < wsConnectRateLimitPerMinute

/-- The schema's default values. -/
def defaultEnv [IsStrictOrderedRing R] : Env R where
  maxMoveSpeed := 12
  gameTickRate := 20
  heartbeatTimeoutMs := 15000
  wsRateLimitPerSecond := 30
  wsConnectRateLimitPerMinute := 60
  trustProxy := false
  maxMoveSpeed_pos := by norm_num
  gameTickRate_pos := by decide
  heartbeatTimeoutMs_pos := by decide
  wsRateLimitPerSecond_pos := by decide
  wsConnectRateLimitPerMinute_pos := by decide

end
end RealtimeGameServer.Source
