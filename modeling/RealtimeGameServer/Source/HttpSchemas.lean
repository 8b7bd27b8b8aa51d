import RealtimeGameServer.Source.Auth
import RealtimeGameServer.Source.Gateway
import RealtimeGameServer.Source.JsNumber
import RealtimeGameServer.Source.PlayerService

/-!
# The schemas of the request bodies

Source: api/schemas/index.ts and the `adminPlayerTargetSchema` of api/routes/admin.ts. A
body is what `JSON.parse` returns; its numbers are those of `JsNumber`. `none` is a
`ZodError`, whose issues are not represented. The email pattern of zod, `Number` and
`JSON.stringify` are parameters.
-/
namespace RealtimeGameServer.Source
open Gateway (utf16Length)

abbrev Body := Json JsNumber

/-- `z.string()` on a member. -/
def stringField (body : Body) (key : String) : Option String := (body.field key).bind Json.asStr

/-- `.min(least).max(most)` on a string. -/
def lengthIn (least most : Nat) (s : String) : Bool :=
  least ≤ utf16Length s && utf16Length s ≤ most

/-- `z.string().trim().min(least).max(most)` on a member. -/
def trimmedField (body : Body) (key : String) (least most : Nat) : Option String :=
  ((stringField body key).map trim).filter (lengthIn least most)

/-- `.int()`. -/
def asInt : JsNumber → Option Int
  | .finite x => if x.value.den = 1 then some x.value.num else none
  | _ => none

/-- `.int().min(least).max(most)`. -/
def intIn (least most : Int) (value : JsNumber) : Option Int :=
  (asInt value).filter fun n => least ≤ n && n ≤ most

/-- `z.number().int().min(least).max(most)` on a member. -/
def intField (body : Body) (key : String) (least most : Int) : Option Int :=
  ((body.field key).bind Json.asNum).bind (intIn least most)

/-- `/^[a-zA-Z0-9_]+$/`. -/
def isUsername (s : String) : Bool :=
  s ≠ "" && s.toList.all fun c => c.isAlphanum || c = '_'

/-- `z.string().trim().email().max(255)`, in lower case. -/
def emailField (isEmail : String → Bool) (body : Body) : Option String :=
  (((stringField body "email").map trim).filter fun email =>
    isEmail email && utf16Length email ≤ 255).map toLowerCase

def registerSchema (isEmail : String → Bool) (body : Body) : Option Auth.RegisterInput := do
  let email ← emailField isEmail body
  let username ← (trimmedField body "username" 3 24).filter isUsername
  let password ← (stringField body "password").filter (lengthIn 8 128)
  some { email, username := toLowerCase username, password }

def loginSchema (isEmail : String → Bool) (body : Body) : Option Auth.LoginInput := do
  let email ← emailField isEmail body
  let password ← (stringField body "password").filter (lengthIn 1 128)
  some { email, password }

def refreshSchema (body : Body) : Option String :=
  (stringField body "refreshToken").filter (lengthIn 1 4096)

structure CreateRoomBody where
  name : String
  maxPlayers : Option Int
  deriving DecidableEq, Repr

def createRoomSchema (body : Body) : Option CreateRoomBody := do
  let name ← trimmedField body "name" 3 48
  match body.field "maxPlayers" with
  | none => some { name, maxPlayers := none }
  | some _ => (intField body "maxPlayers" 2 8).map fun n => { name, maxPlayers := some n }

def joinRoomSchema (body : Body) : Option String :=
  (trimmedField body "code" 4 8).map toUpperCase

def readySchema (body : Body) : Option Bool :=
  match body.field "ready" with
  | some (.bool ready) => some ready
  | _ => none

structure AddInventoryBody where
  itemKey : String
  name : String
  quantity : Int
  metadata : Option String
  deriving DecidableEq, Repr

/-- `z.record(z.unknown()).optional()`; the object is kept as its text. -/
def metadataField (stringify : Body → String) (body : Body) : Option (Option String) :=
  match body.field "metadata" with
  | none => some none
  | some (.obj member) => some (some (stringify (.obj member)))
  | some _ => none

def addInventorySchema (stringify : Body → String) (body : Body) : Option AddInventoryBody := do
  let itemKey ← trimmedField body "itemKey" 1 64
  let name ← trimmedField body "name" 1 64
  let quantity ← intField body "quantity" 1 999
  let metadata ← metadataField stringify body
  some { itemKey, name, quantity, metadata }

structure RemoveInventoryBody where
  itemKey : String
  quantity : Int
  deriving DecidableEq, Repr

def removeInventorySchema (body : Body) : Option RemoveInventoryBody := do
  let itemKey ← trimmedField body "itemKey" 1 64
  let quantity ← intField body "quantity" 1 999
  some { itemKey, quantity }

/-- The names of `EQUIPMENT_SLOTS`. -/
def slotNamed : String → Option EquipmentSlot
  | "weapon" => some .weapon
  | "helmet" => some .helmet
  | "chest" => some .chest
  | "legs" => some .legs
  | "boots" => some .boots
  | "accessory" => some .accessory
  | _ => none

/-- `z.enum(EQUIPMENT_SLOTS)`. -/
def slotField (body : Body) : Option EquipmentSlot := (stringField body "slot").bind slotNamed

def equipSchema (body : Body) : Option (EquipmentSlot × String) := do
  let slot ← slotField body
  let itemKey ← trimmedField body "itemKey" 1 64
  some (slot, itemKey)

def unequipSchema (body : Body) : Option EquipmentSlot := slotField body

structure CoinTransferBody where
  amount : Int
  reason : String
  deriving DecidableEq, Repr

def coinTransferSchema (body : Body) : Option CoinTransferBody := do
  let amount ← intField body "amount" 1 1000000
  let reason ← trimmedField body "reason" 1 128
  some { amount, reason }

/-- The `limit` of the query string, `none` when it is not there. -/
def leaderboardQuerySchema (number : String → JsNumber) : Option String → Option Int
  | none => some 10
  | some limit => intIn 1 100 (number limit)

def adminPlayerTargetSchema (body : Body) : Option String :=
  (stringField body "playerId").filter isUuid

theorem lengthIn_iff {least most : Nat} {s : String} :
    lengthIn least most s = true ↔ least ≤ utf16Length s ∧ utf16Length s ≤ most := by
  rw [lengthIn, Bool.and_eq_true, decide_eq_true_eq, decide_eq_true_eq]

theorem intIn_some {least most n : Int} {value : JsNumber} (h : intIn least most value = some n) :
    least ≤ n ∧ n ≤ most := by
  obtain ⟨-, hrange⟩ := Option.filter_eq_some_iff.mp h
  rwa [Bool.and_eq_true, decide_eq_true_eq, decide_eq_true_eq] at hrange

end RealtimeGameServer.Source
