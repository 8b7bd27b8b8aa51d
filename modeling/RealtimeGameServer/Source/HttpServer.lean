import RealtimeGameServer.Source.Economy
import RealtimeGameServer.Source.HttpSchemas
import RealtimeGameServer.Source.LobbyService

/-!
# Requests, routes and errors

Source: api/routes, api/middleware and app.ts:66-72. A request is refused by its hooks or
its schema, or it leads to one call of a service, with the arguments of the route. The
account service runs inside the server, its calls interleaved; of the other services the
calls are kept. Left out: the health routes, the rate limit of requests, the headers of
replies and what the services answer; a `HEAD` request is not represented.
-/
namespace RealtimeGameServer.Source
open Lib

/-- What `jwt.verify` returns for an access token. -/
structure AccessTokenClaims where
  sub : String
  userId : String
  playerId : String
  username : String
  type : String
  deriving DecidableEq, Repr

/-- The variables of `env` that the routes read, and the libraries. `jwtVerifyAccess` gives
`none` where it throws. -/
structure HttpEnv where
  adminApiKey : Option String
  tokens : TokenService
  jwtVerifyAccess : (token : String) → (now : Int) → Option AccessTokenClaims
  isEmail : String → Bool
  number : String → JsNumber
  stringify : Body → String

/-- `string | string[] | undefined`. -/
inductive HeaderValue where
  | absent
  | single (value : String)
  | many (values : List String)
  deriving DecidableEq, Repr

/-- A missing body is `null`: no schema lets it through. -/
structure HttpRequest where
  method : String
  path : String
  authorization : Option String
  xAdminKey : HeaderValue
  body : Body
  limit : Option String

/-- The calls of the services. -/
inductive ServiceCall where
  | auth (call : Auth.Call)
  | getProfile (playerId : String)
  | items (call : PlayerService.Call)
  | getInventory (playerId : String)
  | getBalance (playerId : String)
  | listTransactions (playerId : String)
  | transfer (type : CoinTransactionType) (playerId : String) (amount : Int) (reason : String)
  | listRooms
  | getMyRoom (playerId : String)
  | lobby (call : LobbyService.Call)
  | getTopPlayers (limit : Int)
  deriving DecidableEq, Repr

/-- What a handler throws: an error of the server, a `ZodError`, an error with a numeric
`statusCode`, or any other. -/
inductive Thrown where
  | app (error : AppError)
  | zod
  | withStatus (statusCode : Nat)
  | other
  deriving DecidableEq, Repr

/-- The database's errors and those of the libraries have no `statusCode`. -/
def Failure.thrown : Failure → Thrown
  | .app reason => .app reason
  | _ => .other

structure ErrorReply where
  status : Nat
  code : String
  message : String
  deriving DecidableEq, Repr

/-- `SAFE_CLIENT_STATUS_MESSAGES`. -/
def safeClientStatusMessage : Nat → Option String
  | 400 => some "Bad request"
  | 401 => some "Unauthorized"
  | 403 => some "Forbidden"
  | 404 => some "Not found"
  | 409 => some "Conflict"
  | 429 => some "Rate limit exceeded"
  | _ => none

def errorHandler : Thrown → ErrorReply
  | .app error => ⟨error.statusCode, error.code, error.message⟩
  | .zod => ⟨400, "VALIDATION_ERROR", "Request validation failed"⟩
  | .withStatus statusCode =>
    if statusCode = 500 then ⟨500, "INTERNAL_ERROR", "Internal server error"⟩
    else ⟨statusCode, "REQUEST_ERROR", (safeClientStatusMessage statusCode).getD "Request error"⟩
  | .other => ⟨500, "INTERNAL_ERROR", "Internal server error"⟩

namespace HttpServer

/-- `header.slice(7)` of a header that starts with `Bearer `. -/
def bearerToken (authorization : Option String) : Option String :=
  authorization.bind fun header =>
    if "Bearer ".toList.isPrefixOf header.toList then some (String.ofList (header.toList.drop 7))
    else none

def verifyAccessToken (env : HttpEnv) (token : String) (now : Int) : Option AccessTokenClaims :=
  (env.jwtVerifyAccess token now).filter fun claims => claims.type = "access"

/-- The hook, and `requireAuth` in the handler behind it. -/
def authenticate (env : HttpEnv) (now : Int) (request : HttpRequest) :
    Except Thrown AccessTokenClaims :=
  match bearerToken request.authorization with
  | none => .error (.app (.unauthorized "Missing bearer token"))
  | some token =>
    match verifyAccessToken env token now with
    | none => .error (.app (.unauthorized "Invalid or expired access token"))
    | some claims => .ok claims

/-- Equal lengths in bytes, and equal bytes. -/
def safeEqualString (a b : String) : Bool :=
  if a.toUTF8.size ≠ b.toUTF8.size then false else a.toUTF8.data = b.toUTF8.data

def assertAdminKey (env : HttpEnv) (provided : HeaderValue) : Except Thrown Unit :=
  match env.adminApiKey with
  | none | some "" => .error (.app (.forbidden
      "Admin mutations are disabled. Set ADMIN_API_KEY to enable privileged endpoints."))
  | some key =>
    match provided with
    | .absent | .many _ | .single "" => .error (.app (.unauthorized "Missing x-admin-key header"))
    | .single value =>
      if safeEqualString value key then .ok () else .error (.app (.forbidden "Invalid admin key"))

/-- `schema.parse`. -/
def parsed {α : Type} : Option α → Except Thrown α
  | none => .error .zod
  | some value => .ok value

theorem parsed_bind {α : Type} {value : Option α} {next : α → Except Thrown ServiceCall}
    {call : ServiceCall} :
    (parsed value >>= next) = .ok call ↔ ∃ result, value = some result ∧ next result = .ok call := by
  cases value with
  | none => exact iff_of_false (fun h => by cases h) fun ⟨_, h, _⟩ => by cases h
  | some result => exact ⟨fun h => ⟨result, rfl, h⟩, fun ⟨_, h, hnext⟩ => by cases h; exact hnext⟩

/-- The routes without a hook. -/
inductive OpenRoute where
  | register | login | refresh | leaderboard
  deriving DecidableEq, Repr

/-- The routes behind `authenticate`. -/
inductive OwnRoute where
  | logout | logoutAll
  | me | equip | unequip
  | inventory | removeItem
  | balance | transactions
  | rooms | myRoom | createRoom | joinRoom | leaveRoom | readyRoom | startRoom
  deriving DecidableEq, Repr

/-- The routes behind `requireAdmin`. -/
inductive AdminRoute where
  | grantItem | creditCoins | debitCoins
  deriving DecidableEq, Repr

inductive Route where
  | anyone (route : OpenRoute)
  | own (route : OwnRoute)
  | admin (route : AdminRoute)
  deriving DecidableEq, Repr

/-- A route `/` under a prefix is there with the slash and without. -/
def routeOf : (method path : String) → Option Route
  | "POST", "/auth/register" => some (.anyone .register)
  | "POST", "/auth/login" => some (.anyone .login)
  | "POST", "/auth/refresh" => some (.anyone .refresh)
  | "POST", "/auth/logout" => some (.own .logout)
  | "POST", "/auth/logout-all" => some (.own .logoutAll)
  | "GET", "/players/me" => some (.own .me)
  | "POST", "/players/equip" => some (.own .equip)
  | "POST", "/players/unequip" => some (.own .unequip)
  | "GET", "/inventory" | "GET", "/inventory/" => some (.own .inventory)
  | "POST", "/inventory/remove" => some (.own .removeItem)
  | "GET", "/economy/balance" => some (.own .balance)
  | "GET", "/economy/transactions" => some (.own .transactions)
  | "GET", "/lobby/rooms" => some (.own .rooms)
  | "GET", "/lobby/rooms/me" => some (.own .myRoom)
  | "POST", "/lobby/rooms" => some (.own .createRoom)
  | "POST", "/lobby/rooms/join" => some (.own .joinRoom)
  | "POST", "/lobby/rooms/leave" => some (.own .leaveRoom)
  | "POST", "/lobby/rooms/ready" => some (.own .readyRoom)
  | "POST", "/lobby/rooms/start" => some (.own .startRoom)
  | "GET", "/leaderboard" | "GET", "/leaderboard/" => some (.anyone .leaderboard)
  | "POST", "/admin/inventory/grant" => some (.admin .grantItem)
  | "POST", "/admin/economy/credit" => some (.admin .creditCoins)
  | "POST", "/admin/economy/debit" => some (.admin .debitCoins)
  | _, _ => none

def handleOpen (env : HttpEnv) (request : HttpRequest) : OpenRoute → Except Thrown ServiceCall
  | .register => do return .auth (.register (← parsed (registerSchema env.isEmail request.body)))
  | .login => do return .auth (.login (← parsed (loginSchema env.isEmail request.body)))
  | .refresh => do return .auth (.refresh (← parsed (refreshSchema request.body)))
  | .leaderboard => do
    return .getTopPlayers (← parsed (leaderboardQuerySchema env.number request.limit))

def handleOwn (auth : AccessTokenClaims) (body : Body) : OwnRoute → Except Thrown ServiceCall
  | .logout => do return .auth (.logout auth.userId (← parsed (refreshSchema body)))
  | .logoutAll => return .auth (.logoutAll auth.userId)
  | .me => return .getProfile auth.playerId
  | .equip => do
    let (slot, itemKey) ← parsed (equipSchema body)
    return .items (.equipItem auth.playerId slot itemKey)
  | .unequip => do return .items (.unequipItem auth.playerId (← parsed (unequipSchema body)))
  | .inventory => return .getInventory auth.playerId
  | .removeItem => do
    let item ← parsed (removeInventorySchema body)
    return .items (.removeItem ⟨auth.playerId, item.itemKey, item.quantity⟩)
  | .balance => return .getBalance auth.playerId
  | .transactions => return .listTransactions auth.playerId
  | .rooms => return .listRooms
  | .myRoom => return .getMyRoom auth.playerId
  | .createRoom => do
    let room ← parsed (createRoomSchema body)
    return .lobby (.createRoom auth.playerId room.name (room.maxPlayers.map Int.toNat))
  | .joinRoom => do return .lobby (.joinRoom auth.playerId (← parsed (joinRoomSchema body)))
  | .leaveRoom => return .lobby (.leaveRoom auth.playerId)
  | .readyRoom => do return .lobby (.setReady auth.playerId (← parsed (readySchema body)))
  | .startRoom => return .lobby (.startGame auth.playerId)

/-- `/admin/economy/credit` and `/admin/economy/debit`. -/
def transferCall (type : CoinTransactionType) (body : Body) : Except Thrown ServiceCall := do
  let playerId ← parsed (adminPlayerTargetSchema body)
  let transfer ← parsed (coinTransferSchema body)
  return .transfer type playerId transfer.amount transfer.reason

def handleAdmin (env : HttpEnv) (body : Body) : AdminRoute → Except Thrown ServiceCall
  | .grantItem => do
    let playerId ← parsed (adminPlayerTargetSchema body)
    let item ← parsed (addInventorySchema env.stringify body)
    return .items (.addItem ⟨playerId, item.itemKey, item.name, item.quantity, item.metadata⟩)
  | .creditCoins => transferCall .credit body
  | .debitCoins => transferCall .debit body

/-- A route behind its hook: which call it makes of the services. -/
def handle (env : HttpEnv) (now : Int) (request : HttpRequest) :
    Route → Except Thrown ServiceCall
  | .anyone route => handleOpen env request route
  | .own route => do
    let auth ← authenticate env now request
    handleOwn auth request.body route
  | .admin route => do
    assertAdminKey env request.xAdminKey
    handleAdmin env request.body route

/-- What a request leads to; `none` where there is no route, which Fastify answers itself. -/
def respond (env : HttpEnv) (now : Int) (request : HttpRequest) :
    Option (Except Thrown ServiceCall) :=
  (routeOf request.method request.path).map (handle env now request)

end HttpServer

/-- The account service, the calls that requests have made of the services, and the
requests that were refused. -/
structure HttpServer where
  auth : Calls.State AuthDb Auth.Call Auth.Place Auth.Reply Failure
  dispatched : List (HttpRequest × ServiceCall)
  refused : List (HttpRequest × ErrorReply)

inductive HttpEvent where
  | request (request : HttpRequest) (draw : Auth.Draw)
  | operation (number : Nat) (draw : Auth.Draw)
  | reject (number : Nat) (reason : Failure)

namespace HttpServer

def start (db : AuthDb) : HttpServer := ⟨Calls.start db, [], []⟩

/-- What a call does inside the server. -/
def dispatch (env : HttpEnv) (s : HttpServer) (request : HttpRequest) (draw : Auth.Draw)
    (call : ServiceCall) : Option HttpServer :=
  let dispatched := s.dispatched ++ [(request, call)]
  match call with
  | .auth authCall => (Calls.step (Auth.program env.tokens) s.auth (.call authCall draw)).map
      fun auth => { s with auth, dispatched }
  | _ => some { s with dispatched }

def step (env : HttpEnv) (s : HttpServer) : HttpEvent → Option HttpServer
  | .request request draw =>
    match respond env draw.now request with
    | none => some s
    | some (.error thrown) => some { s with refused := s.refused ++ [(request, errorHandler thrown)] }
    | some (.ok call) => s.dispatch env request draw call
  | .operation number draw =>
    (Calls.step (Auth.program env.tokens) s.auth (.operation number draw)).map fun auth =>
      { s with auth }
  | .reject number reason =>
    (Calls.step (Auth.program env.tokens) s.auth (.reject number reason)).map fun auth =>
      { s with auth }

def machine (env : HttpEnv) : Machine HttpServer HttpEvent where
  step := step env

end HttpServer
end RealtimeGameServer.Source
