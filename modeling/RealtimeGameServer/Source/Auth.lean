import RealtimeGameServer.Lib.Calls
import RealtimeGameServer.Lib.UniqueTable
import RealtimeGameServer.Source.JsString
import RealtimeGameServer.Source.TokenService

/-!
# Accounts and refresh tokens

Source: application/services/auth-service.ts and the repository calls it makes
(prisma-refresh-token-repository.ts, prisma-user-repository.ts,
prisma-player-repository.ts:43-63). A call interleaves with others between its
repository calls, each of which is atomic; the code after an answer belongs to
the operation that gave it. Identifiers, salts and clock values are drawn by the
environment. Inputs have passed the route schemas.
`createdAt` and `updatedAt` are not represented.
-/
namespace RealtimeGameServer.Source
open Lib Calls

structure UserEntity where
  id : String
  email : String
  username : String
  passwordHash : String
  deriving DecidableEq, Repr

/-- `PlayerProfile` without the equipment. -/
structure PlayerProfile where
  id : String
  userId : String
  username : String
  experience : Int
  coins : Int
  level : Int
  deriving DecidableEq, Repr

structure PlayerInventory where
  id : String
  playerId : String
  capacity : Nat
  deriving DecidableEq, Repr

structure LeaderboardEntry where
  id : String
  playerId : String
  username : String
  experience : Int
  level : Int
  wins : Int
  deriving DecidableEq, Repr

structure RefreshTokenEntity where
  id : String
  userId : String
  tokenHash : String
  expiresAt : Int
  revokedAt : Option Int
  deriving DecidableEq, Repr

/-- The unique indices of `refresh_tokens`. -/
def refreshTokenIndices : List (RefreshTokenEntity → String) := [(·.id), (·.tokenHash)]

/-- The tables, with the unique indices of the schema. -/
structure AuthDb where
  users : UniqueTable (α := UserEntity) [(·.id), (·.email), (·.username)]
  players : UniqueTable (α := PlayerProfile) [(·.id), (·.userId), (·.username)]
  inventories : UniqueTable (α := PlayerInventory) [(·.id), (·.playerId)]
  leaderboard : UniqueTable (α := LeaderboardEntry) [(·.id), (·.playerId)]
  refreshTokens : UniqueTable refreshTokenIndices

namespace Auth

def createUser (db : AuthDb) (user : UserEntity) : Except Failure AuthDb :=
  match db.users.insertRow user with
  | none => .error .uniqueViolation
  | some users => .ok { db with users }

def hasUser (db : AuthDb) (userId : String) : Bool := db.users.rows.any fun user => user.id = userId

/-- The player with an inventory and a leaderboard row, in one transaction. -/
def createPlayer (db : AuthDb) (player : PlayerProfile) (inventoryId leaderboardId : String) :
    Except Failure AuthDb :=
  let inventory := { id := inventoryId, playerId := player.id, capacity := 40 }
  let entry := {
    id := leaderboardId
    playerId := player.id
    username := player.username
    experience := 0
    level := 1
    wins := 0 }
  match db.players.insertRow player, db.inventories.insertRow inventory,
      db.leaderboard.insertRow entry with
  | some players, some inventories, some leaderboard =>
    if hasUser db player.userId then .ok { db with players, inventories, leaderboard }
    else .error .foreignKeyViolation
  | _, _, _ => .error .uniqueViolation

/-- `RefreshTokenRepository.create`. -/
def createToken (db : AuthDb) (row : RefreshTokenEntity) : Except Failure AuthDb :=
  match db.refreshTokens.insertRow row with
  | none => .error .uniqueViolation
  | some refreshTokens =>
    if hasUser db row.userId then .ok { db with refreshTokens } else .error .foreignKeyViolation

def findByTokenHash (db : AuthDb) (tokenHash : String) : Option RefreshTokenEntity :=
  db.refreshTokens.findUnique (·.tokenHash) tokenHash

/-- The update of the selected rows that sets `revokedAt`. -/
def revokeWhere (db : AuthDb) (selected : RefreshTokenEntity → Bool) (now : Int) : AuthDb :=
  { db with
    refreshTokens := db.refreshTokens.updateMany selected
      (fun row => { row with revokedAt := some now }) (by simp [refreshTokenIndices]) }

def revoke (db : AuthDb) (id : String) (now : Int) : Except Failure AuthDb :=
  if db.refreshTokens.rows.any fun row => row.id = id then
    .ok (revokeWhere db (fun row => row.id = id) now)
  else .error .recordNotFound

/-- The updated table, and whether exactly one row was updated. -/
def revokeIfActive (db : AuthDb) (id : String) (now : Int) : AuthDb × Bool :=
  let selected := fun row : RefreshTokenEntity => decide (row.id = id) && row.revokedAt.isNone
  (revokeWhere db selected now, db.refreshTokens.rows.countP selected = 1)

def revokeAllForUser (db : AuthDb) (userId : String) (now : Int) : AuthDb :=
  revokeWhere db (fun row => decide (row.userId = userId) && row.revokedAt.isNone) now

structure RegisterInput where
  email : String
  username : String
  password : String
  deriving DecidableEq, Repr

structure LoginInput where
  email : String
  password : String
  deriving DecidableEq, Repr

structure AuthTokens where
  accessToken : String
  refreshToken : String
  deriving DecidableEq, Repr

/-- `AuthResult`, whose `user` and `player` are selections of fields. -/
structure AuthResult where
  user : UserEntity
  player : PlayerProfile
  tokens : AuthTokens
  deriving DecidableEq, Repr

inductive Call where
  | register (input : RegisterInput)
  | login (input : LoginInput)
  | refresh (refreshToken : String)
  | logout (userId refreshToken : String)
  | logoutAll (userId : String)
  deriving DecidableEq, Repr

inductive Reply where
  | auth (result : AuthResult)
  | tokens (tokens : AuthTokens)
  | done
  deriving DecidableEq, Repr

/-- What the environment provides for one operation: the time, the identifiers of
the rows it inserts, and what the token libraries draw. -/
structure Draw where
  now : Int
  id : String
  inventoryId : String
  leaderboardId : String
  jti : String
  salt : String
  deriving DecidableEq, Repr

/-- The repository call a call of the service is at, with what it remembers. -/
inductive Place where
  | registerFindByEmail (email username password : String)
  | registerFindByUsername (email username password : String)
  | registerCreateUser (email username passwordHash : String)
  | registerCreatePlayer (user : UserEntity)
  | loginFindByEmail (input : LoginInput)
  | loginFindPlayer (user : UserEntity)
  | refreshFindToken (refreshToken : String) (payload : RefreshTokenPayload)
  | refreshRevokeIfActive (stored : RefreshTokenEntity) (payload : RefreshTokenPayload)
  | refreshRevokeFamily (userId : String)
  | refreshFindPlayer (payload : RefreshTokenPayload)
  | issueCreateToken (userId accessToken : String) (refresh : RefreshTokenPair)
      (account : Option (UserEntity × PlayerProfile))
  | logoutFindToken (userId refreshToken : String)
  | logoutRevoke (id : String)
  | logoutAllRevoke (userId : String)
  deriving DecidableEq, Repr

def normalizeUsername (username : String) : String := toLowerCase (trim username)

def unauthorized (message : String) : Failure := .app (.unauthorized message)

/-- The start of `issueTokens`; `account` is what `register` and `login` answer with
beside the tokens. -/
def issueTokens (service : TokenService) (draw : Draw) (userId : String) (player : PlayerProfile)
    (account : Option (UserEntity × PlayerProfile)) : Next Place Reply Failure :=
  let issued : Except Failure Place := do
    let accessToken ← service.signAccessToken userId player.id player.username draw.now
    let refresh ← service.createRefreshTokenPair userId draw.jti draw.now
    return .issueCreateToken userId accessToken refresh account
  match issued with
  | .ok place => .goes place
  | .error failure => .throws failure

/-- The row that `issueTokens` stores. -/
def issuedRow (draw : Draw) (userId : String) (refresh : RefreshTokenPair) :
    RefreshTokenEntity where
  id := draw.id
  userId
  tokenHash := refresh.tokenHash
  expiresAt := refresh.expiresAt
  revokedAt := none

/-- What `issueTokens` leads to, once the token is stored. -/
def reply (tokens : AuthTokens) : Option (UserEntity × PlayerProfile) → Reply
  | none => .tokens tokens
  | some (user, player) => .auth { user, player, tokens }

/-- What runs before the first repository call. -/
def opens (service : TokenService) (call : Call) (draw : Draw) : Next Place Reply Failure :=
  match call with
  | .register input =>
    .goes (.registerFindByEmail (trim (toLowerCase input.email)) (normalizeUsername input.username)
      input.password)
  | .login input => .goes (.loginFindByEmail input)
  | .refresh refreshToken =>
    match service.verifyRefreshToken refreshToken draw.now with
    | none => .throws (unauthorized "Invalid refresh token")
    | some payload => .goes (.refreshFindToken refreshToken payload)
  | .logout userId refreshToken => .goes (.logoutFindToken userId refreshToken)
  | .logoutAll userId => .goes (.logoutAllRevoke userId)

/-- A write that may be refused: the answer to the caller otherwise. -/
def write (db : AuthDb) (result : Except Failure AuthDb) (next : Next Place Reply Failure) :
    AuthDb × Next Place Reply Failure :=
  match result with
  | .ok db => (db, next)
  | .error failure => (db, .throws failure)

/-- `refresh` once it has looked for the token. -/
def checkStored (draw : Draw) (payload : RefreshTokenPayload) :
    Option RefreshTokenEntity → Next Place Reply Failure
  | none => .throws (unauthorized "Refresh token revoked or expired")
  | some stored =>
    if stored.expiresAt < draw.now then .throws (unauthorized "Refresh token revoked or expired")
    else if stored.userId ≠ payload.userId then .throws (unauthorized "Invalid refresh token")
    else .goes (.refreshRevokeIfActive stored payload)

/-- `logout` once it has looked for the token. -/
def checkLogout (userId : String) : Option RefreshTokenEntity → Next Place Reply Failure
  | none => .returns .done
  | some stored =>
    if stored.userId ≠ userId then
      .throws (.app (.forbidden "Refresh token does not belong to this user"))
    else if stored.revokedAt.isNone then .goes (.logoutRevoke stored.id)
    else .returns .done

def run (service : TokenService) (place : Place) (draw : Draw) (db : AuthDb) :
    AuthDb × Next Place Reply Failure :=
  match place with
  | .registerFindByEmail email username password =>
    (db, match db.users.findUnique (·.email) email with
      | some _ => .throws (.app (.conflict "Email already registered"))
      | none => .goes (.registerFindByUsername email username password))
  | .registerFindByUsername email username password =>
    (db, match db.users.findUnique (·.username) username with
      | some _ => .throws (.app (.conflict "Username already taken"))
      | none => .goes (.registerCreateUser email username (service.bcryptHash password draw.salt)))
  | .registerCreateUser email username passwordHash =>
    let user := { id := draw.id, email, username, passwordHash }
    write db (createUser db user) (.goes (.registerCreatePlayer user))
  | .registerCreatePlayer user =>
    let player := {
      id := draw.id
      userId := user.id
      username := user.username
      experience := 0
      coins := 100
      level := 1 }
    write db (createPlayer db player draw.inventoryId draw.leaderboardId)
      (issueTokens service draw user.id player (some (user, player)))
  | .loginFindByEmail input =>
    let user := db.users.findUnique (·.email) (trim (toLowerCase input.email))
    let valid := service.verifyPasswordWithTimingPad input.password (user.map (·.passwordHash))
    (db, match user with
      | some user =>
        if valid then .goes (.loginFindPlayer user)
        else .throws (unauthorized "Invalid credentials")
      | none => .throws (unauthorized "Invalid credentials"))
  | .loginFindPlayer user =>
    (db, match db.players.findUnique (·.userId) user.id with
      | none => .throws (unauthorized "Invalid credentials")
      | some player => issueTokens service draw user.id player (some (user, player)))
  | .refreshFindToken refreshToken payload =>
    (db, checkStored draw payload (findByTokenHash db (service.hashToken refreshToken)))
  | .refreshRevokeIfActive stored payload =>
    let (db, revoked) := revokeIfActive db stored.id draw.now
    (db, if ¬revoked then .goes (.refreshRevokeFamily stored.userId)
      else .goes (.refreshFindPlayer payload))
  | .refreshRevokeFamily userId =>
    (revokeAllForUser db userId draw.now, .throws (unauthorized "Refresh token reuse detected"))
  | .refreshFindPlayer payload =>
    (db, match db.players.findUnique (·.userId) payload.userId with
      | none => .throws (unauthorized "Invalid refresh token")
      | some player => issueTokens service draw payload.userId player none)
  | .issueCreateToken userId accessToken refresh account =>
    write db (createToken db (issuedRow draw userId refresh))
      (.returns (reply { accessToken, refreshToken := refresh.token } account))
  | .logoutFindToken userId refreshToken =>
    (db, checkLogout userId (findByTokenHash db (service.hashToken refreshToken)))
  | .logoutRevoke id => write db (revoke db id draw.now) (.returns .done)
  | .logoutAllRevoke userId => (revokeAllForUser db userId draw.now, .returns .done)

/-- The service as concurrent calls. -/
def program (service : TokenService) : Program AuthDb Call Draw Place Reply Failure where
  opens := opens service
  run := run service

end Auth
end RealtimeGameServer.Source
