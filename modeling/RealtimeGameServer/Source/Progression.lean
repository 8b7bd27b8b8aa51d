import RealtimeGameServer.Lib.ReadCommitted
import RealtimeGameServer.Source.Auth

/-!
# Players, experience and the leaderboard

Source: infrastructure/database/prisma-player-repository.ts:42-61 and 86-114,
application/services/player-service.ts:61-66, shared/constants/game.ts:24-28. `create`
is one transaction of three inserts. `addExperience` reads the player on its own, and
writes what it computed from that to the player and to its leaderboard row in a
transaction. An update locks its row, an insert the keys of its unique indices.

Amounts are integers. The two updates of a transaction run at its commit; the row
locks make the difference invisible. Of a player the equipment is not represented.
-/
namespace RealtimeGameServer.Source
open Lib ReadCommitted

structure CreatePlayerInput where
  userId : String
  username : String
  coins : Option Int
  deriving DecidableEq, Repr

/-- The ids the database draws for the rows of a new player. -/
structure PlayerIds where
  player : String
  inventory : String
  leaderboard : String
  deriving DecidableEq, Repr

/-- The ids of the users, players by id, inventories by player, and the rows of
`leaderboard`. -/
structure ProgressionDb where
  users : List String
  players : JsMap String PlayerProfile
  inventories : JsMap String PlayerInventory
  leaderboard : List LeaderboardEntry

namespace Progression

def xpPerLevel : Int := 1000

def levelFromExperience (experience : Int) : Int := max 1 (experience / xpPerLevel + 1)

/-- The arguments of `addExperience`, with the id the database draws if it creates a
leaderboard row. -/
structure Grant where
  playerId : String
  amount : Int
  entryId : String
  deriving DecidableEq, Repr

inductive Call where
  | create (input : CreatePlayerInput) (ids : PlayerIds)
  | addExperience (grant : Grant)
  deriving DecidableEq, Repr

/-- A row by its primary key, or the key of another unique index. -/
inductive Lock where
  | playerId (id : String)
  | userId (userId : String)
  | username (username : String)
  | inventoryId (id : String)
  | inventoryOf (playerId : String)
  | entryId (id : String)
  | entryOf (playerId : String)
  deriving DecidableEq, Repr

inductive Effect where
  | insertPlayer (player : PlayerProfile)
  | insertInventory (inventory : PlayerInventory)
  | insertEntry (entry : LeaderboardEntry)
  | setProgress (playerId : String) (experience level : Int)
  | setEntry (playerId username : String) (experience level : Int)
  deriving DecidableEq, Repr

/-- The statement a call is at, with what it remembers; `current` is the player that
`addExperience` has read and `updated` the one it has written. -/
inductive Pc where
  | insertPlayer (player : PlayerProfile) (ids : PlayerIds)
  | insertInventory (player : PlayerProfile) (ids : PlayerIds)
  | insertEntry (player : PlayerProfile) (ids : PlayerIds)
  | created (player : PlayerProfile)
  | findUnique (grant : Grant)
  | found (grant : Grant) (current : PlayerProfile)
  | updatePlayer (grant : Grant) (current : PlayerProfile)
  | upsertEntry (grant : Grant) (current updated : PlayerProfile)
  | granted (grant : Grant) (current updated : PlayerProfile)
  deriving DecidableEq, Repr

def newPlayer (input : CreatePlayerInput) (ids : PlayerIds) : PlayerProfile where
  id := ids.player
  userId := input.userId
  username := input.username
  experience := 0
  coins := input.coins.getD 100
  level := 1

def newInventory (player : PlayerProfile) (ids : PlayerIds) : PlayerInventory where
  id := ids.inventory
  playerId := player.id
  capacity := 40

def newEntry (player : PlayerProfile) (ids : PlayerIds) : LeaderboardEntry where
  id := ids.leaderboard
  playerId := player.id
  username := player.username
  experience := 0
  level := 1
  wins := 0

/-- `current.experience + amount`. -/
def grantedExperience (grant : Grant) (current : PlayerProfile) : Int :=
  current.experience + grant.amount

def grantedLevel (grant : Grant) (current : PlayerProfile) : Int :=
  levelFromExperience (grantedExperience grant current)

def withProgress (experience level : Int) (player : PlayerProfile) : PlayerProfile :=
  { player with experience, level }

/-- The row that `upsert` creates. -/
def upsertedEntry (grant : Grant) (current updated : PlayerProfile) : LeaderboardEntry where
  id := grant.entryId
  playerId := grant.playerId
  username := updated.username
  experience := grantedExperience grant current
  level := grantedLevel grant current
  wins := 0

/-- The leaderboard rows of a player. -/
def entriesOf (db : ProgressionDb) (playerId : String) : List LeaderboardEntry :=
  db.leaderboard.filter fun entry => entry.playerId = playerId

def apply (db : ProgressionDb) : Effect → ProgressionDb
  | .insertPlayer player => { db with players := db.players.set player.id player }
  | .insertInventory inventory =>
    { db with inventories := db.inventories.set inventory.playerId inventory }
  | .insertEntry entry => { db with leaderboard := db.leaderboard ++ [entry] }
  | .setProgress playerId experience level =>
    { db with
      players := match db.players.get playerId with
        | none => db.players
        | some player => db.players.set playerId (withProgress experience level player) }
  | .setEntry playerId username experience level =>
    { db with
      leaderboard := db.leaderboard.map fun entry =>
        if entry.playerId = playerId then { entry with username, experience, level } else entry }

/-- `PlayerRepository` checks nothing before its first statement. -/
def opens : Call → Except Failure Pc
  | .create input ids => .ok (.insertPlayer (newPlayer input ids) ids)
  | .addExperience grant => .ok (.findUnique grant)

/-- The check of `PlayerService.addExperience` comes first. -/
def serviceOpens : Call → Except Failure Pc
  | .create input ids => opens (.create input ids)
  | .addExperience grant =>
    if grant.amount ≤ 0 then
      .error (.app (.validation "Experience amount must be positive"))
    else opens (.addExperience grant)

def needs (pc : Pc) (db : ProgressionDb) : List Lock :=
  match pc with
  | .insertPlayer player _ =>
    [.playerId player.id, .userId player.userId, .username player.username]
  | .insertInventory player ids => [.inventoryId ids.inventory, .inventoryOf player.id]
  | .insertEntry player ids => [.entryId ids.leaderboard, .entryOf player.id]
  | .updatePlayer grant _ =>
    if db.players.has grant.playerId then [.playerId grant.playerId] else []
  | .upsertEntry grant _ _ =>
    .entryOf grant.playerId ::
      if entriesOf db grant.playerId = [] then [.entryId grant.entryId] else []
  | _ => []

def run (pc : Pc) (db : ProgressionDb) : Stmt Effect Pc Failure :=
  match pc with
  | .insertPlayer player ids =>
    if ¬inInt4 player.coins then .throws .valueOutOfRange
    else if db.players.has player.id ∨ db.players.values.any fun other =>
        other.userId = player.userId ∨ other.username = player.username then
      .throws .uniqueViolation
    else if player.userId ∉ db.users then .throws .foreignKeyViolation
    else .continues [.insertPlayer player] (.insertInventory player ids)
  | .insertInventory player ids =>
    if db.inventories.has player.id ∨ db.inventories.values.any fun other =>
        other.id = ids.inventory then
      .throws .uniqueViolation
    else .continues [.insertInventory (newInventory player ids)] (.insertEntry player ids)
  | .insertEntry player ids =>
    if entriesOf db player.id ≠ [] ∨ db.leaderboard.any fun other =>
        other.id = ids.leaderboard then
      .throws .uniqueViolation
    else .continues [.insertEntry (newEntry player ids)] (.created player)
  | .findUnique grant =>
    match db.players.get grant.playerId with
    | none => .throws .recordNotFound
    | some current => .continues [] (.found grant current)
  | .updatePlayer grant current =>
    match db.players.get grant.playerId with
    | none => .throws .recordNotFound
    | some player =>
      let experience := grantedExperience grant current
      let level := grantedLevel grant current
      if ¬inInt4 experience ∨ ¬inInt4 level then .throws .valueOutOfRange
      else
        .continues [.setProgress grant.playerId experience level]
          (.upsertEntry grant current (withProgress experience level player))
  | .upsertEntry grant current updated =>
    if entriesOf db grant.playerId ≠ [] then
      .continues
        [.setEntry grant.playerId updated.username (grantedExperience grant current)
          (grantedLevel grant current)]
        (.granted grant current updated)
    else if db.leaderboard.any fun other => other.id = grant.entryId then
      .throws .uniqueViolation
    else
      .continues [.insertEntry (upsertedEntry grant current updated)]
        (.granted grant current updated)
  | pc => .continues [] pc

def follow : Pc → Follow Pc PlayerProfile
  | .created player => .commitReturn player
  | .found grant current => .commitThen (.updatePlayer grant current)
  | .granted _ _ updated => .commitReturn updated
  | _ => .statement

/-- The calls as concurrent transactions, behind the check that comes first. -/
def protocol (opens : Call → Except Failure Pc) :
    Protocol ProgressionDb Effect Lock Call Pc PlayerProfile Failure where
  apply
  opens
  needs
  run
  follow

/-- The calls of `PlayerRepository`. -/
def repository : Protocol ProgressionDb Effect Lock Call Pc PlayerProfile Failure :=
  protocol opens

/-- The same with `addExperience` called through `PlayerService`. -/
def service : Protocol ProgressionDb Effect Lock Call Pc PlayerProfile Failure :=
  protocol serviceOpens

/-- The effects and the next place of a statement that does not throw. -/
inductive Continues (db : ProgressionDb) : Pc → List Effect → Pc → Prop
  | insertedPlayer {player ids} (absent : db.players.get player.id = none) :
      Continues db (.insertPlayer player ids) [.insertPlayer player] (.insertInventory player ids)
  | insertedInventory {player ids} :
      Continues db (.insertInventory player ids) [.insertInventory (newInventory player ids)]
        (.insertEntry player ids)
  | insertedEntry {player ids} (absent : entriesOf db player.id = []) :
      Continues db (.insertEntry player ids) [.insertEntry (newEntry player ids)] (.created player)
  | found {grant current} (get : db.players.get grant.playerId = some current) :
      Continues db (.findUnique grant) [] (.found grant current)
  | updated {grant current player} (get : db.players.get grant.playerId = some player) :
      Continues db (.updatePlayer grant current)
        [.setProgress grant.playerId (grantedExperience grant current) (grantedLevel grant current)]
        (.upsertEntry grant current
          (withProgress (grantedExperience grant current) (grantedLevel grant current) player))
  | entryUpdated {grant current updated} :
      Continues db (.upsertEntry grant current updated)
        [.setEntry grant.playerId updated.username (grantedExperience grant current)
          (grantedLevel grant current)]
        (.granted grant current updated)
  | entryCreated {grant current updated} (absent : entriesOf db grant.playerId = []) :
      Continues db (.upsertEntry grant current updated)
        [.insertEntry (upsertedEntry grant current updated)] (.granted grant current updated)
  | stays {pc} (commits : follow pc ≠ .statement) : Continues db pc [] pc

theorem run_continues {pc : Pc} {db : ProgressionDb} {effects : List Effect} {next : Pc}
    (h : run pc db = .continues effects next) : Continues db pc effects next := by
  cases pc with
  | insertPlayer player ids =>
    simp only [run] at h
    split at h
    next => cases h
    next =>
      split at h
      next => cases h
      next hunique =>
        split at h <;> cases h
        rw [not_or, JsMap.has, Option.not_isSome_iff_eq_none] at hunique
        exact .insertedPlayer hunique.1
  | insertInventory player ids =>
    simp only [run] at h
    split at h <;> cases h
    exact .insertedInventory
  | insertEntry player ids =>
    simp only [run] at h
    split at h <;> cases h
    next hunique => exact .insertedEntry (not_not.mp (not_or.mp hunique).1)
  | findUnique grant =>
    simp only [run] at h
    split at h <;> cases h
    next hget => exact .found hget
  | updatePlayer grant current =>
    simp only [run] at h
    split at h
    next => cases h
    next hget =>
      split at h <;> cases h
      exact .updated hget
  | upsertEntry grant current updated =>
    simp only [run] at h
    split at h
    next =>
      cases h
      exact .entryUpdated
    next habsent =>
      split at h <;> cases h
      exact .entryCreated (not_not.mp habsent)
  | created | found | granted =>
    cases h
    exact .stays (by simp [follow])

end Progression
end RealtimeGameServer.Source
