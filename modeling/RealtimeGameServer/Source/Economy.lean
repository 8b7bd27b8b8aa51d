import RealtimeGameServer.Lib.ReadCommitted
import RealtimeGameServer.Source.Database

/-!
# Crediting and debiting coins

Source: application/services/economy-service.ts:30-124. Both operations lock the
player row with `SELECT ... FOR UPDATE`, update it and insert a ledger row, in
one transaction. The insert also locks the player row, for its foreign key.
Amounts are integers. Timestamps are not represented: ledger rows stand in
commit order.
-/
namespace RealtimeGameServer.Source
open Lib ReadCommitted

/-- `CoinTransactionType`. -/
inductive CoinTransactionType where
  | credit | debit
  deriving DecidableEq, Repr

structure CoinTransactionRow where
  id : String
  playerId : String
  amount : Int
  balanceAfter : Int
  type : CoinTransactionType
  reason : String
  deriving DecidableEq, Repr

/-- The `coins` of the players and the rows of `coin_transactions`. -/
structure EconomyDb where
  players : JsMap String Int
  ledger : List CoinTransactionRow

namespace Economy

/-- A call of `credit` or `debit`, with the id the database draws for its row. -/
structure Call where
  type : CoinTransactionType
  playerId : String
  amount : Int
  reason : String
  rowId : String
  deriving DecidableEq, Repr

inductive Effect where
  | setCoins (playerId : String) (coins : Int)
  | insertRow (row : CoinTransactionRow)
  deriving DecidableEq, Repr

inductive Pc where
  | selectForUpdate (call : Call)
  | updatePlayer (call : Call) (coins : Int)
  | createTransaction (call : Call) (coins : Int)
  | finish (coins : Int) (transaction : CoinTransactionRow)
  deriving DecidableEq, Repr

def apply (db : EconomyDb) : Effect → EconomyDb
  | .setCoins playerId coins => { db with players := db.players.set playerId coins }
  | .insertRow row => { db with ledger := db.ledger ++ [row] }

/-- The check before the transaction. -/
def opens (call : Call) : Except Failure Pc :=
  if call.amount ≤ 0 then
    .error (.app (.validation (match call.type with
      | .credit => "Credit amount must be positive"
      | .debit => "Debit amount must be positive")))
  else .ok (.selectForUpdate call)

/-- The row locks of a statement; a row that is absent locks nothing. -/
def needs (pc : Pc) (db : EconomyDb) : List String :=
  match pc with
  | .selectForUpdate call => if db.players.has call.playerId then [call.playerId] else []
  | .updatePlayer call _ => if db.players.has call.playerId then [call.playerId] else []
  | .createTransaction call _ => [call.playerId]
  | .finish _ _ => []

/-- The new balance, from the coins the locked row holds. -/
def newBalance (call : Call) (coins : Int) : Stmt Effect Pc Failure :=
  match call.type with
  | .credit => .continues [] (.updatePlayer call (coins + call.amount))
  | .debit =>
    if coins < call.amount then .throws (.app (.validation "Insufficient coins"))
    else .continues [] (.updatePlayer call (coins - call.amount))

/-- The ledger row of a call that leaves `coins`. -/
def rowFor (call : Call) (coins : Int) : CoinTransactionRow where
  id := call.rowId
  playerId := call.playerId
  amount := call.amount
  balanceAfter := coins
  type := call.type
  reason := call.reason

def run (pc : Pc) (db : EconomyDb) : Stmt Effect Pc Failure :=
  match pc with
  | .selectForUpdate call =>
    match db.players.get call.playerId with
    | none => .throws (.app (.notFound "Player"))
    | some coins => newBalance call coins
  | .updatePlayer call coins =>
    match db.players.get call.playerId with
    | none => .throws .recordNotFound
    | some _ =>
      if ¬inInt4 coins then .throws .valueOutOfRange
      else .continues [.setCoins call.playerId coins] (.createTransaction call coins)
  | .createTransaction call coins =>
    if ¬inInt4 call.amount ∨ ¬inInt4 coins then .throws .valueOutOfRange
    else .continues [.insertRow (rowFor call coins)] (.finish coins (rowFor call coins))
  | .finish coins row => .continues [] (.finish coins row)

def follow : Pc → Follow Pc (Int × CoinTransactionRow)
  | .finish coins row => .commitReturn (coins, row)
  | _ => .statement

/-- `credit` and `debit` as concurrent transactions. -/
def protocol : Protocol EconomyDb Effect String Call Pc (Int × CoinTransactionRow) Failure where
  apply
  opens
  needs
  run
  follow

/-- The balance a call is to leave, from the one it found. -/
def target (call : Call) (coins : Int) : Int :=
  match call.type with
  | .credit => coins + call.amount
  | .debit => coins - call.amount

/-- The effects and the next place of a statement that does not throw. -/
inductive Continues (db : EconomyDb) : Pc → List Effect → Pc → Prop
  | found {call coins} (get : db.players.get call.playerId = some coins)
      (enough : call.type = .debit → call.amount ≤ coins) :
      Continues db (.selectForUpdate call) [] (.updatePlayer call (target call coins))
  | updated {call coins} (present : db.players.has call.playerId = true)
      (range : inInt4 coins = true) :
      Continues db (.updatePlayer call coins) [.setCoins call.playerId coins]
        (.createTransaction call coins)
  | inserted {call coins} :
      Continues db (.createTransaction call coins) [.insertRow (rowFor call coins)]
        (.finish coins (rowFor call coins))
  | finished {coins row} : Continues db (.finish coins row) [] (.finish coins row)

theorem run_continues {pc : Pc} {db : EconomyDb} {effects : List Effect} {next : Pc}
    (h : run pc db = .continues effects next) : Continues db pc effects next := by
  cases pc with
  | selectForUpdate call =>
    simp only [run] at h
    split at h
    next => cases h
    next coins hget =>
      unfold newBalance at h
      split at h
      next htype =>
        cases h
        have hfound := Continues.found hget (by simp [htype])
        rwa [target, htype] at hfound
      next htype =>
        split at h
        next => cases h
        next hcoins =>
          cases h
          have hfound := Continues.found hget (fun _ => not_lt.mp hcoins)
          rwa [target, htype] at hfound
  | updatePlayer call coins =>
    simp only [run] at h
    split at h
    next => cases h
    next hget =>
      split at h
      next => cases h
      next hrange =>
        cases h
        exact .updated (by rw [JsMap.has, hget]; rfl) (not_not.mp hrange)
  | createTransaction call coins =>
    simp only [run] at h
    split at h <;> cases h
    exact .inserted
  | finish coins row =>
    cases h
    exact .finished

end Economy
end RealtimeGameServer.Source
