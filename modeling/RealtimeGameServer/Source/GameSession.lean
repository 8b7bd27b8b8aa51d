import RealtimeGameServer.Lib.Machine
import RealtimeGameServer.Source.AntiCheat
import RealtimeGameServer.Source.Snapshot

/-!
# The game session and its tick

Source: infrastructure/game/game-session.ts. Player objects are mutated in
place by the source and reachable only through `players`, so a mutation is a
`set` under the same key. The tick loop binds `state` once for each player and
keeps it while it drains the queue; `drainQueue` keeps that parameter fixed
while the map it writes moves on. `Date.now()` is an argument of the operations
that read it, and what `emit` delivers is returned in order. Event listeners
run by `emit` only send messages (gateway.ts:328-330) and never call back.
-/
namespace RealtimeGameServer.Source
open Lib

inductive SnapshotMessage (R : Type*) where
  | full (message : FullSnapshotMessage R)
  | delta (message : DeltaSnapshotMessage R)
  deriving DecidableEq, Repr

/-- `GameSessionEvents`. -/
inductive SessionEvent (R : Type*) where
  | snapshot (message : SnapshotMessage R)
  | playerDisconnected (playerId : String)
  deriving DecidableEq, Repr

structure GameSession (R : Type*) where
  roomId : String
  players : JsMap String (RuntimePlayerState R)
  previousSnapshots : JsMap String (PlayerSnapshot R)
  tick : Nat
  pendingInputs : JsMap String (List (MovementInput R))

/-- A call of `validateAndApplyMovement` made by the tick: an observation, not
a field of the source. -/
structure Validation (R : Type*) where
  playerId : String
  against : RuntimePlayerState R
  input : MovementInput R
  result : ValidationResult R

/-- `private fullSnapshotEvery = 20`. -/
def fullSnapshotEvery : Nat := 20

/-- The length at which `enqueueInput` drops the oldest input. -/
def maxPendingInputs : Nat := 40

namespace GameSession

/-- `new GameSession(roomId)`. -/
def create {R : Type*} (roomId : String) : GameSession R where
  roomId
  players := JsMap.empty
  previousSnapshots := JsMap.empty
  tick := 0
  pendingInputs := JsMap.empty

variable {R : Type*} [Field R] [LinearOrder R] [JsMath R]

def addPlayer (s : GameSession R) (now : Int) (playerId username : String) : GameSession R :=
  match s.players.get playerId with
  | some existing =>
    { s with
      players := s.players.set playerId { existing with connected := true, lastHeartbeatAt := now } }
  | none =>
    { s with
      players := s.players.set playerId
        (createRuntimePlayer playerId username s.players.size now)
      pendingInputs := s.pendingInputs.set playerId [] }

def removePlayer (s : GameSession R) (playerId : String) : GameSession R :=
  { s with
    players := s.players.delete playerId
    pendingInputs := s.pendingInputs.delete playerId
    previousSnapshots := s.previousSnapshots.delete playerId }

/-- `const player = this.players.get(playerId); if (!player) return;` and then
assignments to fields of `player`. -/
def withPlayer (s : GameSession R) (playerId : String)
    (assign : RuntimePlayerState R → RuntimePlayerState R) : GameSession R :=
  match s.players.get playerId with
  | none => s
  | some player => { s with players := s.players.set playerId (assign player) }

def markDisconnected (s : GameSession R) (playerId : String) :
    GameSession R × List (SessionEvent R) :=
  (s.withPlayer playerId fun player => { player with connected := false },
    if s.players.has playerId then [.playerDisconnected playerId] else [])

def enqueueInput (s : GameSession R) (playerId : String) (input : MovementInput R) :
    GameSession R × Bool :=
  match s.pendingInputs.get playerId with
  | none => (s, false)
  | some queue =>
    let queue := if queue.length ≥ maxPendingInputs then queue.tail else queue
    ({ s with pendingInputs := s.pendingInputs.set playerId (queue ++ [input]) }, true)

def heartbeat (s : GameSession R) (now : Int) (playerId : String) : GameSession R :=
  s.withPlayer playerId fun player => { player with lastHeartbeatAt := now, connected := true }

def updatePing (s : GameSession R) (playerId : String) (ping : R) : GameSession R :=
  s.withPlayer playerId fun player => { player with ping := max 0 (JsMath.round ping) }

def getPlayers (s : GameSession R) : List (RuntimePlayerState R) := s.players.values

def buildFullSnapshot (s : GameSession R) (now : Int) : FullSnapshotMessage R where
  tick := s.tick
  serverTime := now
  players := s.getPlayers.map toPlayerSnapshot

/-- The heartbeat check at the head of the loop body, on the loop's `state`. -/
def timedOut (env : Env R) (now : Int) (state : RuntimePlayerState R) : Bool :=
  now - state.lastHeartbeatAt > env.heartbeatTimeoutMs

/-- `state` after the heartbeat check. -/
def expireHeartbeat (env : Env R) (now : Int) (state : RuntimePlayerState R) :
    RuntimePlayerState R :=
  if timedOut env now state && state.connected then { state with connected := false } else state

/-- The `while` loop: every queued input is validated against the one `state`
the `for` loop bound, and an accepted result is stored under the player's key. -/
def drainQueue (env : Env R) (playerId : String) (state : RuntimePlayerState R) :
    List (MovementInput R) → JsMap String (RuntimePlayerState R) →
      JsMap String (RuntimePlayerState R) × List (Validation R)
  | [], players => (players, [])
  | input :: queue, players =>
    let result := validateAndApplyMovement state input env.maxMoveSpeed
    let players := if result.accepted then players.set playerId result.state else players
    let (players, rest) := drainQueue env playerId state queue players
    (players, ⟨playerId, state, input, result⟩ :: rest)

/-- What the loop over `this.players` carries. -/
structure Sweep (R : Type*) where
  players : JsMap String (RuntimePlayerState R)
  pendingInputs : JsMap String (List (MovementInput R))
  events : List (SessionEvent R)
  validations : List (Validation R)

/-- The body of `for (const [playerId, state] of this.players)`. -/
def visit (env : Env R) (now : Int) (acc : Sweep R) (playerId : String) : Sweep R :=
  match acc.players.get playerId with
  | none => acc
  | some bound =>
    let expired := timedOut env now bound && bound.connected
    let state := expireHeartbeat env now bound
    let players := if expired then acc.players.set playerId state else acc.players
    let events := if expired then [SessionEvent.playerDisconnected playerId] else []
    let queue := (acc.pendingInputs.get playerId).getD []
    let (players, validations) := drainQueue env playerId state queue players
    { players
      pendingInputs :=
        if acc.pendingInputs.has playerId then acc.pendingInputs.set playerId []
        else acc.pendingInputs
      events := acc.events ++ events
      validations := acc.validations ++ validations }

/-- The `for` loop. It stores under present keys only, so the keys it visits
are those present when it starts, in their order. -/
def sweep (env : Env R) (now : Int) (s : GameSession R) : Sweep R :=
  s.players.keys.foldl (visit env now) ⟨s.players, s.pendingInputs, [], []⟩

structure StepResult (R : Type*) where
  session : GameSession R
  events : List (SessionEvent R)
  validations : List (Validation R)

def shouldFull (s : GameSession R) : Bool :=
  s.tick % fullSnapshotEvery = 0 || s.previousSnapshots.size = 0

/-- The tail of `step`, from `const snapshots` on: what is emitted and the
baseline the next delta is computed against. -/
def publish (now : Int) (s : GameSession R) : GameSession R × Option (SnapshotMessage R) :=
  let snapshots := s.players.values.map toPlayerSnapshot
  let store := fun (acc : JsMap String (PlayerSnapshot R)) (snapshot : PlayerSnapshot R) =>
    acc.set snapshot.id snapshot
  if s.shouldFull then
    ({ s with previousSnapshots := snapshots.foldl store JsMap.empty },
      some (.full { tick := s.tick, serverTime := now, players := snapshots }))
  else
    let (changes, removed) := computeDelta s.previousSnapshots snapshots
    let s' :=
      { s with
        previousSnapshots :=
          snapshots.foldl store (removed.foldl JsMap.delete s.previousSnapshots) }
    if changes.length = 0 ∧ removed.length = 0 then (s', none)
    else
      (s', some (.delta
        { tick := s.tick, serverTime := now, baseTick := s.tick - 1, changes, removed }))

def step (env : Env R) (now : Int) (s : GameSession R) : StepResult R :=
  let s := { s with tick := s.tick + 1 }
  let swept := sweep env now s
  let s := { s with players := swept.players, pendingInputs := swept.pendingInputs }
  let (s, message) := publish now s
  { session := s
    events := swept.events ++ (message.map SessionEvent.snapshot).toList
    validations := swept.validations }

/-- The public operations and the timer's `step`, with the clock they read. -/
inductive Op (R : Type*) where
  | addPlayer (now : Int) (playerId username : String)
  | removePlayer (playerId : String)
  | markDisconnected (playerId : String)
  | heartbeat (now : Int) (playerId : String)
  | updatePing (playerId : String) (ping : R)
  | enqueueInput (playerId : String) (input : MovementInput R)
  | step (now : Int)

/-- One operation, with the events it emits and the validations it makes. -/
def apply (env : Env R) (s : GameSession R) : Op R → StepResult R
  | .addPlayer now playerId username => ⟨s.addPlayer now playerId username, [], []⟩
  | .removePlayer playerId => ⟨s.removePlayer playerId, [], []⟩
  | .markDisconnected playerId =>
    let (s, events) := s.markDisconnected playerId
    ⟨s, events, []⟩
  | .heartbeat now playerId => ⟨s.heartbeat now playerId, [], []⟩
  | .updatePing playerId ping => ⟨s.updatePing playerId ping, [], []⟩
  | .enqueueInput playerId input => ⟨(s.enqueueInput playerId input).1, [], []⟩
  | .step now => s.step env now

/-- The session as a machine; every operation is enabled in every state. -/
def machine (env : Env R) : Machine (GameSession R) (Op R) where
  step s op := some (s.apply env op).session

end GameSession
end RealtimeGameServer.Source
