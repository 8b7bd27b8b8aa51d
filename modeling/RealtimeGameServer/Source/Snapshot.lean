import RealtimeGameServer.Lib.JsMap
import RealtimeGameServer.Source.Domain

/-!
# Snapshots and deltas

Source: infrastructure/game/snapshot.ts and the snapshot messages of
infrastructure/websocket/protocol.ts:38-64. `PlayerPatch` is
`Partial<PlayerSnapshot> & { id: string }`: an absent property is `none`.
Sharing of vector objects between a snapshot and a patch is not represented;
no snapshot is written after it has been built.
-/
namespace RealtimeGameServer.Source
open Lib

structure PlayerSnapshot (R : Type*) where
  id : String
  username : String
  position : Vec3 R
  rotation : Vec3 R
  velocity : Vec3 R
  hp : R
  connected : Bool
  ping : R
  lastProcessedInputSeq : R
  deriving DecidableEq, Repr

/-- `Partial<PlayerSnapshot> & { id: string }`. -/
structure PlayerPatch (R : Type*) where
  id : String
  username : Option String := none
  position : Option (Vec3 R) := none
  rotation : Option (Vec3 R) := none
  velocity : Option (Vec3 R) := none
  hp : Option R := none
  connected : Option Bool := none
  ping : Option R := none
  lastProcessedInputSeq : Option R := none
  deriving DecidableEq, Repr

structure FullSnapshotMessage (R : Type*) where
  tick : Nat
  serverTime : Int
  players : List (PlayerSnapshot R)
  deriving DecidableEq, Repr

structure DeltaSnapshotMessage (R : Type*) where
  tick : Nat
  serverTime : Int
  baseTick : Nat
  changes : List (PlayerPatch R)
  removed : List String
  deriving DecidableEq, Repr

variable {R : Type*}

def toPlayerSnapshot (state : RuntimePlayerState R) : PlayerSnapshot R where
  id := state.id
  username := state.username
  position := state.position
  rotation := state.rotation
  velocity := state.velocity
  hp := state.hp
  connected := state.connected
  ping := state.ping
  lastProcessedInputSeq := state.lastProcessedInputSeq

/-- A whole snapshot used where a patch is expected (`changes.push(player)`). -/
def PlayerSnapshot.toPatch (player : PlayerSnapshot R) : PlayerPatch R where
  id := player.id
  username := some player.username
  position := some player.position
  rotation := some player.rotation
  velocity := some player.velocity
  hp := some player.hp
  connected := some player.connected
  ping := some player.ping
  lastProcessedInputSeq := some player.lastProcessedInputSeq

section
variable [DecidableEq R]

/-- The three-way comparison the source spells out for each vector. -/
def vecDiffers (a b : Vec3 R) : Bool := a.x ≠ b.x || a.y ≠ b.y || a.z ≠ b.z

/-- The `patch` built for a player that has a previous snapshot. -/
def patchOf (prev player : PlayerSnapshot R) : PlayerPatch R where
  id := player.id
  position := if vecDiffers prev.position player.position then some player.position else none
  rotation := if vecDiffers prev.rotation player.rotation then some player.rotation else none
  velocity := if vecDiffers prev.velocity player.velocity then some player.velocity else none
  hp := if prev.hp ≠ player.hp then some player.hp else none
  connected := if prev.connected ≠ player.connected then some player.connected else none
  ping := if prev.ping ≠ player.ping then some player.ping else none
  lastProcessedInputSeq :=
    if prev.lastProcessedInputSeq ≠ player.lastProcessedInputSeq
    then some player.lastProcessedInputSeq else none

/-- The flag `dirty`: some tracked field differs. -/
def dirty (prev player : PlayerSnapshot R) : Bool :=
  vecDiffers prev.position player.position || vecDiffers prev.rotation player.rotation ||
    vecDiffers prev.velocity player.velocity || prev.hp ≠ player.hp ||
    prev.connected ≠ player.connected || prev.ping ≠ player.ping ||
    prev.lastProcessedInputSeq ≠ player.lastProcessedInputSeq

/-- The loop body over `current`: the change pushed for one player, if any. -/
def changeFor (previous : JsMap String (PlayerSnapshot R)) (player : PlayerSnapshot R) :
    Option (PlayerPatch R) :=
  match previous.get player.id with
  | none => some player.toPatch
  | some prev => if dirty prev player then some (patchOf prev player) else none

def computeDelta (previous : JsMap String (PlayerSnapshot R))
    (current : List (PlayerSnapshot R)) : List (PlayerPatch R) × List String :=
  let currentMap := JsMap.ofList (current.map fun player => (player.id, player))
  let removed := previous.keys.filter fun id => !currentMap.has id
  let changes := current.filterMap (changeFor previous)
  (changes, removed)

end

/-- `{ ...entry, ...patch }`: present properties of the patch win. -/
def PlayerPatch.merge (entry patch : PlayerPatch R) : PlayerPatch R where
  id := patch.id
  username := patch.username.or entry.username
  position := patch.position.or entry.position
  rotation := patch.rotation.or entry.rotation
  velocity := patch.velocity.or entry.velocity
  hp := patch.hp.or entry.hp
  connected := patch.connected.or entry.connected
  ping := patch.ping.or entry.ping
  lastProcessedInputSeq := patch.lastProcessedInputSeq.or entry.lastProcessedInputSeq

end RealtimeGameServer.Source
