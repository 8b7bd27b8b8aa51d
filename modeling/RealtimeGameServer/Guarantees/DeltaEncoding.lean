import RealtimeGameServer.Source.Baseline

/-!
# A delta is exactly the difference

`computeDelta(previous, current)` is compared with the two collections
themselves: applied to the table of `previous` it gives the table of `current`,
and it carries nothing that the two do not differ in (`computeDelta_encodes`).
What it needs is what a session keeps between its ticks (`Grounded.deltaReady`).
-/
namespace RealtimeGameServer.Guarantees.DeltaEncoding
open Lib Source Source.GameSession

variable {R : Type*} [LinearOrder R]

/-- `previous` is keyed by its own ids, and a player that both sides know has
the same name on both. -/
structure DeltaReady (previous : JsMap String (PlayerSnapshot R))
    (current : List (PlayerSnapshot R)) : Prop where
  keyed : ∀ id prev, previous.get id = some prev → prev.id = id
  distinct : (current.map (·.id)).Nodup
  names : ∀ player ∈ current, ∀ prev, previous.get player.id = some prev →
    player.username = prev.username

/-- The table that holds the snapshots of a map whole. -/
def tableOf (snapshots : JsMap String (PlayerSnapshot R)) : ClientTable R :=
  fun id => (snapshots.get id).map PlayerSnapshot.toPatch

/-- `new Map(current.map((player) => [player.id, player]))`. -/
def mapOf (current : List (PlayerSnapshot R)) : JsMap String (PlayerSnapshot R) :=
  JsMap.ofList (current.map fun player => (player.id, player))

/-- Some tracked field differs. -/
def Differs (prev player : PlayerSnapshot R) : Prop :=
  prev.position ≠ player.position ∨ prev.rotation ≠ player.rotation ∨
  prev.velocity ≠ player.velocity ∨ prev.hp ≠ player.hp ∨ prev.connected ≠ player.connected ∨
  prev.ping ≠ player.ping ∨ prev.lastProcessedInputSeq ≠ player.lastProcessedInputSeq

/-- The id and the fields that differ, vectors whole, and nothing else. -/
structure CarriesDifference (prev player : PlayerSnapshot R) (patch : PlayerPatch R) : Prop where
  id : patch.id = player.id
  username : patch.username = none
  position : patch.position = changed prev.position player.position
  rotation : patch.rotation = changed prev.rotation player.rotation
  velocity : patch.velocity = changed prev.velocity player.velocity
  hp : patch.hp = changed prev.hp player.hp
  connected : patch.connected = changed prev.connected player.connected
  ping : patch.ping = changed prev.ping player.ping
  lastProcessedInputSeq : patch.lastProcessedInputSeq =
    changed prev.lastProcessedInputSeq player.lastProcessedInputSeq

/-- `changes` and `removed` lead from `previous` to `current` and carry no more
than that takes. -/
structure Encodes (previous : JsMap String (PlayerSnapshot R)) (current : List (PlayerSnapshot R))
    (changes : List (PlayerPatch R)) (removed : List String) : Prop where
  applied : ReplicaTable.applyDelta (·.id) PlayerPatch.merge (tableOf previous) changes removed =
    tableOf (mapOf current)
  removed_once : removed.Nodup
  removed_iff : ∀ id, id ∈ removed ↔ id ∈ previous.keys ∧ id ∉ current.map (·.id)
  changes_once : (changes.map (·.id)).Nodup
  changes_current : ∀ patch ∈ changes, patch.id ∈ current.map (·.id)
  created : ∀ player ∈ current, previous.get player.id = none → player.toPatch ∈ changes
  shared_iff : ∀ player ∈ current, ∀ prev, previous.get player.id = some prev →
    ((∃ patch ∈ changes, patch.id = player.id) ↔ Differs prev player)
  shared_carries : ∀ player ∈ current, ∀ prev, previous.get player.id = some prev →
    ∀ patch ∈ changes, patch.id = player.id → CarriesDifference prev player patch

theorem dirty_iff (prev player : PlayerSnapshot R) : dirty prev player = true ↔ Differs prev player := by
  simp only [dirty, vecDiffers_eq, Bool.or_eq_true, decide_eq_true_eq, Differs, or_assoc]

theorem patchOf_carries (prev player : PlayerSnapshot R) :
    CarriesDifference prev player (patchOf prev player) := by
  rw [patchOf_eq]
  constructor <;> rfl

omit [LinearOrder R] in
theorem mapOf_get {current : List (PlayerSnapshot R)} (distinct : (current.map (·.id)).Nodup)
    (id : String) : (mapOf current).get id = current.find? fun p => p.id = id := by
  rw [mapOf, JsMap.ofList, List.foldl_map,
    JsMap.get_foldl_set (·.id) (fun player => player) current JsMap.empty distinct]
  cases current.find? fun p => p.id = id <;> rfl

/-- The changes about a current player are the one the loop pushes for it. -/
theorem change_iff {previous : JsMap String (PlayerSnapshot R)} {current : List (PlayerSnapshot R)}
    (distinct : (current.map (·.id)).Nodup) {player : PlayerSnapshot R} (h : player ∈ current)
    (patch : PlayerPatch R) :
    (patch ∈ (computeDelta previous current).1 ∧ patch.id = player.id) ↔
      changeFor previous player = some patch := by
  constructor
  · rintro ⟨hmem, hid⟩
    obtain ⟨other, hother, hpatch⟩ := List.mem_filterMap.mp hmem
    have hsame : other.id = player.id := (changeFor_id hpatch).symm.trans hid
    rw [List.inj_on_of_nodup_map distinct h hother hsame.symm]
    exact hpatch
  · intro hpatch
    exact ⟨List.mem_filterMap.mpr ⟨player, h, hpatch⟩, changeFor_id hpatch⟩

/-- One current player: the entry after the change is its snapshot. -/
theorem entry_after {previous : JsMap String (PlayerSnapshot R)} {player : PlayerSnapshot R}
    (keyed : ∀ id prev, previous.get id = some prev → prev.id = id)
    (name : ∀ prev, previous.get player.id = some prev → player.username = prev.username) :
    ((changeFor previous player).elim (tableOf previous player.id) fun patch =>
      some (ReplicaTable.mergeInto PlayerPatch.merge (tableOf previous player.id) patch)) =
      some player.toPatch := by
  cases hprev : previous.get player.id with
  | none =>
    rw [changeFor, hprev]
    dsimp only [Option.elim_some]
    rw [mergeInto_toPatch]
  | some prev =>
    have hsync := (change_syncs_iff previous prev player hprev (.refl prev)
      (keyed _ _ hprev).symm (name prev hprev)).mpr ⟨eq_or_ne _ _, eq_or_ne _ _⟩
    rw [tableOf, hprev, ← hsync]
    cases changeFor previous player <;> rfl

omit [LinearOrder R] in
/-- A session between two ticks meets what `computeDelta` needs. -/
theorem Grounded.deltaReady {s : GameSession R} (h : Grounded s) :
    DeltaReady s.previousSnapshots (s.players.values.map toPlayerSnapshot) where
  keyed := by
    intro id prev hprev
    obtain ⟨p, hp, hlive⟩ := h.baseline id prev hprev
    have hid : p.id = prev.id := congrArg PlayerSnapshot.id hlive
    rw [← hid]
    exact h.ids id p hp
  distinct := snapshots_distinct h.ids
  names := by
    intro player hplayer prev hprev
    obtain ⟨p, hp, rfl⟩ := List.mem_map.mp hplayer
    obtain ⟨q, hq, hlive⟩ := h.baseline _ prev hprev
    obtain ⟨k, hk⟩ := (JsMap.mem_values _ _).mp hp
    have hpk : p.id = k := h.ids k p hk
    have hqp : q = p := by
      change s.players.get p.id = some q at hq
      rw [hpk, hk] at hq
      exact (Option.some.inj hq).symm
    have hname : q.username = prev.username := congrArg PlayerSnapshot.username hlive
    rw [← hqp]
    exact hname

/-- Deleting `removed` and merging `changes` turns the map `previous` into the
map of `current`; `removed` is the ids that have gone, and a player that both
sides know has a change exactly when a tracked field differs, with the id and
the differing fields. -/
theorem computeDelta_encodes (previous : JsMap String (PlayerSnapshot R))
    (current : List (PlayerSnapshot R)) (ready : DeltaReady previous current) :
    Encodes previous current (computeDelta previous current).1
      (computeDelta previous current).2 where
  applied := by
    funext id
    rw [tableOf, mapOf_get ready.distinct]
    cases hfind : current.find? fun p => p.id = id with
    | none =>
      rw [applyDelta_absent ready.distinct _ hfind, tableOf, JsMap.has]
      cases previous.get id <;> rfl
    | some player =>
      have hid := List.find?_some hfind
      rw [applyDelta_present ready.distinct _ hfind, ← of_decide_eq_true hid]
      exact entry_after ready.keyed (ready.names player (List.mem_of_find?_eq_some hfind))
  removed_once := previous.unique.filter _
  removed_iff := mem_removed_iff
  changes_once := changes_distinct ready.distinct
  changes_current := by
    intro patch hpatch
    obtain ⟨player, hplayer, hchange⟩ := List.mem_filterMap.mp hpatch
    rw [changeFor_id hchange]
    exact List.mem_map_of_mem hplayer
  created := by
    intro player hplayer hnone
    refine List.mem_filterMap.mpr ⟨player, hplayer, ?_⟩
    rw [changeFor, hnone]
  shared_iff := by
    intro player hplayer prev hprev
    rw [← dirty_iff]
    constructor
    · rintro ⟨patch, hpatch⟩
      have hchange := (change_iff ready.distinct hplayer patch).mp hpatch
      by_contra hclean
      rw [changeFor, hprev] at hchange
      dsimp only at hchange
      rw [if_neg hclean] at hchange
      cases hchange
    · intro hdirty
      refine ⟨patchOf prev player, (change_iff ready.distinct hplayer _).mpr ?_⟩
      rw [changeFor, hprev]
      exact if_pos hdirty
  shared_carries := by
    intro player hplayer prev hprev patch hpatch hid
    have hchange := (change_iff ready.distinct hplayer patch).mp ⟨hpatch, hid⟩
    rw [changeFor, hprev] at hchange
    dsimp only at hchange
    split at hchange
    next =>
      cases hchange
      exact patchOf_carries prev player
    next => cases hchange

/-- A player at rest in the origin. -/
def resting (id username : String) : PlayerSnapshot Int where
  id := id
  username := username
  position := ⟨0, 0, 0⟩
  rotation := ⟨0, 0, 0⟩
  velocity := ⟨0, 0, 0⟩
  hp := 100
  connected := true
  ping := 0
  lastProcessedInputSeq := 0

/-- `p1` has been hit, `p2` has left and `p3` has joined. -/
def hitAndJoined : List (PlayerSnapshot Int) :=
  [{ resting "p1" "nova" with hp := 80 }, resting "p3" "lyra"]

theorem computeDelta_encodes_hit_and_joined :
    Encodes (mapOf [resting "p1" "nova", resting "p2" "orion"]) hitAndJoined
      [{ id := "p1", hp := some 80 }, (resting "p3" "lyra").toPatch] ["p2"] := by
  refine computeDelta_encodes (mapOf [resting "p1" "nova", resting "p2" "orion"]) hitAndJoined
    { keyed := ?_, distinct := by decide, names := ?_ }
  · intro id prev h
    rw [mapOf_get (by decide)] at h
    have hid := List.find?_some h
    exact of_decide_eq_true hid
  · intro player hplayer prev h
    rcases List.mem_cons.mp hplayer with rfl | hplayer
    · cases h
      rfl
    · cases List.mem_singleton.mp hplayer
      cases h

end RealtimeGameServer.Guarantees.DeltaEncoding
