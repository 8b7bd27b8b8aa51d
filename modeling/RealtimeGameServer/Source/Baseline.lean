import RealtimeGameServer.Lib.ReplicaTable
import RealtimeGameServer.Source.SessionStep

/-!
# What a tick publishes

The session keeps the snapshots of its last tick as the baseline of the next
delta. Between ticks a player differs from its baseline in `connected` and
`ping` only (`Grounded`), and a tick leaves the baseline equal to its players.
The table of a client after a tick is computed here key by key: the current
snapshot where the tick sends everything, otherwise the client's own entry with
the fields that differ from the baseline overwritten.
-/
namespace RealtimeGameServer.Source
open Lib

variable {R : Type*} [Field R] [LinearOrder R] [JsMath R]

/-- The client's table; an entry is a player object with some properties set. -/
abbrev ClientTable (R : Type*) := String → Option (PlayerPatch R)

/-- One emitted event: a full message replaces the table, a delta deletes and
merges, other events do not concern it. -/
def ClientTable.receive {R : Type*} (table : ClientTable R) : SessionEvent R → ClientTable R
  | .snapshot (.full message) =>
    ReplicaTable.replace (·.id) (message.players.map PlayerSnapshot.toPatch)
  | .snapshot (.delta message) =>
    ReplicaTable.applyDelta (·.id) PlayerPatch.merge table message.changes message.removed
  | .playerDisconnected _ => table

/-- The client after everything an operation emitted. -/
def ClientTable.deliver {R : Type*} (table : ClientTable R) (events : List (SessionEvent R)) :
    ClientTable R := events.foldl ClientTable.receive table

namespace GameSession

/-- The map id -> `toPlayerSnapshot(player)` of the current players. -/
def currentTable (s : GameSession R) : ClientTable R :=
  fun id => (s.players.get id).map fun player => (toPlayerSnapshot player).toPatch

section Fields
omit [Field R] [JsMath R]

theorem vecDiffers_eq (a b : Vec3 R) : vecDiffers a b = decide (a ≠ b) := by
  rw [Bool.eq_iff_iff]
  simp only [vecDiffers, Bool.or_eq_true, decide_eq_true_eq, ne_eq, Vec3.ext_iff]
  tauto

theorem patchOf_eq (prev player : PlayerSnapshot R) :
    patchOf prev player =
      { id := player.id
        position := changed prev.position player.position
        rotation := changed prev.rotation player.rotation
        velocity := changed prev.velocity player.velocity
        hp := changed prev.hp player.hp
        connected := changed prev.connected player.connected
        ping := changed prev.ping player.ping
        lastProcessedInputSeq :=
          changed prev.lastProcessedInputSeq player.lastProcessedInputSeq } := by
  simp only [patchOf, vecDiffers_eq, changed, decide_eq_true_eq]

/-- A player that is not dirty has an empty patch. -/
theorem patchOf_of_not_dirty {prev player : PlayerSnapshot R} (h : ¬dirty prev player = true) :
    patchOf prev player = { id := player.id } := by
  simp only [dirty, vecDiffers_eq, Bool.or_eq_true, decide_eq_true_eq, not_or, ne_eq,
    not_not] at h
  obtain ⟨⟨⟨⟨⟨⟨h1, h2⟩, h3⟩, h4⟩, h5⟩, h6⟩, h7⟩ := h
  simp [patchOf_eq, changed, h1, h2, h3, h4, h5, h6, h7]

/-- `a` and `b` differ in `connected` and `ping` at most. -/
def SameButLiveness (a b : PlayerSnapshot R) : Prop :=
  b = { a with connected := b.connected, ping := b.ping }

omit [LinearOrder R] in
theorem SameButLiveness.refl (a : PlayerSnapshot R) : SameButLiveness a a := rfl

/-- The delta from `prev` brings an entry that holds `held` to `player` exactly
when the two fields that may differ are held already or are in the delta. -/
theorem merge_patchOf_iff {prev held player : PlayerSnapshot R} (hheld : SameButLiveness prev held)
    (hname : player.username = prev.username) :
    held.toPatch.merge (patchOf prev player) = player.toPatch ↔
      (held.connected = player.connected ∨ prev.connected ≠ player.connected) ∧
      (held.ping = player.ping ∨ prev.ping ≠ player.ping) := by
  rw [hheld, patchOf_eq]
  simp only [PlayerPatch.merge, PlayerSnapshot.toPatch, PlayerPatch.mk.injEq, changed_or_iff,
    Option.none_or, hname, eq_or_ne, true_and, and_true]

omit [LinearOrder R] in
/-- A whole snapshot overwrites every property of an entry. -/
theorem mergeInto_toPatch (entry : Option (PlayerPatch R)) (player : PlayerSnapshot R) :
    ReplicaTable.mergeInto PlayerPatch.merge entry player.toPatch = player.toPatch := by
  cases entry <;> rfl

/-- The same for the change `computeDelta` makes of a player with a baseline,
which may be no change at all. -/
theorem change_syncs_iff (previous : JsMap String (PlayerSnapshot R))
    {prev : PlayerSnapshot R} (held player : PlayerSnapshot R) (hprev : previous.get player.id = some prev)
    (hheld : SameButLiveness prev held) (hid : player.id = prev.id)
    (hname : player.username = prev.username) :
    (match changeFor previous player with
      | none => some held.toPatch
      | some patch =>
        some (ReplicaTable.mergeInto PlayerPatch.merge (some held.toPatch) patch)) =
        some player.toPatch ↔
      (held.connected = player.connected ∨ prev.connected ≠ player.connected) ∧
      (held.ping = player.ping ∨ prev.ping ≠ player.ping) := by
  rw [← merge_patchOf_iff hheld hname, changeFor, hprev]
  dsimp only
  by_cases hdirty : dirty prev player = true
  · rw [if_pos hdirty, Option.some.injEq]
    rfl
  · -- the empty patch leaves the entry as it is
    have hkeep : held.toPatch.merge { id := player.id } = held.toPatch := by
      rw [hid, hheld]
      rfl
    rw [if_neg hdirty, patchOf_of_not_dirty hdirty, hkeep, Option.some.injEq]

end Fields

omit [Field R] [JsMath R] in
/-- A change names the player it is about. -/
theorem changeFor_id {previous : JsMap String (PlayerSnapshot R)} {player : PlayerSnapshot R}
    {patch : PlayerPatch R} (h : changeFor previous player = some patch) :
    patch.id = player.id := by
  unfold changeFor at h
  split at h
  next =>
    cases h
    rfl
  next =>
    split at h
    next =>
      cases h
      rfl
    next => cases h

section Delta
variable {previous : JsMap String (PlayerSnapshot R)} {current : List (PlayerSnapshot R)}
omit [Field R] [JsMath R]

theorem mem_removed_iff (k : String) :
    k ∈ (computeDelta previous current).2 ↔ k ∈ previous.keys ∧ k ∉ current.map (·.id) := by
  have hcurrent : (JsMap.ofList (current.map fun player => (player.id, player))).has k = true ↔
      k ∈ current.map (·.id) := by
    rw [JsMap.has_iff, JsMap.mem_keys_ofList, List.map_map]
    rfl
  simp only [computeDelta, List.mem_filter, Bool.not_eq_true', Bool.eq_false_iff, ne_eq,
    hcurrent]

variable (distinct : (current.map (·.id)).Nodup)
include distinct

theorem changes_distinct : ((computeDelta previous current).1.map (·.id)).Nodup :=
  distinct.sublist (ReplicaTable.derived_names_sublist (fun p : PlayerPatch R => p.id)
    (fun _ _ h => changeFor_id h) current)

theorem find?_change (k : String) :
    ((computeDelta previous current).1.find? fun p => p.id = k) =
      (current.find? fun p => p.id = k).bind (changeFor previous) :=
  ReplicaTable.find?_derived (fun p : PlayerPatch R => p.id) (fun _ _ h => changeFor_id h)
    distinct k

/-- A delta leaves nothing under a key of the baseline that has gone. -/
theorem applyDelta_absent (table : ClientTable R) {k : String}
    (absent : (current.find? fun p => p.id = k) = none) :
    ReplicaTable.applyDelta (·.id) PlayerPatch.merge table (computeDelta previous current).1
        (computeDelta previous current).2 k =
      if previous.has k then none else table k := by
  have hmem : k ∉ current.map (·.id) := by
    rw [List.find?_eq_none] at absent
    intro hk
    obtain ⟨p, hp, rfl⟩ := List.mem_map.mp hk
    exact absent p hp (decide_eq_true rfl)
  rw [ReplicaTable.applyDelta_get PlayerPatch.merge table (changes_distinct distinct),
    find?_change distinct, absent]
  dsimp only [Option.bind_none]
  congr 1
  rw [mem_removed_iff, JsMap.has_iff]
  simp [hmem]

/-- Under the key of a current player its change is merged into what is there. -/
theorem applyDelta_present (table : ClientTable R) {k : String} {player : PlayerSnapshot R}
    (present : (current.find? fun p => p.id = k) = some player) :
    ReplicaTable.applyDelta (·.id) PlayerPatch.merge table (computeDelta previous current).1
        (computeDelta previous current).2 k =
      (changeFor previous player).elim (table k) fun patch =>
        some (ReplicaTable.mergeInto PlayerPatch.merge (table k) patch) := by
  have hkept : k ∉ (computeDelta previous current).2 := by
    have hid := List.find?_some present
    rw [mem_removed_iff, ← of_decide_eq_true hid]
    exact fun h => h.2 (List.mem_map_of_mem (List.mem_of_find?_eq_some present))
  rw [ReplicaTable.applyDelta_get PlayerPatch.merge table (changes_distinct distinct),
    find?_change distinct, present, Option.bind_some]
  simp only [if_neg hkept]
  cases changeFor previous player <;> rfl

end Delta

/-- The ids of the players are their keys, and a baseline entry is the last
published snapshot of a present player. -/
structure Grounded (s : GameSession R) : Prop where
  ids : ∀ k p, s.players.get k = some p → p.id = k
  baseline : ∀ k b, s.previousSnapshots.get k = some b → ∃ p, s.players.get k = some p ∧
    SameButLiveness b (toPlayerSnapshot p)

section Published
variable {s : GameSession R} (ids : ∀ k p, s.players.get k = some p → p.id = k)
include ids
omit [Field R] [JsMath R]

omit [LinearOrder R] in
theorem snapshots_ids :
    (s.players.values.map toPlayerSnapshot).map (·.id) = s.players.keys := by
  rw [List.map_map]
  exact JsMap.map_values_eq_keys (fun p => (toPlayerSnapshot p).id) ids

omit [LinearOrder R] in
theorem snapshots_find (k : String) :
    ((s.players.values.map toPlayerSnapshot).find? fun x => x.id = k) =
      (s.players.get k).map toPlayerSnapshot := by
  rw [List.find?_map, ← JsMap.find?_values _ ids k]
  rfl

omit [LinearOrder R] in
theorem snapshots_distinct :
    ((s.players.values.map toPlayerSnapshot).map (·.id)).Nodup := by
  rw [snapshots_ids ids]
  exact s.players.unique

theorem mem_removed (k : String) :
    k ∈ (computeDelta s.previousSnapshots (s.players.values.map toPlayerSnapshot)).2 ↔
      k ∈ s.previousSnapshots.keys ∧ s.players.get k = none := by
  rw [mem_removed_iff, snapshots_ids ids, JsMap.get_eq_none]

/-- After the tick the baseline is the current players. -/
theorem publish_baseline (now : Int) (k : String) :
    (publish now s).1.previousSnapshots.get k = (s.players.get k).map toPlayerSnapshot := by
  have hstored : ∀ m : JsMap String (PlayerSnapshot R), (s.players.get k = none → m.get k = none) →
      ((s.players.values.map toPlayerSnapshot).foldl (fun acc x => acc.set x.id x) m).get k =
        (s.players.get k).map toPlayerSnapshot := by
    intro m hm
    rw [JsMap.get_foldl_set _ _ _ _ (snapshots_distinct ids), snapshots_find ids]
    cases hp : s.players.get k with
    | none => simpa using hm hp
    | some p => rfl
  unfold publish
  dsimp only
  split
  next => exact hstored _ fun _ => rfl
  next =>
    -- what is gone from `players` has been deleted from the baseline first
    have hdelta := hstored ((computeDelta s.previousSnapshots
        (s.players.values.map toPlayerSnapshot)).2.foldl JsMap.delete s.previousSnapshots) (by
      intro hnone
      rw [JsMap.get_foldl_delete]
      split
      next => rfl
      next habsent =>
        rw [mem_removed ids] at habsent
        exact (JsMap.get_eq_none _ _).mpr fun hmem => habsent ⟨hmem, hnone⟩)
    split <;> exact hdelta

omit [LinearOrder R] in
/-- A full message of the current players makes the current table. -/
theorem receive_players (table : ClientTable R) (tick : Nat) (now : Int) :
    table.receive (.snapshot (.full ⟨tick, now, s.players.values.map toPlayerSnapshot⟩)) =
      s.currentTable := by
  funext k
  have hdistinct : (((s.players.values.map toPlayerSnapshot).map PlayerSnapshot.toPatch).map
      fun p => p.id).Nodup := by
    have h := snapshots_distinct ids
    rw [List.map_map] at h ⊢
    rwa [List.map_map]
  simp only [ClientTable.receive, ReplicaTable.replace_get hdistinct, currentTable]
  have hfind := congrArg (Option.map PlayerSnapshot.toPatch) (snapshots_find ids k)
  rw [Option.map_map] at hfind
  rw [List.find?_map]
  exact hfind

/-- The table after a tick that sends everything. -/
theorem receive_full (now : Int) (table : ClientTable R) (full : s.shouldFull = true) :
    ((publish now s).2.map fun m => table.receive (.snapshot m)).getD table = s.currentTable := by
  simp only [publish, full, if_true, Option.map_some, Option.getD_some]
  exact receive_players ids table s.tick now

omit ids in
/-- Any other tick applies the delta, which is empty when the tick is silent. -/
theorem receive_publish (now : Int) (table : ClientTable R) (delta : ¬s.shouldFull = true) :
    ((publish now s).2.map fun m => table.receive (.snapshot m)).getD table =
      ReplicaTable.applyDelta (·.id) PlayerPatch.merge table
        (computeDelta s.previousSnapshots (s.players.values.map toPlayerSnapshot)).1
        (computeDelta s.previousSnapshots (s.players.values.map toPlayerSnapshot)).2 := by
  simp only [publish, delta]
  split
  next => simp_all
  next =>
    split
    next hquiet =>
      rw [List.eq_nil_of_length_eq_zero hquiet.1, List.eq_nil_of_length_eq_zero hquiet.2]
      simp [ReplicaTable.applyDelta]
    next => rfl

/-- The table after any other tick, key by key. -/
theorem receive_delta (now : Int) (table : ClientTable R) (delta : ¬s.shouldFull = true)
    (k : String) :
    ((publish now s).2.map fun m => table.receive (.snapshot m)).getD table k =
      match s.players.get k with
      | none => if s.previousSnapshots.has k then none else table k
      | some player =>
        match changeFor s.previousSnapshots (toPlayerSnapshot player) with
        | none => table k
        | some patch => some (ReplicaTable.mergeInto PlayerPatch.merge (table k) patch) := by
  have hdistinct := snapshots_distinct ids
  have hfind := snapshots_find ids k
  rw [receive_publish now table delta]
  cases hp : s.players.get k with
  | none =>
    rw [hp] at hfind
    exact applyDelta_absent hdistinct table hfind
  | some player =>
    rw [hp] at hfind
    refine (applyDelta_present hdistinct table hfind).trans ?_
    dsimp only
    cases changeFor s.previousSnapshots (toPlayerSnapshot player) <;> rfl

end Published

/-- The session the tail of `step` publishes. -/
def swept (env : Env R) (now : Int) (s : GameSession R) : GameSession R :=
  let result := sweep env now { s with tick := s.tick + 1 }
  { s with tick := s.tick + 1, players := result.players, pendingInputs := result.pendingInputs }

theorem step_session (env : Env R) (now : Int) (s : GameSession R) :
    (s.step env now).session = (publish now (swept env now s)).1 := rfl

theorem step_events (env : Env R) (now : Int) (s : GameSession R) :
    (s.step env now).events = (sweep env now { s with tick := s.tick + 1 }).events ++
      ((publish now (swept env now s)).2.map SessionEvent.snapshot).toList := rfl

theorem visit_events (env : Env R) (now : Int) (acc : Sweep R) (playerId : String)
    (h : ∀ e ∈ acc.events, ∃ id, e = .playerDisconnected id) :
    ∀ e ∈ (visit env now acc playerId).events, ∃ id, e = .playerDisconnected id := by
  intro e he
  unfold visit at he
  split at he
  next => exact h e he
  next =>
    rcases List.mem_append.mp he with hold | hnew
    · exact h e hold
    · split at hnew
      next => exact ⟨playerId, List.mem_singleton.mp hnew⟩
      next => cases hnew

/-- The loop announces disconnections only. -/
theorem sweep_events (env : Env R) (now : Int) (s : GameSession R) :
    ∀ e ∈ (sweep env now s).events, ∃ id, e = .playerDisconnected id := by
  have general : ∀ (ids : List String) (acc : Sweep R),
      (∀ e ∈ acc.events, ∃ id, e = .playerDisconnected id) →
      ∀ e ∈ (ids.foldl (visit env now) acc).events, ∃ id, e = .playerDisconnected id := by
    intro ids
    induction ids with
    | nil => exact fun _ h => h
    | cons id rest ih => exact fun acc h => ih _ (visit_events env now acc id h)
  refine general s.players.keys _ ?_
  simp

/-- What a tick brings to a client is the published message. -/
theorem deliver_step (env : Env R) (now : Int) (s : GameSession R) (table : ClientTable R) :
    table.deliver (s.step env now).events =
      ((publish now (swept env now s)).2.map fun m => table.receive (.snapshot m)).getD table := by
  have hquiet : ∀ (events : List (SessionEvent R)) (t : ClientTable R),
      (∀ e ∈ events, ∃ id, e = .playerDisconnected id) → t.deliver events = t := by
    intro events
    induction events with
    | nil => exact fun _ _ => rfl
    | cons e rest ih =>
      intro t h
      obtain ⟨id, rfl⟩ := h e List.mem_cons_self
      exact ih t fun e he => h e (List.mem_cons_of_mem _ he)
  have hevents := hquiet _ table (sweep_events env now { s with tick := s.tick + 1 })
  rw [ClientTable.deliver] at hevents ⊢
  rw [step_events, List.foldl_append, hevents]
  cases (publish now (swept env now s)).2 <;> rfl

theorem tickPlayer_frame (env : Env R) (now : Int) (player : RuntimePlayerState R)
    (queue : List (MovementInput R)) :
    (tickPlayer env now player queue).id = player.id ∧
    (tickPlayer env now player queue).username = player.username ∧
    (tickPlayer env now player queue).connected = (expireHeartbeat env now player).connected ∧
    (tickPlayer env now player queue).ping = player.ping := by
  have hping : (expireHeartbeat env now player).ping = player.ping := by
    unfold expireHeartbeat
    split <;> rfl
  have hbody := expireHeartbeat_body env now player
  rw [tickPlayer, Sequenced.stale_eq]
  cases ((movement env).applied (expireHeartbeat env now player) queue).getLast? with
  | none => exact ⟨hbody.id, hbody.username, rfl, hping⟩
  | some input => exact ⟨hbody.id, hbody.username, rfl, hping⟩

theorem swept_get (env : Env R) (now : Int) (s : GameSession R) (k : String) :
    (swept env now s).players.get k =
      (s.players.get k).map fun player => tickPlayer env now player (s.queueOf k) :=
  sweep_get env now { s with tick := s.tick + 1 } k

theorem swept_ids {env : Env R} {now : Int} {s : GameSession R}
    (ids : ∀ k p, s.players.get k = some p → p.id = k) :
    ∀ k p, (swept env now s).players.get k = some p → p.id = k := by
  intro k p hp
  rw [swept_get] at hp
  obtain ⟨player, hplayer, rfl⟩ := Option.map_eq_some_iff.mp hp
  exact (tickPlayer_frame env now player _).1.trans (ids k player hplayer)

/-- Between ticks the baseline only loses the entries of removed players. -/
theorem apply_previousSnapshots (env : Env R) (s : GameSession R) (op : Op R) (hop : ¬op.IsStep) :
    (s.apply env op).session.previousSnapshots =
      match op with
      | .removePlayer id => s.previousSnapshots.delete id
      | _ => s.previousSnapshots := by
  cases op with
  | addPlayer now id username =>
    simp only [apply, addPlayer]
    split <;> rfl
  | removePlayer id => rfl
  | markDisconnected id => exact withPlayer_previousSnapshots s id _
  | heartbeat now id => exact withPlayer_previousSnapshots s id _
  | updatePing id ping => exact withPlayer_previousSnapshots s id _
  | enqueueInput id input =>
    simp only [apply, enqueueInput]
    split <;> rfl
  | step now => exact absurd trivial hop

omit [Field R] [LinearOrder R] [JsMath R] in
theorem SameBody.sameButLiveness {p q : RuntimePlayerState R} (h : SameBody p q)
    {b : PlayerSnapshot R} (hb : SameButLiveness b (toPlayerSnapshot p)) :
    SameButLiveness b (toPlayerSnapshot q) := by
  unfold SameButLiveness toPlayerSnapshot at *
  simp only [PlayerSnapshot.mk.injEq] at hb ⊢
  simpa [h.id, h.username, h.position, h.rotation, h.velocity, h.hp,
    h.lastProcessedInputSeq] using hb

omit [Field R] [LinearOrder R] [JsMath R] in
/-- No baseline without a player. -/
theorem Grounded.no_baseline {s : GameSession R} (h : Grounded s) {k : String}
    (absent : s.players.get k = none) : s.previousSnapshots.get k = none := by
  cases hb : s.previousSnapshots.get k with
  | none => rfl
  | some b =>
    obtain ⟨p, hp, -⟩ := h.baseline k b hb
    rw [absent] at hp
    cases hp

omit [Field R] [LinearOrder R] [JsMath R] in
theorem Grounded.create (roomId : String) : Grounded (GameSession.create (R := R) roomId) where
  ids := by
    intro k p hp
    cases hp
  baseline := by
    intro k b hb
    cases hb

/-- Every operation keeps ids and baseline. -/
theorem Grounded.apply {s : GameSession R} (h : Grounded s) (env : Env R) (op : Op R) :
    Grounded (s.apply env op).session := by
  by_cases hop : op.IsStep
  · cases op with
    | step now =>
      constructor
      case ids =>
        intro k p hp
        simp only [GameSession.apply, step_session, publish_players] at hp
        exact swept_ids h.ids k p hp
      case baseline =>
        intro k b hb
        simp only [GameSession.apply, step_session] at hb ⊢
        rw [publish_baseline (swept_ids h.ids)] at hb
        obtain ⟨p, hp, rfl⟩ := Option.map_eq_some_iff.mp hb
        exact ⟨p, by rwa [publish_players], .refl _⟩
    | _ => exact hop.elim
  · constructor
    case ids =>
      intro k q hq
      rcases apply_player_cases env s op hop hq with ⟨p, hp, hbody⟩ | ⟨_, _, _, _, rfl⟩
      · exact hbody.id.trans (h.ids k p hp)
      · rfl
    case baseline =>
      intro k b hb
      rw [apply_previousSnapshots env s op hop] at hb
      have hbase : s.previousSnapshots.get k = some b ∧ op ≠ .removePlayer k := by
        cases op with
        | removePlayer id =>
          obtain ⟨hne, hold⟩ := JsMap.get_delete_cases hb
          refine ⟨hold, fun heq => ?_⟩
          cases heq
          exact hne rfl
        | _ =>
          constructor
          · exact hb
          · intro heq
            cases heq
      obtain ⟨p, hp, hlive⟩ := h.baseline k b hbase.1
      obtain ⟨q, hq⟩ := apply_player_stays env s op hbase.2 hp
      have hlive' : SameButLiveness b (toPlayerSnapshot q) := by
        rcases apply_player_cases env s op hop hq with ⟨p', hp', hbody⟩ | ⟨hnone, _⟩
        · cases hp.symm.trans hp'
          exact hbody.sameButLiveness hlive
        · rw [hp] at hnone
          cases hnone
      exact ⟨q, hq, hlive'⟩

end GameSession
end RealtimeGameServer.Source
