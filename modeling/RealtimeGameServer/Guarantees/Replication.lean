import RealtimeGameServer.Source.Baseline
import RealtimeGameServer.Source.RealMotion

/-!
# What a client's table knows about the players

Two clients are followed through runs of a session. The first receives every
event from the first tick on (`Replica`); its table is the current players
after every tick exactly when no delta has to tell it of a removal, because
`removePlayer` also forgets the baseline entry that `computeDelta` would report
as removed. The second takes a full snapshot between two ticks (`Resynced`);
its table is right exactly when the next delta sends every `connected` and
`ping` in which that snapshot differs from what the tick publishes.
-/
namespace RealtimeGameServer.Guarantees.Replication
open Lib Source Source.GameSession

variable {R : Type*} [Field R] [LinearOrder R] [JsMath R]

/-- `step` will send a full snapshot. -/
def FullTick (s : GameSession R) : Prop :=
  (s.tick + 1) % fullSnapshotEvery = 0 ∨ s.previousSnapshots.size = 0

theorem fullTick_iff (env : Env R) (now : Int) (s : GameSession R) :
    FullTick s ↔ (swept env now s).shouldFull = true := by
  rw [FullTick, shouldFull, Bool.or_eq_true, decide_eq_true_iff, decide_eq_true_iff]
  rfl

/-- The session, the client's table, and the ids that `removePlayer` took out of
the baseline since the last tick. -/
structure Replica (R : Type*) where
  session : GameSession R
  table : ClientTable R
  dropped : List String
  afterTick : Bool

def dropNext (s : GameSession R) (dropped : List String) : Op R → List String
  | .step _ => []
  | .removePlayer id => if s.previousSnapshots.has id then id :: dropped else dropped
  | _ => dropped

def isTick : Op R → Bool
  | .step _ => true
  | _ => false

def replica (env : Env R) : Machine (Replica R) (Op R) where
  step o op :=
    let result := o.session.apply env op
    some
      { session := result.session
        table := o.table.deliver result.events
        dropped := dropNext o.session o.dropped op
        afterTick := isTick op }

def startReplica (roomId : String) : Replica R where
  session := GameSession.create roomId
  table := fun _ => none
  dropped := []
  afterTick := false

/-- After a tick the table is the current players. -/
def Synced (o : Replica R) : Prop := o.afterTick = true → o.table = o.session.currentTable

/-- A tick that sends a delta finds every dropped id among the players again. -/
def DroppedReturned (o : Replica R) : Op R → Prop
  | .step _ => FullTick o.session ∨ ∀ id ∈ o.dropped, o.session.players.has id = true
  | _ => True

/-- Between ticks the table is the baseline and the dropped ids. -/
structure Tracks (o : Replica R) : Prop where
  grounded : Grounded o.session
  held : ∀ k b, o.session.previousSnapshots.get k = some b → o.table k = some b.toPatch
  dropped : ∀ k, o.session.previousSnapshots.get k = none →
    (o.table k ≠ none ↔ k ∈ o.dropped)
  synced : Synced o

/-- Between ticks nothing reaches the client. -/
theorem deliver_between (env : Env R) (s : GameSession R) (op : Op R) (hop : ¬op.IsStep)
    (table : ClientTable R) : table.deliver (s.apply env op).events = table := by
  cases op with
  | markDisconnected id =>
    simp only [apply, markDisconnected]
    split <;> rfl
  | step now => exact absurd trivial hop
  | _ => rfl

theorem currentTable_step (env : Env R) (now : Int) (s : GameSession R) :
    (s.step env now).session.currentTable = (swept env now s).currentTable := by
  funext k
  simp only [currentTable, step_session, publish_players]

/-- The client after a tick that sends a delta, for one key. The entry of a
player with a baseline `b` was `held`. -/
theorem deliver_delta_player {env : Env R} {now : Int} {s : GameSession R} (h : Grounded s)
    (delta : ¬FullTick s) {table : ClientTable R} {k : String} {player : RuntimePlayerState R}
    (present : s.players.get k = some player) {b : PlayerSnapshot R}
    (hb : s.previousSnapshots.get k = some b) (held : PlayerSnapshot R)
    (htable : table k = some held.toPatch)
    (hheld : SameButLiveness b held) :
    table.deliver (s.step env now).events k = (s.step env now).session.currentTable k ↔
      (held.connected = (expireHeartbeat env now player).connected ∨
        b.connected ≠ (expireHeartbeat env now player).connected) ∧
      (held.ping = player.ping ∨ b.ping ≠ player.ping) := by
  have hget : (swept env now s).players.get k =
      some (tickPlayer env now player (s.queueOf k)) := by
    rw [swept_get, present]
    rfl
  obtain ⟨hid, hname, hconnected, hping⟩ := tickPlayer_frame env now player (s.queueOf k)
  obtain ⟨p, hp, hlive⟩ := h.baseline k b hb
  cases present.symm.trans hp
  have hbid : b.id = player.id := (congrArg PlayerSnapshot.id hlive).symm
  have hbname : b.username = player.username := (congrArg PlayerSnapshot.username hlive).symm
  have hkey : (toPlayerSnapshot (tickPlayer env now player (s.queueOf k))).id = k :=
    hid.trans (h.ids k player present)
  have hchange := change_syncs_iff (swept env now s).previousSnapshots held
    (toPlayerSnapshot (tickPlayer env now player (s.queueOf k)))
    (by rw [hkey]; exact hb) hheld (hid.trans hbid.symm) (hname.trans hbname.symm)
  rw [deliver_step, receive_delta (swept_ids h.ids) now table
    (fun hfull => delta ((fullTick_iff env now s).mpr hfull)), hget, currentTable_step,
    currentTable, hget, htable]
  dsimp only [Option.map_some]
  rw [hchange]
  simp only [toPlayerSnapshot, hconnected, hping]

/-- A player without a baseline is sent whole. -/
theorem deliver_delta_newcomer {env : Env R} {now : Int} {s : GameSession R} (h : Grounded s)
    (delta : ¬FullTick s) (table : ClientTable R) {k : String} {player : RuntimePlayerState R}
    (present : s.players.get k = some player) (hb : s.previousSnapshots.get k = none) :
    table.deliver (s.step env now).events k = (s.step env now).session.currentTable k := by
  have hget : (swept env now s).players.get k =
      some (tickPlayer env now player (s.queueOf k)) := by
    rw [swept_get, present]
    rfl
  have hkey : (toPlayerSnapshot (tickPlayer env now player (s.queueOf k))).id = k :=
    (tickPlayer_frame env now player _).1.trans (h.ids k player present)
  have hchange : changeFor (swept env now s).previousSnapshots
      (toPlayerSnapshot (tickPlayer env now player (s.queueOf k))) =
        some (toPlayerSnapshot (tickPlayer env now player (s.queueOf k))).toPatch := by
    have hnone : (swept env now s).previousSnapshots.get k = none := hb
    rw [changeFor, hkey, hnone]
  rw [deliver_step, receive_delta (swept_ids h.ids) now table
    (fun hfull => delta ((fullTick_iff env now s).mpr hfull)), hget, currentTable_step,
    currentTable, hget]
  dsimp only [Option.map_some]
  rw [hchange]
  dsimp only
  rw [mergeInto_toPatch]

/-- Where there is no player the entry, if any, stays. -/
theorem deliver_delta_absent (env : Env R) (now : Int) {s : GameSession R} (h : Grounded s)
    (delta : ¬FullTick s) (table : ClientTable R) {k : String}
    (absent : s.players.get k = none) :
    table.deliver (s.step env now).events k = table k ∧
      (s.step env now).session.currentTable k = none := by
  have hget : (swept env now s).players.get k = none := by
    rw [swept_get, absent]
    rfl
  have hbase : (swept env now s).previousSnapshots.has k = false := by
    rw [JsMap.has, show (swept env now s).previousSnapshots.get k = none from h.no_baseline absent]
    rfl
  constructor
  · rw [deliver_step, receive_delta (swept_ids h.ids) now table
      (fun hfull => delta ((fullTick_iff env now s).mpr hfull)), hget, hbase]
    simp
  · rw [currentTable_step, currentTable, hget]
    rfl

theorem deliver_full {env : Env R} {now : Int} {s : GameSession R} (h : Grounded s)
    (full : FullTick s) (table : ClientTable R) :
    table.deliver (s.step env now).events = (s.step env now).session.currentTable := by
  rw [deliver_step, currentTable_step]
  exact receive_full (swept_ids h.ids) now table ((fullTick_iff env now s).mp full)

/-- One tick leaves the table right exactly when no dropped id is missing. -/
theorem tick_syncs_iff {env : Env R} {now : Int} {o : Replica R} (h : Tracks o) :
    o.table.deliver (o.session.step env now).events =
        (o.session.step env now).session.currentTable ↔
      DroppedReturned o (.step now) := by
  constructor
  · intro hsync
    by_cases hfull : FullTick o.session
    · exact Or.inl hfull
    right
    intro k hk
    rw [JsMap.has_iff, JsMap.mem_keys, ← Option.isSome_iff_exists, Option.isSome_iff_ne_none]
    intro habsent
    obtain ⟨hkeep, hnone⟩ := deliver_delta_absent env now h.grounded hfull
      o.table habsent
    have hheld : o.table k ≠ none := (h.dropped k (h.grounded.no_baseline habsent)).mpr hk
    rw [← hkeep, hsync, hnone] at hheld
    exact hheld rfl
  · intro hguard
    by_cases hfull : FullTick o.session
    · exact deliver_full h.grounded hfull o.table
    funext k
    cases hp : o.session.players.get k with
    | none =>
      obtain ⟨hkeep, hnone⟩ := deliver_delta_absent env now h.grounded hfull
        o.table hp
      rw [hkeep, hnone]
      by_contra hne
      have hdropped := (h.dropped k (h.grounded.no_baseline hp)).mp hne
      have hreturned := (hguard.resolve_left hfull) k hdropped
      rw [JsMap.has_iff, JsMap.mem_keys, hp] at hreturned
      obtain ⟨_, ⟨⟩⟩ := hreturned
    | some player =>
      cases hb : o.session.previousSnapshots.get k with
      | none => exact deliver_delta_newcomer h.grounded hfull o.table hp hb
      | some b =>
        have hheld : o.table k = some b.toPatch := h.held k b hb
        refine (deliver_delta_player h.grounded hfull hp hb b hheld (.refl b)).mpr ?_
        exact ⟨em _, em _⟩

/-- After a tick that left the table right, table and baseline agree. -/
theorem Tracks.tick {env : Env R} {now : Int} {o o' : Replica R} (h : Tracks o)
    (hstep : (replica env).step o (.step now) = some o')
    (hsync : o'.table = o'.session.currentTable) : Tracks o' := by
  cases hstep
  have hbaseline : ∀ k, (o.session.step env now).session.previousSnapshots.get k =
      ((o.session.step env now).session.players.get k).map toPlayerSnapshot := by
    intro k
    rw [step_session, publish_baseline (swept_ids h.grounded.ids), publish_players]
  have htable : ∀ k, o.table.deliver (o.session.step env now).events k =
      ((o.session.step env now).session.previousSnapshots.get k).map PlayerSnapshot.toPatch := by
    intro k
    rw [hbaseline, Option.map_map]
    exact congrFun hsync k
  constructor
  case grounded => exact h.grounded.apply env (.step now)
  case held =>
    intro k b hb
    have hget : (o.session.step env now).session.previousSnapshots.get k = some b := hb
    have hk := htable k
    rw [hget] at hk
    exact hk
  case dropped =>
    intro k hb
    have hget : (o.session.step env now).session.previousSnapshots.get k = none := hb
    have hnone : o.table.deliver (o.session.step env now).events k = none := by
      rw [htable k, hget]
      rfl
    simp [apply, hnone, dropNext]
  case synced =>
    intro _
    exact hsync

theorem Tracks.between {env : Env R} {o o' : Replica R} {op : Op R} (h : Tracks o)
    (hop : ¬op.IsStep) (hstep : (replica env).step o op = some o') : Tracks o' := by
  cases hstep
  have hbase := apply_previousSnapshots env o.session op hop
  have hquiet : isTick op = false := by
    cases op <;> first | rfl | exact absurd trivial hop
  constructor <;> simp only [deliver_between env o.session op hop o.table, hbase]
  case grounded => exact h.grounded.apply env op
  case held =>
    intro k b hb
    have hprev : o.session.previousSnapshots.get k = some b := by
      cases op with
      | removePlayer id => exact (JsMap.get_delete_cases hb).2
      | _ => exact hb
    exact h.held k b hprev
  case synced =>
    intro hafter
    simp [hquiet] at hafter
  case dropped =>
    intro k hb
    cases op with
    | removePlayer id =>
      simp only [JsMap.get_delete] at hb
      by_cases hk : k = id
      · subst hk
        cases hprev : o.session.previousSnapshots.get k with
        | none => simpa [dropNext, JsMap.has, hprev] using h.dropped k hprev
        | some b => simp [dropNext, JsMap.has, hprev, h.held k b hprev]
      · rw [if_neg hk] at hb
        rw [h.dropped k hb, dropNext]
        split <;> simp [hk]
    | step now => exact absurd trivial hop
    | _ => exact h.dropped k hb

/-- A client that receives every event from the first tick holds the current
players after every tick if and only if each tick that sends a delta finds the
ids removed from the baseline since the last tick among the players again. -/
theorem replica_synced_iff (env : Env R) (roomId : String) (ops : List (Op R)) :
    (replica env).Along Synced (startReplica roomId) ops ↔
      (replica env).StepsMeet DroppedReturned (startReplica roomId) ops := by
  refine Machine.along_iff_stepsMeet (I := Tracks) (L := fun _ => True) (fun _ h => h.synced)
    ?_ ?_ (fun _ _ => trivial) ?_
  · intro o op o' h _ hstep hguard
    cases op with
    | step now =>
      refine h.tick hstep ?_
      cases hstep
      exact (tick_syncs_iff h).mpr hguard
    | _ => exact h.between id hstep
  · intro o op o' h _ hstep hsync
    cases op with
    | step now =>
      cases hstep
      exact (tick_syncs_iff h).mp (hsync rfl)
    | _ => trivial
  · constructor
    case grounded => exact .create roomId
    case held =>
      intro k b hb
      cases hb
    case dropped =>
      intro k _
      simp [startReplica]
    case synced => exact nofun

/-- Two players join, the session ticks, the second is removed, the session
ticks again. -/
noncomputable def leaveRun : List (Op ℝ) :=
  [.addPlayer 0 "p1" "nova", .addPlayer 0 "p2" "orion", .step 50, .removePlayer "p2", .step 100]

/-- The session of `leaveRun` before its first tick. -/
noncomputable def twoPlayers : GameSession ℝ :=
  ((GameSession.create "room-1").addPlayer 0 "p1" "nova").addPlayer 0 "p2" "orion"

/-- The session of `leaveRun` before its last tick. -/
noncomputable def afterLeave : GameSession ℝ :=
  (twoPlayers.step defaultEnv 50).session.removePlayer "p2"

theorem twoPlayers_grounded : Grounded twoPlayers :=
  ((Grounded.create "room-1").apply defaultEnv (.addPlayer 0 "p1" "nova")).apply
    defaultEnv (.addPlayer 0 "p2" "orion")

theorem afterLeave_grounded : Grounded afterLeave :=
  (twoPlayers_grounded.apply defaultEnv (.step 50)).apply defaultEnv
    (.removePlayer "p2")

theorem twoPlayers_has (id : String) (h : id = "p1" ∨ id = "p2") :
    ∃ player, twoPlayers.players.get id = some player := by
  rcases h with rfl | rfl <;> simp [twoPlayers, addPlayer_get, GameSession.create]

theorem afterLeave_delta : ¬FullTick afterLeave := by
  have htick : afterLeave.tick = 1 := publish_tick 50 (swept defaultEnv 50 twoPlayers)
  rintro (hround | hempty)
  · rw [htick] at hround
    exact absurd hround (by decide)
  · -- the first tick put `p1` into the baseline, and it has stayed there
    rw [JsMap.size_eq_zero] at hempty
    have hnone := hempty "p1"
    obtain ⟨player, hplayer⟩ := twoPlayers_has "p1" (Or.inl rfl)
    rw [afterLeave, removePlayer, JsMap.get_delete, if_neg (by decide), step_session,
      publish_baseline (swept_ids twoPlayers_grounded.ids), swept_get, hplayer] at hnone
    cases hnone

/-- The last tick of `leaveRun` sends no removal, and the client keeps `p2`. -/
theorem removed_player_stays_in_table :
    ¬(replica defaultEnv).Along Synced (startReplica "room-1") leaveRun := by
  intro halong
  let table : ClientTable ℝ := ClientTable.deliver (fun _ => none)
    (twoPlayers.step defaultEnv 50).events
  have hsync : table.deliver (afterLeave.step defaultEnv 100).events =
      (afterLeave.step defaultEnv 100).session.currentTable :=
    halong.last (t := ⟨(afterLeave.step defaultEnv 100).session,
      table.deliver (afterLeave.step defaultEnv 100).events, [], true⟩) rfl rfl
  have habsent : afterLeave.players.get "p2" = none := by
    rw [afterLeave, removePlayer_get, if_pos rfl]
  obtain ⟨hkeep, hnone⟩ := deliver_delta_absent defaultEnv 100
    afterLeave_grounded afterLeave_delta table habsent
  obtain ⟨player, hplayer⟩ := twoPlayers_has "p2" (Or.inr rfl)
  have hheld : table "p2" ≠ none := by
    have hfull : table = (twoPlayers.step defaultEnv 50).session.currentTable :=
      deliver_full twoPlayers_grounded (Or.inr rfl) _
    rw [hfull, currentTable_step, currentTable, swept_get, hplayer]
    simp
  exact hheld (by rw [← hkeep, hsync, hnone])

inductive Event (R : Type*) where
  | op (op : Op R)
  | resync (now : Int)

/-- The session, the client's table once it has one, and the session whose
snapshot the client took since the last tick. -/
structure Resynced (R : Type*) where
  session : GameSession R
  table : Option (ClientTable R)
  takenFrom : Option (GameSession R)
  afterTick : Bool

def resynced (env : Env R) : Machine (Resynced R) (Event R) where
  step o
    | .op op =>
      let result := o.session.apply env op
      some
        { session := result.session
          table := o.table.map fun table => table.deliver result.events
          takenFrom := if isTick op then none else o.takenFrom
          afterTick := isTick op }
    | .resync now =>
      let table : ClientTable R := fun _ => none
      some
        { session := o.session
          table := some (table.receive (.snapshot (.full (o.session.buildFullSnapshot now))))
          takenFrom := some o.session
          afterTick := false }

def startResynced (roomId : String) : Resynced R where
  session := GameSession.create roomId
  table := none
  takenFrom := none
  afterTick := false

/-- After a tick a client that has taken a snapshot holds the current players. -/
def SyncedSince (o : Resynced R) : Prop :=
  o.afterTick = true → ∀ table, o.table = some table → table = o.session.currentTable

/-- A tick that sends a delta after a snapshot was taken: `connected` and `ping`
of every player with a baseline are as the snapshot had them, or differ from the
baseline. -/
def SnapshotHolds (env : Env R) (o : Resynced R) : Event R → Prop
  | .op (.step now) => FullTick o.session ∨ ∀ taken, o.takenFrom = some taken →
      ∀ k sent player base, taken.players.get k = some sent →
        o.session.players.get k = some player → o.session.previousSnapshots.get k = some base →
        (sent.connected = (expireHeartbeat env now player).connected ∨
          base.connected ≠ (expireHeartbeat env now player).connected) ∧
        (sent.ping = player.ping ∨ base.ping ≠ player.ping)
  | _ => True

/-- The snapshot's relation to the session it was taken from since the tick. -/
structure TakenSince (s taken : GameSession R) : Prop where
  baseline : ∀ k b, s.previousSnapshots.get k = some b → ∃ p, taken.players.get k = some p ∧
    SameButLiveness b (toPlayerSnapshot p)
  absent : ∀ k, s.players.get k = none → taken.players.get k = none

structure TracksSince (o : Resynced R) : Prop where
  grounded : Grounded o.session
  taken : ∀ taken, o.takenFrom = some taken →
    TakenSince o.session taken ∧ o.table = some taken.currentTable
  held : o.takenFrom = none → ∀ table, o.table = some table → ∀ k,
    table k = (o.session.previousSnapshots.get k).map PlayerSnapshot.toPatch
  synced : SyncedSince o

/-- A delta over a table that is the baseline. -/
theorem deliver_delta_baseline {env : Env R} {now : Int} {s : GameSession R} (h : Grounded s)
    (delta : ¬FullTick s) {table : ClientTable R}
    (held : ∀ k, table k = (s.previousSnapshots.get k).map PlayerSnapshot.toPatch) :
    table.deliver (s.step env now).events = (s.step env now).session.currentTable := by
  funext k
  cases hp : s.players.get k with
  | none =>
    obtain ⟨hkeep, hnone⟩ := deliver_delta_absent env now h delta table hp
    rw [hkeep, hnone, held, h.no_baseline hp]
    rfl
  | some player =>
    cases hb : s.previousSnapshots.get k with
    | none => exact deliver_delta_newcomer h delta table hp hb
    | some b =>
      have hheld : table k = some b.toPatch := by
        rw [held, hb]
        rfl
      refine (deliver_delta_player h delta hp hb b hheld (.refl b)).mpr ?_
      exact ⟨em _, em _⟩

/-- A delta over a snapshot taken since the last tick. -/
theorem deliver_delta_taken_iff (env : Env R) (now : Int) {s taken : GameSession R}
    (h : Grounded s) (delta : ¬FullTick s) (since : TakenSince s taken) :
    taken.currentTable.deliver (s.step env now).events =
        (s.step env now).session.currentTable ↔
      ∀ k sent player base, taken.players.get k = some sent → s.players.get k = some player →
        s.previousSnapshots.get k = some base →
        (sent.connected = (expireHeartbeat env now player).connected ∨
          base.connected ≠ (expireHeartbeat env now player).connected) ∧
        (sent.ping = player.ping ∨ base.ping ≠ player.ping) := by
  constructor
  · intro hsync k sent player base hsent hp hb
    obtain ⟨p, hp', hlive⟩ := since.baseline k base hb
    cases hsent.symm.trans hp'
    have hheld : taken.currentTable k = some (toPlayerSnapshot sent).toPatch := by
      rw [currentTable, hsent]
      rfl
    exact (deliver_delta_player h delta hp hb (toPlayerSnapshot sent) hheld hlive).mp
      (congrFun hsync k)
  · intro hagree
    funext k
    cases hp : s.players.get k with
    | none =>
      obtain ⟨hkeep, hnone⟩ := deliver_delta_absent env now h delta
        taken.currentTable hp
      rw [hkeep, hnone, currentTable, since.absent k hp]
      rfl
    | some player =>
      cases hb : s.previousSnapshots.get k with
      | none => exact deliver_delta_newcomer h delta _ hp hb
      | some b =>
        obtain ⟨sent, hsent, hlive⟩ := since.baseline k b hb
        have hheld : taken.currentTable k = some (toPlayerSnapshot sent).toPatch := by
          rw [currentTable, hsent]
          rfl
        exact (deliver_delta_player h delta hp hb (toPlayerSnapshot sent) hheld hlive).mpr
          (hagree k sent player b hsent hp hb)

/-- One tick leaves a resynced table right exactly when the snapshot holds. -/
theorem resynced_tick_iff {env : Env R} {now : Int} {o : Resynced R} (h : TracksSince o) :
    (∀ table, o.table = some table → table.deliver (o.session.step env now).events =
      (o.session.step env now).session.currentTable) ↔ SnapshotHolds env o (.op (.step now)) := by
  by_cases hfull : FullTick o.session
  · exact iff_of_true (fun table _ => deliver_full h.grounded hfull table) (Or.inl hfull)
  rw [SnapshotHolds, or_iff_right hfull]
  cases htaken : o.takenFrom with
  | none =>
    constructor
    · intro _ taken hnone
      cases hnone
    · intro _ table htable
      exact deliver_delta_baseline h.grounded hfull (h.held htaken table htable)
  | some taken =>
    obtain ⟨hsince, htable⟩ := h.taken taken htaken
    have hiff := deliver_delta_taken_iff env now h.grounded hfull hsince
    simpa only [htable, Option.some.injEq, forall_eq'] using hiff

theorem TracksSince.tick {env : Env R} {now : Int} {o o' : Resynced R} (h : TracksSince o)
    (hstep : (resynced env).step o (.op (.step now)) = some o')
    (hsync : ∀ table, o'.table = some table → table = o'.session.currentTable) :
    TracksSince o' := by
  cases hstep
  constructor
  case grounded => exact h.grounded.apply env (.step now)
  case taken =>
    intro taken htaken
    cases htaken
  case held =>
    intro _ table htable k
    have hbaseline : (o.session.step env now).session.previousSnapshots.get k =
        ((o.session.step env now).session.players.get k).map toPlayerSnapshot := by
      rw [step_session, publish_baseline (swept_ids h.grounded.ids), publish_players]
    rw [hsync table htable]
    simp only [apply, hbaseline, Option.map_map]
    rfl
  case synced =>
    intro _
    exact hsync

theorem TracksSince.between {env : Env R} {o o' : Resynced R} {op : Op R} (h : TracksSince o)
    (hop : ¬op.IsStep) (hstay : ∀ id, op ≠ .removePlayer id)
    (hstep : (resynced env).step o (.op op) = some o') : TracksSince o' := by
  cases hstep
  have hbase : (o.session.apply env op).session.previousSnapshots =
      o.session.previousSnapshots := by
    rw [apply_previousSnapshots env o.session op hop]
    cases op with
    | removePlayer id => exact absurd rfl (hstay id)
    | _ => rfl
  have hquiet : isTick op = false := by
    cases op <;> first | rfl | exact absurd trivial hop
  have htable : (o.table.map fun table => table.deliver (o.session.apply env op).events) =
      o.table := by
    simp only [deliver_between env o.session op hop, Option.map_id']
  constructor <;> simp only [htable, hbase, hquiet, Bool.false_eq_true, if_false]
  case grounded => exact h.grounded.apply env op
  case taken =>
    intro taken htaken
    obtain ⟨hsince, heq⟩ := h.taken taken htaken
    have hagain : TakenSince (o.session.apply env op).session taken := by
      constructor
      case baseline =>
        rw [hbase]
        exact hsince.baseline
      case absent =>
        intro k habsent
        have hbefore : o.session.players.get k = none := by
          cases hp : o.session.players.get k with
          | none => rfl
          | some p =>
            obtain ⟨q, hq⟩ := apply_player_stays env o.session op (hstay k) hp
            rw [habsent] at hq
            cases hq
        exact hsince.absent k hbefore
    exact ⟨hagain, heq⟩
  case held => exact h.held
  case synced =>
    intro hafter
    cases hafter

theorem TracksSince.resync {env : Env R} {now : Int} {o o' : Resynced R} (h : TracksSince o)
    (hstep : (resynced env).step o (.resync now) = some o') : TracksSince o' := by
  cases hstep
  constructor
  case grounded => exact h.grounded
  case taken =>
    intro taken htaken
    cases htaken
    constructor
    · exact ⟨h.grounded.baseline, fun _ habsent => habsent⟩
    · exact congrArg some (receive_players h.grounded.ids _ _ _)
  case held =>
    intro htaken
    cases htaken
  case synced =>
    intro hafter
    cases hafter

/-- In runs without `removePlayer` a client that takes snapshots between ticks
holds the current players after every later tick if and only if at each tick
that sends a delta right after a snapshot, the snapshot's `connected` and `ping`
are those the tick publishes or the delta carries them. -/
theorem resynced_synced_iff (env : Env R) (roomId : String) (events : List (Event R))
    (stays : ∀ e ∈ events, ∀ id, e ≠ .op (.removePlayer id)) :
    (resynced env).Along SyncedSince (startResynced roomId) events ↔
      (resynced env).StepsMeet (SnapshotHolds env) (startResynced roomId) events := by
  refine Machine.along_iff_stepsMeet (I := TracksSince) (fun _ h => h.synced) ?_ ?_ stays ?_
  · intro o e o' h hstay hstep hguard
    cases e with
    | resync now => exact h.resync hstep
    | op op =>
      by_cases hop : op.IsStep
      · cases op with
        | step now =>
          refine h.tick hstep ?_
          cases hstep
          intro table htable
          obtain ⟨held, hheld, rfl⟩ := Option.map_eq_some_iff.mp htable
          exact (resynced_tick_iff h).mpr hguard held hheld
        | _ => exact hop.elim
      · exact h.between hop (fun id heq => hstay id (congrArg Event.op heq)) hstep
  · intro o e o' h _ hstep hsync
    cases e with
    | resync now => trivial
    | op op =>
      cases op with
      | step now =>
        cases hstep
        apply (resynced_tick_iff h).mp
        intro table htable
        have hdelivered : o.table.map (fun table => table.deliver (o.session.step env now).events) =
            some (table.deliver (o.session.step env now).events) := by
          rw [htable, Option.map_some]
        exact hsync rfl _ hdelivered
      | _ => trivial
  · exact ⟨.create roomId, nofun, nofun, nofun⟩

/-- A session after its first tick, one player in it. -/
noncomputable def ticked : GameSession ℝ :=
  (((GameSession.create "room-1").addPlayer 0 "p1" "nova").step defaultEnv 50).session

/-- The player drops out, the client takes a snapshot, the player is heard again. -/
noncomputable def flicker : List (Event ℝ) :=
  [.op (.addPlayer 0 "p1" "nova"), .op (.step 50), .op (.markDisconnected "p1"), .resync 60,
    .op (.heartbeat 70 "p1"), .op (.step 100)]

noncomputable def flickerTaken : GameSession ℝ := (ticked.markDisconnected "p1").1

noncomputable def flickerLast : GameSession ℝ := flickerTaken.heartbeat 70 "p1"

theorem onePlayer_grounded :
    Grounded ((GameSession.create (R := ℝ) "room-1").addPlayer 0 "p1" "nova") :=
  (Grounded.create "room-1").apply defaultEnv (.addPlayer 0 "p1" "nova")

theorem ticked_get :
    ∃ player, ticked.players.get "p1" = some player ∧ player.connected = true := by
  refine ⟨tickPlayer defaultEnv 50 (createRuntimePlayer "p1" "nova" 0 0) [], ?_, ?_⟩
  · rw [ticked, step_players_get, addPlayer_get, if_pos rfl]
    simp [GameSession.create, addPlayer, queueOf]
  · rw [(tickPlayer_frame defaultEnv 50 _ []).2.2.1]
    simp [expireHeartbeat, timedOut, createRuntimePlayer, defaultEnv]

theorem ticked_baseline (player : RuntimePlayerState ℝ) (h : ticked.players.get "p1" = some player) :
    ticked.previousSnapshots.get "p1" = some (toPlayerSnapshot player) := by
  rw [ticked, step_session, publish_players] at h
  rw [ticked, step_session, publish_baseline (swept_ids onePlayer_grounded.ids), h]
  rfl

/-- The delta after the snapshot compares with the tick before it, where the
player was connected as it is again, and so does not tell the client. -/
theorem resync_misses_reconnection :
    (∀ e ∈ flicker, ∀ id, e ≠ .op (.removePlayer id)) ∧
    ¬(resynced defaultEnv).Along SyncedSince (startResynced "room-1") flicker := by
  constructor
  · simp [flicker]
  intro halong
  have hticked : Grounded ticked := onePlayer_grounded.apply defaultEnv (.step 50)
  have htaken : Grounded flickerTaken :=
    hticked.apply defaultEnv (.markDisconnected "p1")
  have hlast : Grounded flickerLast := htaken.apply defaultEnv (.heartbeat 70 "p1")
  have hsync : ClientTable.deliver (ClientTable.receive (fun _ => none)
        (.snapshot (.full (flickerTaken.buildFullSnapshot 60))))
        (flickerLast.step defaultEnv 100).events =
      (flickerLast.step defaultEnv 100).session.currentTable :=
    halong.last (t := ⟨(flickerLast.step defaultEnv 100).session, _, none, true⟩) rfl rfl _ rfl
  obtain ⟨player, hplayer, hconnected⟩ := ticked_get
  have hbase : flickerLast.previousSnapshots.get "p1" = some (toPlayerSnapshot player) := by
    have hkeep := apply_previousSnapshots defaultEnv flickerTaken (.heartbeat 70 "p1") id
    have hkeep' := apply_previousSnapshots defaultEnv ticked (.markDisconnected "p1") id
    exact (congrArg (JsMap.get · "p1") (hkeep.trans hkeep')).trans
      (ticked_baseline player hplayer)
  have hsent : flickerTaken.players.get "p1" = some { player with connected := false } := by
    simp [flickerTaken, markDisconnected, withPlayer_get, hplayer]
  have hagain : flickerLast.players.get "p1" =
      some { player with connected := true, lastHeartbeatAt := 70 } := by
    simp [flickerLast, heartbeat, withPlayer_get, hsent]
  have hdelta : ¬FullTick flickerLast := by
    have htick : flickerLast.tick = 1 := by
      simp only [flickerLast, flickerTaken, heartbeat, markDisconnected, withPlayer_tick, ticked,
        step_session, publish_tick]
      rfl
    rintro (hround | hempty)
    · rw [htick] at hround
      exact absurd hround (by decide)
    · rw [(JsMap.size_eq_zero _).mp hempty] at hbase
      cases hbase
  have hsince : TakenSince flickerLast flickerTaken := by
    constructor
    case baseline =>
      intro k b hb
      have hkeep := apply_previousSnapshots defaultEnv flickerTaken (.heartbeat 70 "p1") id
      exact htaken.baseline k b ((congrArg (JsMap.get · k) hkeep).symm.trans hb)
    case absent =>
      intro k habsent
      simp only [flickerLast, heartbeat, withPlayer_get] at habsent
      split at habsent
      next => exact Option.map_eq_none_iff.mp habsent
      next => exact habsent
  have hreceived : ClientTable.receive (fun _ => none)
      (.snapshot (.full (flickerTaken.buildFullSnapshot 60))) = flickerTaken.currentTable :=
    receive_players htaken.ids _ _ _
  rw [hreceived] at hsync
  have hagree := ((deliver_delta_taken_iff defaultEnv 100 hlast hdelta hsince).mp hsync "p1" _ _ _ hsent hagain
    hbase).1
  simp [expireHeartbeat, timedOut, defaultEnv, toPlayerSnapshot, hconnected] at hagree

/-- A snapshot taken before the first tick holds: that tick sends everything. -/
theorem resync_before_first_tick :
    (resynced defaultEnv).Along SyncedSince (startResynced (R := ℝ) "room-1")
      [.op (.addPlayer 0 "p1" "nova"), .resync 10, .op (.step 50)] := by
  refine (resynced_synced_iff defaultEnv "room-1" _ (by simp)).mpr ?_
  rintro _ ⟨⟩
  refine ⟨trivial, ?_⟩
  rintro _ ⟨⟩
  refine ⟨trivial, ?_⟩
  rintro _ ⟨⟩
  exact ⟨Or.inl (Or.inr rfl), trivial⟩

end RealtimeGameServer.Guarantees.Replication
