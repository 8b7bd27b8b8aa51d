import RealtimeGameServer.Source.JsSession
import RealtimeGameServer.Source.JsonText

/-!
# Numbers on the wire

The schema bounds `seq`, `dt` and the members of `move`; a member of `look` is only a
number, so a literal that overflows is accepted as an infinity. The movement check does not
read `look` and copies it to `rotation`, the delta compares it and sends it, and
`JSON.stringify` writes `null`. A session sends numbers for its numbers exactly as long as
every tick leaves each player the result of an input with a finite `look`, or of none. The
other way to a number that is not finite is a `MAX_MOVE_SPEED` of `Infinity`: the products of
a checked input have a factor of at most one, so none of them overflows, and a sum that does is
clamped.
-/
namespace RealtimeGameServer.Guarantees.WireNumbers
open Lib Lib.Binary64 Source.JsNumber
-- over these numbers the functions are the ones of `JsNumber`
open Source hiding inputChecks unitRange clientMessageSchema magnitude nextVelocity
  proposedPosition clampVec3 worldBounds createRuntimePlayer advance validateAndApplyMovement
  validate_accepted validate_rejected validate_accepted_congr

/-- The numbers of the player are finite. -/
def FinitePlayer (player : RuntimePlayerState JsNumber) : Prop :=
  FiniteSnapshot (toPlayerSnapshot player)

theorem FinitePlayer.withLiveness {player : RuntimePlayerState JsNumber}
    (h : FinitePlayer player) (connected : Bool) (lastHeartbeatAt : Int) :
    FinitePlayer { player with connected, lastHeartbeatAt } where
  position := h.position
  rotation := h.rotation
  velocity := h.velocity
  hp := h.hp
  ping := h.ping
  lastProcessedInputSeq := h.lastProcessedInputSeq

/-- At a tick, the last queued input that is accepted for a player has a finite `look`, and
`MAX_MOVE_SPEED` is finite. -/
def TicksFinite (env : JsEnv) (session : GameSession JsNumber) (drive : Drive) : Prop :=
  ∀ now, drive = .step now → ∀ id player, session.players.get id = some player → ∀ input,
    (numerics env).lastAccepted now player ((session.pendingInputs.get id).getD []) = some input →
      env.maxMoveSpeed.isFinite = true ∧ FiniteVec input.look

/-- The players and the baseline hold finite numbers, and every queued input has passed the
checks of the schema. -/
structure FiniteSession (session : GameSession JsNumber) : Prop where
  players : ∀ id player, session.players.get id = some player → FinitePlayer player
  queues : ∀ id queue, session.pendingInputs.get id = some queue →
    ∀ input ∈ queue, inputChecks input = true
  baseline : ∀ id prev, session.previousSnapshots.get id = some prev → FiniteSnapshot prev

def AllSurvive (b : Broadcasting) : Prop :=
  ∀ message ∈ b.sent, (Json.messageFrame message).Survives

theorem nonneg_magnitude {v : Vec3 JsNumber} (h : FiniteVec v) : 0 ≤ magnitude v :=
  nonneg_sqrt (nonneg_add (nonneg_add (nonneg_mul_self h.1) (nonneg_mul_self h.2.1))
    (nonneg_mul_self h.2.2))

/-- The velocity is finite if and only if the maximal speed is. -/
theorem finite_nextVelocity {maxSpeed : JsNumber} {input : MovementInput JsNumber}
    (h : CheckedInput input) :
    FiniteVec (nextVelocity maxSpeed input.move) ↔ maxSpeed.isFinite = true := by
  have hspeed : (jsMin 1 (magnitude input.move) * maxSpeed).isFinite = maxSpeed.isFinite :=
    isFinite_unit_mul (within_unit (nonneg_magnitude h.finiteMove))
  simp only [FiniteVec, nextVelocity, isFinite_unit_mul h.moveX, isFinite_unit_mul h.moveY,
    isFinite_unit_mul h.moveZ, hspeed, and_self]

/-- A step from a finite position at a finite velocity may overflow, but not to `NaN`. -/
theorem number_proposedPosition {position velocity : Vec3 JsNumber} {dt : JsNumber}
    (hposition : FiniteVec position) (hvelocity : FiniteVec velocity) (hdt : Within 1 dt) :
    NumberVec (proposedPosition position velocity dt) := by
  have hmoved : ∀ {p v : JsNumber}, p.isFinite = true → v.isFinite = true → p + v * dt ≠ nan := by
    intro p v hp hv
    refine add_ne_nan hp ?_
    rw [JsNumber.mul_comm, isFinite_unit_mul hdt]
    exact hv
  exact ⟨hmoved hposition.1 hvelocity.1, hmoved hposition.2.1 hvelocity.2.1,
    hmoved hposition.2.2 hvelocity.2.2⟩

theorem finite_clampVec3 {v : Vec3 JsNumber} (h : NumberVec v) :
    FiniteVec (clampVec3 v worldBounds) := by
  obtain ⟨hx, hy, hz⟩ := h
  exact ⟨isFinite_clamp (by decide +kernel) (by decide +kernel) hx,
    isFinite_clamp (by decide +kernel) (by decide +kernel) hy,
    isFinite_clamp (by decide +kernel) (by decide +kernel) hz⟩

/-- The result of an input that passed the schema: its `look` is the only number of the
client that reaches the state without a bound. -/
theorem finite_advance {maxSpeed : JsNumber} {state : RuntimePlayerState JsNumber}
    {input : MovementInput JsNumber} (hstate : FinitePlayer state)
    (hinput : inputChecks input = true) :
    FinitePlayer (advance maxSpeed state input) ↔
      maxSpeed.isFinite = true ∧ FiniteVec input.look := by
  have hchecked := checked_of_checks hinput
  constructor
  · exact fun h => ⟨(finite_nextVelocity hchecked).mp h.velocity, h.rotation⟩
  · rintro ⟨hspeed, hlook⟩
    have hvelocity := (finite_nextVelocity hchecked).mpr hspeed
    exact
      { position :=
          finite_clampVec3 (number_proposedPosition hstate.position hvelocity hchecked.dt)
        rotation := hlook
        velocity := hvelocity
        hp := hstate.hp
        ping := hstate.ping
        lastProcessedInputSeq := hchecked.seq }

theorem finite_expireHeartbeat {env : JsEnv} {now : Int}
    {player : RuntimePlayerState JsNumber} (h : FinitePlayer player) :
    FinitePlayer ((numerics env).expireHeartbeat now player) := by
  unfold Numerics.expireHeartbeat
  split
  next => exact h.withLiveness false player.lastHeartbeatAt
  next => exact h

theorem finite_tickPlayer {env : JsEnv} {now : Int} {player : RuntimePlayerState JsNumber}
    {queue : List (MovementInput JsNumber)} (hplayer : FinitePlayer player)
    (hqueue : ∀ input ∈ queue, inputChecks input = true) :
    FinitePlayer ((numerics env).tickPlayer now player queue) ↔
      ∀ input, (numerics env).lastAccepted now player queue = some input →
        env.maxMoveSpeed.isFinite = true ∧ FiniteVec input.look := by
  have hexpired : FinitePlayer ((numerics env).expireHeartbeat now player) :=
    finite_expireHeartbeat hplayer
  rw [Numerics.tickPlayer]
  cases hlast : (numerics env).lastAccepted now player queue with
  | none =>
    refine iff_of_true hexpired ?_
    rintro _ ⟨⟩
  | some input =>
    obtain ⟨hmem, haccepted⟩ := List.mem_filter.mp (List.mem_of_getLast? hlast)
    have hstate : ((numerics env).validateAndApplyMovement
        ((numerics env).expireHeartbeat now player) input).state =
          advance env.maxMoveSpeed ((numerics env).expireHeartbeat now player) input :=
      validate_accepted haccepted
    dsimp only
    rw [hstate, finite_advance hexpired (hqueue input hmem)]
    simp only [Option.some.injEq, forall_eq']

/-- What the tail of the tick sends survives if and only if every player has finite numbers:
the baseline has, so what a delta leaves out is finite. -/
theorem survives_publish {now : Int} {s : GameSession JsNumber}
    (hbaseline : ∀ id prev, s.previousSnapshots.get id = some prev → FiniteSnapshot prev) :
    (∀ message, (Numerics.publish now s).2 = some message →
      (Json.messageFrame message).Survives) ↔
      ∀ player ∈ s.players.values, FinitePlayer player := by
  have hall : (∀ snapshot ∈ s.players.values.map toPlayerSnapshot, FiniteSnapshot snapshot) ↔
      ∀ player ∈ s.players.values, FinitePlayer player := List.forall_mem_map
  have hchanges : (∀ patch ∈ (computeDelta s.previousSnapshots
      (s.players.values.map toPlayerSnapshot)).1, (Json.patchFrame patch).Survives) ↔
      ∀ snapshot ∈ s.players.values.map toPlayerSnapshot, FiniteSnapshot snapshot := by
    constructor
    · intro h snapshot hsnapshot
      rw [← Json.survives_changeFor hbaseline snapshot]
      intro patch hpatch
      exact h patch (List.mem_filterMap.mpr ⟨snapshot, hsnapshot, hpatch⟩)
    · intro h patch hpatch
      obtain ⟨snapshot, hsnapshot, hchange⟩ := List.mem_filterMap.mp hpatch
      exact (Json.survives_changeFor hbaseline snapshot).mpr (h snapshot hsnapshot) patch hchange
  rw [← hall]
  unfold Numerics.publish
  dsimp only
  split
  next => simp only [Option.some.injEq, forall_eq', Json.survives_full]
  next =>
    rw [← hchanges]
    split
    next hnothing =>
      rw [List.length_eq_zero_iff.mp hnothing.1]
      simp
    next => simp only [Option.some.injEq, forall_eq', Json.survives_delta]

theorem finite_stored {snapshots : List (PlayerSnapshot JsNumber)}
    (hsnapshots : ∀ snapshot ∈ snapshots, FiniteSnapshot snapshot)
    (table : JsMap String (PlayerSnapshot JsNumber))
    (htable : ∀ id prev, table.get id = some prev → FiniteSnapshot prev) :
    ∀ id prev, (snapshots.foldl (fun acc snapshot => acc.set snapshot.id snapshot) table).get id =
      some prev → FiniteSnapshot prev := by
  induction snapshots generalizing table with
  | nil => exact htable
  | cons snapshot rest ih =>
    rw [List.forall_mem_cons] at hsnapshots
    exact ih hsnapshots.2 _ (JsMap.forall_get_set htable hsnapshots.1)

theorem finite_publish {now : Int} {s : GameSession JsNumber} (h : FiniteSession s) :
    FiniteSession (Numerics.publish now s).1 := by
  have hsnapshots : ∀ snapshot ∈ s.players.values.map toPlayerSnapshot,
      FiniteSnapshot snapshot := by
    refine List.forall_mem_map.mpr fun player hplayer => ?_
    obtain ⟨id, hid⟩ := (JsMap.mem_values _ _).mp hplayer
    exact h.players id player hid
  have hfull := finite_stored hsnapshots JsMap.empty fun id prev hprev => by cases hprev
  have hdelta := finite_stored hsnapshots
    ((computeDelta s.previousSnapshots (s.players.values.map toPlayerSnapshot)).2.foldl
      JsMap.delete s.previousSnapshots) fun id prev hprev => by
        rw [JsMap.get_foldl_delete] at hprev
        split at hprev
        next => cases hprev
        next => exact h.baseline id prev hprev
  unfold Numerics.publish
  dsimp only
  split
  next => exact ⟨h.players, h.queues, hfull⟩
  next =>
    split
    next => exact ⟨h.players, h.queues, hdelta⟩
    next => exact ⟨h.players, h.queues, hdelta⟩

/-- The players after the loop have finite numbers if and only if the inputs that it leaves
them with do. -/
theorem finite_swept_iff {env : JsEnv} {now : Int} {s : GameSession JsNumber}
    (h : FiniteSession s) :
    (∀ player ∈ ((numerics env).swept now s).players.values, FinitePlayer player) ↔
      TicksFinite env s (.step now) := by
  have hqueue : ∀ id, ∀ input ∈ (s.pendingInputs.get id).getD [], inputChecks input = true := by
    intro id
    cases hfound : s.pendingInputs.get id with
    | none => simp
    | some queue => exact h.queues id queue hfound
  constructor
  · rintro hswept _ ⟨⟩ id player hplayer
    refine (finite_tickPlayer (h.players id player hplayer) (hqueue id)).mp (hswept _ ?_)
    refine (JsMap.mem_values _ _).mpr ⟨id, ?_⟩
    rw [Numerics.swept_players_get, hplayer]
    rfl
  · intro hticks player hplayer
    obtain ⟨id, hid⟩ := (JsMap.mem_values _ _).mp hplayer
    rw [Numerics.swept_players_get] at hid
    obtain ⟨old, hold, rfl⟩ := Option.map_eq_some_iff.mp hid
    exact (finite_tickPlayer (h.players id old hold) (hqueue id)).mpr (hticks now rfl id old hold)

theorem finite_swept {env : JsEnv} {now : Int} {s : GameSession JsNumber}
    (h : FiniteSession s) (hticks : TicksFinite env s (.step now)) :
    FiniteSession ((numerics env).swept now s) where
  players id player hplayer :=
    (finite_swept_iff h).mpr hticks player ((JsMap.mem_values _ _).mpr ⟨id, hplayer⟩)
  queues id queue hqueue := by
    rcases Numerics.swept_pending_get (numerics env) now s id with hkept | hdrained
    · exact h.queues id queue (hkept.symm.trans hqueue)
    · cases hdrained.symm.trans hqueue
      simp
  baseline := h.baseline

theorem FiniteSession.create (roomId : String) :
    FiniteSession (GameSession.create roomId : GameSession JsNumber) := by
  constructor <;> rintro _ _ ⟨⟩

/-- The numbers that an operation brings into the session have passed the schema. -/
def Checked : GameSession.Op JsNumber → Prop
  | .enqueueInput _ input => inputChecks input = true
  | .updatePing _ ping => ping.isFinite = true
  | _ => True

theorem driveOp_checked {drive : Drive} {op : GameSession.Op JsNumber}
    (h : driveOp drive = some op) : Checked op := by
  cases drive with
  | frame now playerId value =>
    obtain ⟨message, hmessage, hop⟩ := Option.bind_eq_some_iff.mp h
    have hchecked := clientMessageSchema_cases hmessage
    cases message with
    | input input =>
      cases hop
      exact hchecked
    | ping clientTime =>
      cases hop
      exact isFinite_elapsed (isFinite_ofTime now) (isFinite_of_isInteger hchecked.1) hchecked.2
    | heartbeat =>
      cases hop
      trivial
    | joinSession roomId reconnectToken => cases hop
    | requestSnapshot => cases hop
  | joined now => cases h
  | _ =>
    cases h
    trivial

theorem FiniteSession.withPlayer {s : GameSession JsNumber} (h : FiniteSession s)
    (playerId : String) {assign : RuntimePlayerState JsNumber → RuntimePlayerState JsNumber}
    (hassign : ∀ player, FinitePlayer player → FinitePlayer (assign player)) :
    FiniteSession (s.withPlayer playerId assign) := by
  unfold GameSession.withPlayer
  split
  next => exact h
  next player hplayer =>
    have hassigned := hassign player (h.players playerId player hplayer)
    exact ⟨JsMap.forall_get_set h.players hassigned, h.queues, h.baseline⟩

theorem finite_createRuntimePlayer (env : JsEnv) (id username : String) (spawnIndex : Nat)
    (now : Int) : FinitePlayer (createRuntimePlayer env id username spawnIndex now) := by
  have hangle := isFinite_spawnAngle spawnIndex
  have hfive : (5 : JsNumber).isFinite = true := by decide +kernel
  have hfull : (100 : JsNumber).isFinite = true := by decide +kernel
  exact
    { position :=
        ⟨(isFinite_unit_mul (env.cos_within _ hangle)).trans hfive, isFinite_zero,
          (isFinite_unit_mul (env.sin_within _ hangle)).trans hfive⟩
      rotation := ⟨isFinite_zero, hangle, isFinite_zero⟩
      velocity := ⟨isFinite_zero, isFinite_zero, isFinite_zero⟩
      hp := hfull
      ping := isFinite_zero
      lastProcessedInputSeq := isFinite_zero }

theorem FiniteSession.addPlayer {env : JsEnv} {s : GameSession JsNumber}
    (h : FiniteSession s) (now : Int) (playerId username : String) :
    FiniteSession ((numerics env).addPlayer s now playerId username) := by
  unfold Numerics.addPlayer
  split
  next existing hexisting =>
    have hreturned := (h.players playerId existing hexisting).withLiveness true now
    exact ⟨JsMap.forall_get_set h.players hreturned, h.queues, h.baseline⟩
  next =>
    have hcreated := finite_createRuntimePlayer env playerId username s.players.size now
    have hempty : ∀ input ∈ ([] : List (MovementInput JsNumber)), inputChecks input = true :=
      List.forall_mem_nil _
    exact ⟨JsMap.forall_get_set h.players hcreated, JsMap.forall_get_set h.queues hempty,
      h.baseline⟩

theorem FiniteSession.removePlayer {s : GameSession JsNumber} (h : FiniteSession s)
    (playerId : String) : FiniteSession (s.removePlayer playerId) where
  players := JsMap.forall_get_delete h.players playerId
  queues := JsMap.forall_get_delete h.queues playerId
  baseline := JsMap.forall_get_delete h.baseline playerId

theorem FiniteSession.enqueueInput {s : GameSession JsNumber} (h : FiniteSession s)
    (playerId : String) {input : MovementInput JsNumber} (hinput : inputChecks input = true) :
    FiniteSession (s.enqueueInput playerId input).1 := by
  unfold GameSession.enqueueInput
  split
  next => exact h
  next queue hqueue =>
    refine ⟨h.players, JsMap.forall_get_set h.queues fun queued hqueued => ?_, h.baseline⟩
    rcases List.mem_append.mp hqueued with hold | hnew
    · refine h.queues playerId queue hqueue queued ?_
      split at hold
      next => exact List.mem_of_mem_tail hold
      next => exact hold
    · rw [List.mem_singleton.mp hnew]
      exact hinput

/-- One operation from finite numbers. -/
theorem FiniteSession.apply {env : JsEnv} {s : GameSession JsNumber} (h : FiniteSession s)
    {op : GameSession.Op JsNumber} (hchecked : Checked op)
    (hticks : ∀ now, op = .step now → TicksFinite env s (.step now)) :
    FiniteSession ((numerics env).apply s op).1 := by
  cases op with
  | addPlayer now playerId username => exact h.addPlayer now playerId username
  | removePlayer playerId => exact h.removePlayer playerId
  | markDisconnected playerId =>
    exact h.withPlayer playerId fun player hplayer =>
      hplayer.withLiveness false player.lastHeartbeatAt
  | heartbeat now playerId =>
    exact h.withPlayer playerId fun player hplayer => hplayer.withLiveness true now
  | updatePing playerId ping =>
    refine h.withPlayer playerId fun player hplayer => ?_
    have hround := isFinite_round hchecked
    exact
      { position := hplayer.position
        rotation := hplayer.rotation
        velocity := hplayer.velocity
        hp := hplayer.hp
        ping := isFinite_jsMax isFinite_zero (ne_nan_of_isFinite hround)
          (ne_infinity_of_isFinite hround false)
        lastProcessedInputSeq := hplayer.lastProcessedInputSeq }
  | enqueueInput playerId input => exact h.enqueueInput playerId hchecked
  | step now => exact finite_publish (finite_swept h (hticks now rfl))

theorem messages_visits {N : Type*} (K : Numerics N) (now : Int) (ids : List String)
    {acc : Numerics.Sweep N} (h : messages acc.events = []) :
    messages (ids.foldl (K.visit now) acc).events = [] := by
  induction ids generalizing acc with
  | nil => exact h
  | cons id rest ih =>
    refine ih ?_
    unfold Numerics.visit
    split
    next => exact h
    next bound hbound =>
      dsimp only
      rw [messages, List.filterMap_append, ← messages, h]
      split <;> rfl

/-- Only the timer's step emits a message, the one of its tail. -/
theorem messages_apply {N : Type*} [DecidableEq N] (K : Numerics N) (s : GameSession N)
    (op : GameSession.Op N) :
    messages (K.apply s op).2 =
      match op with
      | .step now => (Numerics.publish now (K.swept now s)).2.toList
      | _ => [] := by
  cases op with
  | step now =>
    have hsweep : messages (K.sweep now { s with tick := s.tick + 1 }).events = [] :=
      messages_visits K now _ rfl
    rw [Numerics.apply, Numerics.step, messages, List.filterMap_append, ← messages, hsweep]
    dsimp only
    cases (Numerics.publish now (K.swept now s)).2 <;> rfl
  | markDisconnected playerId =>
    rw [Numerics.apply, GameSession.markDisconnected]
    dsimp only
    split <;> rfl
  | _ => rfl

theorem survives_buildFullSnapshot {s : GameSession JsNumber} (h : FiniteSession s)
    (now : Int) : (Json.messageFrame (.full (s.buildFullSnapshot now))).Survives := by
  rw [Json.survives_full]
  refine List.forall_mem_map.mpr fun player hplayer => ?_
  obtain ⟨id, hid⟩ := (JsMap.mem_values _ _).mp hplayer
  exact h.players id player hid

theorem survives_replies {s : GameSession JsNumber} (h : FiniteSession s) (drive : Drive) :
    ∀ message ∈ replies s drive, (Json.messageFrame message).Survives := by
  intro message hmessage
  unfold replies at hmessage
  split at hmessage
  next =>
    rw [List.mem_singleton.mp hmessage]
    exact survives_buildFullSnapshot h _
  next =>
    split at hmessage
    next =>
      rw [List.mem_singleton.mp hmessage]
      exact survives_buildFullSnapshot h _
    next => cases hmessage
  next => cases hmessage

theorem driveOp_step {drive : Drive} {now : Int} (h : driveOp drive = some (.step now)) :
    drive = .step now := by
  cases drive with
  | frame time playerId value =>
    obtain ⟨message, -, hop⟩ := Option.bind_eq_some_iff.mp h
    cases message <;> cases hop
  | step time =>
    cases h
    rfl
  | joined time => cases h
  | _ => cases h

/-- The messages of one drive survive if and only if its tick, if it is one, leaves finite
numbers. -/
theorem survives_driven_iff {env : JsEnv} {s : GameSession JsNumber} (h : FiniteSession s)
    (drive : Drive) :
    (∀ message ∈ messages (driven env s drive).2, (Json.messageFrame message).Survives) ↔
      TicksFinite env s drive := by
  have hquiet : messages (driven env s drive).2 = [] → (∀ now, drive ≠ .step now) →
      ((∀ message ∈ messages (driven env s drive).2, (Json.messageFrame message).Survives) ↔
        TicksFinite env s drive) := by
    intro hnothing hother
    rw [hnothing]
    exact iff_of_true (by simp) fun now hdrive => absurd hdrive (hother now)
  cases hop : driveOp drive with
  | none =>
    refine hquiet ?_ ?_
    · rw [driven, hop]
      rfl
    · rintro now rfl
      cases hop
  | some op =>
    have hmessages := messages_apply (numerics env) s op
    cases op with
    | step now =>
      cases driveOp_step hop
      rw [driven, hop]
      dsimp only at hmessages ⊢
      rw [hmessages]
      simp only [Option.mem_toList]
      have hbaseline : ∀ id prev, ((numerics env).swept now s).previousSnapshots.get id =
          some prev → FiniteSnapshot prev := h.baseline
      exact (survives_publish hbaseline).trans (finite_swept_iff h)
    | _ =>
      refine hquiet ?_ ?_
      · rw [driven, hop]
        exact hmessages
      · rintro now rfl
        cases hop

theorem FiniteSession.driven {env : JsEnv} {s : GameSession JsNumber} (h : FiniteSession s)
    {drive : Drive} (hticks : TicksFinite env s drive) :
    FiniteSession (JsNumber.driven env s drive).1 := by
  unfold JsNumber.driven
  split
  next => exact h
  next op hop =>
    refine h.apply (driveOp_checked hop) ?_
    rintro now rfl
    rwa [driveOp_step hop] at hticks

/-- For every run of a session: all the messages sent survive the wire in every state
reached if and only if every tick leaves finite numbers. -/
theorem broadcasts_survive_iff (env : JsEnv) (roomId : String) (drives : List (Drive)) :
    (broadcasting env).Along AllSurvive (startBroadcasting roomId) drives ↔
      (broadcasting env).StepsMeet (fun b drive => TicksFinite env b.session drive)
        (startBroadcasting roomId) drives := by
  have hstart : FiniteSession (startBroadcasting roomId).session ∧
      AllSurvive (startBroadcasting roomId) := by
    refine ⟨FiniteSession.create roomId, ?_⟩
    rintro _ ⟨⟩
  refine Machine.along_iff_stepsMeet (I := fun b => FiniteSession b.session ∧ AllSurvive b)
    (fun _ h => h.2) ?_ ?_ (L := fun _ => True) (fun _ _ => trivial) hstart
  · rintro b drive c ⟨hsession, hsent⟩ - hstep hticks
    cases hstep
    refine ⟨hsession.driven hticks, ?_⟩
    intro message hmessage
    rcases List.mem_append.mp hmessage with hold | hnew
    · exact hsent message hold
    · rcases List.mem_append.mp hnew with hemitted | hreply
      · exact (survives_driven_iff hsession drive).mpr hticks message hemitted
      · exact survives_replies hsession drive message hreply
  · rintro b drive c ⟨hsession, -⟩ - hstep hnext
    cases hstep
    rw [← survives_driven_iff hsession drive]
    intro message hmessage
    exact hnext message (List.mem_append_right _ (List.mem_append_left _ hmessage))

/-- `look` is `{ x: 1e999, y: 0, z: 0 }`. -/
def gaze : MovementInput JsNumber := ⟨1, 0.05, ⟨0, 0, 0⟩, ⟨1e999, 0, 0⟩⟩

def overflowed : List Drive :=
  [.addPlayer 0 "p1" "nova", .frame 10 "p1" (inputFrame gaze), .step 50]

theorem gaze_checks : inputChecks gaze = true := by decide +kernel

theorem gaze_parsed : clientMessageSchema (inputFrame gaze) = some (.input gaze) :=
  clientMessageSchema_inputFrame gaze_checks
    ⟨by decide +kernel, by decide +kernel, by decide +kernel⟩

def nova : RuntimePlayerState JsNumber := createRuntimePlayer defaultEnv "p1" "nova" 0 0

theorem gaze_accepted :
    (validateAndApplyMovement nova gaze defaultEnv.maxMoveSpeed).accepted = true := by
  decide +kernel

/-- The session before the tick. -/
def queuedGaze : GameSession JsNumber :=
  (((numerics defaultEnv).addPlayer (GameSession.create "room-1") 0 "p1"
    "nova").enqueueInput "p1" gaze).1

theorem frame_queues :
    (broadcasting defaultEnv).step
      ⟨(numerics defaultEnv).addPlayer (GameSession.create "room-1") 0 "p1" "nova", []⟩
      (.frame 10 "p1" (inputFrame gaze)) = some ⟨queuedGaze, []⟩ := by
  simp only [broadcasting, JsNumber.driven, driveOp, replies, gaze_parsed, Option.bind_some,
    messageOp]
  rfl

/-- The player's rotation is sent as `null`. -/
theorem null_rotation :
    ¬(broadcasting defaultEnv).Along AllSurvive (startBroadcasting "room-1")
      overflowed := by
  intro halong
  have hsent := (((halong.2 _ rfl).2 _ frame_queues).2 _ rfl).head
  have hfinite : FiniteSession queuedGaze :=
    ((FiniteSession.create "room-1").addPlayer 0 "p1" "nova").enqueueInput "p1" gaze_checks
  have hticks := (survives_driven_iff hfinite (.step 50)).mp fun message hmessage =>
    hsent message (List.mem_append_right _ (List.mem_append_left _ hmessage))
  have hlast : (numerics defaultEnv).lastAccepted 50 nova [gaze] = some gaze := by
    have hawake : (numerics defaultEnv).expireHeartbeat 50 nova = nova := rfl
    rw [Numerics.lastAccepted, hawake, List.filter_cons]
    exact congrArg List.getLast? (if_pos gaze_accepted)
  obtain ⟨-, hx, -⟩ := hticks 50 rfl "p1" _ rfl gaze hlast
  exact absurd hx (by decide +kernel)

end RealtimeGameServer.Guarantees.WireNumbers
