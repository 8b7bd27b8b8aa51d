import RealtimeGameServer.Source.SentMessages
import RealtimeGameServer.Source.ServerSteps

/-!
# The timers of the session objects

Source: the timer of infrastructure/game/game-session.ts:32-44, which
infrastructure/game/game-session-manager.ts starts and stops, and every caller of the
manager. `Manages` lists what a caller does to the manager, one object or one entry at
a time; every step of the server is a chain of them. `Timed` is what they keep.
-/
namespace RealtimeGameServer.Source
open Lib

namespace GameSessionManager
variable {R : Type}

/-- The objects of a room whose timer is set. -/
def runningFor (m : GameSessionManager R) (roomId : String) : List SessionId :=
  (List.range m.objects.length).filter fun id =>
    (m.object id).any fun o => o.running && o.session.roomId = roomId

/-- The timers that run are those of the sessions in the map, each under its own room. -/
structure Timed (m : GameSessionManager R) : Prop where
  held : ∀ roomId id, m.get roomId = some id →
    ∃ o, m.object id = some o ∧ o.session.roomId = roomId ∧ o.running = true
  running : ∀ id o, m.object id = some o → o.running = true → m.get o.session.roomId = some id

/-- The object is in the map, or its timer runs. -/
def Current (m : GameSessionManager R) (id : SessionId) : Prop :=
  (∃ roomId, m.get roomId = some id) ∨ ∃ o, m.object id = some o ∧ o.running = true

/-- What a caller does to the manager. -/
inductive Manages (m : GameSessionManager R) : GameSessionManager R → Prop
  | created (roomId : String) : Manages m (m.getOrCreate roomId).1
  | touched {id : SessionId} {f : SessionObject R → SessionObject R} (current : Current m id)
      (keeps : ∀ o, m.object id = some o →
        (f o).running = o.running ∧ (f o).session.roomId = o.session.roomId) :
      Manages m (m.modify id f)
  | destroyed (roomId : String) : Manages m (m.destroy roomId)

theorem timed_empty : Timed (empty : GameSessionManager R) := by
  constructor
  case held =>
    intro roomId id hget
    cases hget
  case running =>
    intro id o ho
    cases ho

theorem object_destroy (m : GameSessionManager R) (roomId : String) (j : SessionId) :
    (m.destroy roomId).object j =
      if m.get roomId = some j then (m.object j).map fun o => { o with running := false }
      else m.object j := by
  unfold destroy get
  cases hget : m.sessions.get roomId with
  | none => rw [if_neg fun h => by cases h]
  | some id =>
    dsimp only
    refine (object_modify m id _ j).trans (if_congr ?_ rfl rfl)
    rw [Option.some.injEq]
    exact eq_comm

theorem created_of_absent {m : GameSessionManager R} {roomId : String}
    (h : m.get roomId = none) : (m.getOrCreate roomId).2 = m.objects.length := by
  unfold getOrCreate
  rw [show m.sessions.get roomId = none from h]

theorem object_of_length {m : GameSessionManager R} {id : SessionId} {o : SessionObject R}
    (h : m.object id = some o) : id < m.objects.length := (List.getElem?_eq_some_iff.mp h).1

theorem mem_runningFor {m : GameSessionManager R} {roomId : String} {id : SessionId} :
    id ∈ m.runningFor roomId ↔
      ∃ o, m.object id = some o ∧ o.running = true ∧ o.session.roomId = roomId := by
  unfold runningFor
  rw [List.mem_filter, List.mem_range, Option.any_eq_true]
  constructor
  · rintro ⟨-, o, ho, hruns⟩
    obtain ⟨hrunning, hroom⟩ := Bool.and_eq_true_iff.mp hruns
    exact ⟨o, ho, hrunning, of_decide_eq_true hroom⟩
  · rintro ⟨o, ho, hrunning, hroom⟩
    exact ⟨object_of_length ho, o, ho, Bool.and_eq_true_iff.mpr ⟨hrunning, decide_eq_true hroom⟩⟩

/-- A room has the timer of the session in the map, and no other. -/
theorem Timed.runningFor {m : GameSessionManager R} (h : Timed m) (roomId : String) :
    m.runningFor roomId = (m.get roomId).toList := by
  have hnodup : (m.runningFor roomId).Nodup := List.nodup_range.filter _
  have hmem : ∀ id, id ∈ m.runningFor roomId ↔ m.get roomId = some id := by
    intro id
    rw [mem_runningFor]
    constructor
    · rintro ⟨o, ho, hrunning, rfl⟩
      exact h.running id o ho hrunning
    · intro hget
      obtain ⟨o, ho, hroom, hrunning⟩ := h.held roomId id hget
      exact ⟨o, ho, hrunning, hroom⟩
  generalize m.runningFor roomId = ids at hnodup hmem
  cases hget : m.get roomId with
  | none =>
    refine List.eq_nil_iff_forall_not_mem.mpr fun id hid => ?_
    cases hget.symm.trans ((hmem id).mp hid)
  | some id =>
    rw [Option.toList_some]
    refine List.perm_singleton.mp ((List.perm_ext_iff_of_nodup hnodup (List.nodup_singleton id)).mpr
      fun j => ?_)
    rw [hmem, hget, Option.some.injEq, List.mem_singleton, eq_comm]

theorem Timed.current {m : GameSessionManager R} (h : Timed m) {id : SessionId}
    (hcurrent : Current m id) : ∃ o, m.object id = some o ∧ o.running = true := by
  rcases hcurrent with ⟨roomId, hget⟩ | hrunning
  · obtain ⟨o, ho, -, hrunning⟩ := h.held roomId id hget
    exact ⟨o, ho, hrunning⟩
  · exact hrunning

theorem Timed.manages {m m' : GameSessionManager R} (h : Timed m) (hop : Manages m m') :
    Timed m' := by
  cases hop with
  | created roomId =>
    cases hget : m.get roomId with
    | some id =>
      rw [getOrCreate_of_some hget]
      exact h
    | none =>
      have hid := created_of_absent hget
      constructor
      case held =>
        intro j i hj
        rw [get_getOrCreate] at hj
        rw [object_getOrCreate]
        split at hj
        next heq =>
          cases hj
          exact ⟨_, if_pos ⟨hget, hid⟩, heq.symm, rfl⟩
        next =>
          obtain ⟨o, ho, hroom, hrunning⟩ := h.held j i hj
          refine ⟨o, ?_, hroom, hrunning⟩
          rw [if_neg fun heq => Nat.ne_of_lt (object_of_length ho) heq.2]
          exact ho
      case running =>
        intro i o ho hrunning
        rw [get_getOrCreate]
        rw [object_getOrCreate] at ho
        split at ho
        next heq =>
          cases ho
          rw [heq.2, ← hid]
          exact if_pos rfl
        next =>
          have hsome := h.running i o ho hrunning
          rw [if_neg]
          · exact hsome
          · intro heq
            cases hget.symm.trans (heq ▸ hsome)
  | @touched id f current keeps =>
    constructor
    case held =>
      intro roomId i hget
      obtain ⟨o, ho, hroom, hrunning⟩ := h.held roomId i hget
      rw [object_modify, ho]
      split
      next heq =>
        subst heq
        obtain ⟨hsame, hkeeps⟩ := keeps o ho
        exact ⟨f o, rfl, hkeeps.trans hroom, hsame.trans hrunning⟩
      next => exact ⟨o, rfl, hroom, hrunning⟩
    case running =>
      intro i o ho hrunning
      rcases object_modify_cases ho with ⟨rfl, old, hold, rfl⟩ | hold
      · obtain ⟨hsame, hkeeps⟩ := keeps old hold
        rw [hkeeps]
        exact h.running i old hold (hsame.symm.trans hrunning)
      · exact h.running i o hold hrunning
  | destroyed roomId =>
    constructor
    case held =>
      intro j i hj
      rw [get_destroy] at hj
      split at hj
      next => cases hj
      next hne =>
        obtain ⟨o, ho, hroom, hrunning⟩ := h.held j i hj
        refine ⟨o, ?_, hroom, hrunning⟩
        rw [object_destroy, if_neg]
        · exact ho
        · -- the object that is stopped is in the map under its own room
          intro hstopped
          obtain ⟨o', ho', hroom', -⟩ := h.held roomId i hstopped
          cases ho.symm.trans ho'
          exact hne (hroom.symm.trans hroom')
    case running =>
      intro i o ho hrunning
      rw [object_destroy] at ho
      split at ho
      next =>
        obtain ⟨old, -, rfl⟩ := Option.map_eq_some_iff.mp ho
        cases hrunning
      next hkept =>
        have hsome := h.running i o ho hrunning
        rw [get_destroy, if_neg]
        · exact hsome
        · intro heq
          exact hkept (heq ▸ hsome)

/-- A session that has been stopped is never written to again. -/
theorem Timed.frozen {m m' : GameSessionManager R} (h : Timed m) (hop : Manages m m')
    {id : SessionId} {o : SessionObject R} (ho : m.object id = some o)
    (hstopped : o.running = false) : m'.object id = some o := by
  have hcurrent : ¬Current m id := by
    intro hcurrent
    obtain ⟨o', ho', hrunning⟩ := h.current hcurrent
    cases ho.symm.trans ho'
    cases hstopped.symm.trans hrunning
  cases hop with
  | created roomId =>
    rw [object_getOrCreate, if_neg fun heq => Nat.ne_of_lt (object_of_length ho) heq.2]
    exact ho
  | touched current keeps =>
    rw [object_modify, if_neg]
    · exact ho
    · rintro rfl
      exact hcurrent current
  | destroyed roomId =>
    rw [object_destroy, if_neg]
    · exact ho
    · intro hget
      exact hcurrent (Or.inl ⟨roomId, hget⟩)

/-- A chain of operations. -/
abbrev ManagesAll : GameSessionManager R → GameSessionManager R → Prop :=
  Relation.ReflTransGen Manages

theorem Timed.managesAll {m m' : GameSessionManager R} (h : Timed m) (hops : ManagesAll m m') :
    Timed m' ∧ ∀ id o, m.object id = some o → o.running = false → m'.object id = some o := by
  induction hops with
  | refl => exact ⟨h, fun _ _ ho _ => ho⟩
  | tail _ hop ih =>
    refine ⟨ih.1.manages hop, fun id o ho hstopped => ?_⟩
    exact ih.1.frozen hop (ih.2 id o ho hstopped) hstopped

theorem managesAll_destroyAll (m : GameSessionManager R) : ManagesAll m m.destroyAll :=
  List.foldlRecOn (motive := fun after => ManagesAll m after) m.sessions.keys _ .refl
    fun _ hafter roomId _ => hafter.tail (.destroyed roomId)

/-- After `destroyAll` the map is empty. -/
theorem get_destroyAll (m : GameSessionManager R) (roomId : String) :
    m.destroyAll.get roomId = none := by
  have hfold : ∀ (keys : List String) (m : GameSessionManager R),
      (keys.foldl destroy m).get roomId = if roomId ∈ keys then none else m.get roomId := by
    intro keys
    induction keys with
    | nil => exact fun m => rfl
    | cons key rest ih =>
      intro m
      rw [List.foldl_cons, ih, get_destroy]
      by_cases hrest : roomId ∈ rest
      · rw [if_pos hrest, if_pos (List.mem_cons_of_mem _ hrest)]
      · rw [if_neg hrest]
        refine if_congr ?_ rfl rfl
        rw [List.mem_cons, or_iff_left hrest]
  unfold destroyAll
  rw [hfold]
  split
  next => rfl
  next habsent => exact (JsMap.get_eq_none m.sessions roomId).mpr habsent

end GameSessionManager

namespace Gateway
open GameSessionManager
variable {R : Type}

theorem manages_modifySession {m : GameSessionManager R} {id : SessionId}
    {f : GameSession R → GameSession R} (current : Current m id)
    (hroom : ∀ o, m.object id = some o → (f o.session).roomId = o.session.roomId) :
    Manages m (m.modifySession id f) := .touched current fun o ho => ⟨rfl, hroom o ho⟩

variable [Field R] [LinearOrder R] [JsMath R]

omit [LinearOrder R] in
theorem managesAll_enter (g : Gateway R) (now : Int) (uuid : String) (socket : SocketId)
    (ctx : SocketContext) (roomId : String) :
    ManagesAll g.sessions (g.enter now uuid socket ctx roomId).sessions := by
  have hcurrent : Current (g.sessions.getOrCreate roomId).1 (g.sessions.getOrCreate roomId).2 :=
    Or.inl ⟨roomId, (get_getOrCreate g.sessions roomId roomId).trans (if_pos rfl)⟩
  have hentering : ManagesAll g.sessions (g.entering now ctx roomId) :=
    (Relation.ReflTransGen.single (.created roomId)).tail
      (manages_modifySession hcurrent fun _ _ => GameSession.addPlayer_roomId _ now _ _)
  rcases enter_sessions g now uuid socket ctx roomId with heq | heq <;> rw [heq]
  · exact hentering
  · refine hentering.tail (.touched (Or.inl ⟨roomId, ?_⟩) fun _ _ => ⟨rfl, rfl⟩)
    exact (get_getOrCreate g.sessions roomId roomId).trans (if_pos rfl)

omit [LinearOrder R] in
theorem FrameChanges.manages {g after : Gateway R} {now : Int} {uuid : String} {socket : SocketId}
    {ctx : SocketContext} {pc : FramePc} {answer : Answer}
    (h : FrameChanges g now uuid socket ctx pc answer after) :
    ManagesAll g.sessions after.sessions := by
  cases h with
  | quiet => exact .refl
  | purged => exact .refl
  | @entered roomId room place found admits => exact managesAll_enter g now uuid socket ctx roomId
  | @acted roomId session op joined current own =>
    exact .single (manages_modifySession (Or.inl ⟨roomId, current⟩) fun o _ => own.roomId o.session)

omit [Field R] [LinearOrder R] [JsMath R] in
theorem managesAll_onClose (g : Gateway R) (socket : SocketId) :
    ManagesAll g.sessions (g.onClose socket).1.sessions := by
  unfold onClose
  split
  next => exact .refl
  next ctx _ =>
    dsimp only
    split
    next => split <;> exact .refl
    next session hsession =>
      have hown : ∀ g' : Gateway R, g'.sessions = g.sessions →
          g'.currentSession ctx = some session → Manages g.sessions
            (g'.sessions.modifySession session fun s => (s.markDisconnected ctx.playerId).1) := by
        intro g' hsame hcurrent
        obtain ⟨roomId, -, hget⟩ := currentSession_eq_some hcurrent
        rw [hsame] at hget ⊢
        exact manages_modifySession (Or.inl ⟨roomId, hget⟩) fun _ _ =>
          GameSession.withPlayer_roomId _ _ _
      refine .single (hown _ ?_ hsession)
      split <;> rfl

theorem managesAll_tick (env : Env R) (g : Gateway R) (now : Int) {session : SessionId}
    {object : SessionObject R} (hobject : g.sessions.object session = some object)
    (hrunning : object.running = true) :
    ManagesAll g.sessions (g.tick env now session object).sessions := by
  have hop : Manages g.sessions (g.sessions.modifySession session fun _ =>
      (object.session.step env now).session) := by
    refine manages_modifySession (Or.inr ⟨object, hobject, hrunning⟩) fun o ho => ?_
    cases hobject.symm.trans ho
    exact GameSession.step_roomId env now object.session
  rw [tick_eq]
  exact .single hop

theorem ConnectionRuns.manages {env : Env R} {rt : Runtime R} {g : Gateway R} {now : Int}
    {uuid : String} {socket : SocketId} {wire : Wire} {pc : ConnectionPc} {answer : Answer}
    {result : Gateway R × Outcome ConnectionPc}
    (h : ConnectionRuns env rt g now uuid socket wire pc answer result) :
    ManagesAll g.sessions result.1.sessions := by
  rcases h.core with ⟨-, hcore | ⟨-, payload, hregister⟩⟩ | ⟨framePc, ctx, after, -, -, hran, hcore⟩
  · rw [sessions_of_core hcore]
  · rw [hregister, register_sessions]
  · rw [sessions_of_core hcore]
    exact (resumeFrame_changes hran).manages

end Gateway

namespace Server
open GameSessionManager
variable {R : Type} [Field R] [LinearOrder R] [JsMath R]

theorem Moves.manages {env : Env R} {rt : Runtime R} {s t : Server R} {event : ServerEvent}
    (h : Moves env rt s t event) : ManagesAll s.gateway.sessions t.gateway.sessions := by
  cases h with
  | connected unknown gateway goes => rw [gateway]
  | buffered gateway handlers =>
    rw [gateway, Gateway.sessions_of_core (Gateway.core_modifyWire _ _ _)]
  | received gateway goes =>
    rw [gateway, Gateway.sessions_of_core (Gateway.onMessage_core env _ _ _)]
  | ignored same => rw [same]
  | frame handler context ran gateway goes =>
    rw [gateway]
    exact (Gateway.resumeFrame_changes ran).manages
  | connection handler known ran gateway goes =>
    rw [gateway]
    exact ran.manages
  | offline handler gateway goes => rw [gateway]
  | @closed socket wire g known listens wired gateway goes =>
    have hsame : g.sessions = s.gateway.sessions := by
      rw [wired]
      exact Gateway.sessions_of_core (Gateway.core_modifyWire _ _ _)
    rw [gateway, ← hsame]
    exact Gateway.managesAll_onClose g socket
  | unheard known deaf gateway handlers =>
    rw [gateway, Gateway.sessions_of_core (Gateway.core_modifyWire _ _ _)]
  | ticked current running gateway handlers =>
    rw [gateway]
    exact Gateway.managesAll_tick env _ _ current running
  | @destroyed roomId gateway handlers =>
    rw [gateway]
    exact .single (.destroyed roomId)
  | shutDown gateway handlers =>
    rw [gateway]
    exact managesAll_destroyAll s.gateway.sessions

omit [LinearOrder R] in
theorem managesAll_startRoute (m : GameSessionManager R) (now : Int) (room : RoomEntity) :
    ManagesAll m (AppContainer.startRoute m now room) := by
  unfold AppContainer.startRoute
  refine List.foldlRecOn (motive := fun after => ManagesAll m after) _ _ (.single (.created room.id))
    fun after hafter member _ => ?_
  split
  next => exact hafter
  next session hget =>
    exact hafter.tail (Gateway.manages_modifySession (Or.inl ⟨room.id, hget⟩) fun _ _ =>
      GameSession.addPlayer_roomId _ now _ _)

theorem shared_manages {env : Env R} {rt : Runtime R} {s t : Server R} {event : SharedEvent}
    (h : (shared env rt).step s event = some t) :
    ManagesAll s.gateway.sessions t.gateway.sessions := by
  cases event with
  | server event => exact (moves h).manages
  | getOrCreate roomId =>
    cases h
    exact .single (.created roomId)
  | startRoute now room =>
    cases h
    exact managesAll_startRoute s.gateway.sessions now room

end Server
end RealtimeGameServer.Source
