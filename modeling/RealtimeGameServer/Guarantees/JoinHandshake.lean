import RealtimeGameServer.Guarantees.DeadConnections
import RealtimeGameServer.Guarantees.FrameOrder
import RealtimeGameServer.Lib.History
import RealtimeGameServer.Source.SentMessages

/-!
# The order of the join handshake

`joinSession` puts the room on the socket's context and attaches the listener of the
room's session before it awaits the presence call, and sends `joined` and a full
snapshot after it. A tick or a `request_snapshot` that falls in between is heard by
the socket before it has been told that it joined. A run greets every socket in order
precisely if no socket is sent a snapshot by a tick or a request before the presence
call of a `joinSession` of it has been answered.
-/
namespace RealtimeGameServer.Guarantees.JoinHandshake
open Lib Source
open DeadConnections (frameOf)
open FrameOrder (allowed found online runtime snapshotText)
open SessionAccess (arena joinText request)

variable {R : Type}

def isFull : ServerMessage R → Bool
  | .snapshot (.full _) => true
  | _ => false

/-- `joined` has been sent. -/
def Joined (log : List (ServerMessage R)) : Prop := ∃ m ∈ log, m.isJoined = true

/-- A snapshot or a delta has been sent. -/
def Told (log : List (ServerMessage R)) : Prop := ∃ m ∈ log, m.isSnapshot = true

/-- A snapshot or delta comes after `joined`, and the first one is full. -/
def InHandshake (before : List (ServerMessage R)) (m : ServerMessage R) : Prop :=
  m.isSnapshot = true → Joined before ∧ (¬Told before → isFull m = true)

/-- The messages to every socket are in the order of the handshake. -/
def HandshakeInOrder (g : Gateway R) : Prop :=
  ∀ socket, Fits InHandshake (sentTo g.sent socket)

/-- The log of a socket between two events: in order, and who has been told to have
joined has a snapshot. -/
structure Greeted (log : List (ServerMessage R)) : Prop where
  ordered : Fits InHandshake log
  told : Joined log → Told log

theorem Joined.append {log : List (ServerMessage R)} (h : Joined log)
    (more : List (ServerMessage R)) : Joined (log ++ more) := by
  obtain ⟨m, hm, hjoined⟩ := h
  exact ⟨m, List.mem_append_left _ hm, hjoined⟩

theorem Told.append {log : List (ServerMessage R)} (h : Told log)
    (more : List (ServerMessage R)) : Told (log ++ more) := by
  obtain ⟨m, hm, htold⟩ := h
  exact ⟨m, List.mem_append_left _ hm, htold⟩

theorem not_snapshot_of_joined {m : ServerMessage R} (h : m.isJoined = true) :
    m.isSnapshot = false := by
  cases m with
  | joined => rfl
  | _ => cases h

/-- What an event makes of a socket's log: `asked` says that the event has a snapshot for
the socket, `joins` that it answers the presence call of a join of the socket. -/
inductive Grows (asked joins opened : Prop) (log : List (ServerMessage R)) :
    List (ServerMessage R) → Prop
  | quiet {more : List (ServerMessage R)} (unasked : ¬asked) (elsewhere : ¬joins)
      (silent : ∀ m ∈ more, m.isJoined = false ∧ m.isSnapshot = false) :
      Grows asked joins opened log (log ++ more)
  | snapshots {more : List (ServerMessage R)} (asks : asked) (elsewhere : ¬joins)
      (some : more ≠ []) (snapshots : ∀ m ∈ more, m.isSnapshot = true) :
      Grows asked joins opened log (log ++ more)
  | greeted {joined full : ServerMessage R} (unasked : ¬asked) (joining : joins) (isOpen : opened)
      (first : joined.isJoined = true) (second : isFull full = true) :
      Grows asked joins opened log (log ++ [joined, full])
  | missed (unasked : ¬asked) (shut : ¬opened) : Grows asked joins opened log log

namespace Grows
variable {asked joins opened : Prop} {log log' : List (ServerMessage R)}

/-- The event keeps the order precisely if it has a snapshot for joined sockets only. -/
theorem fits_iff (h : Grows asked joins opened log log') (hlog : Greeted log) :
    Fits InHandshake log' ↔ (asked → Joined log) := by
  cases h with
  | quiet unasked _ silent =>
    refine ⟨fun _ hasked => absurd hasked unasked, fun _ => Fits.append_iff.mpr ⟨hlog.ordered, ?_⟩⟩
    rintro before x after rfl hsnapshot
    have hsilent := (silent x (by simp)).2
    cases hsilent.symm.trans hsnapshot
  | @snapshots more asks _ some snapshots =>
    constructor
    · intro hfits _
      obtain ⟨first, rest, rfl⟩ := List.exists_cons_of_ne_nil some
      exact (hfits log first rest rfl (snapshots first List.mem_cons_self)).1
    · intro hjoined
      refine Fits.append_iff.mpr ⟨hlog.ordered, fun before x after _ _ => ?_⟩
      have hfirst := hjoined asks
      exact ⟨hfirst.append before, fun huntold => absurd ((hlog.told hfirst).append before) huntold⟩
  | @greeted joined full unasked _ _ first second =>
    refine ⟨fun _ hasked => absurd hasked unasked, fun _ => ?_⟩
    have hjoined : Fits InHandshake (log ++ [joined]) := by
      refine Fits.concat_iff.mpr ⟨hlog.ordered, fun hsnapshot => ?_⟩
      cases (not_snapshot_of_joined first).symm.trans hsnapshot
    have hboth : Fits InHandshake ((log ++ [joined]) ++ [full]) :=
      Fits.concat_iff.mpr ⟨hjoined, fun _ => ⟨⟨joined, by simp, first⟩, fun _ => second⟩⟩
    rwa [List.append_assoc] at hboth
  | missed unasked _ => exact ⟨fun _ hasked => absurd hasked unasked, fun _ => hlog.ordered⟩

theorem joined_mono (h : Grows asked joins opened log log') (hjoined : Joined log) :
    Joined log' := by
  cases h with
  | missed => exact hjoined
  | _ => exact hjoined.append _

/-- Who has been told to have joined had been before, or the event answers its join. -/
theorem joined_or (h : Grows asked joins opened log log') (hjoined : Joined log') :
    Joined log ∨ joins := by
  obtain ⟨m, hm, hisJoined⟩ := hjoined
  cases h with
  | quiet _ _ silent =>
    rcases List.mem_append.mp hm with hm | hm
    · exact Or.inl ⟨m, hm, hisJoined⟩
    · cases (silent m hm).1.symm.trans hisJoined
  | snapshots _ _ _ snapshots =>
    rcases List.mem_append.mp hm with hm | hm
    · exact Or.inl ⟨m, hm, hisJoined⟩
    · cases (not_snapshot_of_joined hisJoined).symm.trans (snapshots m hm)
  | greeted _ joining => exact Or.inr joining
  | missed => exact Or.inl ⟨m, hm, hisJoined⟩

theorem joined_of_joins (h : Grows asked joins opened log log') (hjoins : joins) (hopen : opened) :
    Joined log' := by
  cases h with
  | quiet _ elsewhere => exact absurd hjoins elsewhere
  | snapshots _ elsewhere => exact absurd hjoins elsewhere
  | greeted _ _ _ first => exact ⟨_, List.mem_append_right _ List.mem_cons_self, first⟩
  | missed _ shut => exact absurd hopen shut

theorem keeps (h : Grows asked joins opened log log') (hlog : Greeted log)
    (hfits : Fits InHandshake log') : Greeted log' := by
  refine ⟨hfits, fun hjoined => ?_⟩
  have hold := h.joined_or hjoined
  cases h with
  | @quiet more _ elsewhere _ => exact (hlog.told (hold.resolve_right elsewhere)).append more
  | @snapshots more _ _ some snapshots =>
    obtain ⟨first, rest, rfl⟩ := List.exists_cons_of_ne_nil some
    exact ⟨first, by simp, snapshots first List.mem_cons_self⟩
  | @greeted joined full _ _ _ _ second =>
    have hsnapshot : full.isSnapshot = true := by
      cases full with
      | snapshot => rfl
      | _ => cases second
    exact ⟨full, by simp, hsnapshot⟩
  | missed => exact hlog.told hjoined

end Grows

/-- Where a handler waits in a frame. -/
def waitsAt (s : Server R) (number : Nat) : Option (SocketId × FramePc) :=
  (s.handlers.get number).bind fun suspended => frameOf suspended.handler

/-- The socket whose `joinSession` has its presence call answered. -/
def joinsOnline (s : Server R) : SharedEvent → List SocketId
  | .server (.answer number _ _ .done) =>
    match waitsAt s number with
    | some (socket, .joinOnline _ _ _) => [socket]
    | _ => []
  | _ => []

theorem mem_joinsOnline {s : Server R} {number : Nat} {now : Int} {uuid : String}
    {answer : Answer} {i : SocketId} :
    i ∈ joinsOnline s (.server (.answer number now uuid answer)) ↔ answer = .done ∧
      ∃ roomId session token, waitsAt s number = some (i, .joinOnline roomId session token) := by
  unfold joinsOnline
  constructor
  · intro hi
    split at hi
    next heq =>
      cases heq
      split at hi
      next hwaits =>
        rw [List.mem_singleton.mp hi]
        exact ⟨rfl, _, _, _, hwaits⟩
      next => cases hi
    next => cases hi
  · rintro ⟨rfl, roomId, session, token, hwaits⟩
    dsimp only
    rw [hwaits]
    exact List.mem_singleton_self i

section Machine
variable [Field R] [LinearOrder R] [JsMath R]

/-- The event has a snapshot for the open socket: a tick that emits for the room on its
context object, or a `request_snapshot` of it that the limiter lets pass. -/
def Asked (env : Env R) (rt : Runtime R) (s : Server R) : SharedEvent → SocketId → Prop
  | .server (.tick session now), socket =>
    ∃ object, s.gateway.sessions.object session = some object ∧
      (object.session.step env now).emitted ≠ [] ∧
      ∃ roomId ∈ object.subscribers, s.gateway.hears roomId socket
  | .server (.answer number _ _ answer), socket =>
    ∃ raw ctx session object, answer = .limit true ∧
      waitsAt s number = some (socket, .rateLimited raw) ∧
      (rt.jsonParse raw).bind clientMessageSchema = some .requestSnapshot ∧
      s.gateway.contexts.get socket = some ctx ∧ s.gateway.currentSession ctx = some session ∧
      s.gateway.sessions.object session = some object ∧ s.gateway.readyState socket = .opened
  | _, _ => False

/-- The server with the record of the sockets a join of which is online. -/
def recorded (env : Env R) (rt : Runtime R) : Machine (Server R × List SocketId) SharedEvent :=
  (Server.shared env rt).recording joinsOnline

/-- Sockets that the event has a snapshot for have had the presence call of a
`joinSession` answered. -/
def AfterJoin (env : Env R) (rt : Runtime R) (p : Server R × List SocketId) (event : SharedEvent) :
    Prop := ∀ socket, Asked env rt p.1 event socket → socket ∈ p.2

/-- What an event tells the sockets, and what it keeps for the joins in progress. -/
structure Speaks (env : Env R) (rt : Runtime R) (s t : Server R) (event : SharedEvent) : Prop where
  grows : ∀ i, Grows (Asked env rt s event i) (i ∈ joinsOnline s event)
    (s.gateway.readyState i = .opened) (sentTo s.gateway.sent i) (sentTo t.gateway.sent i)
  opened : ∀ i, t.gateway.readyState i = .opened →
    s.gateway.readyState i = .opened ∨ s.gateway.shut i = none
  known : ∀ i ∈ joinsOnline s event, (s.gateway.shut i).isSome
  sessions : s.gateway.sessions.Grows t.gateway.sessions

theorem Speaks.of_quiet {env : Env R} {rt : Runtime R} {s t : Server R} {event : SharedEvent}
    (hquiet : Gateway.SendsNoWorld s.gateway t.gateway) (hasked : ∀ i, ¬Asked env rt s event i)
    (hjoins : joinsOnline s event = []) : Speaks env rt s t event where
  grows i := by
    obtain ⟨new, hnew, hsilent⟩ := hquiet.sent
    rw [hnew, sentTo_append]
    refine .quiet (hasked i) ?_ fun m hm => ?_
    · rw [hjoins]
      exact List.not_mem_nil
    · obtain ⟨e, he, rfl⟩ := List.mem_map.mp hm
      exact hsilent e (List.mem_filter.mp he).1
  opened i hi := Or.inl (hquiet.opened i hi)
  known i hi := by
    rw [hjoins] at hi
    cases hi
  sessions := hquiet.sessions

omit [Field R] [LinearOrder R] [JsMath R] in
theorem sentTo_send (g : Gateway R) (socket i : SocketId) (m : ServerMessage R) :
    sentTo (g.send socket m).sent i =
      sentTo g.sent i ++ if i = socket ∧ g.readyState socket = .opened then [m] else [] := by
  rw [Gateway.sent_send, sentTo_append]
  congr 1
  unfold sentTo
  by_cases hopen : g.readyState socket = .opened
  · rw [if_pos hopen]
    by_cases hi : i = socket
    · rw [if_pos ⟨hi, hopen⟩, hi]
      simp
    · rw [if_neg fun h => hi h.1]
      simp [Ne.symm hi]
  · rw [if_neg hopen, if_neg fun h => hopen h.2]
    rfl

/-- A stretch of a frame's handler. -/
theorem Speaks.of_frame {env : Env R} {rt : Runtime R} {s t : Server R} {number : Nat} {now : Int}
    {uuid : String} {answer : Answer} {socket : SocketId} {pc : FramePc} {ctx : SocketContext}
    {outcome : Outcome FramePc} (hwaits : waitsAt s number = some (socket, pc))
    (hctx : s.gateway.contexts.get socket = some ctx) (hshut : (s.gateway.shut socket).isSome)
    (hholds : Gateway.HoldsSession s.gateway pc)
    (hsends : Gateway.FrameSends rt s.gateway now socket ctx pc answer (t.gateway, outcome)) :
    Speaks env rt s t (.server (.answer number now uuid answer)) := by
  generalize hafter : (t.gateway, outcome) = after at hsends
  cases hsends with
  | other quiet unjoined unrequested =>
    cases hafter
    refine .of_quiet quiet ?_ (List.eq_nil_iff_forall_not_mem.mpr ?_)
    · rintro i ⟨raw, ctx', session, object, rfl, hasks, hparsed, hctx', hsession, hobject, -⟩
      cases hwaits.symm.trans hasks
      cases hctx.symm.trans hctx'
      cases (unrequested raw session rfl rfl hparsed hsession).symm.trans hobject
    · intro i hi
      obtain ⟨rfl, roomId, session, token, hjoins⟩ := mem_joinsOnline.mp hi
      cases hwaits.symm.trans hjoins
      obtain ⟨object, hobject⟩ := GameSessionManager.isSome_object hholds
      cases (unjoined roomId session token rfl rfl).symm.trans hobject
  | @joined roomId token session object current =>
    obtain ⟨hgateway, -⟩ := Prod.mk.inj hafter
    have hunasked : ∀ i, ¬Asked env rt s (.server (.answer number now uuid .done)) i := by
      rintro i ⟨raw, ctx', session, object, hanswer, -⟩
      cases hanswer
    have hjoins : ∀ i, i ∈ joinsOnline s (.server (.answer number now uuid .done)) ↔ i = socket := by
      intro i
      rw [mem_joinsOnline, hwaits]
      simp [eq_comm]
    constructor
    case grows =>
      intro i
      rw [hgateway, sentTo_send, sentTo_send, Gateway.readyState_send]
      by_cases hi : i = socket
      · subst hi
        by_cases hopen : s.gateway.readyState i = .opened
        · rw [if_pos ⟨rfl, hopen⟩, if_pos ⟨rfl, hopen⟩, List.append_assoc]
          exact .greeted (hunasked i) ((hjoins i).mpr rfl) hopen rfl rfl
        · rw [if_neg fun h => hopen h.2, if_neg fun h => hopen h.2, List.append_nil, List.append_nil]
          exact .missed (hunasked i) hopen
      · rw [if_neg fun h => hi h.1, if_neg fun h => hi h.1, List.append_nil]
        exact .quiet (hunasked i) (fun h => hi ((hjoins i).mp h)) fun m hm => by cases hm
    case opened =>
      intro i hi
      rw [hgateway, Gateway.readyState_send, Gateway.readyState_send] at hi
      exact Or.inl hi
    case known =>
      intro i hi
      rwa [(hjoins i).mp hi]
    case sessions =>
      rw [hgateway, Gateway.sessions_of_core (Gateway.core_send _ _ _),
        Gateway.sessions_of_core (Gateway.core_send _ _ _)]
      exact .refl _
  | @requested raw session object parsed joins current =>
    obtain ⟨hgateway, -⟩ := Prod.mk.inj hafter
    have hunjoined : ∀ i, i ∉ joinsOnline s (.server (.answer number now uuid (.limit true))) := by
      intro i hi
      cases (mem_joinsOnline.mp hi).1
    have hasked : ∀ i, Asked env rt s (.server (.answer number now uuid (.limit true))) i ↔
        i = socket ∧ s.gateway.readyState socket = .opened := by
      intro i
      constructor
      · rintro ⟨raw', ctx', session', object', -, hasks, -, -, -, -, hopen⟩
        cases hwaits.symm.trans hasks
        exact ⟨rfl, hopen⟩
      · rintro ⟨rfl, hopen⟩
        exact ⟨raw, ctx, session, object, rfl, hwaits, parsed, hctx, joins, current, hopen⟩
    constructor
    case grows =>
      intro i
      rw [hgateway, sentTo_send]
      by_cases hi : i = socket ∧ s.gateway.readyState socket = .opened
      · rw [if_pos hi]
        refine .snapshots ((hasked i).mpr hi) (hunjoined i) (List.cons_ne_nil _ _) fun m hm => ?_
        rw [List.mem_singleton.mp hm]
        rfl
      · rw [if_neg hi]
        exact .quiet (fun h => hi ((hasked i).mp h)) (hunjoined i) fun m hm => by cases hm
    case opened =>
      intro i hi
      rw [hgateway, Gateway.readyState_send] at hi
      exact Or.inl hi
    case known => exact fun i hi => absurd hi (hunjoined i)
    case sessions =>
      rw [hgateway, Gateway.sessions_of_core (Gateway.core_send _ _ _)]
      exact .refl _

theorem Speaks.of_tick {env : Env R} {rt : Runtime R} {s t : Server R} {session : SessionId}
    {now : Int} {object : SessionObject R}
    (current : s.gateway.sessions.object session = some object)
    (gateway : t.gateway = s.gateway.tick env now session object) :
    Speaks env rt s t (.server (.tick session now)) := by
  rw [Gateway.tick_eq] at gateway
  have hasked : ∀ i, Asked env rt s (.server (.tick session now)) i ↔
      sentTo (s.gateway.deliveries object.subscribers (object.session.step env now).emitted) i ≠ [] := by
    intro i
    constructor
    · rintro ⟨object', hobject, hemitted, hears⟩
      cases current.symm.trans hobject
      obtain ⟨snapshot, hsnapshot⟩ := List.exists_mem_of_ne_nil _ hemitted
      exact List.ne_nil_of_mem
        (mem_sentTo.mpr (Gateway.mem_deliveries.mpr ⟨snapshot, hsnapshot, rfl, hears⟩))
    · intro hsome
      obtain ⟨m, hm⟩ := List.exists_mem_of_ne_nil _ hsome
      obtain ⟨snapshot, hsnapshot, -, hears⟩ := Gateway.mem_deliveries.mp (mem_sentTo.mp hm)
      exact ⟨object, current, List.ne_nil_of_mem hsnapshot, hears⟩
  constructor
  case grows =>
    intro i
    rw [gateway, Gateway.sending, sentTo_append]
    by_cases hi : Asked env rt s (.server (.tick session now)) i
    · refine .snapshots hi List.not_mem_nil ((hasked i).mp hi) fun m hm => ?_
      obtain ⟨snapshot, -, rfl, -⟩ := Gateway.mem_deliveries.mp (mem_sentTo.mp hm)
      rfl
    · rw [not_not.mp fun hsome => hi ((hasked i).mpr hsome)]
      exact .quiet hi List.not_mem_nil fun m hm => by cases hm
  case opened =>
    intro i hi
    rw [gateway] at hi
    exact Or.inl hi
  case known => exact fun i hi => by cases hi
  case sessions =>
    have hgrows := GameSessionManager.grows_modifySession s.gateway.sessions session
      fun _ => (object.session.step env now).session
    rw [gateway]
    exact hgrows

/-- Joins that wait for their presence call hold session objects. -/
def Holding (s : Server R) : Prop :=
  ∀ number socket pc, waitsAt s number = some (socket, pc) → Gateway.HoldsSession s.gateway pc

omit [Field R] [LinearOrder R] [JsMath R] in
theorem Holding.of_handlers {s t : Server R} (h : Holding s) (hhandlers : t.handlers = s.handlers)
    (hgrows : s.gateway.sessions.Grows t.gateway.sessions) : Holding t := by
  intro number socket pc hwaits
  unfold waitsAt at hwaits
  rw [hhandlers] at hwaits
  exact (h number socket pc hwaits).mono hgrows

omit [Field R] [LinearOrder R] [JsMath R] in
theorem Holding.goes {s t : Server R} {number : Nat} {next : Option Suspended} (h : Holding s)
    (hgoes : s.Goes t number next) (hgrows : s.gateway.sessions.Grows t.gateway.sessions)
    (hnext : ∀ suspended socket pc, next = some suspended →
      frameOf suspended.handler = some (socket, pc) → Gateway.HoldsSession t.gateway pc) :
    Holding t := by
  intro i socket pc hwaits
  obtain ⟨suspended, hget, hframe⟩ := Option.bind_eq_some_iff.mp hwaits
  rw [hgoes i] at hget
  split at hget
  next => exact hnext suspended socket pc hget hframe
  next =>
    have hold := h i socket pc (Option.bind_eq_some_iff.mpr ⟨suspended, hget, hframe⟩)
    exact hold.mono hgrows

theorem Holding.moves {env : Env R} {rt : Runtime R} {s t : Server R} {event : ServerEvent}
    (h : Holding s) (hbounded : s.gateway.sessions.Bounded)
    (hgrows : s.gateway.sessions.Grows t.gateway.sessions)
    (hstep : Server.Moves env rt s t event) : Holding t := by
  cases hstep with
  | connected unknown gateway goes =>
    refine h.goes goes hgrows fun suspended socket pc hnext hframe => ?_
    cases hnext
    cases hframe
  | received gateway goes =>
    refine h.goes goes hgrows fun suspended socket pc hnext hframe => ?_
    obtain ⟨pc', call, hout, rfl⟩ := Outcome.next_eq_some hnext
    cases hframe
    exact Gateway.onMessage_holds hout _
  | frame handler context ran gateway goes =>
    refine h.goes goes hgrows fun suspended socket pc hnext hframe => ?_
    obtain ⟨pc', call, hout, rfl⟩ := Outcome.next_eq_some hnext
    cases hframe
    rw [gateway]
    exact Gateway.resumeFrame_holds hbounded ran hout
  | connection handler known ran gateway goes =>
    refine h.goes goes hgrows fun suspended socket pc hnext hframe => ?_
    obtain ⟨pc', call, hout, rfl⟩ := Outcome.next_eq_some hnext
    rw [gateway]
    cases pc' with
    | early rest framePc =>
      cases hframe
      exact ran.holds hbounded hout
    | _ => cases hframe
  | offline handler gateway goes =>
    exact h.goes goes hgrows fun suspended socket pc hnext _ => by cases hnext
  | closed known listens wired gateway goes =>
    refine h.goes goes hgrows fun suspended socket pc hnext hframe => ?_
    obtain ⟨pc', call, hout, rfl⟩ := Outcome.next_eq_some hnext
    cases hframe
  | ignored same =>
    rw [same]
    exact h
  | buffered gateway handlers => exact h.of_handlers handlers hgrows
  | unheard known deaf gateway handlers => exact h.of_handlers handlers hgrows
  | ticked current running gateway handlers => exact h.of_handlers handlers hgrows
  | destroyed gateway handlers => exact h.of_handlers handlers hgrows
  | shutDown gateway handlers => exact h.of_handlers handlers hgrows

omit [Field R] [LinearOrder R] [JsMath R] in
theorem waitsAt_eq_none {s : Server R} {number : Nat} {suspended : Suspended}
    (hget : s.handlers.get number = some suspended) (hframe : frameOf suspended.handler = none) :
    waitsAt s number = none := by
  rw [waitsAt, hget, Option.bind_some, hframe]

/-- A handler that is in no frame. -/
theorem Speaks.of_unframed {env : Env R} {rt : Runtime R} {s t : Server R} {number : Nat}
    {now : Int} {uuid : String} {answer : Answer}
    (hquiet : Gateway.SendsNoWorld s.gateway t.gateway) (hwaits : waitsAt s number = none) :
    Speaks env rt s t (.server (.answer number now uuid answer)) := by
  refine .of_quiet hquiet ?_ (List.eq_nil_iff_forall_not_mem.mpr ?_)
  · rintro i ⟨raw, ctx, session, object, -, hasks, -⟩
    cases hwaits.symm.trans hasks
  · intro i hi
    obtain ⟨-, roomId, session, token, hjoins⟩ := mem_joinsOnline.mp hi
    cases hwaits.symm.trans hjoins

theorem Speaks.of_moves {env : Env R} {rt : Runtime R} {s t : Server R} {event : ServerEvent}
    (hconnecting : s.Connecting) (hholding : Holding s) (hstep : Server.Moves env rt s t event) :
    Speaks env rt s t (.server event) := by
  cases hstep with
  | @connected socket request call unknown gateway goes =>
    have hshut : s.gateway.shut socket = none := by rw [Gateway.shut, unknown, Option.map_none]
    constructor
    case grows =>
      intro i
      have hsame : Grows (Asked env rt s (.server (.connect socket request)) i)
          (i ∈ joinsOnline s (.server (.connect socket request)))
          (s.gateway.readyState i = .opened) (sentTo s.gateway.sent i)
          (sentTo s.gateway.sent i ++ []) :=
        .quiet id List.not_mem_nil fun m hm => by cases hm
      rw [List.append_nil] at hsame
      rwa [gateway]
    case opened =>
      intro i hi
      by_cases heq : i = socket
      · exact Or.inr (heq ▸ hshut)
      · rw [gateway, Gateway.readyState, JsMap.get_set, if_neg heq] at hi
        exact Or.inl hi
    case known => exact fun i hi => by cases hi
    case sessions =>
      rw [gateway]
      exact .refl _
  | buffered gateway handlers =>
    refine .of_quiet ?_ (fun _ => id) rfl
    rw [gateway]
    exact Gateway.sendsNoWorld_modifyWire _ _ fun _ h => h
  | received gateway goes =>
    refine .of_quiet ?_ (fun _ => id) rfl
    rw [gateway]
    exact Gateway.sendsNoWorld_onMessage env _ _ _
  | ignored same =>
    refine .of_quiet ?_ (fun _ => id) rfl
    rw [same]
    exact .refl _
  | @frame number now uuid answer socket pc call ctx result handler context ran gateway goes =>
    have hwaits : waitsAt s number = some (socket, pc) := by
      rw [waitsAt, handler, Option.bind_some, frameOf]
    have hknown := hconnecting.registry.known socket (Option.isSome_of_eq_some context)
    have hsends : Gateway.FrameSends rt s.gateway now socket ctx pc answer (t.gateway, result.2) := by
      rw [gateway]
      exact Gateway.resumeFrame_sends ran
    exact .of_frame hwaits context hknown (hholding number socket pc hwaits) hsends
  | @connection number now uuid answer socket pc call wire result handler known ran gateway goes =>
    rcases ran.sends with ⟨hframe, hquiet⟩ | ⟨framePc, ctx, outcome, hframe, hctx, hsends⟩
    · refine .of_unframed (by rwa [gateway]) (waitsAt_eq_none handler ?_)
      cases pc with
      | early => cases hframe
      | _ => rfl
    · have hwaits : waitsAt s number = some (socket, framePc) := by
        rw [waitsAt, handler, Option.bind_some]
        cases pc with
        | early =>
          cases hframe
          rfl
        | _ => cases hframe
      have hknown := hconnecting.registry.known socket (Option.isSome_of_eq_some hctx)
      rw [← gateway] at hsends
      exact .of_frame hwaits hctx hknown (hholding number socket framePc hwaits) hsends
  | offline handler gateway goes =>
    refine .of_unframed ?_ (waitsAt_eq_none handler rfl)
    rw [gateway]
    exact .refl _
  | @closed socket wire g known listens wired gateway goes =>
    refine .of_quiet ?_ (fun _ => id) rfl
    have hclosed : Gateway.SendsNoWorld s.gateway g := by
      rw [wired]
      exact Gateway.sendsNoWorld_modifyWire _ _ fun _ h => by cases h
    rw [gateway]
    exact hclosed.trans (Gateway.sendsNoWorld_onClose g socket)
  | unheard known deaf gateway handlers =>
    refine .of_quiet ?_ (fun _ => id) rfl
    rw [gateway]
    exact Gateway.sendsNoWorld_modifyWire _ _ fun _ h => by cases h
  | ticked current running gateway handlers => exact .of_tick current gateway
  | destroyed gateway handlers =>
    refine .of_quiet ?_ (fun _ => id) rfl
    rw [gateway]
    exact .silent rfl rfl (GameSessionManager.grows_destroy _ _)
  | shutDown gateway handlers =>
    refine .of_quiet ?_ (fun _ => id) rfl
    have hclosed := Gateway.sendsNoWorld_foldl Gateway.sendsNoWorld_closeSocket s.gateway.sockets
      s.gateway
    have hcore := Gateway.core_foldl Gateway.closeSocket Gateway.core_closeSocket
      s.gateway.sockets s.gateway
    rw [gateway]
    refine hclosed.trans (.silent rfl rfl ?_)
    rw [Gateway.sessions_of_core hcore]
    exact GameSessionManager.grows_destroyAll _

/-- The invariant: every log is in order, sockets have been told to have joined once a
join of them is online, unless they had closed, and joins in progress hold sessions. -/
structure Greeting (p : Server R × List SocketId) : Prop where
  connecting : p.1.Connecting
  logs : ∀ i, Greeted (sentTo p.1.gateway.sent i)
  online : ∀ i, Joined (sentTo p.1.gateway.sent i) → i ∈ p.2
  joined : ∀ i ∈ p.2, p.1.gateway.readyState i = .opened → Joined (sentTo p.1.gateway.sent i)
  known : ∀ i ∈ p.2, (p.1.gateway.shut i).isSome
  bounded : p.1.gateway.sessions.Bounded
  holding : Holding p.1

omit [Field R] [LinearOrder R] [JsMath R] in
theorem greeting_empty : Greeting ((Server.empty, []) : Server R × List SocketId) where
  connecting := Server.connecting_empty
  logs i := ⟨.nil, fun ⟨_, hm, _⟩ => by cases hm⟩
  online i h := by
    obtain ⟨m, hm, -⟩ := h
    cases hm
  joined i hi := by cases hi
  known i hi := by cases hi
  bounded roomId id hget := by cases hget
  holding number socket pc hwaits := by cases hwaits

theorem asked_opened {env : Env R} {rt : Runtime R} {s : Server R} {event : SharedEvent}
    {i : SocketId} (h : Asked env rt s event i) : s.gateway.readyState i = .opened := by
  unfold Asked at h
  split at h
  next =>
    obtain ⟨object, -, -, roomId, -, hears⟩ := h
    obtain ⟨ctx, -, -, hopen⟩ := Gateway.hears_iff.mp hears
    exact hopen
  next =>
    obtain ⟨raw, ctx, session, object, -, -, -, -, -, -, hopen⟩ := h
    exact hopen
  next => cases h

/-- One event: the logs stay in order precisely if the event has snapshots for joined
sockets only. -/
theorem Greeting.fits_iff {env : Env R} {rt : Runtime R} {p : Server R × List SocketId}
    {t : Server R} {event : SharedEvent} (h : Greeting p) (hspeaks : Speaks env rt p.1 t event) :
    HandshakeInOrder t.gateway ↔ AfterJoin env rt p event := by
  constructor
  · intro hfits i hasked
    exact h.online i (((hspeaks.grows i).fits_iff (h.logs i)).mp (hfits i) hasked)
  · intro hguard i
    exact ((hspeaks.grows i).fits_iff (h.logs i)).mpr fun hasked =>
      h.joined i (hguard i hasked) (asked_opened hasked)

theorem Greeting.step {env : Env R} {rt : Runtime R} {p : Server R × List SocketId}
    {t : Server R} {event : SharedEvent} (h : Greeting p) (hspeaks : Speaks env rt p.1 t event)
    (hconnecting : t.Connecting) (hholding : Holding t)
    (hknown : ∀ i, (p.1.gateway.shut i).isSome → (t.gateway.shut i).isSome)
    (hfits : HandshakeInOrder t.gateway) : Greeting (t, p.2 ++ joinsOnline p.1 event) where
  connecting := hconnecting
  logs i := (hspeaks.grows i).keeps (h.logs i) (hfits i)
  online i hjoined := by
    rw [List.mem_append]
    exact ((hspeaks.grows i).joined_or hjoined).imp_left (h.online i)
  joined i hi hopen := by
    rcases hspeaks.opened i hopen with hwas | hnone
    · rcases List.mem_append.mp hi with hi | hi
      · exact (hspeaks.grows i).joined_mono (h.joined i hi hwas)
      · exact (hspeaks.grows i).joined_of_joins hi hwas
    · have hsome : (p.1.gateway.shut i).isSome :=
        (List.mem_append.mp hi).elim (h.known i) (hspeaks.known i)
      rw [hnone] at hsome
      cases hsome
  known i hi := hknown i ((List.mem_append.mp hi).elim (h.known i) (hspeaks.known i))
  bounded := hspeaks.sessions.bounded h.bounded
  holding := hholding

/-- The routes send nothing. -/
theorem Greeting.withSessions {env : Env R} {rt : Runtime R} {p : Server R × List SocketId}
    {sessions : GameSessionManager R} {event : SharedEvent} (h : Greeting p)
    (hgrows : p.1.gateway.sessions.Grows sessions) (hasked : ∀ i, ¬Asked env rt p.1 event i)
    (hjoins : joinsOnline p.1 event = []) :
    (HandshakeInOrder (p.1.withSessions sessions).gateway ↔ AfterJoin env rt p event) ∧
      (HandshakeInOrder (p.1.withSessions sessions).gateway →
        Greeting (p.1.withSessions sessions, p.2 ++ joinsOnline p.1 event)) := by
  have hspeaks : Speaks env rt p.1 (p.1.withSessions sessions) event :=
    .of_quiet (.silent rfl rfl hgrows) hasked hjoins
  exact ⟨h.fits_iff hspeaks, h.step hspeaks (h.connecting.withSessions sessions)
    (h.holding.of_handlers rfl hgrows) fun _ => id⟩

/-- What a step of the server and the routes does to the handshakes. -/
theorem Greeting.steps {env : Env R} {rt : Runtime R} {p q : Server R × List SocketId}
    {event : SharedEvent} (h : Greeting p) (hstep : (recorded env rt).step p event = some q) :
    (HandshakeInOrder q.1.gateway ↔ AfterJoin env rt p event) ∧
      (HandshakeInOrder q.1.gateway → Greeting q) := by
  obtain ⟨t, noted⟩ := q
  obtain ⟨hstep, rfl⟩ := Machine.recording_step hstep
  cases event with
  | server event =>
    have hmoves := Server.moves hstep
    have hspeaks := Speaks.of_moves h.connecting h.holding hmoves
    refine ⟨h.fits_iff hspeaks, h.step hspeaks (h.connecting.step hmoves.connects) ?_ ?_⟩
    · exact h.holding.moves h.bounded hspeaks.sessions hmoves
    · exact fun i => hmoves.connects.known
  | getOrCreate roomId =>
    cases hstep
    exact h.withSessions (GameSessionManager.grows_getOrCreate _ _) (fun _ => id) rfl
  | startRoute now room =>
    cases hstep
    refine h.withSessions ?_ (fun _ => id) rfl
    exact AppContainer.startRoute_rule (I := fun m => p.1.gateway.sessions.Grows m)
      (GameSessionManager.grows_getOrCreate _ _)
      fun _ _ _ _ hm => hm.trans (GameSessionManager.grows_modifySession _ _ _)

/-- Every socket is greeted in order along a run precisely if every snapshot of a tick
and every answer to `request_snapshot` finds its socket joined. -/
theorem handshake_in_order_iff (env : Env R) (rt : Runtime R) (events : List SharedEvent) :
    (recorded env rt).Along (fun p => HandshakeInOrder p.1.gateway) (Server.empty, []) events ↔
      (recorded env rt).StepsMeet (AfterJoin env rt) (Server.empty, []) events := by
  refine Machine.along_iff_stepsMeet (I := Greeting) (L := fun _ => True)
    (fun p h i => (h.logs i).ordered) ?_ ?_ (fun _ _ => trivial) greeting_empty
  · intro p event q h _ hstep hguard
    obtain ⟨hiff, hkeep⟩ := h.steps hstep
    exact hkeep (hiff.mpr hguard)
  · intro p event q h _ hstep hfits
    exact (h.steps hstep).1.mp hfits

end Machine

/-- The room's session ticks while the presence call of the join is awaited. -/
def tickedInJoin : List SharedEvent :=
  [.connect 0 request, allowed 0, online 0, .frame 0 joinText, allowed 1, found 1, .tick 0 0].map
    .server

theorem snapshot_before_joined :
    ¬(recorded defaultEnv runtime).Along (fun p => HandshakeInOrder p.1.gateway) (Server.empty, [])
      tickedInJoin := by
  intro halong
  have hrun : ((recorded defaultEnv runtime).exec (Server.empty, []) tickedInJoin).map
      (fun p => (sentTo p.1.gateway.sent 0).map ServerMessage.isSnapshot) = some [true] := rfl
  obtain ⟨p, hp, hlog⟩ := Option.map_eq_some_iff.mp hrun
  obtain ⟨m, hm, hsnapshot⟩ := List.map_eq_singleton_iff.mp hlog
  obtain ⟨joined, hjoined, -⟩ := (halong.last hp 0 [] m [] hm hsnapshot).1
  cases hjoined

end RealtimeGameServer.Guarantees.JoinHandshake
