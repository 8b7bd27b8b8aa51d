import RealtimeGameServer.Source.Registry

/-!
# Whom a broadcast and a tick reach

The sends of a broadcast change neither the registered sockets nor their wires, so
what `broadcast` and the timer of a session send is one list that can be read off
the gateway before them.
-/
namespace RealtimeGameServer.Source
open Lib

/-- The message of an emitted snapshot. -/
def SessionEvent.message {R : Type} : SessionEvent R → Option (SnapshotMessage R)
  | .snapshot message => some message
  | .playerDisconnected _ => none

/-- The messages a step emits. -/
def GameSession.StepResult.emitted {R : Type} (result : GameSession.StepResult R) :
    List (SnapshotMessage R) := result.events.filterMap SessionEvent.message

/-- The messages to one socket. -/
def sentTo {R : Type} (sent : List (SocketId × ServerMessage R)) (socket : SocketId) :
    List (ServerMessage R) := (sent.filter fun e => e.1 = socket).map Prod.snd

theorem sentTo_append {R : Type} (a b : List (SocketId × ServerMessage R)) (socket : SocketId) :
    sentTo (a ++ b) socket = sentTo a socket ++ sentTo b socket := by
  unfold sentTo
  rw [List.filter_append, List.map_append]

theorem mem_sentTo {R : Type} {sent : List (SocketId × ServerMessage R)} {socket : SocketId}
    {message : ServerMessage R} : message ∈ sentTo sent socket ↔ (socket, message) ∈ sent := by
  unfold sentTo
  rw [List.mem_map]
  constructor
  · rintro ⟨e, hfiltered, rfl⟩
    obtain ⟨hmem, hi⟩ := List.mem_filter.mp hfiltered
    rw [← of_decide_eq_true hi]
    exact hmem
  · exact fun hmem => ⟨_, List.mem_filter.mpr ⟨hmem, decide_eq_true rfl⟩, rfl⟩

namespace Gateway
variable {R : Type}

/-- Whether a broadcast to a room is sent to the socket: `ctx.roomId === roomId` and
the socket is open. -/
def hears (g : Gateway R) (roomId : String) (socket : SocketId) : Bool :=
  (g.registered socket).any (fun ctx => ctx.roomId = some roomId) &&
    g.readyState socket = .opened

/-- The sockets a broadcast to a room is sent to, in order. -/
def audience (g : Gateway R) (roomId : String) : List SocketId :=
  g.sockets.filter (g.hears roomId)

theorem hears_iff {g : Gateway R} {roomId : String} {socket : SocketId} :
    g.hears roomId socket ↔ ∃ ctx, g.registered socket = some ctx ∧ ctx.roomId = some roomId ∧
      g.readyState socket = .opened := by
  unfold hears
  cases g.registered socket <;> simp

theorem mem_audience {g : Gateway R} {roomId : String} {socket : SocketId} :
    socket ∈ g.audience roomId ↔ g.hears roomId socket := by
  refine ⟨fun h => (List.mem_filter.mp h).2, fun h => List.mem_filter.mpr ⟨?_, h⟩⟩
  obtain ⟨ctx, hctx, -⟩ := hears_iff.mp h
  exact (mem_sockets_of_registered hctx).1

/-- The gateway with more messages sent. -/
def sending (g : Gateway R) (messages : List (SocketId × ServerMessage R)) : Gateway R :=
  { g with sent := g.sent ++ messages }

@[simp] theorem sending_nil (g : Gateway R) : g.sending [] = g := by
  unfold sending
  rw [List.append_nil]

@[simp] theorem sending_sending (g : Gateway R) (a b : List (SocketId × ServerMessage R)) :
    (g.sending a).sending b = g.sending (a ++ b) := by
  unfold sending
  rw [List.append_assoc]

@[simp] theorem audience_sending (g : Gateway R) (messages : List (SocketId × ServerMessage R))
    (roomId : String) : (g.sending messages).audience roomId = g.audience roomId := rfl

theorem send_eq (g : Gateway R) (socket : SocketId) (message : ServerMessage R) :
    g.send socket message =
      g.sending (if g.readyState socket = .opened then [(socket, message)] else []) := by
  unfold send
  split
  next => rfl
  next => rw [sending_nil]

/-- A loop over `l` each round of which only sends, and sends what it would send
from the start. -/
theorem foldl_sending {α : Type} {f : Gateway R → α → Gateway R}
    (sends : Gateway R → α → List (SocketId × ServerMessage R))
    (hf : ∀ g a, f g a = g.sending (sends g a))
    (hsends : ∀ g sent a, sends (g.sending sent) a = sends g a) (l : List α) (g : Gateway R) :
    l.foldl f g = g.sending (l.flatMap (sends g)) := by
  induction l generalizing g with
  | nil => exact (sending_nil g).symm
  | cons a rest ih =>
    have hrest : sends (g.sending (sends g a)) = sends g := funext fun b => hsends g _ b
    rw [List.foldl_cons, hf, ih, hrest, sending_sending, List.flatMap_cons]

theorem flatMap_ite {α β : Type} (l : List α) (p : α → Bool) (f : α → β) :
    (l.flatMap fun a => if p a then [f a] else []) = (l.filter p).map f := by
  induction l with
  | nil => rfl
  | cons a rest ih =>
    rw [List.flatMap_cons, ih, List.filter_cons]
    split <;> rfl

theorem broadcast_eq (g : Gateway R) (roomId : String) (message : ServerMessage R) :
    g.broadcast roomId message = g.sending ((g.audience roomId).map (·, message)) := by
  unfold audience
  rw [← flatMap_ite]
  refine foldl_sending (fun g socket => if g.hears roomId socket then [(socket, message)] else [])
    (fun g socket => ?_) (fun _ _ _ => rfl) g.sockets g
  have hhears := @hears_iff _ g roomId socket
  split
  next hnone =>
    rw [if_neg, sending_nil]
    intro h
    obtain ⟨ctx, hctx, -⟩ := hhears.mp h
    cases hnone.symm.trans hctx
  next ctx hctx =>
    split
    next hroom =>
      rw [send_eq]
      congr 1
      refine if_congr ?_ rfl rfl
      exact ⟨fun hopen => hhears.mpr ⟨ctx, hctx, hroom, hopen⟩, fun h => (hhears.mp h).choose_spec.2.2⟩
    next hroom =>
      rw [if_neg, sending_nil]
      intro h
      obtain ⟨ctx', hctx', hroom', -⟩ := hhears.mp h
      cases hctx.symm.trans hctx'
      exact hroom hroom'

/-- What the messages of a step are sent to, listener by listener. -/
def deliveries (g : Gateway R) (subscribers : List String) (messages : List (SnapshotMessage R)) :
    List (SocketId × ServerMessage R) :=
  messages.flatMap fun message =>
    subscribers.flatMap fun roomId => (g.audience roomId).map (·, .snapshot message)

theorem mem_deliveries {g : Gateway R} {subscribers : List String}
    {messages : List (SnapshotMessage R)} {socket : SocketId} {message : ServerMessage R} :
    (socket, message) ∈ g.deliveries subscribers messages ↔
      ∃ snapshot ∈ messages, message = .snapshot snapshot ∧
        ∃ roomId ∈ subscribers, g.hears roomId socket := by
  unfold deliveries
  simp only [List.mem_flatMap, List.mem_map, mem_audience, Prod.mk.injEq]
  constructor
  · rintro ⟨snapshot, hsnapshot, roomId, hroom, i, hears, rfl, rfl⟩
    exact ⟨snapshot, hsnapshot, rfl, roomId, hroom, hears⟩
  · rintro ⟨snapshot, hsnapshot, rfl, roomId, hroom, hears⟩
    exact ⟨snapshot, hsnapshot, roomId, hroom, socket, hears, rfl, rfl⟩

variable [Field R] [LinearOrder R] [JsMath R]

theorem tick_eq (env : Env R) (g : Gateway R) (now : Int) (session : SessionId)
    (object : SessionObject R) : g.tick env now session object =
      Gateway.sending
        { g with sessions := g.sessions.modifySession session fun _ =>
            (object.session.step env now).session }
        (g.deliveries object.subscribers (object.session.step env now).emitted) := by
  unfold tick GameSession.StepResult.emitted deliveries
  rw [List.filterMap_eq_flatMap_toList, List.flatMap_assoc]
  refine foldl_sending
    (fun g (event : SessionEvent R) => g.deliveries object.subscribers event.message.toList)
    (fun g event => ?_) (fun _ _ _ => rfl) _ _
  cases event with
  | snapshot message =>
    refine (foldl_sending (fun g roomId => (g.audience roomId).map (·, .snapshot message))
      (fun g roomId => broadcast_eq g roomId _) (fun _ _ _ => rfl) _ g).trans ?_
    simp only [deliveries, SessionEvent.message, Option.toList_some, List.flatMap_cons,
      List.flatMap_nil, List.append_nil]
  | playerDisconnected id => exact (sending_nil g).symm

end Gateway
end RealtimeGameServer.Source
