import RealtimeGameServer.Source.Registry
import RealtimeGameServer.Source.RedisStore

/-!
# The gateway and the Redis it waits for

Source: shared/container.ts:46-68, infrastructure/websocket/gateway.ts and
infrastructure/redis/redis-client.ts. The presence service and the rate limiter that
the gateway calls share one connection. Redis runs the commands of a connection in the
order in which they were sent, and the answers come back in that order. When the
connection breaks, the client sends the commands that were not answered again, before
the others; when it gives up on a command, the promise rejects. Meanwhile the handlers
go on, expired keys are dropped, and other clients write to other keys.
-/
namespace RealtimeGameServer.Source
open Lib RedisStore

/-- The handler an event starts or resumes. -/
def Server.turn {R : Type} (s : Server R) : ServerEvent → Option Nat
  | .connect _ _ | .frame _ _ | .close _ => some s.started
  | .answer number _ _ _ => some number
  | .tick _ _ | .destroy _ | .shutdown => none

/-- The command of a call, for those that Redis answers. -/
def ExternalCall.redis (lastSeen : Int) : ExternalCall → Option RedisStore.Call
  | .consume key limit windowSeconds => some (.consume key limit windowSeconds)
  | .setOnline playerId roomId => some (.setOnline playerId roomId lastSeen)
  | .heartbeat playerId roomId => some (.heartbeat playerId roomId lastSeen)
  | .setOffline playerId => some (.setOffline playerId)
  | .findById _ | .settled => none

/-- A command on its way, and the handler that waits for it. -/
structure Issued where
  number : Nat
  call : RedisStore.Call

/-- The end of a command on its way back: what it resolved to when Redis was at `now`,
or `none` where the client gave up on it. -/
structure Deployment.Reply extends Issued where
  now : Int
  answer : Option Answer

/-- `clock` is that of Redis. -/
structure Deployment (R : Type) where
  server : Server R
  redis : Database
  clock : Int
  issued : List Issued
  replies : List Deployment.Reply

inductive DeploymentEvent where
  /-- An event of the gateway other than the answer to a command. -/
  | gateway (event : ServerEvent)
  /-- Redis runs the command that is next. -/
  | execute (now : Int)
  /-- The client gives up on the command that is next. -/
  | refuse
  /-- The connection breaks, and the client makes a new one. -/
  | resend
  /-- The answer that is next arrives. -/
  | deliver (now : Int) (uuid : String)
  /-- Redis drops an expired key, or runs a command of another client. -/
  | redis (event : RedisEvent)

/-- The clock of the process, for the events that read it. -/
def ServerEvent.now : ServerEvent → Int
  | .answer _ now _ _ => now
  | .tick _ now => now
  | _ => 0

namespace Deployment
variable {R : Type}

def start (redis : Database) (clock : Int) : Deployment R where
  server := .empty
  redis
  clock
  issued := []
  replies := []

/-- The command of the handler whose turn it was, if it now waits for one. -/
def issue (s : Deployment R) (event : ServerEvent) (server : Server R) : List Issued :=
  ((s.server.turn event).bind fun number =>
    (server.handlers.get number).bind fun suspended =>
      (suspended.call.redis event.now).map fun call => ⟨number, call⟩).toList

/-- Whether an event answers a command. -/
def Answers (s : Deployment R) : ServerEvent → Prop
  | .answer number _ _ _ => ∃ suspended, s.server.handlers.get number = some suspended ∧
      (suspended.call.redis 0).isSome
  | _ => False

instance (s : Deployment R) (event : ServerEvent) : Decidable (s.Answers event) :=
  match event with
  | .answer number _ _ _ =>
    match h : s.server.handlers.get number with
    | none => isFalse fun ⟨_, hget, _⟩ => by cases h.symm.trans hget
    | some suspended =>
      if hsome : (suspended.call.redis 0).isSome then
        isTrue ⟨suspended, h, hsome⟩
      else
        isFalse fun ⟨_, hget, h'⟩ => hsome (by cases h.symm.trans hget; exact h')
  | .connect _ _ | .frame _ _ | .close _ | .tick _ _ | .destroy _ | .shutdown => isFalse id

/-- What a command resolves to. -/
def answerOf (redis : Database) (now : Int) : RedisStore.Call → Answer
  | .consume key limit _ => (consumed redis now key limit).elim .failed fun c => .limit c.allowed
  | _ => .done

variable [Field R] [LinearOrder R] [JsMath R]

def gatewayStep (env : Env R) (rt : Runtime R) (s : Deployment R) (event : ServerEvent) :
    Option (Deployment R) :=
  (s.server.step env rt event).map fun server =>
    { s with server, issued := s.issued ++ s.issue event server }

/-- Redis takes a step of its own; its clock does not go back. -/
def redisStep (s : Deployment R) (event : RedisEvent) : Option (Deployment R) :=
  if s.clock ≤ event.now then
    (database.step s.redis event).map fun redis => { s with redis, clock := event.now }
  else none

def step (env : Env R) (rt : Runtime R) (s : Deployment R) :
    DeploymentEvent → Option (Deployment R)
  | .gateway event => if s.Answers event then none else s.gatewayStep env rt event
  | .execute now =>
    match s.issued with
    | [] => none
    | next :: rest =>
      let answer := answerOf s.redis now next.call
      (s.redisStep (.call now next.call)).map fun t =>
        { t with issued := rest, replies := s.replies ++ [⟨next, now, some answer⟩] }
  | .refuse =>
    match s.issued with
    | [] => none
    | next :: rest =>
      some { s with issued := rest, replies := s.replies ++ [⟨next, s.clock, none⟩] }
  | .resend =>
    let (lost, kept) := s.replies.partition fun reply => reply.answer.isSome
    some { s with issued := lost.map Reply.toIssued ++ s.issued, replies := kept }
  | .deliver now uuid =>
    match s.replies with
    | [] => none
    | reply :: rest =>
      { s with replies := rest }.gatewayStep env rt
        (.answer reply.number now uuid (reply.answer.getD .failed))
  | .redis (.call _ _) => none
  | .redis event => s.redisStep event

def machine (env : Env R) (rt : Runtime R) : Machine (Deployment R) DeploymentEvent where
  step := step env rt

end Deployment

inductive Note where
  | connected (socket : SocketId) (request : Request)
  /-- What Redis did. -/
  | ran (event : RedisEvent)
  /-- The rate limiter let a handler pass, at this time of Redis. -/
  | admitted (handler : Handler) (now : Int)

namespace Deployment
variable {R : Type}

def note (s : Deployment R) : DeploymentEvent → List Note
  | .gateway (.connect socket request) => [.connected socket request]
  | .gateway _ => []
  | .execute now => s.issued.head?.toList.map fun issued => .ran (.call now issued.call)
  | .refuse | .resend => []
  | .deliver _ _ =>
    match s.replies with
    | ⟨⟨number, _⟩, now, some (.limit true)⟩ :: _ =>
      (s.server.handlers.get number).toList.map fun suspended => .admitted suspended.handler now
    | _ => []
  | .redis event => [.ran event]

/-- The machine with its notes. -/
def noted [Field R] [LinearOrder R] [JsMath R] (env : Env R) (rt : Runtime R) :
    Machine (Deployment R × List Note) DeploymentEvent :=
  (machine env rt).recording note

/-- What Redis did, in order. -/
def ran (notes : List Note) : List RedisEvent :=
  notes.filterMap fun
    | .ran event => some event
    | _ => none

/-- The other clients of Redis keep to other keys. -/
def KeepsAway (events : List DeploymentEvent) : Prop :=
  ∀ redis, DeploymentEvent.redis redis ∈ events → redis.Allowed

end Deployment
end RealtimeGameServer.Source
