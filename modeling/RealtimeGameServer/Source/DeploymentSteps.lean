import RealtimeGameServer.Source.OwnCalls

/-!
# The steps of a deployment

`Steps` is the inversion of `Deployment.step`. `InFlight` says that every command on its
way, or its answer, has a handler that waits for it and for nothing else: a handler sends
one command at a time, and goes on only with its answer.
-/
namespace RealtimeGameServer.Source
open Lib RedisStore

theorem ExternalCall.redis_isSome {call : ExternalCall} {lastSeen now : Int}
    {command : RedisStore.Call} (h : call.redis lastSeen = some command) :
    (call.redis now).isSome := by
  cases call <;> first | rfl | cases h

namespace Deployment
variable {R : Type}

/-- The commands without an answer, or whose answer is on its way. -/
def inFlight (s : Deployment R) : List Issued := s.replies.map Reply.toIssued ++ s.issued

structure InFlight (s : Deployment R) : Prop where
  waiting : ∀ issued ∈ s.inFlight, ∃ suspended lastSeen,
    s.server.handlers.get issued.number = some suspended ∧
      suspended.call.redis lastSeen = some issued.call
  once : (s.inFlight.map Issued.number).Nodup

theorem inFlight_start (redis : Database) (clock : Int) :
    InFlight (start redis clock : Deployment R) :=
  ⟨(fun _ h => by cases h), List.nodup_nil⟩

theorem InFlight.perm {s t : Deployment R} (h : InFlight s) (hserver : t.server = s.server)
    (hperm : t.inFlight.Perm s.inFlight) : InFlight t where
  waiting issued hmem := by
    rw [hserver]
    exact h.waiting issued (hperm.mem_iff.mp hmem)
  once := (hperm.map _).nodup_iff.mpr h.once

theorem mem_issue {s : Deployment R} {event : ServerEvent} {server : Server R} {issued : Issued}
    (h : issued ∈ s.issue event server) : ∃ suspended, s.server.turn event = some issued.number ∧
      server.handlers.get issued.number = some suspended ∧
      suspended.call.redis event.now = some issued.call := by
  obtain ⟨number, hturn, hget⟩ := Option.bind_eq_some_iff.mp (Option.mem_toList.mp h)
  obtain ⟨suspended, hsuspended, hcall⟩ := Option.bind_eq_some_iff.mp hget
  obtain ⟨call, hredis, rfl⟩ := Option.map_eq_some_iff.mp hcall
  exact ⟨suspended, hturn, hsuspended, hredis⟩

theorem issue_subsingleton (s : Deployment R) (event : ServerEvent) (server : Server R) :
    s.issue event server = [] ∨ ∃ issued, s.issue event server = [issued] := by
  unfold issue
  rcases ((s.server.turn event).bind _ : Option Issued) with _ | issued
  · exact Or.inl rfl
  · exact Or.inr ⟨issued, rfl⟩

variable [Field R] [LinearOrder R] [JsMath R] {env : Env R} {rt : Runtime R}

/-- What an event finds, and what becomes of the parts. -/
inductive Steps (env : Env R) (rt : Runtime R) (s : Deployment R) :
    DeploymentEvent → Deployment R → Prop
  | gateway {event : ServerEvent} {server : Server R} (unanswered : ¬s.Answers event)
      (ran : (Server.machine env rt).step s.server event = some server) :
      Steps env rt s (.gateway event) { s with server, issued := s.issued ++ s.issue event server }
  | executed {now : Int} {next : Issued} {rest : List Issued} {redis : Database}
      (head : s.issued = next :: rest) (later : s.clock ≤ now)
      (ran : database.step s.redis (.call now next.call) = some redis) :
      Steps env rt s (.execute now) { s with
        redis, clock := now, issued := rest
        replies := s.replies ++ [⟨next, now, some (answerOf s.redis now next.call)⟩] }
  | refused {next : Issued} {rest : List Issued} (head : s.issued = next :: rest) :
      Steps env rt s .refuse { s with
        issued := rest, replies := s.replies ++ [⟨next, s.clock, none⟩] }
  | resent : Steps env rt s .resend { s with
      issued := (s.replies.filter fun reply => reply.answer.isSome).map Reply.toIssued ++ s.issued
      replies := s.replies.filter fun reply => !reply.answer.isSome }
  | delivered {now : Int} {uuid : String} {reply : Reply} {rest : List Reply}
      {event : ServerEvent} {server : Server R} (head : s.replies = reply :: rest)
      (answers : event = .answer reply.number now uuid (reply.answer.getD .failed))
      (ran : (Server.machine env rt).step s.server event = some server) :
      Steps env rt s (.deliver now uuid) { s with
        server, replies := rest, issued := s.issued ++ s.issue event server }
  | foreign {event : RedisEvent} {redis : Database} (other : ∀ now call, event ≠ .call now call)
      (later : s.clock ≤ event.now) (ran : database.step s.redis event = some redis) :
      Steps env rt s (.redis event) { s with redis, clock := event.now }

omit [Field R] [LinearOrder R] [JsMath R] in
theorem redisStep_eq_some {s t : Deployment R} {event : RedisEvent}
    (h : s.redisStep event = some t) : s.clock ≤ event.now ∧ ∃ redis,
      database.step s.redis event = some redis ∧ t = { s with redis, clock := event.now } := by
  unfold redisStep at h
  split at h
  next hlater =>
    obtain ⟨redis, hran, rfl⟩ := Option.map_eq_some_iff.mp h
    exact ⟨hlater, redis, hran, rfl⟩
  next => cases h

theorem step_cases {s t : Deployment R} {event : DeploymentEvent}
    (h : (machine env rt).step s event = some t) : Steps env rt s event t := by
  change s.step env rt event = some t at h
  cases event with
  | gateway event =>
    simp only [step, gatewayStep] at h
    split at h
    next => cases h
    next hanswers =>
      obtain ⟨server, hran, rfl⟩ := Option.map_eq_some_iff.mp h
      exact .gateway hanswers hran
  | execute now =>
    simp only [step] at h
    split at h
    next => cases h
    next next rest hissued =>
      obtain ⟨u, hu, rfl⟩ := Option.map_eq_some_iff.mp h
      obtain ⟨hlater, redis, hran, rfl⟩ := redisStep_eq_some hu
      exact .executed hissued hlater hran
  | refuse =>
    simp only [step] at h
    split at h <;> cases h
    next hissued => exact .refused hissued
  | resend =>
    simp only [step, List.partition_eq_filter_filter, Option.some.injEq] at h
    subst h
    exact .resent
  | deliver now uuid =>
    simp only [step, gatewayStep] at h
    split at h
    next => cases h
    next reply rest hreplies =>
      obtain ⟨server, hran, rfl⟩ := Option.map_eq_some_iff.mp h
      exact .delivered hreplies rfl hran
  | redis event =>
    cases event with
    | call => cases h
    | expire now key =>
      obtain ⟨hlater, redis, hran, rfl⟩ := redisStep_eq_some h
      exact .foreign (fun _ _ heq => by cases heq) hlater hran
    | foreign command =>
      obtain ⟨hlater, redis, hran, rfl⟩ := redisStep_eq_some h
      exact .foreign (fun _ _ heq => by cases heq) hlater hran

/-- A handler takes its turn while it has nothing in flight. -/
theorem InFlight.turn {s : Deployment R} (h : InFlight s) {event : ServerEvent} {server : Server R}
    (hran : (Server.machine env rt).step s.server event = some server)
    (hturn : ∀ issued ∈ s.inFlight, s.server.turn event ≠ some issued.number) :
    InFlight { s with server, issued := s.issued ++ s.issue event server } := by
  have hflight : ({ s with server, issued := s.issued ++ s.issue event server } :
      Deployment R).inFlight = s.inFlight ++ s.issue event server :=
    (List.append_assoc _ _ _).symm
  constructor
  · intro issued hmem
    rw [hflight, List.mem_append] at hmem
    rcases hmem with hold | hnew
    · rw [(Server.moves hran).others (hturn issued hold)]
      exact h.waiting issued hold
    · obtain ⟨suspended, -, hget, hredis⟩ := mem_issue hnew
      exact ⟨suspended, event.now, hget, hredis⟩
  · rw [hflight]
    rcases issue_subsingleton s event server with hnone | ⟨issued, hone⟩
    · rw [hnone, List.append_nil]
      exact h.once
    · rw [hone, List.map_append, List.map_singleton]
      refine h.once.append (List.nodup_singleton _) ?_
      intro number hmem hnew
      rw [List.mem_singleton] at hnew
      obtain ⟨old, hold, rfl⟩ := List.mem_map.mp hmem
      have hissued : issued ∈ s.issue event server := by
        rw [hone]
        exact List.mem_singleton_self issued
      obtain ⟨-, hturn', -⟩ := mem_issue hissued
      exact hturn old hold (hnew ▸ hturn')

/-- The server keeps its invariant, and the commands in flight are awaited. -/
structure Sound (env : Env R) (s : Deployment R) : Prop where
  owns : s.server.Owns env
  inFlight : s.InFlight

omit [JsMath R] in
theorem sound_start (env : Env R) (redis : Database) (clock : Int) :
    Sound env (start redis clock) :=
  ⟨Server.owns_empty env, inFlight_start redis clock⟩

theorem Sound.step {s t : Deployment R} {event : DeploymentEvent} (h : Sound env s)
    (hstep : Steps env rt s event t) : Sound env t := by
  cases hstep with
  | @gateway event server unanswered ran =>
    refine ⟨h.owns.step ran, h.inFlight.turn ran fun issued hmem hturn => ?_⟩
    obtain ⟨suspended, lastSeen, hget, hredis⟩ := h.inFlight.waiting issued hmem
    have hstarted := h.owns.unstarted.lt hget
    cases event with
    | answer number now uuid answer =>
      have hsame : number = issued.number := Option.some.inj hturn
      subst hsame
      exact unanswered ⟨suspended, hget, ExternalCall.redis_isSome hredis⟩
    | connect | frame | close =>
      have hsame : s.server.started = issued.number := Option.some.inj hturn
      exact Nat.ne_of_lt hstarted hsame.symm
    | _ => cases hturn
  | executed head later ran =>
    refine ⟨h.owns, h.inFlight.perm rfl (.of_eq ?_)⟩
    simp only [Deployment.inFlight, head, List.map_append, List.map_singleton, List.append_assoc,
      List.singleton_append]
  | refused head =>
    refine ⟨h.owns, h.inFlight.perm rfl (.of_eq ?_)⟩
    simp only [Deployment.inFlight, head, List.map_append, List.map_singleton, List.append_assoc,
      List.singleton_append]
  | resent =>
    refine ⟨h.owns, h.inFlight.perm rfl ?_⟩
    have hsplit := (List.filter_append_perm (fun reply : Reply => reply.answer.isSome)
      s.replies).map Reply.toIssued
    rw [List.map_append] at hsplit
    refine (List.perm_append_comm_assoc _ _ _).trans ?_
    rw [← List.append_assoc]
    exact hsplit.append_right s.issued
  | @delivered now uuid reply rest event server head answers ran =>
    have honce := h.inFlight.once
    have hwaiting := h.inFlight.waiting
    have hflight : s.inFlight = reply.toIssued :: ({ s with replies := rest }).inFlight := by
      simp only [Deployment.inFlight, head, List.map_cons, List.cons_append]
    rw [hflight] at honce hwaiting
    obtain ⟨hnew, honce⟩ := List.nodup_cons.mp honce
    have hrest : InFlight { s with replies := rest } :=
      ⟨fun issued hmem => hwaiting issued (List.mem_cons_of_mem _ hmem), honce⟩
    refine ⟨h.owns.step ran, hrest.turn ran fun issued hmem hturn => ?_⟩
    subst answers
    have hsame : reply.number = issued.number := Option.some.inj hturn
    exact hnew (List.mem_map.mpr ⟨issued, hmem, hsame.symm⟩)
  | foreign => exact ⟨h.owns, h.inFlight.perm rfl (.refl _)⟩

/-- The invariant rule, for a state and the notes so far. -/
theorem noted_invariant {I : Deployment R → List Note → Prop}
    (hstep : ∀ s notes event t, I s notes → (∀ redis, event = .redis redis → redis.Allowed) →
      Steps env rt s event t → I t (notes ++ note s event))
    {events : List DeploymentEvent} (haway : KeepsAway events)
    {c d : Deployment R × List Note} (h : I c.1 c.2)
    (hexec : (noted env rt).exec c events = some d) : I d.1 d.2 := by
  have hkeep : ∀ c event d, I c.1 c.2 → (∀ redis, event = .redis redis → redis.Allowed) →
      (noted env rt).step c event = some d → True → I d.1 d.2 := by
    intro c event d hc hevent hnext _
    obtain ⟨hmachine, hnotes⟩ := Machine.recording_step hnext
    rw [hnotes]
    exact hstep _ _ _ _ hc hevent (step_cases hmachine)
  have hallowed : ∀ event ∈ events, ∀ redis, event = .redis redis → redis.Allowed :=
    fun event hmem redis heq => haway redis (heq ▸ hmem)
  exact (Machine.along_of_guarded (I := fun c => I c.1 c.2) hkeep hallowed h
    (.of_labels (fun _ _ _ => trivial) c)).last hexec

/-- What Redis did, in order, up to its clock. -/
structure Traced (redis : Database) (s : Deployment R) (notes : List Note) : Prop where
  exec : database.exec redis (ran notes) = some s.redis
  ordered : (ran notes).Pairwise fun earlier later => earlier.now ≤ later.now
  past : ∀ event ∈ ran notes, event.now ≤ s.clock
  allowed : ∀ event ∈ ran notes, event.Allowed

omit [Field R] [LinearOrder R] [JsMath R] in
theorem traced_start (redis : Database) (clock : Int) :
    Traced redis (start redis clock : Deployment R) [] where
  exec := rfl
  ordered := .nil
  past event h := by cases h
  allowed event h := by cases h

omit [Field R] [LinearOrder R] [JsMath R] in
theorem ran_append (notes later : List Note) : ran (notes ++ later) = ran notes ++ ran later :=
  List.filterMap_append

omit [Field R] [LinearOrder R] [JsMath R] in
theorem Traced.event {redis : Database} {s t : Deployment R} {notes : List Note}
    (h : Traced redis s notes) {event : RedisEvent} (hlater : s.clock ≤ event.now)
    (hallowed : event.Allowed) (hran : database.step s.redis event = some t.redis)
    (hclock : t.clock = event.now) : Traced redis t (notes ++ [.ran event]) := by
  have hnotes : ran (notes ++ [.ran event]) = ran notes ++ [event] := ran_append _ _
  constructor
  case exec =>
    rw [hnotes]
    refine Machine.exec_append.mpr ⟨s.redis, h.exec, ?_⟩
    rw [Machine.exec, hran]
    rfl
  case ordered =>
    rw [hnotes]
    refine List.pairwise_append.mpr ⟨h.ordered, List.pairwise_singleton _ _, ?_⟩
    intro earlier hearlier later hmem
    rw [List.mem_singleton.mp hmem]
    exact (h.past earlier hearlier).trans hlater
  case past =>
    intro other hmem
    rw [hnotes] at hmem
    rw [hclock]
    rcases List.mem_append.mp hmem with hold | hnew
    · exact (h.past other hold).trans hlater
    · rw [List.mem_singleton.mp hnew]
  case allowed =>
    intro other hmem
    rw [hnotes] at hmem
    rcases List.mem_append.mp hmem with hold | hnew
    · exact h.allowed other hold
    · rw [List.mem_singleton.mp hnew]
      exact hallowed

omit [Field R] [LinearOrder R] [JsMath R] in
theorem Traced.same {redis : Database} {s t : Deployment R} {notes later : List Note}
    (h : Traced redis s notes) (hredis : t.redis = s.redis) (hclock : t.clock = s.clock)
    (hlater : ran later = []) : Traced redis t (notes ++ later) := by
  have hnotes : ran (notes ++ later) = ran notes := by
    rw [ran_append, hlater, List.append_nil]
  constructor
  case exec =>
    rw [hnotes, hredis]
    exact h.exec
  case ordered =>
    rw [hnotes]
    exact h.ordered
  case past =>
    rw [hnotes, hclock]
    exact h.past
  case allowed =>
    rw [hnotes]
    exact h.allowed

omit [Field R] [LinearOrder R] [JsMath R] in
/-- Redis does nothing when the gateway takes a step. -/
theorem ran_note {s : Deployment R} {event : DeploymentEvent} (hexecute : ∀ now, event ≠ .execute now)
    (hredis : ∀ redis, event ≠ .redis redis) : ran (note s event) = [] := by
  cases event with
  | gateway event => cases event <;> rfl
  | execute now => exact absurd rfl (hexecute now)
  | refuse | resend => rfl
  | deliver now uuid =>
    simp only [note]
    split
    next =>
      rw [ran, List.filterMap_eq_nil_iff]
      intro noted hmem
      obtain ⟨suspended, -, rfl⟩ := List.mem_map.mp hmem
      rfl
    next => rfl
  | redis event => exact absurd rfl (hredis event)

theorem Traced.step {redis : Database} {s t : Deployment R} {notes : List Note}
    {event : DeploymentEvent} (h : Traced redis s notes)
    (hallowed : ∀ other, event = .redis other → other.Allowed) (hsteps : Steps env rt s event t) :
    Traced redis t (notes ++ note s event) := by
  cases hsteps with
  | @executed now next rest redis' head later ran =>
    have hnote : note s (.execute now) = [.ran (.call now next.call)] := by
      rw [note, head]
      rfl
    have hlater : s.clock ≤ (RedisEvent.call now next.call).now := later
    rw [hnote]
    exact h.event hlater trivial ran rfl
  | foreign other later ran => exact h.event later (hallowed _ rfl) ran rfl
  | gateway | refused | resent | delivered =>
    exact h.same rfl rfl (ran_note (fun _ heq => by cases heq) fun _ heq => by cases heq)

end Deployment
end RealtimeGameServer.Source
