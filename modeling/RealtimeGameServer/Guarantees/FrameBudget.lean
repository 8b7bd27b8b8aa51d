import RealtimeGameServer.Guarantees.RateLimit
import RealtimeGameServer.Guarantees.SessionAccess
import RealtimeGameServer.Guarantees.SharedLimiter
import RealtimeGameServer.Source.DeploymentSteps

/-!
# How many frames are handled

The rate limiter decides in Redis, and the gateway handles a frame when the answer
arrives. Over everything that can happen in between, the frames of a player that are
handled, on whatever connections, are answered in Redis at most twice the limit a second;
and so are the connections from one address a minute.
-/
namespace RealtimeGameServer.Guarantees.FrameBudget
open Lib FixedWindow Source RedisStore Deployment
open SharedLimiter (Mirrors limiterCall)
open RateLimiter (Consumed Counting limiter results)
open RateLimit (AsksFor allowedCalls allowedCalls_eq results_of_key)

variable {R : Type} [Field R] [LinearOrder R]

/-- A handler of a frame of the player. -/
def handlesFrameOf (g : Gateway R) (playerId : String) : Handler → Bool
  | .connection _ .ipLimited => false
  | handler => g.player handler.socket = some playerId

/-- A connection of the address that has not been let in before. -/
def connectsFrom (env : Env R) (g : Gateway R) (ip : String) : Handler → Bool
  | .connection socket .ipLimited => (g.request socket).map (clientIp env) = some ip
  | _ => false

omit [Field R] [LinearOrder R] in
/-- The handlers of a kind that the rate limiter let pass in a half-open interval. -/
def admittedIn (which : Handler → Bool) (start stop : Int) (notes : List Note) : Nat :=
  notes.countP fun
    | .admitted handler now => which handler && decide (start ≤ now ∧ now < stop)
    | _ => false

/-- What a note took from which budget. -/
def charge (env : Env R) (g : Gateway R) : Note → Option (String × Int)
  | .admitted handler now => (handler.budget env g).map fun budget => (budget.1, now)
  | _ => none

omit [Field R] [LinearOrder R] in
/-- What an answer on its way will take. -/
def grant (reply : Reply) : Option (String × Int) :=
  match reply.call, reply.answer with
  | .consume key _ _, some (.limit true) => some (key, reply.now)
  | _, _ => none

def granted (results : List (RateLimiter.Call Int × Consumed)) : List (String × Int) :=
  (results.filter fun r => r.2.allowed).map fun r => (r.1.key, r.1.now)

def spent (env : Env R) (s : Deployment R) (notes : List Note) : List (String × Int) :=
  notes.filterMap (charge env s.server.gateway) ++ s.replies.filterMap grant

/-- The calls ask for what the gateway asks for. -/
def Budgeted (env : Env R) (call : RateLimiter.Call Int) : Prop :=
  (∃ playerId, call.key = "ws:" ++ playerId ∧ call.limit = env.wsRateLimitPerSecond ∧
    call.windowSeconds = milliseconds 1) ∨
  ∃ ip, call.key = "ws-connect:" ++ ip ∧ call.limit = env.wsConnectRateLimitPerMinute ∧
    call.windowSeconds = milliseconds 60

/-- A limiter alone, after these calls, stands where Redis does, and has granted what was
spent. -/
structure Counted (env : Env R) (clock : Int) (redis : Database) (spent : List (String × Int))
    (calls : List (RateLimiter.Call Int)) (alone : RateLimiter.Redis Int) : Prop where
  ran : limiter.exec JsMap.empty calls = some alone
  mirrors : Mirrors clock redis alone
  ordered : calls.Pairwise fun earlier later => earlier.now ≤ later.now
  past : ∀ call ∈ calls, call.now ≤ clock
  asks : ∀ call ∈ calls, Budgeted env call
  within : spent.Sublist (granted (results JsMap.empty calls))

theorem frameKey_ne_connectKey (p ip : String) : "ws:" ++ p ≠ "ws-connect:" ++ ip := by
  intro h
  have hchars := congrArg (fun s => s.toList[2]?) h
  simp only [String.toList_append] at hchars
  cases hchars

theorem asksFor_frames {env : Env R} {calls : List (RateLimiter.Call Int)}
    (h : ∀ call ∈ calls, Budgeted env call) (playerId : String) :
    AsksFor ("ws:" ++ playerId) env.wsRateLimitPerSecond (milliseconds 1) calls := by
  intro call hmem hkey
  rcases h call hmem with ⟨_, -, hasks⟩ | ⟨ip, hother, -⟩
  · exact hasks
  · exact absurd (hkey.symm.trans hother) (frameKey_ne_connectKey playerId ip)

theorem asksFor_connections {env : Env R} {calls : List (RateLimiter.Call Int)}
    (h : ∀ call ∈ calls, Budgeted env call) (ip : String) :
    AsksFor ("ws-connect:" ++ ip) env.wsConnectRateLimitPerMinute (milliseconds 60) calls := by
  intro call hmem hkey
  rcases h call hmem with ⟨playerId, hother, -⟩ | ⟨_, -, hasks⟩
  · exact absurd (hother.symm.trans hkey) (frameKey_ne_connectKey playerId ip)
  · exact hasks

theorem results_concat {redis reached : RateLimiter.Redis Int}
    {calls : List (RateLimiter.Call Int)} (h : limiter.exec redis calls = some reached)
    (call : RateLimiter.Call Int) : results redis (calls ++ [call]) =
      results redis calls ++ [(call, (RateLimiter.consume reached call).2)] := by
  induction calls generalizing redis with
  | nil =>
    cases h
    rfl
  | cons first rest ih =>
    obtain ⟨next, hnext, hrest⟩ := Machine.exec_cons.mp h
    cases hnext
    rw [List.cons_append, results, ih hrest, results, List.cons_append]

theorem Counted.mono {env : Env R} {clock : Int} {redis : Database}
    {spent spent' : List (String × Int)} {calls : List (RateLimiter.Call Int)}
    {alone : RateLimiter.Redis Int} (h : Counted env clock redis spent calls alone)
    (hsub : spent'.Sublist spent) : Counted env clock redis spent' calls alone :=
  { h with within := hsub.trans h.within }

/-- An event that is no call of `consume`. -/
theorem Counted.event {env : Env R} {clock : Int} {redis redis' : Database}
    {spent : List (String × Int)} {calls : List (RateLimiter.Call Int)}
    {alone : RateLimiter.Redis Int} (h : Counted env clock redis spent calls alone)
    {event : RedisEvent} (hlater : clock ≤ event.now) (hallowed : event.Allowed)
    (hquiet : limiterCall event = none) (hran : database.step redis event = some redis') :
    Counted env event.now redis' spent calls alone :=
  { h with
    mirrors := h.mirrors.event hlater hallowed hquiet hran
    past := fun call hmem => (h.past call hmem).trans hlater }

/-- A call of `consume` is granted as the limiter alone grants it. -/
theorem Counted.consume {env : Env R} {clock now : Int} {redis redis' : Database}
    {spent : List (String × Int)} {calls : List (RateLimiter.Call Int)}
    {alone : RateLimiter.Redis Int} (h : Counted env clock redis spent calls alone)
    (hlater : clock ≤ now) {number : Nat} {key : String} {limit : Nat} {windowSeconds : Int}
    (hbudgeted : Budgeted env ⟨now, key, limit, milliseconds windowSeconds⟩)
    (hran : database.step redis (.call now (.consume key limit windowSeconds)) = some redis') :
    ∃ calls' alone', Counted env now redis' (spent ++ (grant ⟨⟨number,
      .consume key limit windowSeconds⟩, now,
        some (answerOf redis now (.consume key limit windowSeconds))⟩).toList) calls' alone' := by
  obtain ⟨hverdict, hafter⟩ := h.mirrors.consume hlater key limit windowSeconds
  have hrun : redis' = ExpiringStore.run redis (countUp now (limitKey key) windowSeconds) := by
    cases hran
    rfl
  refine ⟨calls ++ [⟨now, key, limit, milliseconds windowSeconds⟩],
    (RateLimiter.consume alone ⟨now, key, limit, milliseconds windowSeconds⟩).1, ?_⟩
  constructor
  case ran => exact Machine.exec_append.mpr ⟨alone, h.ran, rfl⟩
  case mirrors => exact hrun ▸ hafter
  case ordered =>
    refine List.pairwise_append.mpr ⟨h.ordered, List.pairwise_singleton _ _, ?_⟩
    intro earlier hearlier later hmem
    rw [List.mem_singleton.mp hmem]
    exact (h.past earlier hearlier).trans hlater
  case past =>
    intro call hmem
    rcases List.mem_append.mp hmem with hold | hnew
    · exact (h.past call hold).trans hlater
    · rw [List.mem_singleton.mp hnew]
  case asks =>
    intro call hmem
    rcases List.mem_append.mp hmem with hold | hnew
    · exact h.asks call hold
    · rw [List.mem_singleton.mp hnew]
      exact hbudgeted
  case within =>
    rw [results_concat h.ran, granted, List.filter_append, List.map_append]
    refine h.within.append ?_
    simp only [grant, answerOf, hverdict, Option.elim_some]
    cases hallowed : (RateLimiter.consume alone
        ⟨now, key, limit, milliseconds windowSeconds⟩).2.allowed with
    | false => exact List.nil_sublist _
    | true =>
      rw [List.filter_singleton, hallowed]
      exact .refl _

variable [JsMath R]

/-- Along a run: what the handlers took, and what answers on their way will take, was
granted. -/
structure Within (env : Env R) (s : Deployment R) (notes : List Note) : Prop where
  sound : s.Sound env
  answers : ∀ reply ∈ s.replies, ∀ allowed, reply.answer = some (.limit allowed) →
    ∃ key limit windowSeconds, reply.call = .consume key limit windowSeconds
  charged : ∀ handler now, Note.admitted handler now ∈ notes →
    ∃ budget, handler.budget env s.server.gateway = some budget
  counted : ∃ calls alone, Counted env s.clock s.redis (spent env s notes) calls alone

omit [JsMath R] in
theorem within_start (env : Env R) {redis : Database} (clock : Int)
    (habsent : ∀ key, redis.get (limitKey key) = none) :
    Within env (Deployment.start redis clock) [] where
  sound := sound_start env redis clock
  answers reply h := by cases h
  charged handler now h := by cases h
  counted := by
    refine ⟨[], JsMap.empty, rfl, ⟨fun key => ?_, fun key entry hget => ?_⟩, .nil, ?_, ?_, .slnil⟩
    · change ExpiringStore.SameFrom _ (redis.get (limitKey key)) _
      rw [habsent key]
      exact .refl _ _
    · cases hget
    · intro call h
      cases h
    · intro call h
      cases h

omit [JsMath R] in
/-- What was taken stays what it is. -/
theorem charges_keep {env : Env R} {g g' : Gateway R} {notes : List Note}
    (hcharged : ∀ handler now, Note.admitted handler now ∈ notes →
      ∃ budget, handler.budget env g = some budget)
    (hkeep : ∀ (handler : Handler) budget, handler.budget env g = some budget →
      handler.budget env g' = some budget) :
    notes.filterMap (charge env g') = notes.filterMap (charge env g) := by
  refine List.filterMap_congr fun note hmem => ?_
  cases note with
  | admitted handler now =>
    obtain ⟨budget, hbudget⟩ := hcharged handler now hmem
    simp only [charge, hbudget, hkeep handler budget hbudget]
  | _ => rfl

omit [JsMath R] in
/-- A call of `consume` in flight asks for the budget of its handler. -/
theorem budget_of_inFlight {env : Env R} {s : Deployment R} (h : s.Sound env) {issued : Issued}
    (hmem : issued ∈ s.inFlight) {key : String} {limit : Nat} {windowSeconds : Int}
    (hcall : issued.call = .consume key limit windowSeconds) :
    ∃ suspended seconds, s.server.handlers.get issued.number = some suspended ∧
      suspended.handler.budget env s.server.gateway = some (key, limit, seconds) ∧
        windowSeconds = (seconds : Nat) := by
  obtain ⟨suspended, lastSeen, hget, hredis⟩ := h.inFlight.waiting issued hmem
  have hown := h.owns.own issued.number suspended hget
  obtain ⟨handler, call⟩ := suspended
  rw [hcall] at hredis
  cases call with
  | consume key' limit' seconds =>
    cases hredis
    exact ⟨⟨handler, _⟩, seconds, hget, hown, rfl⟩
  | _ => cases hredis

omit [JsMath R] in
theorem budgeted_of_budget {env : Env R} {g : Gateway R} {handler : Handler} {key : String}
    {limit seconds : Nat} (h : handler.budget env g = some (key, limit, seconds)) (now : Int) :
    Budgeted env ⟨now, key, limit, milliseconds seconds⟩ := by
  have hframe : ∀ socket, (g.player socket).map (fun playerId =>
      ("ws:" ++ playerId, env.wsRateLimitPerSecond, 1)) = some (key, limit, seconds) →
      Budgeted env ⟨now, key, limit, milliseconds seconds⟩ := by
    intro socket hbudget
    obtain ⟨playerId, -, heq⟩ := Option.map_eq_some_iff.mp hbudget
    cases heq
    exact Or.inl ⟨playerId, rfl, rfl, rfl⟩
  cases handler with
  | connection socket pc =>
    cases pc with
    | ipLimited =>
      obtain ⟨request, -, heq⟩ := Option.map_eq_some_iff.mp h
      cases heq
      exact Or.inr ⟨_, rfl, rfl, rfl⟩
    | _ => exact hframe socket h
  | message socket pc => exact hframe socket h
  | close socket => exact hframe socket h

def delivers : DeploymentEvent → Bool
  | .deliver _ _ => true
  | _ => false

omit [LinearOrder R] [JsMath R] [Field R] in
/-- Only an answer that arrives lets a handler pass. -/
theorem not_admitted {s : Deployment R} {event : DeploymentEvent}
    (h : delivers event = false) (handler : Handler) (now : Int) :
    Note.admitted handler now ∉ note s event := by
  intro hmem
  cases event with
  | gateway event =>
    cases event with
    | connect => cases List.mem_singleton.mp hmem
    | _ => cases hmem
  | execute time =>
    obtain ⟨issued, -, heq⟩ := List.mem_map.mp hmem
    cases heq
  | deliver => cases h
  | redis event => cases List.mem_singleton.mp hmem
  | refuse | resend => cases hmem

omit [JsMath R] in
theorem charges_note {env : Env R} {g : Gateway R} {s : Deployment R} {event : DeploymentEvent}
    (h : delivers event = false) (notes : List Note) :
    (notes ++ note s event).filterMap (charge env g) = notes.filterMap (charge env g) := by
  rw [List.filterMap_append, List.append_right_eq_self, List.filterMap_eq_nil_iff]
  intro noted hmem
  cases noted with
  | admitted handler now => exact absurd hmem (not_admitted h handler now)
  | _ => rfl

omit [JsMath R] in
theorem Within.charged_note {env : Env R} {s : Deployment R} {notes : List Note}
    (h : Within env s notes) {event : DeploymentEvent}
    (hevent : delivers event = false) (handler : Handler) (now : Int)
    (hmem : Note.admitted handler now ∈ notes ++ note s event) :
    ∃ budget, handler.budget env s.server.gateway = some budget := by
  rcases List.mem_append.mp hmem with hold | hnew
  · exact h.charged handler now hold
  · exact absurd hnew (not_admitted hevent handler now)

omit [JsMath R] in
/-- An answer that lets its handler pass takes what it was on its way to take. -/
theorem charges_delivered {env : Env R} {s : Deployment R} {notes : List Note}
    (h : Within env s notes) {reply : Reply} {rest : List Reply}
    (head : s.replies = reply :: rest) (now : Int) (uuid : String) :
    (∀ handler time, Note.admitted handler time ∈ note s (.deliver now uuid) →
      ∃ budget, handler.budget env s.server.gateway = some budget) ∧
    ((note s (.deliver now uuid)).filterMap (charge env s.server.gateway)).Sublist
      (grant reply).toList := by
  have hreply : reply ∈ s.replies := by
    rw [head]
    exact List.mem_cons_self
  have hinFlight : reply.toIssued ∈ s.inFlight :=
    List.mem_append_left _ (List.mem_map_of_mem hreply)
  obtain ⟨⟨number, call⟩, time, answer⟩ := reply
  by_cases hpassed : answer = some (.limit true)
  · subst hpassed
    obtain ⟨key, limit, windowSeconds, rfl⟩ := h.answers _ hreply true rfl
    obtain ⟨suspended, seconds, hget, hbudget, -⟩ := budget_of_inFlight h.sound hinFlight rfl
    have hnote : note s (.deliver now uuid) = [.admitted suspended.handler time] := by
      rw [note, head]
      change (s.server.handlers.get number).toList.map _ = _
      rw [hget]
      rfl
    rw [hnote]
    constructor
    · intro handler time' hmem
      cases List.mem_singleton.mp hmem
      exact ⟨_, hbudget⟩
    · rw [List.filterMap_cons, List.filterMap_nil, charge, hbudget]
      exact .refl _
  · have hnote : note s (.deliver now uuid) = [] := by
      rw [note, head]
      split
      next heq =>
        cases heq
        exact absurd rfl hpassed
      next => rfl
    rw [hnote]
    constructor
    · intro handler time hmem
      cases hmem
    · exact List.nil_sublist _

omit [JsMath R] in
/-- Redis runs the command that is next. -/
theorem Within.executed {env : Env R} {s : Deployment R} {notes : List Note}
    (h : Within env s notes) {now : Int} {next : Issued} {rest : List Issued}
    {redis : Database} (head : s.issued = next :: rest) (later : s.clock ≤ now)
    (ran : database.step s.redis (.call now next.call) = some redis) :
    ∃ calls alone, Counted env now redis (spent env s notes ++
      (grant ⟨next, now, some (answerOf s.redis now next.call)⟩).toList) calls alone := by
  obtain ⟨calls, alone, hcounted⟩ := h.counted
  have hmem : next ∈ s.inFlight := by
    refine List.mem_append_right _ ?_
    rw [head]
    exact List.mem_cons_self
  obtain ⟨number, call⟩ := next
  cases hcall : limiterCall (.call now call : RedisEvent) with
  | none =>
    have hnone : grant ⟨⟨number, call⟩, now, some (answerOf s.redis now call)⟩ = none := by
      cases call with
      | consume => cases hcall
      | _ => rfl
    rw [hnone, Option.toList_none, List.append_nil]
    have hlater : s.clock ≤ (RedisEvent.call now call : RedisEvent).now := later
    exact ⟨calls, alone, hcounted.event hlater trivial hcall ran⟩
  | some asked =>
    cases call with
    | consume key limit windowSeconds =>
      obtain ⟨suspended, seconds, -, hbudget, rfl⟩ := budget_of_inFlight h.sound hmem rfl
      exact hcounted.consume later (budgeted_of_budget hbudget now) ran
    | _ => cases hcall

theorem Within.step {env : Env R} {rt : Runtime R} {s t : Deployment R} {notes : List Note}
    {event : DeploymentEvent} (h : Within env s notes)
    (hallowed : ∀ redis, event = .redis redis → redis.Allowed) (hsteps : Steps env rt s event t) :
    Within env t (notes ++ note s event) := by
  have hsound := h.sound.step hsteps
  obtain ⟨calls, alone, hcounted⟩ := h.counted
  cases hsteps with
  | @gateway event server unanswered ran =>
    have hcharged : ∀ handler now,
        Note.admitted handler now ∈ notes ++ note s (.gateway event) →
          ∃ budget, handler.budget env s.server.gateway = some budget := h.charged_note rfl
    refine ⟨hsound, h.answers, fun handler now hmem => ?_, calls, alone, ?_⟩
    · obtain ⟨budget, hbudget⟩ := hcharged handler now hmem
      exact ⟨budget, h.sound.owns.budget ran hbudget⟩
    · rw [spent, charges_keep hcharged fun _ _ => h.sound.owns.budget ran, charges_note rfl]
      exact hcounted
  | @executed now next rest redis head later ran =>
    refine ⟨hsound, fun reply hreply allowed hanswer => ?_, h.charged_note rfl, ?_⟩
    · rcases List.mem_append.mp hreply with hold | hnew
      · exact h.answers reply hold allowed hanswer
      · rw [List.mem_singleton.mp hnew] at hanswer ⊢
        obtain ⟨number, call⟩ := next
        cases call with
        | consume key limit windowSeconds => exact ⟨key, limit, windowSeconds, rfl⟩
        | _ => cases hanswer
    · obtain ⟨calls', alone', hafter⟩ := h.executed head later ran
      refine ⟨calls', alone', hafter.mono ?_⟩
      rw [spent, spent, charges_note rfl, List.filterMap_append, List.append_assoc,
        List.filterMap_cons, List.filterMap_nil]
      cases grant ⟨next, now, some (answerOf s.redis now next.call)⟩ <;> exact .refl _
  | @refused next rest head =>
    refine ⟨hsound, fun reply hreply allowed hanswer => ?_, h.charged_note rfl, calls, alone, ?_⟩
    · rcases List.mem_append.mp hreply with hold | hnew
      · exact h.answers reply hold allowed hanswer
      · rw [List.mem_singleton.mp hnew] at hanswer
        cases hanswer
    · have hnone : grant ⟨next, s.clock, none⟩ = none := by
        obtain ⟨number, call⟩ := next
        cases call <;> rfl
      rw [spent, charges_note rfl, List.filterMap_append, List.filterMap_cons, hnone,
        List.filterMap_nil, List.append_nil]
      exact hcounted
  | resent =>
    refine ⟨hsound, fun reply hreply => h.answers reply (List.mem_filter.mp hreply).1,
      h.charged_note rfl, calls, alone, hcounted.mono ?_⟩
    rw [spent, spent, charges_note rfl]
    exact (List.Sublist.refl _).append (List.filter_sublist.filterMap grant)
  | @delivered now uuid reply rest answer server head answers ran =>
    obtain ⟨hnew, htaken⟩ := charges_delivered h head now uuid
    have hcharged : ∀ handler time,
        Note.admitted handler time ∈ notes ++ note s (.deliver now uuid) →
          ∃ budget, handler.budget env s.server.gateway = some budget := by
      intro handler time hmem
      rcases List.mem_append.mp hmem with hold | hlast
      · exact h.charged handler time hold
      · exact hnew handler time hlast
    have hrest : ∀ other ∈ rest, other ∈ s.replies := by
      intro other hother
      rw [head]
      exact List.mem_cons_of_mem _ hother
    refine ⟨hsound, fun other hother => h.answers other (hrest other hother),
      fun handler time hmem => ?_, calls, alone, hcounted.mono ?_⟩
    · obtain ⟨budget, hbudget⟩ := hcharged handler time hmem
      exact ⟨budget, h.sound.owns.budget ran hbudget⟩
    · rw [spent, spent, charges_keep hcharged fun _ _ => h.sound.owns.budget ran,
        List.filterMap_append, List.append_assoc, head, List.filterMap_cons]
      refine (List.Sublist.refl _).append ?_
      cases hgrant : grant reply with
      | none =>
        rw [hgrant] at htaken
        rw [List.sublist_nil.mp htaken]
        exact .refl _
      | some taken =>
        rw [hgrant] at htaken
        exact htaken.append (.refl _)
  | @foreign event redis other later ran =>
    have hquiet : limiterCall event = none := by
      cases event with
      | call now call => exact absurd rfl (other now call)
      | _ => rfl
    refine ⟨hsound, h.answers, h.charged_note rfl, calls, alone, ?_⟩
    rw [spent, charges_note rfl]
    exact hcounted.event later (hallowed event rfl) hquiet ran

theorem within_exec {env : Env R} {rt : Runtime R} {events : List DeploymentEvent}
    (haway : KeepsAway events) {c d : Deployment R × List Note} (h : Within env c.1 c.2)
    (hexec : (noted env rt).exec c events = some d) : Within env d.1 d.2 :=
  noted_invariant (fun _ _ _ _ hwithin hredis hsteps => hwithin.step hredis hsteps) haway h hexec

omit [JsMath R] in
theorem admittedIn_le {env : Env R} {g : Gateway R} {which : Handler → Bool} {key : String}
    (hwhich : ∀ handler, which handler = true →
      ∃ limit seconds, handler.budget env g = some (key, limit, seconds))
    (start stop : Int) (notes : List Note) :
    admittedIn which start stop notes ≤ (notes.filterMap (charge env g)).countP fun taken =>
      taken.1 = key ∧ start ≤ taken.2 ∧ taken.2 < stop := by
  rw [List.countP_filterMap, admittedIn]
  refine List.countP_mono_left fun note _ hnote => ?_
  cases note with
  | admitted handler now =>
    obtain ⟨hhandler, hnow⟩ := Bool.and_eq_true_iff.mp hnote
    obtain ⟨limit, seconds, hbudget⟩ := hwhich handler hhandler
    rw [charge, hbudget]
    exact decide_eq_true ⟨rfl, of_decide_eq_true hnow⟩
  | _ => cases hnote

theorem countP_granted (key : String) (start stop : Int)
    (results : List (RateLimiter.Call Int × Consumed)) :
    (granted results).countP (fun taken => taken.1 = key ∧ start ≤ taken.2 ∧ taken.2 < stop) =
      allowedCalls key start stop results := by
  rw [granted, List.countP_map, List.countP_filter, allowedCalls]
  refine List.countP_congr fun r _ => ?_
  simp only [Function.comp_apply, Bool.and_eq_true, decide_eq_true_eq]
  tauto

omit [JsMath R] in
theorem allowedCalls_le {env : Env R} {clock : Int} {redis : Database}
    {spent : List (String × Int)} {calls : List (RateLimiter.Call Int)}
    {alone : RateLimiter.Redis Int} (h : Counted env clock redis spent calls alone) {key : String}
    {limit : Nat} {window : Int} (hasks : AsksFor key limit window calls) (start : Int) :
    allowedCalls key start (start + window) (results JsMap.empty calls) ≤ 2 * limit := by
  have hcounting : Counting key (JsMap.empty : RateLimiter.Redis Int) := by
    intro entry hget
    cases hget
  rw [allowedCalls_eq, results_of_key hcounting hasks]
  refine allowedIn_le limit window start _ ?_
  rw [List.pairwise_map]
  exact h.ordered.sublist List.filter_sublist

omit [JsMath R] in
theorem admitted_le {env : Env R} {s : Deployment R} {notes : List Note}
    {calls : List (RateLimiter.Call Int)} {alone : RateLimiter.Redis Int}
    (h : Counted env s.clock s.redis (spent env s notes) calls alone) {which : Handler → Bool}
    {key : String} {limit : Nat} {window : Int}
    (hwhich : ∀ handler, which handler = true →
      ∃ limit seconds, handler.budget env s.server.gateway = some (key, limit, seconds))
    (hasks : AsksFor key limit window calls) (start : Int) :
    admittedIn which start (start + window) notes ≤ 2 * limit := by
  refine (admittedIn_le hwhich start _ notes).trans ?_
  refine le_trans ?_ (allowedCalls_le h hasks start)
  rw [← countP_granted]
  exact ((List.sublist_append_left _ _).trans h.within).countP_le

/-- In every run of the gateway with its Redis: in an interval of a second, the gateway
handles at most twice its limit of frames of one player, whatever connections they come
on; and in a minute it lets in at most twice its limit of connections of one address. The
times are those at which Redis answered. -/
theorem admitted_bounded {env : Env R} {rt : Runtime R} {events : List DeploymentEvent}
    (haway : KeepsAway events) {redis : Database} (habsent : ∀ key, redis.get (limitKey key) = none)
    {clock : Int} {s : Deployment R} {notes : List Note}
    (hexec : (noted env rt).exec (Deployment.start redis clock, []) events = some (s, notes))
    (start : Int) :
    (∀ playerId, admittedIn (handlesFrameOf s.server.gateway playerId) start (start + 1000) notes ≤
      2 * env.wsRateLimitPerSecond) ∧
    ∀ ip, admittedIn (connectsFrom env s.server.gateway ip) start (start + 60000) notes ≤
      2 * env.wsConnectRateLimitPerMinute := by
  have hwithin := within_exec haway (within_start env clock habsent) hexec
  obtain ⟨calls, alone, hcounted⟩ := hwithin.counted
  constructor
  · intro playerId
    refine admitted_le hcounted (fun handler hframe => ?_) (asksFor_frames hcounted.asks playerId) start
    have hplayer : ∀ socket, s.server.gateway.player socket = some playerId →
        (s.server.gateway.player socket).map (fun playerId =>
          ("ws:" ++ playerId, env.wsRateLimitPerSecond, 1)) =
            some ("ws:" ++ playerId, env.wsRateLimitPerSecond, 1) := by
      intro socket hget
      rw [hget]
      rfl
    cases handler with
    | connection socket pc =>
      cases pc with
      | ipLimited => cases hframe
      | _ => exact ⟨_, _, hplayer socket (of_decide_eq_true hframe)⟩
    | message socket pc => exact ⟨_, _, hplayer socket (of_decide_eq_true hframe)⟩
    | close socket => exact ⟨_, _, hplayer socket (of_decide_eq_true hframe)⟩
  · intro ip
    refine admitted_le hcounted (fun handler hconnects => ?_) (asksFor_connections hcounted.asks ip)
      start
    cases handler with
    | connection socket pc =>
      cases pc with
      | ipLimited =>
        obtain ⟨request, hrequest, hip⟩ := Option.map_eq_some_iff.mp (of_decide_eq_true hconnects)
        refine ⟨env.wsConnectRateLimitPerMinute, 60, ?_⟩
        change Option.map _ _ = _
        rw [hrequest, Option.map_some, hip]
      | _ => cases hconnects
    | _ => cases hconnects

noncomputable def strictEnv : Env ℝ :=
  { defaultEnv with wsRateLimitPerSecond := 1, wsRateLimitPerSecond_pos := Nat.one_pos }

/-- A player connects and sends three frames; Redis counts them at 100, 200 and 1100. -/
def threeFrames : List DeploymentEvent :=
  [.gateway (.connect 0 SessionAccess.request), .execute 0, .deliver 0 "", .execute 1,
    .deliver 1 ""] ++
  [100, 200, 1100].flatMap fun now =>
    [.gateway (.frame 0 "ping"), .execute now, .deliver now ""]

theorem threeFrames_bounded : ∃ s notes,
    (noted strictEnv SessionAccess.runtime).exec (Deployment.start JsMap.empty 0, []) threeFrames =
      some (s, notes) ∧
    admittedIn (handlesFrameOf s.server.gateway "p1") 0 1200 notes = 2 ∧
    ∀ start, admittedIn (handlesFrameOf s.server.gateway "p1") start (start + 1000) notes ≤ 2 := by
  have hrun : ((noted strictEnv SessionAccess.runtime).exec (Deployment.start JsMap.empty 0, [])
      threeFrames).map (fun c =>
        admittedIn (handlesFrameOf c.1.server.gateway "p1") 0 1200 c.2) = some 2 := by
    decide +kernel
  obtain ⟨⟨s, notes⟩, hexec, hcount⟩ := Option.map_eq_some_iff.mp hrun
  have haway : KeepsAway threeFrames := by
    intro redis hmem
    simp [threeFrames] at hmem
  refine ⟨s, notes, hexec, hcount, fun start => ?_⟩
  exact (admitted_bounded haway (fun _ => rfl) hexec start).1 "p1"

end RealtimeGameServer.Guarantees.FrameBudget
