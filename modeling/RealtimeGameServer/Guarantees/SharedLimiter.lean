import RealtimeGameServer.Guarantees.SharedRedis

/-!
# The rate limiter beside the other services

The limiter's keys live in the Redis that presence, the session cache and other clients
write to, and Redis drops them when they have expired. The verdicts of a run are those of
a limiter alone: what the other services do, and when a key is dropped, does not show.
-/
namespace RealtimeGameServer.Guarantees.SharedLimiter
open Lib ExpiringStore Source RedisStore
open SharedRedis (Regular ne_of_heads presenceKey_head sessionKey_head limitKey_head limitKey_inj)

/-- The calls of `consume`, as the limiter alone takes them. -/
def limiterCall : RedisEvent → Option (RateLimiter.Call Int)
  | .call now (.consume key limit windowSeconds) =>
    some ⟨now, key, limit, milliseconds windowSeconds⟩
  | _ => none

/-- A key of the limiter alone, as it lies in the shared database. -/
def counted (entry : RateLimiter.Entry Int) : Entry RedisValue Int :=
  ⟨.count entry.value, entry.expiresAt⟩

/-- No command after `last` tells the limiter's keys from those of a limiter alone. -/
structure Mirrors (last : Int) (db : Database) (alone : RateLimiter.Redis Int) : Prop where
  same : ∀ key, SameFrom last (db.get (limitKey key))
    ((alone.get (RateLimiter.redisKey key)).map counted)
  counting : ∀ key, RateLimiter.Counting key alone

theorem living_counted (alone : RateLimiter.Redis Int) (now : Int) (key : String) :
    living now ((alone.get (RateLimiter.redisKey key)).map counted) =
      (RateLimiter.live alone now (RateLimiter.redisKey key)).map counted := by
  unfold RateLimiter.live
  cases alone.get (RateLimiter.redisKey key) with
  | none => rfl
  | some entry =>
    rw [Option.map_some, living_some, Option.filter_some, apply_ite (Option.map counted)]
    rfl

theorem Mirrors.peek {last now : Int} {db : Database} {alone : RateLimiter.Redis Int}
    (h : Mirrors last db alone) (hnow : last ≤ now) (key : String) :
    ExpiringStore.peek db now (limitKey key) =
      (RateLimiter.live alone now (RateLimiter.redisKey key)).map counted :=
  (h.same key now hnow).trans (living_counted alone now key)

theorem Mirrors.mono {last now : Int} {db : Database} {alone : RateLimiter.Redis Int}
    (h : Mirrors last db alone) (hnow : last ≤ now) : Mirrors now db alone where
  same key := (h.same key).mono hnow
  counting := h.counting

/-- A command on no key of the limiter. -/
theorem Mirrors.elsewhere {last now : Int} {db : Database} {alone : RateLimiter.Redis Int}
    (h : Mirrors last db alone) (hnow : last ≤ now) {c : Command String RedisValue Int}
    (hkey : ∀ key, c.key ≠ limitKey key) : Mirrors now (run db c) alone where
  same key := by
    rw [get_run, if_neg (hkey key).symm]
    exact (h.same key).mono hnow
  counting := h.counting

theorem Mirrors.expire {last now : Int} {db : Database} {alone : RateLimiter.Redis Int}
    (h : Mirrors last db alone) (hnow : last ≤ now) {key : String}
    (hdead : ExpiringStore.peek db now key = none) : Mirrors now (db.delete key) alone where
  same other := by
    rw [JsMap.get_delete]
    split
    next heq =>
      subst heq
      have hgone : SameFrom now (db.get (limitKey other)) none := sameFrom_of_dead hdead
      exact fun u hu => (hgone u hu).symm.trans ((h.same other).mono hnow u hu)
    next => exact (h.same other).mono hnow
  counting := h.counting

/-- What the event's call of `consume` resolves to. -/
def verdict (db : Database) : RedisEvent → Option (Option RateLimiter.Consumed)
  | .call now (.consume key limit _) => some (consumed db now key limit)
  | _ => none

/-- The verdicts of a run, in order. -/
def verdicts : Database → List RedisEvent → List (Option RateLimiter.Consumed)
  | _, [] => []
  | db, event :: rest =>
    (verdict db event).toList ++ ((database.step db event).elim [] fun next => verdicts next rest)

theorem get_countUp (db : Database) (now : Int) (key other : String) (seconds : Int) :
    (run db (countUp now key seconds)).get other =
      if other = key then (countUp now key seconds).act (living now (db.get other))
      else db.get other := get_run db (countUp now key seconds) other

/-- One call of `consume`: the limiter alone gives the same verdict and keeps the mirror. -/
theorem Mirrors.consume {last now : Int} {db : Database} {alone : RateLimiter.Redis Int}
    (h : Mirrors last db alone) (hnow : last ≤ now) (key : String) (limit : Nat)
    (windowSeconds : Int) :
    consumed db now key limit =
        some (RateLimiter.consume alone ⟨now, key, limit, milliseconds windowSeconds⟩).2 ∧
      Mirrors now (run db (countUp now (limitKey key) windowSeconds))
        (RateLimiter.consume alone ⟨now, key, limit, milliseconds windowSeconds⟩).1 := by
  have hpeek := h.peek hnow key
  have hother : ∀ other, other ≠ key → ∀ alone' : RateLimiter.Redis Int,
      alone'.get (RateLimiter.redisKey other) = alone.get (RateLimiter.redisKey other) →
      SameFrom now ((run db (countUp now (limitKey key) windowSeconds)).get (limitKey other))
        ((alone'.get (RateLimiter.redisKey other)).map counted) := by
    intro other hne alone' hget
    have hkeys : limitKey other ≠ limitKey key := fun heq => hne (limitKey_inj.mp heq)
    rw [get_countUp, if_neg hkeys, hget]
    exact (h.same other).mono hnow
  have hcounting : ∀ other, RateLimiter.Counting other
      (RateLimiter.consume alone ⟨now, key, limit, milliseconds windowSeconds⟩).1 :=
    fun other => (h.counting other).consume _
  unfold consumed
  rw [hpeek]
  cases hlive : RateLimiter.live alone now (RateLimiter.redisKey key) with
  | none =>
    have hscript : RateLimiter.script alone now (RateLimiter.redisKey key)
        (milliseconds windowSeconds) = _ := RateLimiter.script_of_dead hlive
    have hconsume : RateLimiter.consume alone ⟨now, key, limit, milliseconds windowSeconds⟩ =
        (alone.set (RateLimiter.redisKey key) ⟨1, some (now + milliseconds windowSeconds)⟩,
          ⟨1 ≤ limit, limit - 1⟩) := by
      rw [RateLimiter.consume, hscript]
    refine ⟨by rw [hconsume]; rfl, ⟨fun other => ?_, hcounting⟩⟩
    by_cases hsame : other = key
    · subst hsame
      have hfound : living now (db.get (limitKey other)) = none := by
        rw [hlive] at hpeek
        exact hpeek
      rw [hconsume, get_countUp, if_pos rfl, JsMap.get_set_self, hfound]
      exact .refl _ _
    · exact hother other hsame _ (by
        rw [hconsume]
        exact JsMap.get_set_of_ne _ (fun heq => hsame (limitKey_inj.mp heq)) _)
  | some entry =>
    obtain ⟨value, expiresAt⟩ := entry
    have hstored : alone.get (RateLimiter.redisKey key) = some ⟨value, expiresAt⟩ :=
      (Option.filter_eq_some_iff.mp hlive).1
    have hpositive : 1 ≤ value := (h.counting key _ hstored).1
    have hscript : RateLimiter.script alone now (RateLimiter.redisKey key)
        (milliseconds windowSeconds) = _ := RateLimiter.script_of_live hlive hpositive
    have hconsume : RateLimiter.consume alone ⟨now, key, limit, milliseconds windowSeconds⟩ =
        (alone.set (RateLimiter.redisKey key) ⟨value + 1, expiresAt⟩,
          ⟨value + 1 ≤ limit, limit - (value + 1)⟩) := by
      rw [RateLimiter.consume, hscript]
    refine ⟨by rw [hconsume]; rfl, ⟨fun other => ?_, hcounting⟩⟩
    by_cases hsame : other = key
    · subst hsame
      have hfound : living now (db.get (limitKey other)) = some ⟨.count value, expiresAt⟩ := by
        rw [hlive] at hpeek
        exact hpeek
      rw [hconsume, get_countUp, if_pos rfl, JsMap.get_set_self, hfound]
      exact .refl _ _
    · exact hother other hsame _ (by
        rw [hconsume]
        exact JsMap.get_set_of_ne _ (fun heq => hsame (limitKey_inj.mp heq)) _)

/-- An event that is no call of `consume` leaves the mirror. -/
theorem Mirrors.event {last : Int} {db next : Database} {alone : RateLimiter.Redis Int}
    {event : RedisEvent} (h : Mirrors last db alone) (hnow : last ≤ event.now)
    (hallowed : event.Allowed) (hquiet : limiterCall event = none)
    (hstep : database.step db event = some next) : Mirrors event.now next alone := by
  cases event with
  | call now request =>
    have hcommand : ∀ c, command now request = some c → ∀ key, c.key ≠ limitKey key := by
      intro c hc key
      cases request with
      | setOnline playerId roomId lastSeen | heartbeat playerId roomId lastSeen =>
        cases hc
        exact ne_of_heads (presenceKey_head playerId) (limitKey_head key) (by decide)
      | setOffline playerId =>
        cases hc
        exact ne_of_heads (presenceKey_head playerId) (limitKey_head key) (by decide)
      | cacheSet sessionId data ttlSeconds =>
        simp only [command, Option.ite_none_right_eq_some, Option.some.injEq] at hc
        rw [← hc.2]
        exact ne_of_heads (sessionKey_head sessionId) (limitKey_head key) (by decide)
      | cacheDelete sessionId =>
        cases hc
        exact ne_of_heads (sessionKey_head sessionId) (limitKey_head key) (by decide)
      | consume => cases hquiet
    cases hc : command now request with
    | none =>
      simp only [database, RedisEvent.event, hc, Option.map_none, Option.some.injEq] at hstep
      subst hstep
      exact h.mono hnow
    | some c =>
      simp only [database, RedisEvent.event, hc, Option.map_some, ExpiringStore.machine,
        Option.some.injEq] at hstep
      subst hstep
      exact h.elsewhere hnow (hcommand c hc)
  | expire now key =>
    simp only [database, RedisEvent.event, ExpiringStore.machine, Option.isNone_iff_eq_none,
      Option.ite_none_right_eq_some, Option.some.injEq] at hstep
    obtain ⟨hdead, rfl⟩ := hstep
    exact h.expire hnow hdead
  | foreign c =>
    simp only [database, RedisEvent.event, ExpiringStore.machine, Option.some.injEq] at hstep
    subst hstep
    exact h.elsewhere hnow fun key hkey => hallowed (Or.inr (Or.inr ⟨key, hkey⟩))

theorem verdicts_of_mirrors {events : List RedisEvent} {last now : Int} (h : Regular events now)
    (hstart : ∀ event ∈ events, last ≤ event.now) {db reached : Database}
    {alone : RateLimiter.Redis Int} (hmirrors : Mirrors last db alone)
    (hexec : database.exec db events = some reached) :
    verdicts db events =
      (RateLimiter.results alone (events.filterMap limiterCall)).map fun r => some r.2 := by
  induction events generalizing db last alone with
  | nil => rfl
  | cons event rest ih =>
    obtain ⟨next, hnext, hrest⟩ := Machine.exec_cons.mp hexec
    obtain ⟨hlater, hordered⟩ := List.pairwise_cons.mp h.ordered
    have hregular : Regular rest now :=
      ⟨hordered, fun e he => h.past e (List.mem_cons_of_mem _ he),
        fun e he => h.allowed e (List.mem_cons_of_mem _ he)⟩
    have hnow := hstart event List.mem_cons_self
    rw [verdicts, hnext, Option.elim_some, List.filterMap_cons]
    cases hcall : limiterCall event with
    | none =>
      have hsilent : verdict db event = none := by
        cases event with
        | call now request =>
          cases request with
          | consume => cases hcall
          | _ => rfl
        | _ => rfl
      rw [hsilent]
      exact ih hregular hlater (hmirrors.event hnow (h.allowed event List.mem_cons_self) hcall hnext)
        hrest
    | some call =>
      cases event with
      | call time request =>
        cases request with
        | consume key limit windowSeconds =>
          cases hcall
          have htime : last ≤ time := hnow
          obtain ⟨hverdict, hafter⟩ := hmirrors.consume htime key limit windowSeconds
          have hrun : next = run db (countUp time (limitKey key) windowSeconds) := by
            cases hnext
            rfl
          rw [RateLimiter.results, List.map_cons, verdict, hverdict, Option.toList_some,
            List.singleton_append]
          exact congrArg _ (ih hregular hlater (hrun ▸ hafter) hrest)
        | _ => cases hcall
      | _ => cases hcall

/-- From a database without keys of the limiter, the verdicts are those of the limiter alone. -/
theorem limiter_undisturbed {events : List RedisEvent} {now : Int} (h : Regular events now)
    {db reached : Database} (habsent : ∀ key, db.get (limitKey key) = none)
    (hexec : database.exec db events = some reached) :
    verdicts db events =
      (RateLimiter.results JsMap.empty (events.filterMap limiterCall)).map fun r => some r.2 := by
  cases events with
  | nil => rfl
  | cons event rest =>
    have hstart : ∀ other ∈ event :: rest, event.now ≤ other.now := by
      intro other hother
      rcases List.mem_cons.mp hother with rfl | hrest
      · exact le_rfl
      · exact (List.pairwise_cons.mp h.ordered).1 other hrest
    refine verdicts_of_mirrors h hstart ?_ hexec
    constructor
    · intro key
      rw [habsent key]
      exact .refl _ _
    · intro key entry hget
      cases hget

/-- One connection a minute is allowed, and the key of the first is dropped when it has
expired. -/
theorem limited_beside_presence :
    verdicts JsMap.empty [.call 0 (.consume "ip" 1 60), .call 1 (.setOnline "p1" none 1),
      .call 2 (.consume "ip" 1 60), .expire 60000 (limitKey "ip"), .call 60000 (.consume "ip" 1 60)] =
        [some ⟨true, 0⟩, some ⟨false, 0⟩, some ⟨true, 0⟩] := by
  have hregular : Regular [.call 0 (.consume "ip" 1 60), .call 1 (.setOnline "p1" none 1),
      .call 2 (.consume "ip" 1 60), .expire 60000 (limitKey "ip"), .call 60000 (.consume "ip" 1 60)]
        60000 := by
    constructor <;> simp [RedisEvent.now, RedisEvent.Allowed]
  exact (limiter_undisturbed hregular (fun _ => rfl) rfl).trans (by decide)

end RealtimeGameServer.Guarantees.SharedLimiter
