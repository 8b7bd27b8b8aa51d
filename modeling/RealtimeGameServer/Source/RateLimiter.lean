import RealtimeGameServer.Lib.FixedWindow
import RealtimeGameServer.Lib.JsMap
import RealtimeGameServer.Lib.Machine

/-!
# The rate limiter

Source: infrastructure/redis/redis-client.ts:65-91. The script runs in Redis with nothing
in between; a key is gone from the moment of its expiry on. Times and durations are any
ordered group (the callers pass whole seconds, as `EXPIRE` wants them) and the counts are
exact. `script_self` says that a key is a counter of fixed windows, `get_consume_other`
that no call reaches the key of another.
-/
namespace RealtimeGameServer.Source
open Lib FixedWindow

namespace RateLimiter
variable {T : Type*} [AddCommGroup T] [LinearOrder T]

/-- The value of a key, and when it expires, if ever. -/
structure Entry (T : Type*) where
  value : Nat
  expiresAt : Option T

/-- The keys of the rate limiter. -/
abbrev Redis (T : Type*) := JsMap String (Entry T)

/-- The entry, unless it has expired. -/
def live (redis : Redis T) (now : T) (redisKey : String) : Option (Entry T) :=
  (redis.get redisKey).filter fun entry => entry.expiresAt.all fun t => now < t

/-- `INCR`. -/
def incr (redis : Redis T) (now : T) (redisKey : String) : Redis T × Nat :=
  match live redis now redisKey with
  | none => (redis.set redisKey ⟨1, none⟩, 1)
  | some entry => (redis.set redisKey { entry with value := entry.value + 1 }, entry.value + 1)

/-- `EXPIRE`. -/
def expire (redis : Redis T) (now : T) (redisKey : String) (seconds : T) : Redis T :=
  match live redis now redisKey with
  | none => redis
  | some entry => redis.set redisKey { entry with expiresAt := some (now + seconds) }

/-- The script. -/
def script (redis : Redis T) (now : T) (redisKey : String) (seconds : T) : Redis T × Nat :=
  let incremented := incr redis now redisKey
  let current := incremented.2
  if current = 1 then (expire incremented.1 now redisKey seconds, current)
  else (incremented.1, current)

structure Consumed where
  allowed : Bool
  remaining : Nat
  deriving DecidableEq, Repr

def redisKey (key : String) : String := "ratelimit:" ++ key

/-- A call of `consume`, at the time of the script. -/
structure Call (T : Type*) where
  now : T
  key : String
  limit : Nat
  windowSeconds : T

def consume (redis : Redis T) (call : Call T) : Redis T × Consumed :=
  let result := script redis call.now (redisKey call.key) call.windowSeconds
  let count := result.2
  (result.1, { allowed := count ≤ call.limit, remaining := call.limit - count })

/-- The scripts of any callers, one after the other. -/
def limiter : Machine (Redis T) (Call T) where
  step redis call := some (consume redis call).1

/-- The calls with what they return. -/
def results : Redis T → List (Call T) → List (Call T × Consumed)
  | _, [] => []
  | redis, call :: rest => (call, (consume redis call).2) :: results (consume redis call).1 rest

/-- The key has an expiry, if it exists. -/
def Expires (key : String) (redis : Redis T) : Prop :=
  ∀ entry, redis.get (redisKey key) = some entry → entry.expiresAt.isSome

/-- The key, if it exists, has been incremented and has an expiry. -/
def Counting (key : String) (redis : Redis T) : Prop :=
  ∀ entry, redis.get (redisKey key) = some entry → 1 ≤ entry.value ∧ entry.expiresAt.isSome

/-- What a key counts. -/
def counter (redis : Redis T) (key : String) : Option (Counter T) :=
  (redis.get (redisKey key)).bind fun entry => entry.expiresAt.map fun t => ⟨entry.value, t⟩

omit [AddCommGroup T] [LinearOrder T] in
theorem counter_eq_some {redis : Redis T} {key : String} {c : Counter T} :
    counter redis key = some c ↔ redis.get (redisKey key) = some ⟨c.count, some c.expiresAt⟩ := by
  rw [counter, Option.bind_eq_some_iff]
  constructor
  · rintro ⟨⟨value, expiresAt⟩, hget, hc⟩
    obtain ⟨t, ht, rfl⟩ := Option.map_eq_some_iff.mp hc
    cases ht
    exact hget
  · intro hget
    exact ⟨_, hget, rfl⟩

omit [AddCommGroup T] [LinearOrder T] in
/-- The key is absent or holds a counter. -/
theorem Counting.cases {key : String} {redis : Redis T} (h : Counting key redis) :
    redis.get (redisKey key) = none ∨ ∃ c : Counter T, 1 ≤ c.count ∧
      redis.get (redisKey key) = some ⟨c.count, some c.expiresAt⟩ := by
  cases hget : redis.get (redisKey key) with
  | none => exact Or.inl rfl
  | some entry =>
    obtain ⟨hvalue, hexpires⟩ := h entry hget
    obtain ⟨t, ht⟩ := Option.isSome_iff_exists.mp hexpires
    exact Or.inr ⟨⟨entry.value, t⟩, hvalue, by rw [← ht]⟩

omit [AddCommGroup T] in
theorem live_of_get {redis : Redis T} {now t : T} {name : String} {value : Nat}
    (h : redis.get name = some ⟨value, some t⟩) :
    live redis now name = if now < t then some ⟨value, some t⟩ else none := by
  rw [live, h, Option.filter_some]
  exact if_congr decide_eq_true_iff rfl rfl

theorem script_of_live {redis : Redis T} {now seconds : T} {name : String} {entry : Entry T}
    (h : live redis now name = some entry) (hvalue : 1 ≤ entry.value) :
    script redis now name seconds =
      (redis.set name { entry with value := entry.value + 1 }, entry.value + 1) := by
  have hincr : incr redis now name =
      (redis.set name { entry with value := entry.value + 1 }, entry.value + 1) := by
    simp only [incr, h]
  rw [script, hincr]
  exact if_neg (by dsimp only; omega)

theorem script_of_dead {redis : Redis T} {now seconds : T} {name : String}
    (h : live redis now name = none) : script redis now name seconds =
      (redis.set name ⟨1, some (now + seconds)⟩, 1) := by
  have hincr : incr redis now name = (redis.set name ⟨1, none⟩, 1) := by
    simp only [incr, h]
  have hlive : live (redis.set name ⟨1, none⟩) now name = some ⟨1, none⟩ := by
    rw [live, JsMap.get_set_self]
    rfl
  rw [script, hincr]
  dsimp only
  rw [if_pos rfl, expire, hlive]
  dsimp only
  rw [JsMap.set_set]

/-- A call is a hit of the counter of its key. -/
theorem script_self {redis : Redis T} {key : String} (h : Counting key redis) (now seconds : T) :
    script redis now (redisKey key) seconds =
      (redis.set (redisKey key) ⟨(hit seconds (counter redis key) now).count,
        some (hit seconds (counter redis key) now).expiresAt⟩,
        (hit seconds (counter redis key) now).count) := by
  rcases h.cases with hnone | ⟨c, hcount, hget⟩
  · have hlive : live redis now (redisKey key) = none := by rw [live, hnone, Option.filter_none]
    have hcurrent : current (counter redis key) now = none := by
      rw [counter, hnone, Option.bind_none, current, Option.filter_none]
    rw [script_of_dead hlive, hit_of_expired hcurrent]
  · have hcounter : counter redis key = some c := counter_eq_some.mpr hget
    have hlive : live redis now (redisKey key) =
        if now < c.expiresAt then some ⟨c.count, some c.expiresAt⟩ else none := live_of_get hget
    rcases lt_or_ge now c.expiresAt with hnow | hnow
    · rw [if_pos hnow] at hlive
      rw [script_of_live hlive hcount, hit_of_current (current_eq_some.mpr ⟨hcounter, hnow⟩)]
    · rw [if_neg (not_lt.mpr hnow)] at hlive
      have hcurrent : current (counter redis key) now = none := by
        refine current_eq_none.mpr fun other hother => ?_
        cases hcounter.symm.trans hother
        exact hnow
      rw [script_of_dead hlive, hit_of_expired hcurrent]

theorem consume_allowed {redis : Redis T} {call : Call T} (h : Counting call.key redis) :
    (consume redis call).2.allowed = true ↔
      (hit call.windowSeconds (counter redis call.key) call.now).count ≤ call.limit := by
  rw [consume, script_self h]
  exact decide_eq_true_iff

theorem counter_consume_self {redis : Redis T} {call : Call T} (h : Counting call.key redis) :
    counter (consume redis call).1 call.key =
      some (hit call.windowSeconds (counter redis call.key) call.now) := by
  rw [counter_eq_some, consume, script_self h]
  exact JsMap.get_set_self _ _ _

theorem script_other (redis : Redis T) (now seconds : T) {name other : String}
    (h : other ≠ name) : (script redis now name seconds).1.get other = redis.get other := by
  have hincr : (incr redis now name).1.get other = redis.get other := by
    unfold incr
    split <;> exact JsMap.get_set_of_ne _ h _
  have hexpire : ∀ redis' : Redis T, (expire redis' now name seconds).get other =
      redis'.get other := by
    intro redis'
    unfold expire
    split
    next => rfl
    next => exact JsMap.get_set_of_ne _ h _
  unfold script
  dsimp only
  split
  next => rw [hexpire, hincr]
  next => exact hincr

/-- No call reaches the key of another. -/
theorem get_consume_other {redis : Redis T} {call : Call T} {key : String} (h : key ≠ call.key) :
    (consume redis call).1.get (redisKey key) = redis.get (redisKey key) := by
  refine script_other _ _ _ fun heq => h ?_
  exact (String.append_right_inj _).mp heq

theorem Counting.consume {redis : Redis T} {key : String} (h : Counting key redis)
    (call : Call T) : Counting key (consume redis call).1 := by
  intro entry hget
  by_cases hkey : key = call.key
  · subst hkey
    rw [RateLimiter.consume, script_self h] at hget
    cases (JsMap.get_set_self _ _ _).symm.trans hget
    refine ⟨?_, rfl⟩
    unfold hit
    split <;> dsimp only <;> omega
  · rw [get_consume_other hkey] at hget
    exact h entry hget

end RateLimiter
end RealtimeGameServer.Source
