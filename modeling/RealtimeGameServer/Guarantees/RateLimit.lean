import Mathlib.Algebra.Order.Ring.Int
import RealtimeGameServer.Source.RateLimiter

/-!
# The rate limiter's bound

The window of a key begins with the call that finds no key and ends `windowSeconds` later,
whatever is called in between. An interval of that length can straddle two windows, so it
may hold more allowed calls than the limit, but not more than twice as many. The script
that creates a key sets its expiry, so no key is left without one.
-/
namespace RealtimeGameServer.Guarantees.RateLimit
open Lib FixedWindow Source RateLimiter

variable {T : Type*} [AddCommGroup T] [LinearOrder T]

/-- The allowed calls on a key in a half-open interval. -/
def allowedCalls (key : String) (start stop : T) (results : List (Call T × Consumed)) : Nat :=
  results.countP fun r => r.1.key = key ∧ r.2.allowed ∧ start ≤ r.1.now ∧ r.1.now < stop

/-- The calls on the key ask for this limit and window. -/
def AsksFor (key : String) (limit : Nat) (window : T) (calls : List (Call T)) : Prop :=
  ∀ call ∈ calls, call.key = key → call.limit = limit ∧ call.windowSeconds = window

/-- The results on a key are the verdicts of its counter. -/
theorem results_of_key {key : String} {limit : Nat} {window : T} {redis : Redis T}
    (h : Counting key redis) {calls : List (Call T)} (hasks : AsksFor key limit window calls) :
    ((results redis calls).filter fun r => r.1.key = key).map (fun r => (r.1.now, r.2.allowed)) =
      verdicts limit window (counter redis key)
        ((calls.filter fun call => call.key = key).map Call.now) := by
  induction calls generalizing redis with
  | nil => rfl
  | cons call rest ih =>
    have hrest := ih (h.consume call) fun other hother => hasks other (List.mem_cons_of_mem _ hother)
    rw [results]
    by_cases hkey : call.key = key
    · obtain ⟨hlimit, hwindow⟩ := hasks call List.mem_cons_self hkey
      subst hkey hlimit hwindow
      have hallowed : (consume redis call).2.allowed =
          decide ((hit call.windowSeconds (counter redis call.key) call.now).count ≤ call.limit) :=
        Bool.eq_iff_iff.mpr ((consume_allowed h).trans decide_eq_true_iff.symm)
      rw [counter_consume_self h] at hrest
      simp only [List.filter_cons, decide_true, if_true, List.map_cons, hrest, hallowed, verdicts]
    · have hcounter : counter (consume redis call).1 key = counter redis key := by
        rw [counter, get_consume_other (Ne.symm hkey), counter]
      rw [hcounter] at hrest
      simp only [List.filter_cons, decide_false, hkey, Bool.false_eq_true, if_false]
      exact hrest

omit [AddCommGroup T] in
theorem allowedCalls_eq (key : String) (start stop : T) (results : List (Call T × Consumed)) :
    allowedCalls key start stop results = allowedIn start stop
      ((results.filter fun r => r.1.key = key).map fun r => (r.1.now, r.2.allowed)) := by
  rw [allowedIn, List.countP_map, List.countP_filter, allowedCalls]
  refine List.countP_congr fun r _ => ?_
  simp only [Function.comp_apply, Bool.and_eq_true, decide_eq_true_eq]
  exact and_comm

/-- The counter of a key runs out one window after a call on the key, unless it was there
from the start. -/
theorem opened {key : String} {limit : Nat} {window : T} {redis reached : Redis T}
    (h : Counting key redis) {calls : List (Call T)} (hasks : AsksFor key limit window calls)
    (hexec : limiter.exec redis calls = some reached) {c : Counter T}
    (hc : counter reached key = some c) :
    (∃ old, counter redis key = some old ∧ old.expiresAt = c.expiresAt) ∨
      ∃ opener ∈ calls, opener.key = key ∧ c.expiresAt = opener.now + window := by
  induction calls generalizing redis with
  | nil =>
    cases hexec
    exact Or.inl ⟨c, hc, rfl⟩
  | cons call rest ih =>
    obtain ⟨next, hnext, hrest⟩ := Machine.exec_cons.mp hexec
    cases hnext
    have htail := ih (h.consume call) (fun other hother => hasks other (List.mem_cons_of_mem _ hother))
      hrest
    rcases htail with ⟨old, hold, hexpires⟩ | ⟨opener, hmem, hopener⟩
    · by_cases hkey : call.key = key
      · subst hkey
        rw [counter_consume_self h, Option.some.injEq] at hold
        cases hcurrent : current (counter redis call.key) call.now with
        | none =>
          have hwindow := (hasks call List.mem_cons_self rfl).2
          rw [hit_of_expired hcurrent, hwindow] at hold
          refine Or.inr ⟨call, List.mem_cons_self, rfl, ?_⟩
          rw [← hexpires, ← hold]
        | some found =>
          rw [hit_of_current hcurrent] at hold
          exact Or.inl ⟨found, (current_eq_some.mp hcurrent).1, by rw [← hexpires, ← hold]⟩
      · refine Or.inl ⟨old, ?_, hexpires⟩
        rw [counter, ← get_consume_other (Ne.symm hkey)]
        exact hold
    · exact Or.inr ⟨opener, List.mem_cons_of_mem _ hmem, hopener⟩

/-- For every key and every run of calls from a state in which the key is absent: any
half-open interval as long as the window holds at most twice the limit of allowed calls; no
key that was absent ever exists without an expiry; and a denied call leaves the expiry as
it is, one window after the call that began the window, and the first call at or after it
is allowed. -/
theorem rate_limited [IsOrderedAddMonoid T] {key : String} {limit : Nat} {window : T}
    (hlimit : 1 ≤ limit) (redis : Redis T) (habsent : redis.get (redisKey key) = none)
    (calls : List (Call T)) (hasks : AsksFor key limit window calls)
    (htime : calls.Pairwise fun earlier later => earlier.now ≤ later.now) :
    (∀ start, allowedCalls key start (start + window) (results redis calls) ≤ 2 * limit) ∧
      (∀ other, redis.get (redisKey other) = none → limiter.Along (Expires other) redis calls) ∧
      ∀ before call after reached, calls = before ++ call :: after → call.key = key →
        limiter.exec redis before = some reached →
        ((consume reached call).2.allowed = false → ∃ c, counter reached key = some c ∧
          call.now < c.expiresAt ∧
          (∃ opener ∈ before, opener.key = key ∧ c.expiresAt = opener.now + window) ∧
          ∃ count, counter (consume reached call).1 key = some ⟨count, c.expiresAt⟩) ∧
        ((∀ c, counter reached key = some c → c.expiresAt ≤ call.now) →
          (consume reached call).2.allowed = true) := by
  have hstep : ∀ other (s : Redis T) (call : Call T) t, Counting other s →
      limiter.step s call = some t → Counting other t := by
    intro other s call t h hnext
    cases hnext
    exact h.consume call
  have hstart : ∀ other, redis.get (redisKey other) = none → Counting other redis := by
    intro other hnone entry hget
    cases hnone.symm.trans hget
  refine ⟨fun start => ?_, fun other hnone => ?_, ?_⟩
  · rw [allowedCalls_eq, results_of_key (hstart key habsent) hasks]
    refine allowedIn_le limit window start _ ?_
    rw [List.pairwise_map]
    exact htime.sublist List.filter_sublist
  · exact (Machine.along_of_invariant (hstep other) calls (hstart other hnone)).mono
      fun s h entry hget => (h entry hget).2
  · intro before call after reached hcalls hkey hexec
    have hcounting : Counting key reached :=
      Machine.exec_invariant (hstep key) (hstart key habsent) hexec
    obtain ⟨rfl, rfl⟩ := hasks call (by rw [hcalls]; simp) hkey
    subst hkey
    constructor
    · intro hdenied
      have hcount : call.limit <
          (hit call.windowSeconds (counter reached call.key) call.now).count := by
        rw [← not_le, ← consume_allowed hcounting, hdenied]
        exact Bool.false_ne_true
      obtain ⟨c, hc, hnow, hexpires⟩ := expiresAt_of_denied hlimit hcount
      refine ⟨c, hc, hnow, ?_, _, (counter_consume_self hcounting).trans (by rw [← hexpires])⟩
      have hbefore : AsksFor call.key call.limit call.windowSeconds before := fun other hother =>
        hasks other (by rw [hcalls]; exact List.mem_append_left _ hother)
      rcases opened (hstart call.key habsent) hbefore hexec hc with ⟨old, hold, -⟩ | hopener
      · rw [counter, habsent] at hold
        cases hold
      · exact hopener
    · intro hexpired
      exact (consume_allowed hcounting).mpr (allowed_of_expired hlimit _ hexpired)

def connectAt (now : Int) : Call Int := ⟨now, "ws-connect:ip", 2, 60⟩

def straddling : List (Call Int) := [0, 59, 60, 60, 61].map connectAt

theorem straddling_limited :
    (results JsMap.empty straddling).map (fun r => r.2.allowed) = [true, true, true, true, false] ∧
      allowedCalls "ws-connect:ip" 1 61 (results JsMap.empty straddling) = 3 ∧
      ∀ start, allowedCalls "ws-connect:ip" start (start + 60) (results JsMap.empty straddling) ≤
        2 * 2 := by
  have hasks : AsksFor "ws-connect:ip" 2 60 straddling := by
    intro call hcall _
    obtain ⟨now, -, rfl⟩ := List.mem_map.mp hcall
    exact ⟨rfl, rfl⟩
  have htime : straddling.Pairwise fun earlier later => earlier.now ≤ later.now := by decide
  exact ⟨by decide, by decide, (rate_limited (by decide) JsMap.empty rfl straddling hasks htime).1⟩

end RealtimeGameServer.Guarantees.RateLimit
