import Mathlib.Algebra.Order.Group.Defs
import Mathlib.Algebra.Order.Monoid.Unbundled.Basic
import Mathlib.Data.List.Count

/-!
# Counting in fixed windows

A counter expires one window after the hit that started it. A hit that finds no counter
starts one at 1, any other adds 1 and leaves the expiry; a hit is allowed while the count
does not exceed the limit. Over hits in the order of time, an interval as long as the
window meets at most two counters, so it has at most twice the limit of allowed hits.
-/
namespace RealtimeGameServer.Lib

namespace FixedWindow

structure Counter (T : Type*) where
  count : Nat
  expiresAt : T

variable {T : Type*} [AddCommGroup T] [LinearOrder T]

/-- The counter, unless it has expired. -/
def current (counter : Option (Counter T)) (now : T) : Option (Counter T) :=
  counter.filter fun c => now < c.expiresAt

def hit (window : T) (counter : Option (Counter T)) (now : T) : Counter T :=
  match current counter now with
  | none => ⟨1, now + window⟩
  | some c => { c with count := c.count + 1 }

/-- The hits with whether they are allowed. -/
def verdicts (limit : Nat) (window : T) : Option (Counter T) → List T → List (T × Bool)
  | _, [] => []
  | counter, now :: rest =>
    (now, (hit window counter now).count ≤ limit) ::
      verdicts limit window (some (hit window counter now)) rest

/-- The allowed hits in a half-open interval. -/
def allowedIn (start stop : T) (hits : List (T × Bool)) : Nat :=
  hits.countP fun v => v.2 ∧ start ≤ v.1 ∧ v.1 < stop

omit [AddCommGroup T] in
theorem current_eq_some {counter : Option (Counter T)} {now : T} {c : Counter T} :
    current counter now = some c ↔ counter = some c ∧ now < c.expiresAt := by
  rw [current, Option.filter_eq_some_iff, decide_eq_true_eq]

omit [AddCommGroup T] in
theorem current_eq_none {counter : Option (Counter T)} {now : T} :
    current counter now = none ↔ ∀ c, counter = some c → c.expiresAt ≤ now := by
  rw [current, Option.filter_eq_none_iff]
  exact forall₂_congr fun c _ => by rw [decide_eq_true_eq, not_lt]

theorem hit_of_current {window : T} {counter : Option (Counter T)} {now : T} {c : Counter T}
    (h : current counter now = some c) : hit window counter now = ⟨c.count + 1, c.expiresAt⟩ := by
  simp only [hit, h]

theorem hit_of_expired {window : T} {counter : Option (Counter T)} {now : T}
    (h : current counter now = none) : hit window counter now = ⟨1, now + window⟩ := by
  simp only [hit, h]

/-- The first hit at or after the expiry is allowed. -/
theorem allowed_of_expired {limit : Nat} (hlimit : 1 ≤ limit) (window : T)
    {counter : Option (Counter T)} {now : T}
    (h : ∀ c, counter = some c → c.expiresAt ≤ now) :
    (hit window counter now).count ≤ limit := by
  rw [hit_of_expired (current_eq_none.mpr h)]
  exact hlimit

/-- A hit that is not allowed leaves the expiry of the counter it finds. -/
theorem expiresAt_of_denied {limit : Nat} (hlimit : 1 ≤ limit) {window : T}
    {counter : Option (Counter T)} {now : T} (h : limit < (hit window counter now).count) :
    ∃ c, counter = some c ∧ now < c.expiresAt ∧
      (hit window counter now).expiresAt = c.expiresAt := by
  cases hcurrent : current counter now with
  | none =>
    rw [hit_of_expired hcurrent] at h
    exact absurd hlimit (Nat.not_le.mpr h)
  | some c =>
    obtain ⟨hcounter, hnow⟩ := current_eq_some.mp hcurrent
    exact ⟨c, hcounter, hnow, by rw [hit_of_current hcurrent]⟩

/-- How many hits can still be allowed in the window that begins at `start`. -/
def room (limit : Nat) (window start : T) : Option (Counter T) → Nat
  | none => 2 * limit
  | some c =>
    if start + window ≤ c.expiresAt then limit - c.count
    else if start ≤ c.expiresAt then limit - c.count + limit
    else 2 * limit

theorem room_le (limit : Nat) (window start : T) (counter : Option (Counter T)) :
    room limit window start counter ≤ 2 * limit := by
  cases counter with
  | none => exact le_refl _
  | some c =>
    rw [room]
    split
    next => omega
    next =>
      split
      next => omega
      next => exact le_refl _

/-- A hit takes the room it needs. -/
theorem room_hit [IsOrderedAddMonoid T] (limit : Nat) (window start : T)
    (counter : Option (Counter T)) {now : T} (hnow : now < start + window) :
    room limit window start (some (hit window counter now)) +
      (if (hit window counter now).count ≤ limit ∧ start ≤ now then 1 else 0) ≤
        room limit window start counter := by
  cases hcurrent : current counter now with
  | some c =>
    obtain ⟨rfl, hlive⟩ := current_eq_some.mp hcurrent
    rw [hit_of_current hcurrent]
    simp only [room]
    split_ifs with hend hallowed hend' hallowed hallowed
    all_goals first
      | omega
      | exact absurd (le_of_lt (lt_of_le_of_lt hallowed.2 hlive)) hend'
  | none =>
    have hold : limit ≤ room limit window start counter ∧
        (now < start → room limit window start counter = 2 * limit) := by
      cases counter with
      | none => exact ⟨by simp only [room]; omega, fun _ => rfl⟩
      | some c =>
        have hexpired : c.expiresAt ≤ now := current_eq_none.mp hcurrent c rfl
        have hbefore : ¬start + window ≤ c.expiresAt := not_le.mpr (lt_of_le_of_lt hexpired hnow)
        simp only [room, if_neg hbefore]
        split
        next hstart => exact ⟨by omega, fun h => absurd (le_trans hstart hexpired) (not_le.mpr h)⟩
        next => exact ⟨by omega, fun _ => rfl⟩
    rw [hit_of_expired hcurrent]
    rcases le_or_gt start now with hstart | hstart
    · have hend : start + window ≤ now + window := add_le_add hstart (le_refl window)
      have hnew : room limit window start (some ⟨1, now + window⟩) = limit - 1 := if_pos hend
      rw [hnew]
      dsimp only
      split <;> omega
    · have hle := room_le limit window start (some ⟨1, now + window⟩)
      rw [if_neg fun h => absurd h.2 (not_le.mpr hstart), hold.2 hstart]
      exact hle

omit [AddCommGroup T] in
/-- Nothing is allowed in an interval that is over. -/
theorem allowedIn_eq_zero {start stop : T} {hits : List (T × Bool)}
    (h : ∀ v ∈ hits, stop ≤ v.1) : allowedIn start stop hits = 0 := by
  rw [allowedIn, List.countP_eq_zero]
  intro v hv hin
  exact absurd (h v hv) (not_le.mpr (of_decide_eq_true hin).2.2)

theorem verdicts_fst (limit : Nat) (window : T) (counter : Option (Counter T)) (times : List T) :
    (verdicts limit window counter times).map Prod.fst = times := by
  induction times generalizing counter with
  | nil => rfl
  | cons now rest ih => rw [verdicts, List.map_cons, ih]

theorem allowedIn_le_room [IsOrderedAddMonoid T] (limit : Nat) (window start : T)
    (counter : Option (Counter T)) {times : List T} (hsorted : times.Pairwise (· ≤ ·)) :
    allowedIn start (start + window) (verdicts limit window counter times) ≤
      room limit window start counter := by
  induction times generalizing counter with
  | nil => exact Nat.zero_le _
  | cons now rest ih =>
    obtain ⟨hlater, hrest⟩ := List.pairwise_cons.mp hsorted
    rcases lt_or_ge now (start + window) with hnow | hover
    · have htail := ih (some (hit window counter now)) hrest
      have hhead := room_hit limit window start counter hnow
      rw [verdicts, allowedIn, List.countP_cons]
      rw [allowedIn] at htail
      simp only [hnow, and_true, decide_eq_true_eq]
      omega
    · rw [allowedIn_eq_zero]
      · exact Nat.zero_le _
      · intro v hv
        have hmem : v.1 ∈ now :: rest := by
          rw [← verdicts_fst limit window counter (now :: rest)]
          exact List.mem_map_of_mem hv
        rcases List.mem_cons.mp hmem with heq | hmem
        · exact heq ▸ hover
        · exact le_trans hover (hlater _ hmem)

/-- In an interval as long as the window, at most twice the limit of hits is allowed. -/
theorem allowedIn_le [IsOrderedAddMonoid T] (limit : Nat) (window start : T)
    (counter : Option (Counter T)) {times : List T} (hsorted : times.Pairwise (· ≤ ·)) :
    allowedIn start (start + window) (verdicts limit window counter times) ≤ 2 * limit :=
  le_trans (allowedIn_le_room limit window start counter hsorted)
    (room_le limit window start counter)

end FixedWindow
end RealtimeGameServer.Lib
