import Mathlib.Data.List.Basic
import Mathlib.Order.Lattice

/-!
# Guarded inputs: chained and stale-base folds

A state accepts an input or passes over it. A batch can be consumed in two ways. The chained
fold checks each input against what the earlier ones left and applies it there. The stale-base
fold checks and applies every input against the state the batch started from and keeps the last
result. Both are decided by their last accepted input, and the two have one or none together.
For inputs with a sequence number that the state counts, the numbers that stale-base folds
apply increase over the batches exactly as long as each batch is in order.
-/
namespace RealtimeGameServer.Lib

namespace Guarded
variable {σ ι : Type*} (accept : σ → ι → Bool) (apply : σ → ι → σ)

/-- One accepted-or-ignored input. -/
def absorb (s : σ) (i : ι) : σ := if accept s i then apply s i else s

/-- The inputs that the chained fold applies, one after the other. -/
def chain (s : σ) : List ι → List ι
  | [] => []
  | i :: rest => if accept s i then i :: chain (apply s i) rest else chain s rest

theorem foldl_absorb (s : σ) (batch : List ι) :
    batch.foldl (absorb accept apply) s = (chain accept apply s batch).foldl apply s := by
  induction batch generalizing s with
  | nil => rfl
  | cons i rest ih =>
    rw [List.foldl_cons, chain, ih, absorb]
    split <;> rfl

/-- The first input that the chained fold applies meets the state the batch started from. -/
theorem chain_eq_nil (s : σ) (batch : List ι) :
    chain accept apply s batch = [] ↔ batch.filter (accept s) = [] := by
  induction batch with
  | nil => exact Iff.rfl
  | cons i rest ih =>
    rw [chain, List.filter_cons]
    split
    next => simp
    next => exact ih

end Guarded

/-- A state keeps a counter, an input carries a number, and an input is accepted only when its
number exceeds the counter; applying it sets the counter to that number. -/
structure Sequenced (σ ι N : Type*) [LinearOrder N] where
  accept : σ → ι → Bool
  apply : σ → ι → σ
  counter : σ → N
  seq : ι → N
  fresh : ∀ {s i}, accept s i = true → counter s < seq i
  counter_apply : ∀ s i, counter (apply s i) = seq i

namespace Sequenced
variable {σ ι N : Type*} [LinearOrder N] (Q : Sequenced σ ι N)

/-- The stale-base fold; `held` is the last result stored so far. -/
def staleFrom (s : σ) (held : σ) (batch : List ι) : σ :=
  batch.foldl (fun held i => if Q.accept s i then Q.apply s i else held) held

def stale (s : σ) (batch : List ι) : σ := Q.staleFrom s s batch

/-- The inputs the stale-base fold applies. -/
def applied (s : σ) (batch : List ι) : List ι := batch.filter (Q.accept s)

/-- A batch whose applied inputs come in strictly increasing order. -/
def InOrder (s : σ) (batch : List ι) : Prop :=
  (Q.applied s batch).Pairwise fun i j => Q.seq i < Q.seq j

variable {Q}

theorem applied_cons_of_accept {s : σ} {i : ι} (h : Q.accept s i = true) (rest : List ι) :
    Q.applied s (i :: rest) = i :: Q.applied s rest := List.filter_cons_of_pos h

theorem applied_cons_of_reject {s : σ} {i : ι} (h : ¬Q.accept s i = true) (rest : List ι) :
    Q.applied s (i :: rest) = Q.applied s rest := List.filter_cons_of_neg h

theorem staleFrom_cons (s held : σ) (i : ι) (rest : List ι) :
    Q.staleFrom s held (i :: rest) =
      Q.staleFrom s (if Q.accept s i then Q.apply s i else held) rest := rfl

theorem staleFrom_eq (s held : σ) (batch : List ι) :
    Q.staleFrom s held batch =
      ((Q.applied s batch).getLast?.map (Q.apply s)).getD held := by
  induction batch generalizing held with
  | nil => rfl
  | cons i rest ih =>
    rw [staleFrom_cons, ih]
    by_cases hi : Q.accept s i = true
    · rw [if_pos hi, applied_cons_of_accept hi, List.getLast?_cons]
      cases (Q.applied s rest).getLast? <;> rfl
    · rw [if_neg hi, applied_cons_of_reject hi]

/-- The stale-base fold is decided by the last input it accepts. -/
theorem stale_eq (s : σ) (batch : List ι) :
    Q.stale s batch = ((Q.applied s batch).getLast?.map (Q.apply s)).getD s :=
  staleFrom_eq s s batch

theorem applied_fresh {s : σ} {batch : List ι} {i : ι} (h : i ∈ Q.applied s batch) :
    Q.counter s < Q.seq i :=
  Q.fresh (List.mem_filter.mp h).2

/-- The counter never falls below its value at the start of the batch. -/
theorem counter_le_stale (s : σ) (batch : List ι) : Q.counter s ≤ Q.counter (Q.stale s batch) := by
  rw [stale_eq]
  cases h : (Q.applied s batch).getLast? with
  | none => exact le_rfl
  | some i =>
    have hi := applied_fresh (List.mem_of_getLast? h)
    simpa only [Option.map_some, Option.getD_some, Q.counter_apply] using hi.le

/-- In an ordered batch the last accepted input carries the largest number. -/
theorem InOrder.le_counter {s : σ} {batch : List ι} (h : Q.InOrder s batch) {i : ι}
    (hi : i ∈ Q.applied s batch) : Q.seq i ≤ Q.counter (Q.stale s batch) := by
  rw [stale_eq]
  unfold InOrder at h
  rcases List.eq_nil_or_concat (Q.applied s batch) with hnil | ⟨front, last, heq⟩
  · rw [hnil] at hi
    cases hi
  · rw [List.concat_eq_append] at heq
    rw [heq] at hi h ⊢
    rw [List.getLast?_append, List.getLast?_singleton]
    simp only [Option.some_or, Option.map_some, Option.getD_some, Q.counter_apply]
    rcases List.mem_append.mp hi with hfront | hlast
    · exact ((List.pairwise_append.mp h).2.2 i hfront last (List.mem_singleton_self last)).le
    · rw [List.mem_singleton.mp hlast]

/-- The history of applied numbers is strictly increasing and bounded by the
counter: what one batch has to preserve. -/
structure Replayed (Q : Sequenced σ ι N) (history : List N) (s : σ) : Prop where
  increasing : history.Pairwise (· < ·)
  bounded : ∀ n ∈ history, n ≤ Q.counter s

theorem Replayed.nil (s : σ) : Q.Replayed [] s where
  increasing := .nil
  bounded := by
    intro n hn
    cases hn

theorem Replayed.of_counter_eq {history : List N} {s t : σ} (h : Q.Replayed history s)
    (heq : Q.counter t = Q.counter s) : Q.Replayed history t where
  increasing := h.increasing
  bounded := by
    intro n hn
    rw [heq]
    exact h.bounded n hn

theorem Replayed.batch {history : List N} {s : σ} (h : Q.Replayed history s) {batch : List ι}
    (ordered : Q.InOrder s batch) :
    Q.Replayed (history ++ (Q.applied s batch).map Q.seq) (Q.stale s batch) where
  increasing := by
    have hnew : ((Q.applied s batch).map Q.seq).Pairwise (· < ·) := List.pairwise_map.mpr ordered
    rw [List.pairwise_append]
    refine ⟨h.increasing, hnew, ?_⟩
    intro n hn m hm
    obtain ⟨i, hi, rfl⟩ := List.mem_map.mp hm
    exact (h.bounded n hn).trans_lt (applied_fresh hi)
  bounded := by
    intro n hn
    rcases List.mem_append.mp hn with hold | hnew
    · exact (h.bounded n hold).trans (counter_le_stale s batch)
    · obtain ⟨i, hi, rfl⟩ := List.mem_map.mp hnew
      exact ordered.le_counter hi

/-- Conversely an increasing history forces the batch to be ordered. -/
theorem inOrder_of_increasing {history : List N} {s : σ} {batch : List ι}
    (h : (history ++ (Q.applied s batch).map Q.seq).Pairwise (· < ·)) : Q.InOrder s batch :=
  List.pairwise_map.mp (List.pairwise_append.mp h).2.1

end Sequenced
end RealtimeGameServer.Lib
