import RealtimeGameServer.Lib.JsMap
import RealtimeGameServer.Lib.Machine

/-!
# Concurrent transactions under READ COMMITTED

A call runs through statements. Each statement sees what has been committed when
it runs, with the call's own uncommitted effects on top, takes the locks it
needs and adds effects; a statement whose locks another transaction holds waits,
so it is not enabled. Locks are held and effects are invisible to others until
the commit. A call may consist of several transactions, one after the other, and
may be aborted at any time.

Where every effect touches a lock its transaction holds, no commit of another
call changes what a held lock protects (`Guarded`). The rule `along_of_rule`
proves a property of the committed state and its log of calls from what each
call knows about the parts it has locked.
-/
namespace RealtimeGameServer.Lib

namespace ReadCommitted

/-- What a statement does: it throws, or adds effects and goes on. -/
inductive Stmt (ε P τ : Type*) where
  | throws (reason : τ)
  | continues (effects : List ε) (next : P)

/-- What a place of a call is followed by: a statement, or a commit after which
the call goes on with a new transaction or returns. -/
inductive Follow (P ρ : Type*) where
  | statement
  | commitThen (next : P)
  | commitReturn (result : ρ)

/-- The calls `C` with places `P`, results `ρ` and errors `τ`, over states `σ` with
effects `ε` and locks `κ`. `opens` is the check before the first transaction. -/
structure Protocol (σ ε κ C P ρ τ : Type*) where
  apply : σ → ε → σ
  opens : C → Except τ P
  needs : P → σ → List κ
  run : P → σ → Stmt ε P τ
  follow : P → Follow P ρ

/-- A call in progress. -/
structure Active (ε κ C P : Type*) where
  call : C
  pc : P
  pending : List ε
  held : List κ

/-- The committed state, the calls in progress by number, and those that have
returned (in commit order) or thrown. -/
structure State (σ ε κ C P ρ τ : Type*) where
  committed : σ
  active : JsMap Nat (Active ε κ C P)
  succeeded : List (Nat × C × ρ)
  failed : List (Nat × C × τ)
  started : Nat

inductive Event (C τ : Type*) where
  | call (call : C)
  | statement (number : Nat)
  | commit (number : Nat)
  | abort (number : Nat) (reason : τ)
  deriving DecidableEq, Repr

variable {σ ε κ C P ρ τ : Type*} [DecidableEq κ]

def start (committed : σ) : State σ ε κ C P ρ τ where
  committed
  active := JsMap.empty
  succeeded := []
  failed := []
  started := 0

/-- What the statements of a call see. -/
def Protocol.view (T : Protocol σ ε κ C P ρ τ) (a : Active ε κ C P) (committed : σ) : σ :=
  a.pending.foldl T.apply committed

/-- Another call holds one of these locks. -/
def State.blocked (s : State σ ε κ C P ρ τ) (number : Nat) (locks : List κ) : Bool :=
  s.active.entries.any fun e => e.1 ≠ number && locks.any fun k => k ∈ e.2.held

def State.throw (s : State σ ε κ C P ρ τ) (number : Nat) (call : C) (reason : τ) :
    State σ ε κ C P ρ τ :=
  { s with active := s.active.delete number, failed := s.failed ++ [(number, call, reason)] }

variable (T : Protocol σ ε κ C P ρ τ)

def stepCall (s : State σ ε κ C P ρ τ) (call : C) : State σ ε κ C P ρ τ :=
  match T.opens call with
  | .error reason =>
    { s with failed := s.failed ++ [(s.started, call, reason)], started := s.started + 1 }
  | .ok pc =>
    { s with
      active := s.active.set s.started { call, pc, pending := [], held := [] }
      started := s.started + 1 }

def stepStatement (s : State σ ε κ C P ρ τ) (number : Nat) (a : Active ε κ C P) :
    Option (State σ ε κ C P ρ τ) :=
  match T.follow a.pc with
  | .statement =>
    let view := T.view a s.committed
    let locks := T.needs a.pc view
    if s.blocked number locks then none
    else
      match T.run a.pc view with
      | .throws reason => some (s.throw number a.call reason)
      | .continues effects next =>
        some { s with
          active := s.active.set number
            { a with pc := next, pending := a.pending ++ effects, held := a.held ++ locks } }
  | _ => none

def stepCommit (s : State σ ε κ C P ρ τ) (number : Nat) (a : Active ε κ C P) :
    Option (State σ ε κ C P ρ τ) :=
  match T.follow a.pc with
  | .statement => none
  | .commitThen next =>
    some { s with
      committed := T.view a s.committed
      active := s.active.set number { call := a.call, pc := next, pending := [], held := [] } }
  | .commitReturn result =>
    some { s with
      committed := T.view a s.committed
      active := s.active.delete number
      succeeded := s.succeeded ++ [(number, a.call, result)] }

def step (s : State σ ε κ C P ρ τ) : Event C τ → Option (State σ ε κ C P ρ τ)
  | .call call => some (stepCall T s call)
  | .statement number => (s.active.get number).bind (stepStatement T s number)
  | .commit number => (s.active.get number).bind (stepCommit T s number)
  | .abort number reason => (s.active.get number).map fun a => s.throw number a.call reason

def machine : Machine (State σ ε κ C P ρ τ) (Event C τ) where
  step := step T

/-- Everything a step can do. -/
inductive Steps (s : State σ ε κ C P ρ τ) : Event C τ → State σ ε κ C P ρ τ → Prop
  | refused {call reason} (h : T.opens call = .error reason) : Steps s (.call call)
      { s with failed := s.failed ++ [(s.started, call, reason)], started := s.started + 1 }
  | opened {call pc} (h : T.opens call = .ok pc) : Steps s (.call call)
      { s with
        active := s.active.set s.started { call, pc, pending := [], held := [] }
        started := s.started + 1 }
  | ran {number a effects next} (get : s.active.get number = some a)
      (free : ¬s.blocked number (T.needs a.pc (T.view a s.committed)))
      (run : T.run a.pc (T.view a s.committed) = .continues effects next) :
      Steps s (.statement number)
        { s with
          active := s.active.set number
            { call := a.call
              pc := next
              pending := a.pending ++ effects
              held := a.held ++ T.needs a.pc (T.view a s.committed) } }
  | threw {event number a reason} (get : s.active.get number = some a) :
      Steps s event (s.throw number a.call reason)
  | proceeded {number a next} (get : s.active.get number = some a)
      (follow : T.follow a.pc = .commitThen next) :
      Steps s (.commit number)
        { s with
          committed := T.view a s.committed
          active := s.active.set number { call := a.call, pc := next, pending := [], held := [] } }
  | returned {number a result} (get : s.active.get number = some a)
      (follow : T.follow a.pc = .commitReturn result) :
      Steps s (.commit number)
        { s with
          committed := T.view a s.committed
          active := s.active.delete number
          succeeded := s.succeeded ++ [(number, a.call, result)] }

variable {T}

theorem step_cases {s t : State σ ε κ C P ρ τ} {event : Event C τ}
    (h : (machine T).step s event = some t) : Steps T s event t := by
  cases event with
  | call call =>
    simp only [machine, step, stepCall] at h
    split at h <;> cases h
    next hopens => exact .refused hopens
    next hopens => exact .opened hopens
  | statement number =>
    obtain ⟨a, hget, h⟩ := Option.bind_eq_some_iff.mp h
    unfold stepStatement at h
    split at h
    next =>
      dsimp only at h
      split at h
      next => cases h
      next hfree =>
        split at h <;> cases h
        next => exact .threw hget
        next hrun => exact .ran hget hfree hrun
    next => cases h
  | commit number =>
    obtain ⟨a, hget, h⟩ := Option.bind_eq_some_iff.mp h
    unfold stepCommit at h
    split at h <;> cases h
    next hfollow => exact .proceeded hget hfollow
    next hfollow => exact .returned hget hfollow
  | abort number reason =>
    obtain ⟨a, hget, h⟩ := Option.map_eq_some_iff.mp h
    cases h
    exact .threw hget

/-- Effects touch locks of their transaction, and what a lock protects changes
only under effects that touch it. -/
structure Guarded {ν : Type*} (T : Protocol σ ε κ C P ρ τ) (touches : ε → κ) (part : κ → σ → ν) :
    Prop where
  frame : ∀ s e k, touches e ≠ k → part k (T.apply s e) = part k s
  locked : ∀ p view effects next, T.run p view = .continues effects next →
    ∀ e ∈ effects, touches e ∈ T.needs p view

/-- No two calls hold one lock, and uncommitted effects touch held locks. -/
structure Exclusive (touches : ε → κ) (s : State σ ε κ C P ρ τ) : Prop where
  apart : ∀ i j a b, s.active.get i = some a → s.active.get j = some b → i ≠ j →
    ∀ k ∈ a.held, k ∉ b.held
  owned : ∀ i a, s.active.get i = some a → ∀ e ∈ a.pending, touches e ∈ a.held

theorem not_blocked {s : State σ ε κ C P ρ τ} {number : Nat} {locks : List κ}
    (h : ¬s.blocked number locks) {j : Nat} {b : Active ε κ C P} (hb : s.active.get j = some b)
    (hj : j ≠ number) : ∀ k ∈ locks, k ∉ b.held := by
  intro k hk hheld
  have hmem : (j, b) ∈ s.active.entries := (JsMap.get_eq_some _ _ _).mp hb
  have hmeets : (locks.any fun k => decide (k ∈ b.held)) = true :=
    List.any_eq_true.mpr ⟨k, hk, decide_eq_true hheld⟩
  apply h
  refine List.any_eq_true.mpr ⟨(j, b), hmem, ?_⟩
  rw [Bool.and_eq_true, decide_eq_true_eq]
  exact ⟨hj, hmeets⟩

section Exclusion
variable {ν : Type*} {touches : ε → κ} {part : κ → σ → ν}

omit [DecidableEq κ] in
theorem part_foldl (hT : Guarded T touches part) (effects : List ε) (s : σ) (k : κ)
    (h : ∀ e ∈ effects, touches e ≠ k) : part k (effects.foldl T.apply s) = part k s := by
  induction effects generalizing s with
  | nil => rfl
  | cons e rest ih =>
    rw [List.foldl_cons, ih _ fun e he => h e (List.mem_cons_of_mem _ he),
      hT.frame s e k (h e List.mem_cons_self)]

omit [DecidableEq κ] in
/-- What a call has locked is untouched by the commit of another. -/
theorem part_view (hT : Guarded T touches part) {s : State σ ε κ C P ρ τ}
    (h : Exclusive touches s) {i j : Nat} {a b : Active ε κ C P} (ha : s.active.get i = some a)
    (hb : s.active.get j = some b) (hij : i ≠ j) {k : κ} (hk : k ∈ b.held) :
    part k (T.view a s.committed) = part k s.committed := by
  apply part_foldl hT
  intro e he hek
  have hheld : k ∈ a.held := hek ▸ h.owned i a ha e he
  exact h.apart i j a b ha hb hij k hheld hk

omit [DecidableEq κ] in
theorem Exclusive.delete {s : State σ ε κ C P ρ τ} (h : Exclusive touches s) (number : Nat)
    (t : State σ ε κ C P ρ τ) (ht : t.active = s.active.delete number) : Exclusive touches t := by
  have hget : ∀ i a, t.active.get i = some a → s.active.get i = some a := by
    rw [ht]
    exact fun _ _ hi => (JsMap.get_delete_cases hi).2
  constructor
  case apart =>
    intro i j a b hi hj
    exact h.apart i j a b (hget i a hi) (hget j b hj)
  case owned =>
    intro i a hi
    exact h.owned i a (hget i a hi)

omit [DecidableEq κ] in
/-- A call takes a new place with locks nobody else holds. -/
theorem Exclusive.set {s : State σ ε κ C P ρ τ} (h : Exclusive touches s) (number : Nat)
    (a : Active ε κ C P) (t : State σ ε κ C P ρ τ) (ht : t.active = s.active.set number a)
    (free : ∀ j b, s.active.get j = some b → j ≠ number → ∀ k ∈ a.held, k ∉ b.held)
    (owned : ∀ e ∈ a.pending, touches e ∈ a.held) : Exclusive touches t := by
  constructor
  case apart =>
    intro i j b c hi hj hij k hkb hkc
    rw [ht] at hi hj
    rcases JsMap.get_set_cases hi with ⟨hi', rfl⟩ | ⟨hi', hb⟩
    · rcases JsMap.get_set_cases hj with ⟨hj', -⟩ | ⟨hj', hc⟩
      · exact hij (hi'.trans hj'.symm)
      · exact free j c hc hj' k hkb hkc
    · rcases JsMap.get_set_cases hj with ⟨hj', rfl⟩ | ⟨-, hc⟩
      · exact free i b hb hi' k hkc hkb
      · exact h.apart i j b c hb hc hij k hkb hkc
  case owned =>
    rw [ht]
    exact JsMap.forall_get_set h.owned owned

theorem Exclusive.step (hT : Guarded T touches part) {s t : State σ ε κ C P ρ τ} {event : Event C τ}
    (h : Exclusive touches s) (hstep : Steps T s event t) : Exclusive touches t := by
  cases hstep with
  | refused => exact ⟨h.apart, h.owned⟩
  | opened => exact h.set s.started _ _ rfl (fun _ _ _ _ _ hk => by cases hk) nofun
  | @ran number a effects next get free run =>
    apply h.set number _ _ rfl
    case free =>
      intro j b hb hj k hk
      rcases List.mem_append.mp hk with hold | hnew
      · exact h.apart number j a b get hb hj.symm k hold
      · exact not_blocked free hb hj k hnew
    case owned =>
      intro e he
      rcases List.mem_append.mp he with hold | hnew
      · exact List.mem_append_left _ (h.owned number a get e hold)
      · exact List.mem_append_right _ (hT.locked _ _ _ _ run e hnew)
  | threw => exact h.delete _ _ rfl
  | proceeded get => exact h.set _ _ _ rfl (fun _ _ _ _ _ hk => by cases hk) nofun
  | returned get => exact h.delete _ _ rfl

/-- What a call knows about the state through its locks (`Local`) and what the
committed state satisfies together with the log of the calls that returned
(`Global`). A statement may assume `Ok`. -/
structure Rule (T : Protocol σ ε κ C P ρ τ) (part : κ → σ → ν)
    (Global : σ → List (Nat × C × ρ) → Prop) (Local : Active ε κ C P → σ → Prop)
    (Ok : Active ε κ C P → σ → Prop) : Prop where
  frame : ∀ a s s', (∀ k ∈ a.held, part k s' = part k s) → Local a s → Local a s'
  opened : ∀ call pc s, T.opens call = .ok pc → Local ⟨call, pc, [], []⟩ s
  ran : ∀ a s log effects next, Global s log → Local a s → Ok a s →
    T.run a.pc (T.view a s) = .continues effects next →
    Local ⟨a.call, next, a.pending ++ effects, a.held ++ T.needs a.pc (T.view a s)⟩ s
  proceeded : ∀ a s log next, Global s log → Local a s → T.follow a.pc = .commitThen next →
    Global (T.view a s) log ∧ Local ⟨a.call, next, [], []⟩ (T.view a s)
  returned : ∀ a s log number result, Global s log → Local a s →
    T.follow a.pc = .commitReturn result → Global (T.view a s) (log ++ [(number, a.call, result)])

/-- The guard that goes with `Ok`, on the statements of a run. -/
def StatementOk (Ok : Active ε κ C P → σ → Prop) (s : State σ ε κ C P ρ τ) : Event C τ → Prop
  | .statement number => ∀ a, s.active.get number = some a → Ok a s.committed
  | _ => True

instance {Ok : Active ε κ C P → σ → Prop} [∀ a s, Decidable (Ok a s)] (s : State σ ε κ C P ρ τ)
    (event : Event C τ) : Decidable (StatementOk Ok s event) :=
  match event with
  | .statement number =>
    inferInstanceAs (Decidable (∀ a ∈ s.active.get number, Ok a s.committed))
  | .call _ | .commit _ | .abort _ _ => isTrue trivial

/-- The invariant of the rule. -/
structure Held (touches : ε → κ) (Global : σ → List (Nat × C × ρ) → Prop)
    (Local : Active ε κ C P → σ → Prop) (s : State σ ε κ C P ρ τ) : Prop where
  exclusive : Exclusive touches s
  globally : Global s.committed s.succeeded
  locally_ : ∀ number a, s.active.get number = some a → Local a s.committed

variable {Global : σ → List (Nat × C × ρ) → Prop} {Local : Active ε κ C P → σ → Prop}
  {Ok : Active ε κ C P → σ → Prop}

theorem Held.step (hT : Guarded T touches part) (hrule : Rule T part Global Local Ok)
    {s t : State σ ε κ C P ρ τ} {event : Event C τ} (h : Held touches Global Local s)
    (hok : StatementOk Ok s event) (hstep : (machine T).step s event = some t) :
    Held touches Global Local t := by
  have hcases := step_cases hstep
  constructor
  case exclusive => exact h.exclusive.step hT hcases
  case globally =>
    cases hcases with
    | proceeded get follow => exact (hrule.proceeded _ _ _ _ h.globally (h.locally_ _ _ get) follow).1
    | returned get follow => exact hrule.returned _ _ _ _ _ h.globally (h.locally_ _ _ get) follow
    | _ => exact h.globally
  case locally_ =>
    intro j b hj
    -- a call that did not move keeps what it knows
    have hother : ∀ number a, s.active.get number = some a → j ≠ number →
        s.active.get j = some b → Local b (T.view a s.committed) := by
      intro number a hget hne hb
      have hparts : ∀ k ∈ b.held, part k (T.view a s.committed) = part k s.committed := by
        intro k hk
        exact part_view hT h.exclusive hget hb (Ne.symm hne) hk
      exact hrule.frame b s.committed _ hparts (h.locally_ j b hb)
    cases hcases with
    | refused => exact h.locally_ j b hj
    | opened hopens => exact JsMap.forall_get_set h.locally_ (hrule.opened _ _ _ hopens) j b hj
    | @ran number a effects next get free run =>
      refine JsMap.forall_get_set h.locally_ ?_ j b hj
      exact hrule.ran a s.committed s.succeeded effects next h.globally (h.locally_ _ _ get)
        (hok a get) run
    | threw get => exact JsMap.forall_get_delete h.locally_ _ j b hj
    | proceeded get follow =>
      rcases JsMap.get_set_cases hj with ⟨-, rfl⟩ | ⟨hne, hold⟩
      · exact (hrule.proceeded _ _ _ _ h.globally (h.locally_ _ _ get) follow).2
      · exact hother _ _ get hne hold
    | returned get follow =>
      obtain ⟨hne, hold⟩ := JsMap.get_delete_cases hj
      exact hother _ _ get hne hold

/-- In a run whose statements are all `Ok`, every committed state satisfies
`Global` with the log of the calls that have returned. -/
theorem along_of_rule (hT : Guarded T touches part) (hrule : Rule T part Global Local Ok)
    {s0 : σ} (h0 : Global s0 []) (events : List (Event C τ))
    (hok : (machine T).StepsMeet (StatementOk Ok) (start s0) events) :
    (machine T).Along (Held touches Global Local) (start s0) events :=
  Machine.along_of_guarded (L := fun _ => True)
    (fun _ _ _ h _ hstep hguard => h.step hT hrule hguard hstep) (fun _ _ => trivial)
    ⟨⟨nofun, nofun⟩, h0, nofun⟩ hok

/-- Every commit of the run meets the condition, on the call that commits and the
committed state before it. -/
def CommitOk (T : Protocol σ ε κ C P ρ τ) (G : Active ε κ C P → σ → Prop)
    (s : State σ ε κ C P ρ τ) : Event C τ → Prop
  | .commit number => ∀ a, s.active.get number = some a → T.follow a.pc ≠ .statement →
      G a s.committed
  | _ => True

instance {G : Active ε κ C P → σ → Prop} [∀ a s, Decidable (G a s)] (s : State σ ε κ C P ρ τ)
    (event : Event C τ) : Decidable (CommitOk T G s event) :=
  match event with
  | .commit number =>
    have (a : Active ε κ C P) : Decidable (T.follow a.pc ≠ .statement) :=
      match T.follow a.pc with
      | .statement => isFalse fun h => h rfl
      | .commitThen _ | .commitReturn _ => isTrue fun h => by cases h
    inferInstanceAs
      (Decidable (∀ a ∈ s.active.get number, T.follow a.pc ≠ .statement → G a s.committed))
  | .call _ | .statement _ | .abort _ _ => isTrue trivial

/-- A commit that is followed by another transaction, or by the end of its call. -/
inductive Commits (T : Protocol σ ε κ C P ρ τ) (s : State σ ε κ C P ρ τ) (number : Nat)
    (a : Active ε κ C P) : State σ ε κ C P ρ τ → Prop
  | proceeded {next} (follow : T.follow a.pc = .commitThen next) : Commits T s number a
      { s with
        committed := T.view a s.committed
        active := s.active.set number { call := a.call, pc := next, pending := [], held := [] } }
  | returned {result} (follow : T.follow a.pc = .commitReturn result) : Commits T s number a
      { s with
        committed := T.view a s.committed
        active := s.active.delete number
        succeeded := s.succeeded ++ [(number, a.call, result)] }

theorem commit_step {s t : State σ ε κ C P ρ τ} {number : Nat}
    (h : (machine T).step s (.commit number) = some t) :
    ∃ a, s.active.get number = some a ∧ Commits T s number a t := by
  obtain ⟨a, hget, h⟩ := Option.bind_eq_some_iff.mp h
  unfold stepCommit at h
  refine ⟨a, hget, ?_⟩
  split at h <;> cases h
  next hfollow => exact .proceeded hfollow
  next hfollow => exact .returned hfollow

/-- A commit leads to what the call saw. -/
theorem committed_of_commit {s t : State σ ε κ C P ρ τ} {number : Nat}
    (h : (machine T).step s (.commit number) = some t) :
    ∃ a, s.active.get number = some a ∧ T.follow a.pc ≠ .statement ∧
      t.committed = T.view a s.committed := by
  obtain ⟨a, hget, hcommit⟩ := commit_step h
  refine ⟨a, hget, fun hstatement => ?_, ?_⟩
  · cases hcommit with
    | proceeded follow | returned follow =>
      rw [hstatement] at follow
      cases follow
  · cases hcommit <;> rfl

/-- Every other step leaves the committed state. -/
theorem committed_of_other {s t : State σ ε κ C P ρ τ} {event : Event C τ}
    (hevent : ∀ number, event ≠ .commit number) (h : (machine T).step s event = some t) :
    t.committed = s.committed := by
  have hcases := step_cases h
  cases hcases with
  | proceeded => exact absurd rfl (hevent _)
  | returned => exact absurd rfl (hevent _)
  | _ => rfl

section Commits
variable {Global : σ → List (Nat × C × ρ) → Prop} {Property : σ → Prop}
  {G : Active ε κ C P → σ → Prop}

/-- What a rule without a global part says of the calls in progress. -/
abbrev Known (touches : ε → κ) (Local : Active ε κ C P → σ → Prop) (s : State σ ε κ C P ρ τ) :
    Prop :=
  Held touches (fun _ _ => True) Local s

omit [DecidableEq κ] in
theorem statementOk_true (s : State σ ε κ C P ρ τ) (event : Event C τ) :
    StatementOk (fun _ _ => True) s event := by
  cases event with
  | statement number => exact fun _ _ => trivial
  | _ => trivial

/-- A rule that assumes nothing of the statements holds of every run. -/
theorem along_of_free_rule (hT : Guarded T touches part)
    (hrule : Rule T part Global Local fun _ _ => True) {s0 : σ} (h0 : Global s0 [])
    (events : List (Event C τ)) :
    (machine T).Along (Held touches Global Local) (start s0) events :=
  Machine.along_of_invariant
    (fun s event _ h hstep => h.step hT hrule (statementOk_true s event) hstep) events
    ⟨⟨nofun, nofun⟩, h0, nofun⟩

/-- A property that the guarded commits keep holds, beside what the rule gives, in
every committed state of a run whose commits meet the guard. -/
theorem along_of_rule_commits (hT : Guarded T touches part)
    (hrule : Rule T part Global Local fun _ _ => True)
    (hkeep : ∀ a s log, Global s log → Local a s → Property s → T.follow a.pc ≠ .statement →
      G a s → Property (T.view a s))
    {s0 : σ} (hglobal : Global s0 []) (h0 : Property s0) (events : List (Event C τ))
    (hcommits : (machine T).StepsMeet (CommitOk T G) (start s0) events) :
    (machine T).Along (fun s => Property s.committed) (start s0) events := by
  have halong : (machine T).Along (fun s => Held touches Global Local s ∧ Property s.committed)
      (start s0) events := by
    refine Machine.along_of_guarded (L := fun _ => True) ?_ (fun _ _ => trivial) ?_ hcommits
    · intro s event t h _ hstep hguard
      refine ⟨h.1.step hT hrule (statementOk_true s event) hstep, ?_⟩
      cases event with
      | commit number =>
        obtain ⟨a, hget, hfollow, heq⟩ := committed_of_commit hstep
        rw [heq]
        exact hkeep a s.committed s.succeeded h.1.globally (h.1.locally_ number a hget) h.2 hfollow
          (hguard a hget hfollow)
      | _ =>
        rw [committed_of_other (fun _ heq => by cases heq) hstep]
        exact h.2
    · exact ⟨⟨⟨nofun, nofun⟩, hglobal, nofun⟩, h0⟩
  exact halong.mono fun _ h => h.2

/-- Where the guard is exactly what a commit needs to keep the property, the
property holds in every committed state of a run if and only if every commit
meets the guard. -/
theorem along_iff_rule_commits (hT : Guarded T touches part)
    (hrule : Rule T part Global Local fun _ _ => True)
    (hexact : ∀ a s log, Global s log → Local a s → Property s → T.follow a.pc ≠ .statement →
      (Property (T.view a s) ↔ G a s))
    {s0 : σ} (hglobal : Global s0 []) (h0 : Property s0) (events : List (Event C τ)) :
    (machine T).Along (fun s => Property s.committed) (start s0) events ↔
      (machine T).StepsMeet (CommitOk T G) (start s0) events := by
  constructor
  · intro hproperty
    have hheld := along_of_free_rule hT hrule hglobal events
    refine (hheld.and hproperty).stepsMeet fun s event t h hstep hafter => ?_
    cases event with
    | commit number =>
      intro a hget hfollow
      obtain ⟨b, hget', -, heq⟩ := committed_of_commit hstep
      cases hget.symm.trans hget'
      rw [heq] at hafter
      exact (hexact a s.committed s.succeeded h.1.globally (h.1.locally_ number a hget) h.2
        hfollow).mp hafter.2
    | _ => trivial
  · intro hcommits
    exact along_of_rule_commits hT hrule
      (fun a s log hg hlocal hproperty hfollow =>
        (hexact a s log hg hlocal hproperty hfollow).mpr) hglobal h0 events hcommits

/-- The same where the rule has no global part. -/
theorem along_of_commits (hT : Guarded T touches part)
    (hrule : Rule T part (fun _ _ => True) Local fun _ _ => True)
    (hkeep : ∀ a s, Local a s → Property s → T.follow a.pc ≠ .statement → G a s →
      Property (T.view a s))
    {s0 : σ} (h0 : Property s0) (events : List (Event C τ))
    (hcommits : (machine T).StepsMeet (CommitOk T G) (start s0) events) :
    (machine T).Along (fun s => Property s.committed) (start s0) events :=
  along_of_rule_commits hT hrule (fun a s _ _ => hkeep a s) trivial h0 events hcommits

theorem along_iff_commits (hT : Guarded T touches part)
    (hrule : Rule T part (fun _ _ => True) Local fun _ _ => True)
    (hexact : ∀ a s, Local a s → Property s → T.follow a.pc ≠ .statement →
      (Property (T.view a s) ↔ G a s))
    {s0 : σ} (h0 : Property s0) (events : List (Event C τ)) :
    (machine T).Along (fun s => Property s.committed) (start s0) events ↔
      (machine T).StepsMeet (CommitOk T G) (start s0) events :=
  along_iff_rule_commits hT hrule (fun a s _ _ => hexact a s) trivial h0 events

end Commits

end Exclusion

/-- Every call has its own number, and ends at most one way. -/
structure Numbered (s : State σ ε κ C P ρ τ) : Prop where
  active : ∀ i a, s.active.get i = some a → i < s.started ∧
    (∀ r ∈ s.succeeded, r.1 ≠ i) ∧ ∀ f ∈ s.failed, f.1 ≠ i
  succeeded : ∀ r ∈ s.succeeded, r.1 < s.started
  failed : ∀ f ∈ s.failed, f.1 < s.started
  apart : ∀ r ∈ s.succeeded, ∀ f ∈ s.failed, r.1 ≠ f.1

theorem forall_mem_concat {α : Type*} {P : α → Prop} {l : List α} {a : α} (hl : ∀ x ∈ l, P x)
    (ha : P a) : ∀ x ∈ l ++ [a], P x :=
  List.forall_mem_append.mpr ⟨hl, List.forall_mem_singleton.mpr ha⟩

omit [DecidableEq κ] in
/-- A call in progress throws: its number moves to the failed ones. -/
theorem Numbered.throw {s : State σ ε κ C P ρ τ} (h : Numbered s) {number : Nat}
    {a : Active ε κ C P} (get : s.active.get number = some a) (call : C) (reason : τ) :
    Numbered (s.throw number call reason) := by
  obtain ⟨hlt, hsucceeded, hfailed⟩ := h.active number a get
  constructor
  case active =>
    intro i b hi
    obtain ⟨hne, hold⟩ := JsMap.get_delete_cases hi
    obtain ⟨hlt', hs', hf'⟩ := h.active i b hold
    exact ⟨hlt', hs', forall_mem_concat hf' (Ne.symm hne)⟩
  case succeeded => exact h.succeeded
  case failed => exact forall_mem_concat h.failed hlt
  case apart =>
    intro r hr
    exact forall_mem_concat (h.apart r hr) (hsucceeded r hr)

omit [DecidableEq κ] in
/-- A call in progress returns: its number moves to the succeeded ones. -/
theorem Numbered.returns {s : State σ ε κ C P ρ τ} (h : Numbered s) {number : Nat}
    {a : Active ε κ C P} (get : s.active.get number = some a) (committed : σ) (call : C)
    (result : ρ) :
    Numbered { s with
      committed
      active := s.active.delete number
      succeeded := s.succeeded ++ [(number, call, result)] } := by
  obtain ⟨hlt, hsucceeded, hfailed⟩ := h.active number a get
  constructor
  case active =>
    intro i b hi
    obtain ⟨hne, hold⟩ := JsMap.get_delete_cases hi
    obtain ⟨hlt', hs', hf'⟩ := h.active i b hold
    exact ⟨hlt', forall_mem_concat hs' (Ne.symm hne), hf'⟩
  case succeeded => exact forall_mem_concat h.succeeded hlt
  case failed => exact h.failed
  case apart => exact forall_mem_concat h.apart fun f hf => (hfailed f hf).symm

omit [DecidableEq κ] in
/-- A call that stays in progress keeps its number. -/
theorem Numbered.set {s : State σ ε κ C P ρ τ} (h : Numbered s) {number : Nat}
    {a : Active ε κ C P} (get : s.active.get number = some a) (committed : σ)
    (b : Active ε κ C P) : Numbered { s with committed, active := s.active.set number b } := by
  constructor
  case active => exact JsMap.forall_get_set h.active (h.active number a get)
  case succeeded => exact h.succeeded
  case failed => exact h.failed
  case apart => exact h.apart

omit [DecidableEq κ] in
/-- The next number is nobody's. -/
theorem Numbered.fresh {s : State σ ε κ C P ρ τ} (h : Numbered s) :
    (∀ r ∈ s.succeeded, r.1 ≠ s.started) ∧ ∀ f ∈ s.failed, f.1 ≠ s.started :=
  ⟨fun r hr => Nat.ne_of_lt (h.succeeded r hr), fun f hf => Nat.ne_of_lt (h.failed f hf)⟩

theorem Numbered.step {s t : State σ ε κ C P ρ τ} {event : Event C τ} (h : Numbered s)
    (hstep : Steps T s event t) : Numbered t := by
  cases hstep with
  | refused hopens =>
    have hgrown : ∀ f ∈ s.failed, f.1 < s.started + 1 := fun f hf => Nat.lt_succ_of_lt (h.failed f hf)
    constructor
    case active =>
      intro i a hi
      obtain ⟨hlt, hs, hf⟩ := h.active i a hi
      exact ⟨Nat.lt_succ_of_lt hlt, hs, forall_mem_concat hf (Nat.ne_of_gt hlt)⟩
    case succeeded => exact fun r hr => Nat.lt_succ_of_lt (h.succeeded r hr)
    case failed => exact forall_mem_concat hgrown (Nat.lt_succ_self _)
    case apart =>
      intro r hr
      exact forall_mem_concat (h.apart r hr) (h.fresh.1 r hr)
  | opened hopens =>
    constructor
    case active =>
      refine JsMap.forall_get_set (fun i a hi => ?_) ⟨Nat.lt_succ_self _, h.fresh⟩
      obtain ⟨hlt, hs, hf⟩ := h.active i a hi
      exact ⟨Nat.lt_succ_of_lt hlt, hs, hf⟩
    case succeeded => exact fun r hr => Nat.lt_succ_of_lt (h.succeeded r hr)
    case failed => exact fun f hf => Nat.lt_succ_of_lt (h.failed f hf)
    case apart => exact h.apart
  | ran get free run => exact h.set get s.committed _
  | threw get => exact h.throw get _ _
  | proceeded get follow => exact h.set get _ _
  | returned get follow => exact h.returns get _ _ _

theorem numbered_along (s0 : σ) (events : List (Event C τ)) :
    (machine T).Along Numbered (start s0) events :=
  Machine.along_of_invariant (fun _ _ _ h hstep => h.step (step_cases hstep)) events
    ⟨nofun, nofun, nofun, nofun⟩

section
variable (T : Protocol σ ε κ C P ρ τ)

/-- From a place with uncommitted effects, a call gets to its end with nothing in between. -/
inductive Alone : P → List ε → σ → σ × Except τ ρ → Prop
  | throws {place pending store reason} (follow : T.follow place = .statement)
      (run : T.run place (pending.foldl T.apply store) = .throws reason) :
      Alone place pending store (store, .error reason)
  | continues {place pending store effects next last} (follow : T.follow place = .statement)
      (run : T.run place (pending.foldl T.apply store) = .continues effects next)
      (rest : Alone next (pending ++ effects) store last) : Alone place pending store last
  | commitThen {place pending store next last} (follow : T.follow place = .commitThen next)
      (rest : Alone next [] (pending.foldl T.apply store) last) : Alone place pending store last
  | commitReturn {place pending store result} (follow : T.follow place = .commitReturn result) :
      Alone place pending store (pending.foldl T.apply store, .ok result)

/-- Nothing but this call is in progress. -/
def onlyActive (committed : σ) (a : Active ε κ C P) : State σ ε κ C P ρ τ where
  committed
  active := JsMap.empty.set 0 a
  succeeded := []
  failed := []
  started := 1

/-- Nothing but this call has ended. -/
def onlyEnded (call : C) (last : σ × Except τ ρ) : State σ ε κ C P ρ τ where
  committed := last.1
  active := JsMap.empty
  succeeded := last.2.toOption.toList.map fun result => (0, call, result)
  failed := match last.2 with
    | .ok _ => []
    | .error reason => [(0, call, reason)]
  started := 1

omit [DecidableEq κ] in
theorem get_onlyActive (committed : σ) (a : Active ε κ C P) :
    (onlyActive committed a : State σ ε κ C P ρ τ).active.get 0 = some a := JsMap.get_set_self _ _ _

omit [DecidableEq κ] in
theorem delete_onlyActive (committed : σ) (a : Active ε κ C P) :
    (onlyActive committed a : State σ ε κ C P ρ τ).active.delete 0 = JsMap.empty :=
  (JsMap.delete_set _ _ _).trans rfl

theorem not_blocked_onlyActive (committed : σ) (a : Active ε κ C P) (locks : List κ) :
    (onlyActive committed a : State σ ε κ C P ρ τ).blocked 0 locks = false := rfl

variable {T}

/-- A call alone is one of the runs of the transactions. -/
theorem Alone.exec {place : P} {pending : List ε} {store : σ} {last : σ × Except τ ρ}
    (h : Alone T place pending store last) (call : C) (held : List κ) :
    ∃ events, (machine T).exec (onlyActive store ⟨call, place, pending, held⟩) events =
      some (onlyEnded call last) := by
  induction h generalizing held with
  | @throws place pending store reason follow run =>
    refine ⟨[.statement 0], Machine.exec_cons.mpr ⟨_, ?_, rfl⟩⟩
    simp only [machine, step, get_onlyActive, Option.bind_some, stepStatement, follow,
      not_blocked_onlyActive]
    have hview : T.view ⟨call, place, pending, held⟩ (onlyActive store ⟨call, place, pending, held⟩ :
        State σ ε κ C P ρ τ).committed = pending.foldl T.apply store := rfl
    simp only [hview, run, State.throw, delete_onlyActive]
    rfl
  | @continues place pending store effects next last follow run rest ih =>
    obtain ⟨events, hevents⟩ := ih (held ++ T.needs place (pending.foldl T.apply store))
    refine ⟨.statement 0 :: events, Machine.exec_cons.mpr ⟨_, ?_, hevents⟩⟩
    have hrun : T.run place (T.view ⟨call, place, pending, held⟩ store) =
        .continues effects next := run
    simp only [machine, step, get_onlyActive, Option.bind_some, stepStatement, follow,
      not_blocked_onlyActive]
    simp only [onlyActive, hrun, JsMap.set_set]
    rfl
  | @commitThen place pending store next last follow rest ih =>
    obtain ⟨events, hevents⟩ := ih []
    refine ⟨.commit 0 :: events, Machine.exec_cons.mpr ⟨_, ?_, hevents⟩⟩
    simp only [machine, step, get_onlyActive, Option.bind_some, stepCommit, follow]
    simp only [onlyActive, JsMap.set_set]
    rfl
  | @commitReturn place pending store result follow =>
    refine ⟨[.commit 0], Machine.exec_cons.mpr ⟨_, ?_, rfl⟩⟩
    simp only [machine, step, get_onlyActive, Option.bind_some, stepCommit, follow,
      delete_onlyActive]
    rfl

theorem step_called {s : State σ ε κ C P ρ τ} {call : C} {place : P}
    (hopens : T.opens call = .ok place) : (machine T).step s (.call call) = some { s with
      active := s.active.set s.started ⟨call, place, [], []⟩
      started := s.started + 1 } := by
  simp only [machine, step, stepCall, hopens]

/-- The call from its opening on. -/
theorem exec_alone {store : σ} {call : C} {last : σ × Except τ ρ}
    (h : (∃ place, T.opens call = .ok place ∧ Alone T place [] store last) ∨
      ∃ reason, T.opens call = .error reason ∧ last = (store, .error reason)) :
    ∃ events, (machine T).exec (start store) events = some (onlyEnded call last) := by
  rcases h with ⟨place, hopens, halone⟩ | ⟨reason, hopens, rfl⟩
  · obtain ⟨events, hevents⟩ := halone.exec call []
    exact ⟨.call call :: events, Machine.exec_cons.mpr ⟨_, step_called hopens, hevents⟩⟩
  · refine ⟨[.call call], Machine.exec_cons.mpr ⟨_, ?_, rfl⟩⟩
    simp only [machine, step, stepCall, hopens]
    rfl

end

end ReadCommitted
end RealtimeGameServer.Lib
