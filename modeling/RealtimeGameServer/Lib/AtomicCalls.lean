import RealtimeGameServer.Lib.Calls
import RealtimeGameServer.Lib.ReadCommitted

/-!
# Atomic operations as transactions

Two descriptions of the same calls: in one every operation is atomic (`Calls`), in the other
it runs through statements and commits (`ReadCommitted`). Where the statements of each
operation, with nothing in between, do what the operation does (`Implements`), every run of
the first is a run of the second in which each operation is a stretch of the statements and
commits of its call (`Expands`), and calls end in the same order (`exec_of_atomic`). There a
call gets the draws of its operations when it starts, so they are collected from the rest of
the run (`drawsOf`).
-/
namespace RealtimeGameServer.Lib

namespace Calls

/-- The outcome with the place translated. -/
def Next.at {P P' ρ τ : Type*} (enter : P → P') : Next P ρ τ → Next P' ρ τ
  | .goes place => .goes (enter place)
  | .returns result => .returns result
  | .throws reason => .throws reason

/-- What an event draws for the call. -/
def Event.drawFor {C D τ : Type*} (number : Nat) : Event C D τ → Option D
  | .operation i draw => if i = number then some draw else none
  | _ => none

/-- The draws of the operations of a call, in their order. -/
def drawsOf {C D τ : Type*} (number : Nat) (events : List (Event C D τ)) : List D :=
  events.filterMap (Event.drawFor number)

theorem drawsOf_of_none {C D τ : Type*} {number : Nat} {event : Event C D τ}
    (h : event.drawFor number = none) (rest : List (Event C D τ)) :
    drawsOf number (event :: rest) = drawsOf number rest := List.filterMap_cons_none h

theorem drawsOf_operation {C D τ : Type*} (number : Nat) (draw : D) (rest : List (Event C D τ)) :
    drawsOf number (.operation number draw :: rest) = draw :: drawsOf number rest :=
  List.filterMap_cons_some (if_pos rfl)

/-- What a call that has ended returned. -/
def returned {C ρ τ : Type*} (e : Nat × C × Except τ ρ) : Option (Nat × C × ρ) :=
  match e.2.2 with
  | .ok result => some (e.1, e.2.1, result)
  | .error _ => none

/-- Why a call that has ended threw. -/
def thrown {C ρ τ : Type*} (e : Nat × C × Except τ ρ) : Option (Nat × C × τ) :=
  match e.2.2 with
  | .ok _ => none
  | .error reason => some (e.1, e.2.1, reason)

end Calls

namespace ReadCommitted
variable {σ ε κ C P ρ τ : Type*}

/-- From a place with uncommitted effects a call gets, with nothing in between, to where
everything is committed: it throws, goes on at a place or returns. -/
inductive Stretch (T : Protocol σ ε κ C P ρ τ) : P → List ε → σ → σ → Calls.Next P ρ τ → Prop
  | throws {place pending store reason} (follow : T.follow place = .statement)
      (run : T.run place (pending.foldl T.apply store) = .throws reason) :
      Stretch T place pending store store (.throws reason)
  | continues {place pending store effects next last outcome}
      (follow : T.follow place = .statement)
      (run : T.run place (pending.foldl T.apply store) = .continues effects next)
      (rest : Stretch T next (pending ++ effects) store last outcome) :
      Stretch T place pending store last outcome
  | commits {place pending store next} (follow : T.follow place = .commitThen next) :
      Stretch T place pending store (pending.foldl T.apply store) (.goes next)
  | goesOn {place pending store next last outcome} (follow : T.follow place = .commitThen next)
      (rest : Stretch T next [] (pending.foldl T.apply store) last outcome) :
      Stretch T place pending store last outcome
  | returns {place pending store result} (follow : T.follow place = .commitReturn result) :
      Stretch T place pending store (pending.foldl T.apply store) (.returns result)

/-- The state after a stretch of a call. -/
def State.arrive (s : State σ ε κ C P ρ τ) (number : Nat) (call : C) (committed : σ) :
    Calls.Next P ρ τ → State σ ε κ C P ρ τ
  | .goes pc =>
    { s with committed, active := s.active.set number { call, pc, pending := [], held := [] } }
  | .returns result =>
    { s with
      committed
      active := s.active.delete number
      succeeded := s.succeeded ++ [(number, call, result)] }
  | .throws reason =>
    { s with
      committed
      active := s.active.delete number
      failed := s.failed ++ [(number, call, reason)] }

theorem arrive_set (s : State σ ε κ C P ρ τ) (number : Nat) (call : C) (middle last : σ)
    (a : Active ε κ C P) (outcome : Calls.Next P ρ τ) :
    ({ s with committed := middle, active := s.active.set number a } :
      State σ ε κ C P ρ τ).arrive number call last outcome = s.arrive number call last outcome := by
  cases outcome <;> simp only [State.arrive, JsMap.set_set, JsMap.delete_set]

/-- The event is a statement or a commit of the call. -/
def Event.isOf (number : Nat) : Event C τ → Bool
  | .statement i | .commit i => i = number
  | .call _ | .abort _ _ => false

/-- The calls that have ended between two states of a run. -/
def State.endedSince (s t : State σ ε κ C P ρ τ) : List (Nat × C × Except τ ρ) :=
  (t.succeeded.drop s.succeeded.length).map (fun r => (r.1, r.2.1, .ok r.2.2)) ++
    (t.failed.drop s.failed.length).map fun r => (r.1, r.2.1, .error r.2.2)

theorem endedSince_of_same {s t : State σ ε κ C P ρ τ} (hsucceeded : t.succeeded = s.succeeded)
    (hfailed : t.failed = s.failed) : s.endedSince t = [] := by
  simp only [State.endedSince, hsucceeded, hfailed, List.drop_length, List.map_nil,
    List.append_nil]

theorem endedSince_arrive (s : State σ ε κ C P ρ τ) (number : Nat) (call : C) (committed : σ)
    (outcome : Calls.Next P ρ τ) :
    s.endedSince (s.arrive number call committed outcome) = outcome.log number call := by
  cases outcome with
  | goes pc => exact endedSince_of_same rfl rfl
  | returns result | throws reason =>
    simp only [State.endedSince, State.arrive, List.drop_left, List.drop_length, List.map_nil,
      List.map_cons, List.append_nil, List.nil_append, Calls.Next.log]

/-- No call but this one holds a lock. -/
def Unlocked (s : State σ ε κ C P ρ τ) (number : Nat) : Prop :=
  ∀ i b, s.active.get i = some b → i ≠ number → b.held = []

theorem Unlocked.set {s : State σ ε κ C P ρ τ} {number : Nat} (h : Unlocked s number)
    (middle : σ) (a : Active ε κ C P) :
    Unlocked ({ s with committed := middle, active := s.active.set number a } :
      State σ ε κ C P ρ τ) number := by
  intro i b hget hne
  rw [JsMap.get_set_of_ne _ hne] at hget
  exact h i b hget hne

variable [DecidableEq κ]

theorem Unlocked.not_blocked {s : State σ ε κ C P ρ τ} {number : Nat} (h : Unlocked s number)
    (locks : List κ) : s.blocked number locks = false := by
  refine List.any_eq_false.mpr fun e he => ?_
  by_cases hne : e.1 = number
  · simp [hne]
  · have hheld := h e.1 e.2 ((JsMap.get_eq_some _ _ _).mpr he) hne
    simp [hheld]

/-- The machine with the log of the calls that have ended, in the order in which they end. -/
def logged (T : Protocol σ ε κ C P ρ τ) :
    Machine (State σ ε κ C P ρ τ × List (Nat × C × Except τ ρ)) (Event C τ) :=
  (machine T).recording fun s event => ((machine T).step s event).elim [] s.endedSince

variable {T : Protocol σ ε κ C P ρ τ}

/-- A step with which no call ends. -/
theorem logged_exec_cons {s t last : State σ ε κ C P ρ τ} {event : Event C τ}
    {rest : List (Event C τ)} {log log' : List (Nat × C × Except τ ρ)}
    (hstep : (machine T).step s event = some t) (hquiet : s.endedSince t = [])
    (hrest : (logged T).exec (t, log) rest = some (last, log')) :
    (logged T).exec (s, log) (event :: rest) = some (last, log') := by
  refine Machine.exec_cons.mpr ⟨(t, log), ?_, hrest⟩
  simp only [logged, Machine.recording, hstep, Option.map_some, Option.elim_some, hquiet,
    List.append_nil]

/-- A step with which a stretch arrives. -/
theorem logged_exec_arrive {s : State σ ε κ C P ρ τ} {event : Event C τ} {number : Nat} {call : C}
    {committed : σ} {outcome : Calls.Next P ρ τ} (log : List (Nat × C × Except τ ρ))
    (hstep : (machine T).step s event = some (s.arrive number call committed outcome)) :
    (logged T).exec (s, log) [event] =
      some (s.arrive number call committed outcome, log ++ outcome.log number call) := by
  refine Machine.exec_cons.mpr ⟨_, ?_, rfl⟩
  simp only [logged, Machine.recording, hstep, Option.map_some, Option.elim_some,
    endedSince_arrive]

/-- A stretch is a run: nobody holds a lock that its statements would wait for. -/
theorem Stretch.exec {place : P} {pending : List ε} {store last : σ} {outcome : Calls.Next P ρ τ}
    (h : Stretch T place pending store last outcome) {s : State σ ε κ C P ρ τ} {number : Nat}
    {call : C} {held : List κ} (hstore : s.committed = store)
    (get : s.active.get number = some ⟨call, place, pending, held⟩)
    (hunlocked : Unlocked s number) (log : List (Nat × C × Except τ ρ)) :
    ∃ events, (∀ event ∈ events, event.isOf number) ∧ (logged T).exec (s, log) events =
      some (s.arrive number call last outcome, log ++ outcome.log number call) := by
  have hisOf : ∀ event, event = .statement number ∨ event = .commit number →
      (event : Event C τ).isOf number := by
    rintro event (rfl | rfl) <;> exact decide_eq_true rfl
  induction h generalizing s held with
  | @throws place pending store reason follow run =>
    subst hstore
    have hrun : T.run place (T.view ⟨call, place, pending, held⟩ s.committed) = .throws reason :=
      run
    refine ⟨[.statement number], List.forall_mem_singleton.mpr (hisOf _ (Or.inl rfl)),
      logged_exec_arrive log ?_⟩
    simp only [machine, step, get, Option.bind_some, stepStatement, follow,
      hunlocked.not_blocked, hrun]
    rfl
  | @continues place pending store effects next last outcome follow run rest ih =>
    subst hstore
    have hrun : T.run place (T.view ⟨call, place, pending, held⟩ s.committed) =
        .continues effects next := run
    have hstep : (machine T).step s (.statement number) = some { s with
        active := s.active.set number ⟨call, next, pending ++ effects,
          held ++ T.needs place (T.view ⟨call, place, pending, held⟩ s.committed)⟩ } := by
      simp only [machine, step, get, Option.bind_some, stepStatement, follow,
        hunlocked.not_blocked, hrun]
      rfl
    obtain ⟨events, hown, hevents⟩ := ih (s := { s with active := s.active.set number _ }) rfl
      (JsMap.get_set_self _ _ _) (hunlocked.set s.committed _)
    rw [arrive_set s number call s.committed] at hevents
    exact ⟨.statement number :: events, List.forall_mem_cons.mpr ⟨hisOf _ (Or.inl rfl), hown⟩,
      logged_exec_cons hstep (endedSince_of_same rfl rfl) hevents⟩
  | @commits place pending store next follow =>
    subst hstore
    refine ⟨[.commit number], List.forall_mem_singleton.mpr (hisOf _ (Or.inr rfl)),
      logged_exec_arrive log ?_⟩
    simp only [machine, step, get, Option.bind_some, stepCommit, follow]
    rfl
  | @goesOn place pending store next last outcome follow rest ih =>
    subst hstore
    have hstep : (machine T).step s (.commit number) = some { s with
        committed := pending.foldl T.apply s.committed
        active := s.active.set number ⟨call, next, [], []⟩ } := by
      simp only [machine, step, get, Option.bind_some, stepCommit, follow]
      rfl
    obtain ⟨events, hown, hevents⟩ := ih
      (s := { s with
        committed := pending.foldl T.apply s.committed
        active := s.active.set number ⟨call, next, [], []⟩ }) rfl
      (JsMap.get_set_self _ _ _) (hunlocked.set _ _)
    rw [arrive_set s number call] at hevents
    exact ⟨.commit number :: events, List.forall_mem_cons.mpr ⟨hisOf _ (Or.inr rfl), hown⟩,
      logged_exec_cons hstep (endedSince_of_same rfl rfl) hevents⟩
  | @returns place pending store result follow =>
    subst hstore
    refine ⟨[.commit number], List.forall_mem_singleton.mpr (hisOf _ (Or.inr rfl)),
      logged_exec_arrive log ?_⟩
    simp only [machine, step, get, Option.bind_some, stepCommit, follow]
    rfl

/-- What becomes of a call when it starts. -/
def Opened (T : Protocol σ ε κ C P ρ τ) (call : C) : Calls.Next P ρ τ → Prop
  | .goes place => T.opens call = .ok place
  | .returns result => ∃ place, T.opens call = .ok place ∧ T.follow place = .commitReturn result
  | .throws reason => T.opens call = .error reason

/-- A call that starts arrives where its opening leads. -/
theorem Opened.exec {s : State σ ε κ C P ρ τ} {call : C} {outcome : Calls.Next P ρ τ}
    (h : Opened T call outcome) (hfresh : s.active.get s.started = none)
    (log : List (Nat × C × Except τ ρ)) :
    ∃ own, (∀ event ∈ own, event.isOf s.started) ∧
      (logged T).exec (s, log) (.call call :: own) =
        some ({ s.arrive s.started call s.committed outcome with started := s.started + 1 },
          log ++ outcome.log s.started call) := by
  cases outcome with
  | goes place =>
    have hopens : T.opens call = .ok place := h
    refine ⟨[], List.forall_mem_nil _,
      logged_exec_cons (step_called hopens) (endedSince_of_same rfl rfl) ?_⟩
    rw [Calls.Next.log, List.append_nil]
    rfl
  | returns result =>
    obtain ⟨place, hopens, hfollow⟩ := h
    have hisOf : (Event.commit s.started : Event C τ).isOf s.started := decide_eq_true rfl
    refine ⟨[.commit s.started], List.forall_mem_singleton.mpr hisOf,
      logged_exec_cons (step_called hopens) (endedSince_of_same rfl rfl) ?_⟩
    let u : State σ ε κ C P ρ τ := { s with
      active := s.active.set s.started ⟨call, place, [], []⟩
      started := s.started + 1 }
    have hcommitted : (machine T).step u (.commit s.started) =
        some (u.arrive s.started call s.committed (.returns result)) := by
      simp only [machine, step, u, JsMap.get_set_self, Option.bind_some, stepCommit, hfollow]
      rfl
    have hlast := logged_exec_arrive log hcommitted
    simp only [u, State.arrive, JsMap.delete_set] at hlast ⊢
    exact hlast
  | throws reason =>
    have hopens : T.opens call = .error reason := h
    have hcalled : (machine T).step s (.call call) = some
        { s.arrive s.started call s.committed (.throws reason) with started := s.started + 1 } := by
      simp only [machine, step, stepCall, hopens, State.arrive,
        (JsMap.delete_eq_self _ _).mpr hfresh]
    refine ⟨[], List.forall_mem_nil _, Machine.exec_cons.mpr ⟨_, ?_, rfl⟩⟩
    have hlog := endedSince_arrive s s.started call s.committed (.throws reason)
    simp only [logged, Machine.recording, hcalled, Option.map_some, Option.elim_some, ← hlog]
    rfl

end ReadCommitted

section Atomic
open Calls (Next drawsOf returned thrown)
variable {σ ε κ C C' D P P' ρ τ : Type*} [DecidableEq κ]

/-- The statements of every operation, with nothing in between, do what the operation does.
`drawn` gives a call its draws, and `enter` is where its statements begin. -/
structure Implements (T : ReadCommitted.Protocol σ ε κ C' P' ρ τ)
    (program : Calls.Program σ C D P ρ τ) (drawn : C → List D → C') (enter : P → List D → P') :
    Prop where
  opens : ∀ call draw draws, ReadCommitted.Opened T (drawn call draws)
    ((program.opens call draw).at fun place => enter place draws)
  run : ∀ place draw draws store,
    ReadCommitted.Stretch T (enter place (draw :: draws)) [] store
      (program.run place draw store).1
      ((program.run place draw store).2.at fun place => enter place draws)

/-- The events of the second run are those of the first, each an opening, a rejection or a
stretch of the statements and commits of its call. The next call has the number. -/
inductive Expands (undrawn : C' → C) :
    Nat → List (Calls.Event C D τ) → List (ReadCommitted.Event C' τ) → Prop
  | done {next} : Expands undrawn next [] []
  | called {next call call' draw stretch events transactions} (same : undrawn call' = call)
      (own : ∀ event ∈ stretch, event.isOf next)
      (rest : Expands undrawn (next + 1) events transactions) :
      Expands undrawn next (.call call draw :: events) ((.call call' :: stretch) ++ transactions)
  | operated {next number draw stretch events transactions}
      (own : ∀ event ∈ stretch, event.isOf number)
      (rest : Expands undrawn next events transactions) :
      Expands undrawn next (.operation number draw :: events) (stretch ++ transactions)
  | rejected {next number reason events transactions}
      (rest : Expands undrawn next events transactions) :
      Expands undrawn next (.reject number reason :: events)
        (.abort number reason :: transactions)

/-- The two states agree, the calls in progress being handed the draws to come; calls have
ended in the same order. -/
structure Agrees (undrawn : C' → C) (enter : P → List D → P') (rest : List (Calls.Event C D τ))
    (s : Calls.State σ C P ρ τ) (t : ReadCommitted.State σ ε κ C' P' ρ τ)
    (log : List (Nat × C' × Except τ ρ)) : Prop where
  committed : t.committed = s.store
  started : t.started = s.started
  active : ∀ i a, s.active.get i = some a → ∃ call, undrawn call = a.call ∧
    t.active.get i = some ⟨call, enter a.place (drawsOf i rest), [], []⟩
  idle : ∀ i, s.active.get i = none → t.active.get i = none
  succeeded : t.succeeded.map (fun r => (r.1, undrawn r.2.1, r.2.2)) = s.ended.filterMap returned
  failed : t.failed.map (fun r => (r.1, undrawn r.2.1, r.2.2)) = s.ended.filterMap thrown
  ended : log.map (fun e => (e.1, undrawn e.2.1, e.2.2)) = s.ended

variable {undrawn : C' → C} {enter : P → List D → P'} {rest rest' : List (Calls.Event C D τ)}
  {s : Calls.State σ C P ρ τ} {t : ReadCommitted.State σ ε κ C' P' ρ τ}
  {log : List (Nat × C' × Except τ ρ)}

omit [DecidableEq κ] in
theorem Agrees.unlocked (h : Agrees undrawn enter rest s t log) (number : Nat) :
    ReadCommitted.Unlocked t number := by
  intro i b hget _
  cases hold : s.active.get i with
  | none =>
    rw [h.idle i hold] at hget
    cases hget
  | some a =>
    obtain ⟨call, -, hactive⟩ := h.active i a hold
    cases hactive.symm.trans hget
    rfl

omit [DecidableEq κ] in
/-- Where the other calls get the same draws as before, an answer leads to states that agree. -/
theorem Agrees.proceed (h : Agrees undrawn enter rest s t log) (number : Nat) {call : C}
    {call' : C'} (hcall : undrawn call' = call) (store : σ) (next : Next P ρ τ)
    (hdraws : ∀ i, i ≠ number → drawsOf i rest = drawsOf i rest') :
    Agrees undrawn enter rest' (s.proceed number call store next)
      (t.arrive number call' store (next.at fun place => enter place (drawsOf number rest')))
      (log ++ (next.at fun place => enter place (drawsOf number rest')).log number call') := by
  have hactive : ∀ i a, i ≠ number → s.active.get i = some a → ∃ call, undrawn call = a.call ∧
      t.active.get i = some ⟨call, enter a.place (drawsOf i rest'), [], []⟩ := by
    intro i a hne hget
    rw [← hdraws i hne]
    exact h.active i a hget
  have hkept : ∀ i, i ≠ number →
      (t.arrive number call' store (next.at fun place =>
        enter place (drawsOf number rest'))).active.get i = t.active.get i := by
    intro i hne
    cases next with
    | goes place => exact JsMap.get_set_of_ne _ hne _
    | returns result | throws reason =>
      simp only [Next.at, ReadCommitted.State.arrive, JsMap.get_delete]
      exact if_neg hne
  constructor
  case committed => cases next <;> rfl
  case started => cases next <;> exact h.started
  case active =>
    intro i b hget
    rcases Calls.get_proceed hget with ⟨hne, hold⟩ | ⟨rfl, place, rfl, rfl⟩
    · rw [hkept i hne]
      exact hactive i b hne hold
    · exact ⟨call', hcall, JsMap.get_set_self _ _ _⟩
  case idle =>
    intro i hget
    by_cases hne : i = number
    · subst hne
      rw [Calls.get_proceed_self] at hget
      cases next with
      | goes place => cases hget
      | returns result | throws reason =>
        simp only [Next.at, ReadCommitted.State.arrive, JsMap.get_delete, if_true]
    · rw [Calls.get_proceed_of_ne s hne] at hget
      rw [hkept i hne]
      exact h.idle i hget
  case succeeded =>
    rw [Calls.ended_proceed, List.filterMap_append, ← h.succeeded, ← hcall]
    cases next with
    | goes place | throws reason => exact (List.append_nil _).symm
    | returns result => exact List.map_append
  case failed =>
    rw [Calls.ended_proceed, List.filterMap_append, ← h.failed, ← hcall]
    cases next with
    | goes place | returns result => exact (List.append_nil _).symm
    | throws reason => exact List.map_append
  case ended =>
    rw [Calls.ended_proceed, List.map_append, h.ended, ← hcall]
    cases next <;> rfl

variable {T : ReadCommitted.Protocol σ ε κ C' P' ρ τ} {program : Calls.Program σ C D P ρ τ}
  {drawn : C → List D → C'}

/-- A call starts in both runs. -/
theorem Implements.called (h : Implements T program drawn enter)
    (hundrawn : ∀ call draws, undrawn (drawn call draws) = call) {call : C} {draw : D}
    (hagrees : Agrees undrawn enter (.call call draw :: rest) s t log)
    (hfresh : s.active.get s.started = none) : ∃ own t' log',
      (∀ event ∈ own, event.isOf t.started) ∧ (ReadCommitted.logged T).exec (t, log)
        (.call (drawn call (drawsOf s.started rest)) :: own) = some (t', log') ∧
      Agrees undrawn enter rest { s.proceed s.started call s.store (program.opens call draw) with
        started := s.started + 1 } t' log' := by
  have hopened := h.opens call draw (drawsOf s.started rest)
  obtain ⟨own, hown, hexec⟩ := hopened.exec
    (hagrees.started ▸ hagrees.idle _ hfresh : t.active.get t.started = none) log
  have hsame : ∀ i, i ≠ s.started → drawsOf i (.call call draw :: rest) = drawsOf i rest :=
    fun _ _ => rfl
  have hproceed := hagrees.proceed s.started (hundrawn call (drawsOf s.started rest)) s.store
    (program.opens call draw) hsame
  refine ⟨own, _, _, hown, hexec, ?_⟩
  rw [hagrees.started, hagrees.committed]
  exact ⟨hproceed.committed, rfl, hproceed.active, hproceed.idle, hproceed.succeeded,
    hproceed.failed, hproceed.ended⟩

/-- An operation of the first run is a stretch of the second. -/
theorem Implements.operated (h : Implements T program drawn enter) {number : Nat} {draw : D}
    (hagrees : Agrees undrawn enter (.operation number draw :: rest) s t log)
    {a : Calls.InProgress C P} (get : s.active.get number = some a) {store : σ}
    {next : Next P ρ τ} (hrun : program.run a.place draw s.store = (store, next)) :
    ∃ own t' log', (∀ event ∈ own, event.isOf number) ∧
      (ReadCommitted.logged T).exec (t, log) own = some (t', log') ∧
      Agrees undrawn enter rest (s.proceed number a.call store next) t' log' := by
  obtain ⟨call, hcall, hactive⟩ := hagrees.active number a get
  have hstretch := h.run a.place draw (drawsOf number rest) s.store
  rw [hrun] at hstretch
  rw [Calls.drawsOf_operation] at hactive
  obtain ⟨own, hown, hexec⟩ :=
    hstretch.exec hagrees.committed hactive (hagrees.unlocked number) log
  refine ⟨own, _, _, hown, hexec, hagrees.proceed number hcall store next fun i hne => ?_⟩
  have hnone : (Calls.Event.operation number draw : Calls.Event C D τ).drawFor i = none :=
    if_neg hne.symm
  exact Calls.drawsOf_of_none hnone rest

/-- A rejected operation aborts the call. -/
theorem Agrees.rejected {number : Nat} {reason : τ}
    (hagrees : Agrees undrawn enter (.reject number reason :: rest) s t log)
    {a : Calls.InProgress C P} (get : s.active.get number = some a) : ∃ t' log',
      (ReadCommitted.logged T).exec (t, log) [.abort number reason] = some (t', log') ∧
      Agrees undrawn enter rest (s.proceed number a.call s.store (.throws reason)) t' log' := by
  obtain ⟨call, hcall, hactive⟩ := hagrees.active number a get
  have hthrow : (ReadCommitted.machine T).step t (.abort number reason) =
      some (t.arrive number call s.store (.throws reason)) := by
    rw [← hagrees.committed]
    simp only [ReadCommitted.machine, ReadCommitted.step, hactive, Option.map_some]
    rfl
  refine ⟨_, _, ReadCommitted.logged_exec_arrive log hthrow, ?_⟩
  exact hagrees.proceed number hcall s.store (.throws reason) fun _ _ => rfl

/-- Every run of the atomic operations is a run of the transactions. -/
theorem Implements.exec_of_atomic (h : Implements T program drawn enter)
    (hundrawn : ∀ call draws, undrawn (drawn call draws) = call)
    {events : List (Calls.Event C D τ)} {s' : Calls.State σ C P ρ τ}
    (hagrees : Agrees undrawn enter events s t log) (hnumbered : Calls.Numbered s)
    (hexec : (Calls.machine program).exec s events = some s') : ∃ transactions t' log',
      Expands undrawn s.started events transactions ∧
      (ReadCommitted.logged T).exec (t, log) transactions = some (t', log') ∧
      Agrees undrawn enter [] s' t' log' := by
  induction events generalizing s t log with
  | nil =>
    cases hexec
    exact ⟨[], t, log, .done, rfl, hagrees⟩
  | cons event rest ih =>
    obtain ⟨u, hstep, hrest⟩ := Machine.exec_cons.mp hexec
    have hsteps := Calls.step_cases hstep
    have hnext := hnumbered.step hsteps
    cases hsteps with
    | @called call draw =>
      have hfresh : s.active.get s.started = none :=
        Option.eq_none_iff_forall_ne_some.mpr fun a hget => Nat.lt_irrefl _ (hnumbered _ a hget)
      obtain ⟨own, t', log', hown, hfirst, hnow⟩ := h.called hundrawn hagrees hfresh
      obtain ⟨more, t'', log'', hexpands, hmore, hlast⟩ := ih hnow hnext hrest
      rw [hagrees.started] at hown
      exact ⟨_, t'', log'', .called (hundrawn call _) hown hexpands,
        Machine.exec_append.mpr ⟨_, hfirst, hmore⟩, hlast⟩
    | @operated number draw a store next get hrun =>
      obtain ⟨own, t', log', hown, hfirst, hnow⟩ := h.operated hagrees get hrun
      obtain ⟨more, t'', log'', hexpands, hmore, hlast⟩ := ih hnow hnext hrest
      rw [Calls.started_proceed] at hexpands
      exact ⟨_, t'', log'', .operated hown hexpands, Machine.exec_append.mpr ⟨_, hfirst, hmore⟩,
        hlast⟩
    | @rejected number reason a get =>
      obtain ⟨t', log', hfirst, hnow⟩ := hagrees.rejected (T := T) get
      obtain ⟨more, t'', log'', hexpands, hmore, hlast⟩ := ih hnow hnext hrest
      rw [Calls.started_proceed] at hexpands
      exact ⟨_, t'', log'', .rejected hexpands, Machine.exec_append.mpr ⟨_, hfirst, hmore⟩, hlast⟩

omit [DecidableEq κ] in
theorem agrees_start (undrawn : C' → C) (enter : P → List D → P')
    (events : List (Calls.Event C D τ)) (store : σ) :
    Agrees undrawn enter events (Calls.start store : Calls.State σ C P ρ τ)
      (ReadCommitted.start store : ReadCommitted.State σ ε κ C' P' ρ τ) [] where
  committed := rfl
  started := rfl
  active _ _ hget := by cases hget
  idle _ _ := rfl
  succeeded := rfl
  failed := rfl
  ended := rfl

end Atomic
end RealtimeGameServer.Lib
