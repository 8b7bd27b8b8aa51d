import Mathlib.Data.List.Perm.Basic
import RealtimeGameServer.Lib.JsMap
import RealtimeGameServer.Lib.Machine

/-!
# Concurrent calls that interleave between atomic operations

A call runs through places. At each place it issues one atomic operation on a
shared store, and with the answer it goes on, returns or throws. Operations of
different calls interleave freely; what an operation reads from outside (a
clock, a drawn identifier) is in its label, and an operation may be rejected
without an effect.

The rule `along_of_rule` proves a property of the store and of the log of ended
calls from what each call knows at its place. What a call knows must survive the
operations of the others, which move the store along a relation (`le`).
-/
namespace RealtimeGameServer.Lib

namespace Calls

/-- What a call does with an answer. -/
inductive Next (P ρ τ : Type*) where
  | goes (place : P)
  | returns (result : ρ)
  | throws (reason : τ)
  deriving Repr

/-- The calls `C` with places `P`, results `ρ` and errors `τ`, over a store `σ`, with
draws `D`. `opens` is what runs before the first operation. -/
structure Program (σ C D P ρ τ : Type*) where
  opens : C → D → Next P ρ τ
  run : P → D → σ → σ × Next P ρ τ

structure InProgress (C P : Type*) where
  call : C
  place : P

/-- The store, the calls in progress by number, and the ended ones in the order
in which they ended. -/
structure State (σ C P ρ τ : Type*) where
  store : σ
  active : JsMap Nat (InProgress C P)
  ended : List (Nat × C × Except τ ρ)
  started : Nat

inductive Event (C D τ : Type*) where
  | call (call : C) (draw : D)
  | operation (number : Nat) (draw : D)
  | reject (number : Nat) (reason : τ)
  deriving Repr

variable {σ C D P ρ τ : Type*}

def start (store : σ) : State σ C P ρ τ where
  store
  active := JsMap.empty
  ended := []
  started := 0

/-- The state after a call got an answer that leaves the store at `store`. -/
def State.proceed (s : State σ C P ρ τ) (number : Nat) (call : C) (store : σ) :
    Next P ρ τ → State σ C P ρ τ
  | .goes place => { s with store, active := s.active.set number { call, place } }
  | .returns result =>
    { s with
      store
      active := s.active.delete number
      ended := s.ended ++ [(number, call, .ok result)] }
  | .throws reason =>
    { s with
      store
      active := s.active.delete number
      ended := s.ended ++ [(number, call, .error reason)] }

variable (T : Program σ C D P ρ τ)

def step (s : State σ C P ρ τ) : Event C D τ → Option (State σ C P ρ τ)
  | .call call draw =>
    some { s.proceed s.started call s.store (T.opens call draw) with started := s.started + 1 }
  | .operation number draw => (s.active.get number).map fun a =>
    s.proceed number a.call (T.run a.place draw s.store).1 (T.run a.place draw s.store).2
  | .reject number reason => (s.active.get number).map fun a =>
    s.proceed number a.call s.store (.throws reason)

def machine : Machine (State σ C P ρ τ) (Event C D τ) where
  step := step T

/-- Everything a step can do. -/
inductive Steps (s : State σ C P ρ τ) : Event C D τ → State σ C P ρ τ → Prop
  | called {call draw} : Steps s (.call call draw)
      { s.proceed s.started call s.store (T.opens call draw) with started := s.started + 1 }
  | operated {number draw a store next} (get : s.active.get number = some a)
      (run : T.run a.place draw s.store = (store, next)) :
      Steps s (.operation number draw) (s.proceed number a.call store next)
  | rejected {number reason a} (get : s.active.get number = some a) :
      Steps s (.reject number reason) (s.proceed number a.call s.store (.throws reason))

variable {T}

theorem step_cases {s t : State σ C P ρ τ} {event : Event C D τ}
    (h : (machine T).step s event = some t) : Steps T s event t := by
  cases event with
  | call call draw =>
    cases h
    exact .called
  | operation number draw =>
    obtain ⟨a, hget, h⟩ := Option.map_eq_some_iff.mp h
    cases h
    exact .operated hget rfl
  | reject number reason =>
    obtain ⟨a, hget, h⟩ := Option.map_eq_some_iff.mp h
    cases h
    exact .rejected hget

/-- A log grown by how a call ended, if it ended. -/
def Next.log (number : Nat) (call : C) : Next P ρ τ → List (Nat × C × Except τ ρ)
  | .goes _ => []
  | .returns result => [(number, call, .ok result)]
  | .throws reason => [(number, call, .error reason)]

theorem store_proceed (s : State σ C P ρ τ) (number : Nat) (call : C) (store : σ)
    (next : Next P ρ τ) : (s.proceed number call store next).store = store := by
  cases next <;> rfl

theorem started_proceed (s : State σ C P ρ τ) (number : Nat) (call : C) (store : σ)
    (next : Next P ρ τ) : (s.proceed number call store next).started = s.started := by
  cases next <;> rfl

theorem ended_proceed (s : State σ C P ρ τ) (number : Nat) (call : C) (store : σ)
    (next : Next P ρ τ) :
    (s.proceed number call store next).ended = s.ended ++ next.log number call := by
  cases next with
  | goes place => exact (List.append_nil _).symm
  | returns result => rfl
  | throws reason => rfl

/-- A call in progress after the answer is one from before, or the one that got
the answer, at its new place. -/
theorem get_proceed {s : State σ C P ρ τ} {number i : Nat} {call : C} {store : σ}
    {next : Next P ρ τ} {b : InProgress C P}
    (h : (s.proceed number call store next).active.get i = some b) :
    (i ≠ number ∧ s.active.get i = some b) ∨
      (i = number ∧ ∃ place, next = .goes place ∧ b = { call, place }) := by
  cases next with
  | goes place =>
    rcases JsMap.get_set_cases h with ⟨heq, rfl⟩ | hold
    · exact Or.inr ⟨heq, place, rfl, rfl⟩
    · exact Or.inl hold
  | _ => exact Or.inl (JsMap.get_delete_cases h)

theorem get_proceed_of_ne (s : State σ C P ρ τ) {number i : Nat} (h : i ≠ number) (call : C)
    (store : σ) (next : Next P ρ τ) :
    (s.proceed number call store next).active.get i = s.active.get i := by
  cases next with
  | goes place => exact JsMap.get_set_of_ne _ h _
  | _ =>
    simp only [State.proceed, JsMap.get_delete]
    exact if_neg h

/-- The place of a call after its answer. -/
def Next.place? : Next P ρ τ → Option P
  | .goes place => some place
  | _ => none

theorem get_proceed_self (s : State σ C P ρ τ) (number : Nat) (call : C) (store : σ)
    (next : Next P ρ τ) : (s.proceed number call store next).active.get number =
      next.place?.map fun place => { call, place } := by
  cases next with
  | goes place => exact JsMap.get_set_self _ _ _
  | _ => simp only [State.proceed, JsMap.get_delete, if_true, Next.place?, Option.map_none]

/-- The log grows at its end. -/
theorem Steps.ended {s t : State σ C P ρ τ} {event : Event C D τ} (h : Steps T s event t) :
    ∃ more, t.ended = s.ended ++ more := by
  cases h with
  | called => exact ⟨_, ended_proceed _ _ _ _ _⟩
  | operated get run => exact ⟨_, ended_proceed _ _ _ _ _⟩
  | rejected get => exact ⟨_, ended_proceed _ _ _ _ _⟩

/-- Calls in progress have numbers that were given out. -/
def Numbered (s : State σ C P ρ τ) : Prop := ∀ i a, s.active.get i = some a → i < s.started

/-- After the state `t`, a number in progress since then is the same call. -/
structure Since (t s : State σ C P ρ τ) : Prop where
  started : t.started ≤ s.started
  same : ∀ i a b, t.active.get i = some a → s.active.get i = some b → b.call = a.call

theorem Numbered.proceed {s : State σ C P ρ τ} (h : Numbered s) {number : Nat}
    {a : InProgress C P} (get : s.active.get number = some a) (store : σ) (next : Next P ρ τ) :
    Numbered (s.proceed number a.call store next) := by
  intro i b hi
  rw [started_proceed]
  rcases get_proceed hi with ⟨-, hold⟩ | ⟨rfl, -⟩
  · exact h i b hold
  · exact h i a get

theorem Numbered.step {s t : State σ C P ρ τ} {event : Event C D τ} (h : Numbered s)
    (hstep : Steps T s event t) : Numbered t := by
  cases hstep with
  | called =>
    intro i b hi
    rcases get_proceed hi with ⟨-, hold⟩ | ⟨heq, -⟩
    · exact Nat.lt_succ_of_lt (h i b hold)
    · exact heq ▸ Nat.lt_succ_self _
  | operated get run => exact h.proceed get _ _
  | rejected get => exact h.proceed get _ _

theorem numbered_along (store : σ) (events : List (Event C D τ)) :
    (machine T).Along Numbered (start store) events :=
  Machine.along_of_invariant (fun _ _ _ h hstep => h.step (step_cases hstep)) events nofun

theorem Since.refl (t : State σ C P ρ τ) : Since t t where
  started := Nat.le_refl _
  same i a b ha hb := by rw [Option.some.inj (ha.symm.trans hb)]

theorem Since.proceed {base s : State σ C P ρ τ} (h : Since base s) {number : Nat}
    {a : InProgress C P} (get : s.active.get number = some a) (store : σ) (next : Next P ρ τ) :
    Since base (s.proceed number a.call store next) where
  started := by
    rw [started_proceed]
    exact h.started
  same i b c hb hc := by
    rcases get_proceed hc with ⟨-, hold⟩ | ⟨rfl, place, -, rfl⟩
    · exact h.same i b c hb hold
    · exact h.same i b a hb get

theorem Since.step {base s t : State σ C P ρ τ} {event : Event C D τ} (hbase : Numbered base)
    (h : Since base s) (hstep : Steps T s event t) : Since base t := by
  cases hstep with
  | called =>
    constructor
    case started => exact Nat.le_succ_of_le h.started
    case same =>
      intro i a b ha hb
      rcases get_proceed hb with ⟨-, hold⟩ | ⟨heq, -⟩
      · exact h.same i a b ha hold
      · -- the call that has just started has a number none of `base` has
        have hlt : i < base.started := hbase i a ha
        have hge : base.started ≤ s.started := h.started
        omega
  | operated get run => exact h.proceed get _ _
  | rejected get => exact h.proceed get _ _

/-- The call an event starts. -/
def Event.issues : Event C D τ → Option C
  | .call c _ => some c
  | _ => none

/-- The calls of a run in the order of their numbers. -/
def issued (events : List (Event C D τ)) : List C := events.filterMap Event.issues

/-- Every call issued is in progress or has ended, under its number, and no number has
ended twice. -/
structure Accounted (calls : List C) (s : State σ C P ρ τ) : Prop where
  started : s.started = calls.length
  active : ∀ i a, s.active.get i = some a →
    calls[i]? = some a.call ∧ ∀ e ∈ s.ended, e.1 ≠ i
  ended : ∀ e ∈ s.ended, calls[e.1]? = some e.2.1
  once : (s.ended.map Prod.fst).Nodup
  complete : ∀ i < s.started, (∃ a, s.active.get i = some a) ∨ ∃ e ∈ s.ended, e.1 = i

theorem Accounted.lt_of_ended {calls : List C} {s : State σ C P ρ τ} (h : Accounted calls s)
    {e : Nat × C × Except τ ρ} (he : e ∈ s.ended) : e.1 < s.started := by
  rw [h.started]
  exact (List.getElem?_eq_some_iff.mp (h.ended e he)).1

theorem Accounted.lt_of_active {calls : List C} {s : State σ C P ρ τ} (h : Accounted calls s)
    {i : Nat} {a : InProgress C P} (get : s.active.get i = some a) : i < s.started := by
  rw [h.started]
  exact (List.getElem?_eq_some_iff.mp (h.active i a get).1).1

theorem Next.mem_log {next : Next P ρ τ} {number : Nat} {call : C} {e : Nat × C × Except τ ρ}
    (h : e ∈ next.log number call) : e.1 = number ∧ e.2.1 = call ∧ next.place? = none := by
  cases next with
  | goes place => cases h
  | returns result | throws reason =>
    cases List.mem_singleton.mp h
    exact ⟨rfl, rfl, rfl⟩

/-- A call that has not ended gets an answer: it is at its new place or has ended. -/
theorem Accounted.proceed {calls : List C} {s : State σ C P ρ τ}
    (active : ∀ i a, s.active.get i = some a →
      calls[i]? = some a.call ∧ ∀ e ∈ s.ended, e.1 ≠ i)
    (ended : ∀ e ∈ s.ended, calls[e.1]? = some e.2.1) (once : (s.ended.map Prod.fst).Nodup)
    {number : Nat} {call : C} (issued : calls[number]? = some call)
    (open_ : ∀ e ∈ s.ended, e.1 ≠ number)
    (complete : ∀ i < calls.length, i ≠ number →
      (∃ a, s.active.get i = some a) ∨ ∃ e ∈ s.ended, e.1 = i)
    (store : σ) (next : Next P ρ τ) {t : State σ C P ρ τ}
    (hactive : t.active = (s.proceed number call store next).active)
    (hended : t.ended = (s.proceed number call store next).ended)
    (hstarted : t.started = calls.length) : Accounted calls t where
  started := hstarted
  active := by
    intro i b hget
    rw [hactive] at hget
    rw [hended, ended_proceed]
    rcases get_proceed hget with ⟨hne, hold⟩ | ⟨rfl, place, rfl, rfl⟩
    · obtain ⟨hcall, hapart⟩ := active i b hold
      refine ⟨hcall, fun e he => ?_⟩
      rcases List.mem_append.mp he with he | he
      · exact hapart e he
      · rw [(Next.mem_log he).1]
        exact hne.symm
    · refine ⟨issued, fun e he => ?_⟩
      rcases List.mem_append.mp he with he | he
      · exact open_ e he
      · cases he
  ended := by
    intro e he
    rw [hended, ended_proceed] at he
    rcases List.mem_append.mp he with he | he
    · exact ended e he
    · obtain ⟨hnumber, hcall, -⟩ := Next.mem_log he
      rw [hnumber, hcall]
      exact issued
  once := by
    rw [hended, ended_proceed, List.map_append]
    refine List.Nodup.append once ?_ ?_
    · cases next <;> simp [Next.log]
    · intro i hi hj
      obtain ⟨e, he, rfl⟩ := List.mem_map.mp hi
      obtain ⟨f, hf, hef⟩ := List.mem_map.mp hj
      exact open_ e he (hef.symm.trans (Next.mem_log hf).1)
  complete := by
    intro i hi
    rw [hstarted] at hi
    rw [hactive, hended, ended_proceed]
    by_cases heq : i = number
    · subst heq
      rw [get_proceed_self]
      cases next with
      | goes place => exact Or.inl ⟨_, rfl⟩
      | returns result | throws reason =>
        exact Or.inr ⟨_, List.mem_append_right _ (List.mem_singleton_self _), rfl⟩
    · rw [get_proceed_of_ne s heq]
      rcases complete i hi heq with hactive | ⟨e, he, hei⟩
      · exact Or.inl hactive
      · exact Or.inr ⟨e, List.mem_append_left _ he, hei⟩

theorem Accounted.step {calls : List C} {s t : State σ C P ρ τ} {event : Event C D τ}
    (h : Accounted calls s) (hstep : Steps T s event t) :
    Accounted (calls ++ event.issues.toList) t := by
  have hanswer : ∀ {number : Nat} {a : InProgress C P}, s.active.get number = some a →
      ∀ (store : σ) (next : Next P ρ τ), Accounted calls (s.proceed number a.call store next) := by
    intro number a get store next
    obtain ⟨hcall, hopen⟩ := h.active number a get
    refine .proceed h.active h.ended h.once hcall hopen ?_ store next rfl rfl ?_
    · exact fun i hi _ => h.complete i (h.started ▸ hi)
    · rw [started_proceed]
      exact h.started
  cases hstep with
  | @called call draw =>
    have hold : ∀ {i : Nat} {other : C}, calls[i]? = some other →
        (calls ++ [call])[i]? = some other := by
      intro i other hget
      rw [List.getElem?_append_left (List.getElem?_eq_some_iff.mp hget).1, hget]
    have hfresh : ∀ e ∈ s.ended, e.1 ≠ s.started := fun e he => Nat.ne_of_lt (h.lt_of_ended he)
    refine .proceed (fun i a hget => ⟨hold (h.active i a hget).1, (h.active i a hget).2⟩)
      (fun e he => hold (h.ended e he)) h.once ?_ hfresh ?_ s.store (T.opens call draw) rfl rfl ?_
    · rw [h.started]
      exact List.getElem?_concat_length
    · intro i hi hne
      refine h.complete i ?_
      have hstarted := h.started
      simp only [List.length_append, List.length_singleton] at hi
      omega
    · rw [List.length_append, h.started]
      rfl
  | operated get run =>
    rw [show (Event.operation _ _ : Event C D τ).issues = none from rfl, Option.toList_none,
      List.append_nil]
    exact hanswer get _ _
  | rejected get =>
    rw [show (Event.reject _ _ : Event C D τ).issues = none from rfl, Option.toList_none,
      List.append_nil]
    exact hanswer get _ _

theorem accounted_start (store : σ) : Accounted [] (start store : State σ C P ρ τ) :=
  ⟨rfl, nofun, nofun, List.nodup_nil, nofun⟩

theorem accounted_exec {store : σ} {events : List (Event C D τ)} {s : State σ C P ρ τ}
    (h : (machine T).exec (start store) events = some s) : Accounted (issued events) s := by
  have general : ∀ (events : List (Event C D τ)) (calls : List C) (s t : State σ C P ρ τ),
      Accounted calls s → (machine T).exec s events = some t →
        Accounted (calls ++ issued events) t := by
    intro events
    induction events with
    | nil =>
      intro calls s t hs ht
      cases ht
      simpa [issued] using hs
    | cons event rest ih =>
      intro calls s t hs ht
      obtain ⟨u, hu, hrest⟩ := Machine.exec_cons.mp ht
      have htail := ih _ _ _ (hs.step (step_cases hu)) hrest
      have hissued : calls ++ event.issues.toList ++ issued rest = calls ++ issued (event :: rest) := by
        rw [List.append_assoc, issued, issued, List.filterMap_cons]
        cases event.issues <;> rfl
      rwa [hissued] at htail
  exact general events [] _ _ (accounted_start store) h

/-- Where no call is in progress, the calls that have ended are those issued. -/
theorem Accounted.perm {calls : List C} {s : State σ C P ρ τ} (h : Accounted calls s)
    (idle : s.active.keys = []) : (s.ended.map fun e => e.2.1).Perm calls := by
  have hnumbers : (s.ended.map Prod.fst).Perm (List.range calls.length) := by
    refine (List.perm_ext_iff_of_nodup h.once List.nodup_range).mpr fun i => ?_
    rw [List.mem_range, List.mem_map]
    constructor
    · rintro ⟨e, he, rfl⟩
      exact (List.getElem?_eq_some_iff.mp (h.ended e he)).1
    · intro hi
      rcases h.complete i (h.started ▸ hi) with ⟨a, hget⟩ | hended
      · have hmem : i ∈ s.active.keys := (JsMap.mem_keys _ _).mpr ⟨a, hget⟩
        rw [idle] at hmem
        cases hmem
      · exact hended
  have hended : (s.ended.map Prod.fst).map (calls[·]?) = (s.ended.map fun e => e.2.1).map some := by
    rw [List.map_map, List.map_map]
    exact List.map_congr_left h.ended
  have hcalls : (List.range calls.length).map (calls[·]?) = calls.map some := by
    apply List.ext_getElem?
    intro i
    by_cases hi : i < calls.length
    · simp [hi]
    · simp [hi]
  have hperm := hnumbers.map (calls[·]?)
  rw [hended, hcalls] at hperm
  exact (List.map_perm_map_iff fun _ _ => Option.some.inj).mp hperm

/-- The call with the number is in progress or has ended. -/
def Called (s : State σ C P ρ τ) (number : Nat) (call : C) : Prop :=
  (∃ place, s.active.get number = some ⟨call, place⟩) ∨ ∃ result, (number, call, result) ∈ s.ended

theorem Called.proceed {s : State σ C P ρ τ} {number : Nat} {a : InProgress C P}
    (get : s.active.get number = some a) (store : σ) (next : Next P ρ τ) {i : Nat} {call : C}
    (h : Called s i call) : Called (s.proceed number a.call store next) i call := by
  rcases h with ⟨place, hget⟩ | ⟨result, hmem⟩
  · by_cases heq : i = number
    · subst heq
      cases get.symm.trans hget
      cases next with
      | goes place => exact Or.inl ⟨place, JsMap.get_set_self _ _ _⟩
      | returns result =>
        exact Or.inr ⟨.ok result, List.mem_append_right _ (List.mem_singleton_self _)⟩
      | throws reason =>
        exact Or.inr ⟨.error reason, List.mem_append_right _ (List.mem_singleton_self _)⟩
    · refine Or.inl ⟨place, ?_⟩
      rw [get_proceed_of_ne s heq]
      exact hget
  · refine Or.inr ⟨result, ?_⟩
    rw [ended_proceed]
    exact List.mem_append_left _ hmem

theorem Called.step {s t : State σ C P ρ τ} {event : Event C D τ} (hnumbered : Numbered s)
    (hstep : Steps T s event t) {i : Nat} {call : C} (h : Called s i call) : Called t i call := by
  cases hstep with
  | called =>
    rcases h with ⟨place, hget⟩ | ⟨result, hmem⟩
    · refine Or.inl ⟨place, ?_⟩
      dsimp only
      rw [get_proceed_of_ne s (Nat.ne_of_lt (hnumbered i _ hget))]
      exact hget
    · refine Or.inr ⟨result, ?_⟩
      dsimp only
      rw [ended_proceed]
      exact List.mem_append_left _ hmem
  | operated get run => exact h.proceed get _ _
  | rejected get => exact h.proceed get _ _

/-- The numbers are the positions in the run's list of calls. -/
theorem Called.issued {store : σ} {events : List (Event C D τ)} {s : State σ C P ρ τ}
    (hexec : (machine T).exec (start store) events = some s) {i : Nat} {call : C}
    (h : Called s i call) : (Calls.issued events)[i]? = some call := by
  have haccounted := accounted_exec hexec
  rcases h with ⟨place, hget⟩ | ⟨result, hmem⟩
  · exact (haccounted.active i _ hget).1
  · exact haccounted.ended _ hmem

/-- The call is in progress or has ended. -/
def Begun (s : State σ C P ρ τ) (call : C) : Prop :=
  (∃ number place, s.active.get number = some ⟨call, place⟩) ∨
    ∃ number result, (number, call, result) ∈ s.ended

theorem begun_iff {s : State σ C P ρ τ} {call : C} : Begun s call ↔ ∃ number, Called s number call :=
  exists_or.symm

theorem Begun.step {s t : State σ C P ρ τ} {event : Event C D τ} (hnumbered : Numbered s)
    (hstep : Steps T s event t) {call : C} (h : Begun s call) : Begun t call := by
  obtain ⟨number, hcalled⟩ := begun_iff.mp h
  exact begun_iff.mpr ⟨number, hcalled.step hnumbered hstep⟩

/-- What has begun was called in the run. -/
theorem Begun.issued {store : σ} {events : List (Event C D τ)} {s : State σ C P ρ τ}
    (hexec : (machine T).exec (start store) events = some s) {call : C} (h : Begun s call) :
    call ∈ Calls.issued events := by
  obtain ⟨number, hcalled⟩ := begun_iff.mp h
  exact List.mem_of_getElem? (hcalled.issued hexec)

/-- What holds after an answer: of the store and the log in any case, and of the
new place where there is one. -/
structure After (Global : σ → List (Nat × C × Except τ ρ) → Prop) (Local : C → P → σ → Prop)
    (call : C) (store : σ) (log : List (Nat × C × Except τ ρ)) (next : Next P ρ τ) : Prop where
  globally : ∀ number, Global store (log ++ next.log number call)
  locally_ : ∀ place, next = .goes place → Local call place store

/-- What the store satisfies together with the log of ended calls (`Global`), what
a call knows at its place (`Local`), and how operations move the store (`le`). -/
structure Rule (T : Program σ C D P ρ τ) (le : σ → σ → Prop)
    (Global : σ → List (Nat × C × Except τ ρ) → Prop) (Local : C → P → σ → Prop) : Prop where
  refl : ∀ s, le s s
  trans : ∀ s t u, le s t → le t u → le s u
  mono : ∀ call place s t, le s t → Local call place s → Local call place t
  grows : ∀ place draw s, le s (T.run place draw s).1
  opened : ∀ call draw s log, Global s log → After Global Local call s log (T.opens call draw)
  ran : ∀ call place draw s log, Global s log → Local call place s →
    After Global Local call (T.run place draw s).1 log (T.run place draw s).2
  rejected : ∀ call reason number s log, Global s log →
    Global s (log ++ [(number, call, .error reason)])

/-- The invariant of the rule, in the states after `base`. -/
structure Held (le : σ → σ → Prop) (Global : σ → List (Nat × C × Except τ ρ) → Prop)
    (Local : C → P → σ → Prop) (base : σ) (s : State σ C P ρ τ) : Prop where
  reached : le base s.store
  globally : Global s.store s.ended
  locally_ : ∀ number a, s.active.get number = some a → Local a.call a.place s.store

section
variable {le : σ → σ → Prop} {Global : σ → List (Nat × C × Except τ ρ) → Prop}
  {Local : C → P → σ → Prop}

theorem Held.proceed (hrule : Rule T le Global Local) {base : σ} {s : State σ C P ρ τ}
    (h : Held le Global Local base s) (number : Nat) {call : C} {store : σ} {next : Next P ρ τ}
    (hle : le s.store store) (hafter : After Global Local call store s.ended next) :
    Held le Global Local base (s.proceed number call store next) where
  reached := by
    rw [store_proceed]
    exact hrule.trans _ _ _ h.reached hle
  globally := by
    rw [store_proceed, ended_proceed]
    exact hafter.globally number
  locally_ i b hi := by
    rw [store_proceed]
    rcases get_proceed hi with ⟨-, hold⟩ | ⟨-, place, hnext, rfl⟩
    · exact hrule.mono _ _ _ _ hle (h.locally_ i b hold)
    · exact hafter.locally_ place hnext

theorem Held.step (hrule : Rule T le Global Local) {base : σ} {s t : State σ C P ρ τ}
    {event : Event C D τ} (h : Held le Global Local base s) (hstep : Steps T s event t) :
    Held le Global Local base t := by
  cases hstep with
  | @called call draw =>
    have hproceed := h.proceed hrule s.started (hrule.refl _)
      (hrule.opened call draw _ _ h.globally)
    exact ⟨hproceed.reached, hproceed.globally, hproceed.locally_⟩
  | @operated number draw a store next get run =>
    have hle := hrule.grows a.place draw s.store
    have hran := hrule.ran a.call a.place draw _ _ h.globally (h.locally_ _ _ get)
    rw [run] at hle hran
    exact h.proceed hrule number hle hran
  | @rejected number reason a get =>
    have hafter : After Global Local a.call s.store s.ended (.throws reason) := by
      constructor
      case globally =>
        intro i
        exact hrule.rejected a.call reason i _ _ h.globally
      case locally_ =>
        intro place hgoes
        cases hgoes
    exact h.proceed hrule number (hrule.refl _) hafter

/-- A step moves the store along the relation. -/
theorem Rule.moves (hrule : Rule T le Global Local) {s t : State σ C P ρ τ} {event : Event C D τ}
    (hstep : Steps T s event t) : le s.store t.store := by
  cases hstep with
  | called =>
    rw [store_proceed]
    exact hrule.refl _
  | @operated number draw a store next get run =>
    have hle := hrule.grows a.place draw s.store
    rw [store_proceed]
    rwa [run] at hle
  | rejected =>
    rw [store_proceed]
    exact hrule.refl _

theorem along_of_rule (hrule : Rule T le Global Local) {store : σ} (h0 : Global store [])
    (events : List (Event C D τ)) :
    (machine T).Along (Held le Global Local store) (start store) events :=
  Machine.along_of_invariant (fun _ _ _ h hstep => h.step hrule (step_cases hstep)) events
    ⟨hrule.refl _, h0, nofun⟩

/-- The invariant holds again with a later state as its base. -/
theorem Held.rebase (hrule : Rule T le Global Local) {base : σ} {s : State σ C P ρ τ}
    (h : Held le Global Local base s) : Held le Global Local s.store s :=
  ⟨hrule.refl _, h.globally, h.locally_⟩

end

variable (T) in
/-- A call run to its end with nothing in between: its operations get their draws
in order, or the reason why they are rejected. `none` where these do not fit. -/
def finish : Next P ρ τ → List (Except τ D) → σ → Option (σ × Except τ ρ)
  | .returns result, [], s => some (s, .ok result)
  | .throws reason, [], s => some (s, .error reason)
  | .goes place, .ok draw :: rest, s => finish (T.run place draw s).2 rest (T.run place draw s).1
  | .goes _, .error reason :: rest, s => finish (.throws reason) rest s
  | _, _, _ => none

/-- How a call ended, as what it did last. -/
def outcome : Except τ ρ → Next P ρ τ
  | .ok result => .returns result
  | .error reason => .throws reason

/-- The rule for a call alone: what its operations preserve, together with where
the call is, holds where it ends. -/
theorem finish_rule {I : Next P ρ τ → σ → Prop}
    (hran : ∀ place draw s, I (.goes place) s → I (T.run place draw s).2 (T.run place draw s).1)
    (hrejected : ∀ place reason s, I (.goes place) s → I (.throws reason) s)
    {next : Next P ρ τ} {draws : List (Except τ D)} {s t : σ} {result : Except τ ρ}
    (h0 : I next s) (h : finish T next draws s = some (t, result)) : I (outcome result) t := by
  induction draws generalizing next s with
  | nil =>
    cases next with
    | goes place => cases h
    | returns value =>
      cases h
      exact h0
    | throws reason =>
      cases h
      exact h0
  | cons draw rest ih =>
    cases next with
    | goes place =>
      cases draw with
      | ok draw => exact ih (hran place draw s h0) h
      | error reason => exact ih (hrejected place reason s h0) h
    | returns value => cases h
    | throws reason => cases h

theorem finish_returns {value : ρ} {draws : List (Except τ D)} {s t : σ} {result : Except τ ρ}
    (h : finish T (.returns value) draws s = some (t, result)) :
    draws = [] ∧ t = s ∧ result = .ok value := by
  cases draws with
  | nil =>
    cases h
    exact ⟨rfl, rfl, rfl⟩
  | cons draw rest => cases h

theorem finish_throws {reason : τ} {draws : List (Except τ D)} {s t : σ} {result : Except τ ρ}
    (h : finish T (.throws reason) draws s = some (t, result)) :
    draws = [] ∧ t = s ∧ result = .error reason := by
  cases draws with
  | nil =>
    cases h
    exact ⟨rfl, rfl, rfl⟩
  | cons draw rest => cases h

theorem finish_goes {place : P} {draws : List (Except τ D)} {s t : σ} {result : Except τ ρ}
    (h : finish T (.goes place) draws s = some (t, result)) :
    (∃ reason, draws = [.error reason] ∧ t = s ∧ result = .error reason) ∨
      ∃ draw rest, draws = .ok draw :: rest ∧
        finish T (T.run place draw s).2 rest (T.run place draw s).1 = some (t, result) := by
  cases draws with
  | nil => cases h
  | cons draw rest =>
    cases draw with
    | ok draw => exact Or.inr ⟨draw, rest, rfl, h⟩
    | error reason =>
      obtain ⟨rfl, ht, hresult⟩ := finish_throws h
      exact Or.inl ⟨reason, rfl, ht, hresult⟩

/-- Calls that run one after another, each with the draws of its operations. -/
def sequential (T : Program σ C D P ρ τ) (opens : C → Next P ρ τ) :
    Machine σ (C × List (Except τ D)) where
  step s call := (finish T (opens call.1) call.2 s).map Prod.fst

theorem sequential_step {opens : C → Next P ρ τ} {call : C × List (Except τ D)} {s t : σ}
    (h : (sequential T opens).step s call = some t) :
    ∃ result, finish T (opens call.1) call.2 s = some (t, result) := by
  obtain ⟨⟨_, result⟩, hfinish, rfl⟩ := Option.map_eq_some_iff.mp h
  exact ⟨result, hfinish⟩

/-- What happens to the call at one of its operations. -/
def operationOf (number : Nat) : Except τ D → Event C D τ
  | .ok draw => .operation number draw
  | .error reason => .reject number reason

theorem proceed_proceed (s : State σ C P ρ τ) (number : Nat) (call : C) (store store' : σ)
    (place : P) (next : Next P ρ τ) :
    (s.proceed number call store (.goes place)).proceed number call store' next =
      s.proceed number call store' next := by
  cases next <;> simp only [State.proceed, JsMap.set_set, JsMap.delete_set]

/-- A call alone is one of the runs of the calls. -/
theorem finish_exec (s : State σ C P ρ τ) (number : Nat) (call : C) {next : Next P ρ τ}
    {draws : List (Except τ D)} {store store' : σ} {result : Except τ ρ}
    (h : finish T next draws store = some (store', result)) :
    (machine T).exec (s.proceed number call store next) (draws.map (operationOf number)) =
      some (s.proceed number call store' (outcome result)) := by
  induction draws generalizing next store with
  | nil =>
    cases next <;> cases h <;> rfl
  | cons draw rest ih =>
    cases next with
    | goes place =>
      have hget : (s.proceed number call store (.goes place)).active.get number =
          some { call, place } := get_proceed_self s number call store (.goes place)
      cases draw with
      | ok draw =>
        have hstep : (machine T).step (s.proceed number call store (.goes place))
            (.operation number draw) = some ((s.proceed number call store (.goes place)).proceed
              number call (T.run place draw store).1 (T.run place draw store).2) := by
          simp only [machine, step, hget, Option.map_some, store_proceed]
        rw [proceed_proceed] at hstep
        exact Machine.exec_cons.mpr ⟨_, hstep, ih h⟩
      | error reason =>
        have hstep : (machine T).step (s.proceed number call store (.goes place))
            (.reject number reason) = some ((s.proceed number call store (.goes place)).proceed
              number call store (.throws reason)) := by
          simp only [machine, step, hget, Option.map_some, store_proceed]
        rw [proceed_proceed] at hstep
        exact Machine.exec_cons.mpr ⟨_, hstep, ih h⟩
    | returns value => cases h
    | throws reason => cases h

end Calls
end RealtimeGameServer.Lib
