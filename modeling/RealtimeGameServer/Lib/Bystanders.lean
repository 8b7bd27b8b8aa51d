import RealtimeGameServer.Lib.Calls
import RealtimeGameServer.Lib.ReadCommitted

/-!
# What calls leave alone

A part of a store belongs to somebody whom a call may concern or not. Where the places
that calls of others reach (`Away`) leave the part as it is, and lead to such places only,
a run of calls of others leaves the part as it was, whatever their order: for calls whose
operations are atomic, and for transactions, whose effects show when they commit.
-/
namespace RealtimeGameServer.Lib

namespace Calls
variable {σ C D P ρ τ ν : Type*} {T : Program σ C D P ρ τ} {Others : C → Prop} {Away : P → Prop}
  {part : σ → ν}

/-- The calls of others stay away from the part. -/
structure Bystander (T : Program σ C D P ρ τ) (Others : C → Prop) (Away : P → Prop)
    (part : σ → ν) : Prop where
  opened : ∀ call draw place, Others call → T.opens call draw = .goes place → Away place
  ran : ∀ place draw s next, Away place → (T.run place draw s).2 = .goes next → Away next
  kept : ∀ place draw s, Away place → part (T.run place draw s).1 = part s

/-- The part is as it was and every call is away from it. -/
structure Spared (Away : P → Prop) (part : σ → ν) (old : ν) (s : State σ C P ρ τ) : Prop where
  kept : part s.store = old
  away : ∀ number a, s.active.get number = some a → Away a.place

theorem Spared.proceed {old : ν} {s : State σ C P ρ τ} (h : Spared Away part old s) (number : Nat)
    (call : C) {store : σ} {next : Next P ρ τ} (hkept : part store = old)
    (haway : ∀ place, next = .goes place → Away place) :
    Spared Away part old (s.proceed number call store next) where
  kept := by
    rw [store_proceed]
    exact hkept
  away i b hget := by
    rcases get_proceed hget with ⟨-, hold⟩ | ⟨-, place, hgoes, rfl⟩
    · exact h.away i b hold
    · exact haway place hgoes

theorem Spared.step (hbystander : Bystander T Others Away part) {old : ν} {s t : State σ C P ρ τ}
    {event : Event C D τ} (h : Spared Away part old s)
    (hothers : ∀ call, event.issues = some call → Others call) (hstep : Steps T s event t) :
    Spared Away part old t := by
  cases hstep with
  | @called call draw =>
    have hopened := hbystander.opened call draw
    have hspared := h.proceed s.started call h.kept fun place => hopened place (hothers call rfl)
    exact ⟨hspared.kept, hspared.away⟩
  | @operated number draw a store next get run =>
    obtain ⟨rfl, rfl⟩ := Prod.mk.inj run
    have haway := h.away number a get
    refine h.proceed number a.call ?_ fun place => hbystander.ran _ _ _ _ haway
    rw [hbystander.kept _ _ _ haway]
    exact h.kept
  | rejected get =>
    refine h.proceed _ _ h.kept fun place hgoes => ?_
    cases hgoes

/-- A run of calls of others leaves the part as it was. -/
theorem along_of_bystander (hbystander : Bystander T Others Away part) (store : σ)
    {events : List (Event C D τ)} (hothers : ∀ call ∈ issued events, Others call) :
    (machine T).Along (fun s => part s.store = part store) (start store) events := by
  have hstart : Spared Away part (part store) (start store : State σ C P ρ τ) :=
    ⟨rfl, fun _ _ h => by cases h⟩
  refine (Machine.along_of_guarded (G := fun _ _ => True)
    (L := fun event => ∀ call, event.issues = some call → Others call)
    (fun _ _ _ h hothers hstep _ => h.step hbystander hothers (step_cases hstep)) ?_ hstart
    (Machine.StepsMeet.of_labels (fun _ _ _ => trivial) _)).mono fun _ h => h.kept
  exact fun event hevent call hcall => hothers call (List.mem_filterMap.mpr ⟨event, hevent, hcall⟩)

end Calls

namespace ReadCommitted
variable {σ ε κ C P ρ τ ν : Type*} [DecidableEq κ] {T : Protocol σ ε κ C P ρ τ}
  {Others : C → Prop} {Away : P → Prop} {Quiet : ε → Prop} {part : σ → ν}

/-- The transactions of others have effects that leave the part alone. -/
structure Bystander (T : Protocol σ ε κ C P ρ τ) (Others : C → Prop) (Away : P → Prop)
    (Quiet : ε → Prop) (part : σ → ν) : Prop where
  opened : ∀ call pc, Others call → T.opens call = .ok pc → Away pc
  ran : ∀ pc s effects next, Away pc → T.run pc s = .continues effects next →
    Away next ∧ ∀ effect ∈ effects, Quiet effect
  proceeded : ∀ pc next, Away pc → T.follow pc = .commitThen next → Away next
  kept : ∀ s effect, Quiet effect → part (T.apply s effect) = part s

/-- The committed part is as it was and every transaction is away from it. -/
structure Spared (Away : P → Prop) (Quiet : ε → Prop) (part : σ → ν) (old : ν)
    (s : State σ ε κ C P ρ τ) : Prop where
  kept : part s.committed = old
  away : ∀ number a, s.active.get number = some a →
    Away a.pc ∧ ∀ effect ∈ a.pending, Quiet effect

omit [DecidableEq κ] in
theorem Bystander.view (hbystander : Bystander T Others Away Quiet part) (effects : List ε) (s : σ)
    (h : ∀ effect ∈ effects, Quiet effect) : part (effects.foldl T.apply s) = part s := by
  induction effects generalizing s with
  | nil => rfl
  | cons effect rest ih =>
    rw [List.foldl_cons, ih _ fun e he => h e (List.mem_cons_of_mem _ he)]
    exact hbystander.kept s effect (h effect List.mem_cons_self)

theorem Spared.step (hbystander : Bystander T Others Away Quiet part) {old : ν}
    {s t : State σ ε κ C P ρ τ} {event : Event C τ} (h : Spared Away Quiet part old s)
    (hothers : ∀ call, event = .call call → Others call) (hstep : Steps T s event t) :
    Spared Away Quiet part old t := by
  have hview : ∀ number a, s.active.get number = some a → part (T.view a s.committed) = old := by
    intro number a hget
    rw [Protocol.view, hbystander.view _ _ (h.away number a hget).2]
    exact h.kept
  cases hstep with
  | refused => exact ⟨h.kept, h.away⟩
  | opened hopens =>
    refine ⟨h.kept, JsMap.forall_get_set h.away ⟨?_, fun _ he => by cases he⟩⟩
    exact hbystander.opened _ _ (hothers _ rfl) hopens
  | @ran number a effects next get free run =>
    obtain ⟨haway, hquiet⟩ := h.away number a get
    obtain ⟨hnext, heffects⟩ := hbystander.ran _ _ _ _ haway run
    refine ⟨h.kept, JsMap.forall_get_set h.away ⟨hnext, fun effect hmem => ?_⟩⟩
    exact (List.mem_append.mp hmem).elim (hquiet effect) (heffects effect)
  | threw get => exact ⟨h.kept, JsMap.forall_get_delete h.away _⟩
  | proceeded get follow =>
    refine ⟨hview _ _ get, JsMap.forall_get_set h.away ⟨?_, fun _ he => by cases he⟩⟩
    exact hbystander.proceeded _ _ (h.away _ _ get).1 follow
  | returned get follow => exact ⟨hview _ _ get, JsMap.forall_get_delete h.away _⟩

/-- A run of transactions of others leaves the part as it was. -/
theorem along_of_bystander (hbystander : Bystander T Others Away Quiet part) (committed : σ)
    {events : List (Event C τ)} (hothers : ∀ call, Event.call call ∈ events → Others call) :
    (machine T).Along (fun s => part s.committed = part committed) (start committed) events := by
  have hstart : Spared Away Quiet part (part committed) (start committed : State σ ε κ C P ρ τ) :=
    ⟨rfl, fun _ _ h => by cases h⟩
  refine (Machine.along_of_guarded (G := fun _ _ => True)
    (L := fun event => ∀ call, event = .call call → Others call)
    (fun _ _ _ h hothers hstep _ => h.step hbystander hothers (step_cases hstep)) ?_ hstart
    (Machine.StepsMeet.of_labels (fun _ _ _ => trivial) _)).mono fun _ h => h.kept
  rintro _ hevent call rfl
  exact hothers call hevent

end ReadCommitted
end RealtimeGameServer.Lib
