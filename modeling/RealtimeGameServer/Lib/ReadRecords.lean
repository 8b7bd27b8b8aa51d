import RealtimeGameServer.Lib.ReadCommitted

/-!
# What transactions have read

A run of transactions together with a record of what the statements of each call
have read. A transaction decides on what it reads without a lock, so what it
writes is justified by its reads (`ReadRule`) only as long as they stand. The
rule `along_of_reads` keeps a property of the committed state along the runs at
whose commits everything that the committing call has read still stands.
-/
namespace RealtimeGameServer.Lib
namespace ReadCommitted
variable {σ ε κ C P ρ τ β : Type*} [DecidableEq κ]

/-- What a step reads, for the call that reads it. -/
def readBy (T : Protocol σ ε κ C P ρ τ) (reads : P → σ → List β) (s : State σ ε κ C P ρ τ) :
    Event C τ → List (Nat × β)
  | .statement number =>
    match s.active.get number with
    | none => []
    | some a => (reads a.pc (T.view a s.committed)).map fun read => (number, read)
  | _ => []

/-- The machine with the record of what has been read. -/
def readRecording (T : Protocol σ ε κ C P ρ τ) (reads : P → σ → List β) :
    Machine (State σ ε κ C P ρ τ × List (Nat × β)) (Event C τ) :=
  (machine T).recording (readBy T reads)

/-- At a commit, everything that its call has read stands. -/
def ReadsStand (Stands : Active ε κ C P → σ → β → Prop)
    (p : State σ ε κ C P ρ τ × List (Nat × β)) : Event C τ → Prop
  | .commit number => ∀ a ∈ p.1.active.get number, ∀ entry ∈ p.2, entry.1 = number →
      Stands a p.1.committed entry.2
  | _ => True

instance {Stands : Active ε κ C P → σ → β → Prop} [∀ a s read, Decidable (Stands a s read)]
    (p : State σ ε κ C P ρ τ × List (Nat × β)) (event : Event C τ) :
    Decidable (ReadsStand Stands p event) :=
  match event with
  | .commit number =>
    inferInstanceAs (Decidable (∀ a ∈ p.1.active.get number, ∀ entry ∈ p.2, entry.1 = number →
      Stands a p.1.committed entry.2))
  | .call _ | .statement _ | .abort _ _ => isTrue trivial

/-- `Informed` relates a call in progress to what it has read: it holds from its opening on,
and whatever else is read. -/
structure ReadRule (T : Protocol σ ε κ C P ρ τ) (reads : P → σ → List β)
    (Local : Active ε κ C P → σ → Prop) (Informed : Active ε κ C P → (β → Prop) → Prop) :
    Prop where
  more : ∀ a (noted noted' : β → Prop), (∀ read, noted read → noted' read) → Informed a noted →
    Informed a noted'
  opened : ∀ call pc noted, T.opens call = .ok pc → Informed ⟨call, pc, [], []⟩ noted
  ran : ∀ a s noted effects next, Local a s → Informed a noted →
    T.run a.pc (T.view a s) = .continues effects next →
    (∀ read ∈ reads a.pc (T.view a s), noted read) →
    Informed ⟨a.call, next, a.pending ++ effects, a.held ++ T.needs a.pc (T.view a s)⟩ noted
  proceeded : ∀ a s noted next, Local a s → Informed a noted → T.follow a.pc = .commitThen next →
    Informed ⟨a.call, next, [], []⟩ noted

/-- Every call in progress is informed by what it has read. -/
def AllInformed (Informed : Active ε κ C P → (β → Prop) → Prop)
    (p : State σ ε κ C P ρ τ × List (Nat × β)) : Prop :=
  ∀ number a, p.1.active.get number = some a → Informed a fun read => (number, read) ∈ p.2

section Rule
variable {ν : Type*} {touches : ε → κ} {part : κ → σ → ν} {T : Protocol σ ε κ C P ρ τ}
  {reads : P → σ → List β} {Local : Active ε κ C P → σ → Prop}
  {Informed : Active ε κ C P → (β → Prop) → Prop} {Stands : Active ε κ C P → σ → β → Prop}
  {Property : σ → Prop} {p q : State σ ε κ C P ρ τ × List (Nat × β)} {event : Event C τ}

theorem AllInformed.step (hreads : ReadRule T reads Local Informed) (h : AllInformed Informed p)
    (hlocal : ∀ number a, p.1.active.get number = some a → Local a p.1.committed)
    (hstep : (readRecording T reads).step p event = some q) : AllInformed Informed q := by
  obtain ⟨s, record⟩ := p
  obtain ⟨t, record'⟩ := q
  obtain ⟨hmachine, hrecord⟩ := Machine.recording_step hstep
  clear hstep
  simp only at h hlocal hmachine hrecord
  subst hrecord
  have hother : ∀ number a, s.active.get number = some a →
      Informed a fun read => (number, read) ∈ record ++ readBy T reads s event :=
    fun number a hget =>
      hreads.more a _ _ (fun _ hread => List.mem_append_left _ hread) (h number a hget)
  cases step_cases hmachine with
  | refused => exact hother
  | opened hopens => exact JsMap.forall_get_set hother (hreads.opened _ _ _ hopens)
  | @ran number a effects next get free run =>
    refine JsMap.forall_get_set hother ?_
    refine hreads.ran a _ _ effects next (hlocal _ _ get) (hother _ _ get) run fun read hread => ?_
    refine List.mem_append_right _ ?_
    rw [readBy, get]
    exact List.mem_map_of_mem hread
  | threw get => exact JsMap.forall_get_delete hother _
  | proceeded get follow =>
    exact JsMap.forall_get_set hother
      (hreads.proceeded _ _ _ _ (hlocal _ _ get) (hother _ _ get) follow)
  | returned get follow => exact JsMap.forall_get_delete hother _

omit [DecidableEq κ] in
theorem allInformed_start (s0 : σ) :
    AllInformed Informed ((start s0 : State σ ε κ C P ρ τ), ([] : List (Nat × β))) := by
  intro number a hget
  cases hget

omit [DecidableEq κ] in
theorem known_start (s0 : σ) : Known touches Local (start s0 : State σ ε κ C P ρ τ) where
  exclusive := by
    constructor
    · intro i j a b hget
      cases hget
    · intro i a hget
      cases hget
  globally := trivial
  locally_ _ _ hget := by cases hget

/-- Where a commit keeps the property as long as what its call has read stands, the property
holds in every committed state of a run at whose commits it does. -/
theorem along_of_reads (hT : Guarded T touches part)
    (hrule : Rule T part (fun _ _ => True) Local fun _ _ => True)
    (hreads : ReadRule T reads Local Informed)
    (hkeep : ∀ a s (noted : β → Prop), Local a s → Informed a noted → Property s →
      T.follow a.pc ≠ .statement → (∀ read, noted read → Stands a s read) →
      Property (T.view a s))
    {s0 : σ} (h0 : Property s0) (events : List (Event C τ))
    (hstands : (readRecording T reads).StepsMeet (ReadsStand Stands) (start s0, []) events) :
    (machine T).Along (fun s => Property s.committed) (start s0) events := by
  have halong : (readRecording T reads).Along
      (fun p => (Known touches Local p.1 ∧ AllInformed Informed p) ∧ Property p.1.committed)
      (start s0, []) events := by
    refine Machine.along_of_guarded (L := fun _ => True) ?_ (fun _ _ => trivial)
      ⟨⟨known_start s0, allInformed_start s0⟩, h0⟩ hstands
    intro p event q h _ hstep hguard
    obtain ⟨⟨hknown, hinformed⟩, hproperty⟩ := h
    have hmachine := (Machine.recording_step hstep).1
    refine ⟨⟨hknown.step hT hrule (statementOk_true p.1 event) hmachine,
      hinformed.step hreads hknown.locally_ hstep⟩, ?_⟩
    cases event with
    | commit number =>
      obtain ⟨a, hget, hfollow, heq⟩ := committed_of_commit hmachine
      rw [heq]
      exact hkeep a _ _ (hknown.locally_ number a hget) (hinformed number a hget) hproperty
        hfollow fun read hread => hguard a hget (number, read) hread rfl
    | _ =>
      rw [committed_of_other (fun _ heq => by cases heq) hmachine]
      exact hproperty
  exact Machine.along_of_recording (halong.mono fun _ h => h.2)

end Rule
end ReadCommitted
end RealtimeGameServer.Lib
