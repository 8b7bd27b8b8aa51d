import RealtimeGameServer.Lib.Tickets

/-!
# Which tickets pass

A desk that checks tickets takes every ticket that is shown to it out of the table, whether
it passes or not, and drops tickets that have run out whenever it likes. What it owes to the
holders is said by the history alone: `outstanding` is the ticket that a holder was issued
last, as long as it has not been shown, and a ticket passes if and only if it is somebody's
outstanding ticket and its terms honour the use.
-/
namespace RealtimeGameServer.Lib

inductive DeskEvent (τ ι ε π : Type*) where
  | issued (ticket : τ) (holder : ι) (terms : ε)
  | checked (ticket : τ) (use : π) (passed : Bool)
  deriving DecidableEq

namespace TicketDesk
variable {τ ι ε π : Type*} [DecidableEq τ] [DecidableEq ι]

/-- The ticket an event issues. -/
def issues : DeskEvent τ ι ε π → Option τ
  | .issued ticket _ _ => some ticket
  | .checked _ _ _ => none

/-- What an event makes of the ticket a holder has. -/
def after (holder : ι) (has : Option (τ × ε)) : DeskEvent τ ι ε π → Option (τ × ε)
  | .issued ticket to_ terms => if to_ = holder then some (ticket, terms) else has
  | .checked ticket _ _ => has.filter fun ticketed => ticketed.1 ≠ ticket

/-- The last ticket of a holder, if it has not been shown since. -/
def outstanding (history : List (DeskEvent τ ι ε π)) (holder : ι) : Option (τ × ε) :=
  history.foldl (after holder) none

/-- The verdict the history asks for. -/
def Decided (honours : ε → π → Prop) (before : List (DeskEvent τ ι ε π))
    (event : DeskEvent τ ι ε π) : Prop :=
  ∀ ticket use passed, event = .checked ticket use passed →
    (passed = true ↔ ∃ holder terms, outstanding before holder = some (ticket, terms) ∧
      honours terms use)

/-- What a step does to the table, and the events it leaves in the history. Tickets whose
terms are `live` are not dropped. -/
inductive Serves (live : ε → Prop) (honours : ε → π → Prop) (s t : TicketTable τ ι ε) :
    List (DeskEvent τ ι ε π) → Prop
  | idle (dropped : ∀ ticket terms, t.usable ticket = some terms → s.usable ticket = some terms)
      (kept : ∀ ticket terms, s.usable ticket = some terms → live terms →
        t.usable ticket = some terms)
      (held : t.held = s.held) : Serves live honours s t []
  | checked {ticket : τ} {use : π} {passed : Bool} (inTime : ∀ terms, honours terms use → live terms)
      (verdict : passed = true ↔ ∃ terms, s.usable ticket = some terms ∧ honours terms use)
      (gone : t.usable ticket = none)
      (dropped : ∀ other terms, t.usable other = some terms → s.usable other = some terms)
      (kept : ∀ other terms, other ≠ ticket → s.usable other = some terms → live terms →
        t.usable other = some terms)
      (held : t.held = s.held) : Serves live honours s t [.checked ticket use passed]
  | issued {ticket : τ} {holder : ι} {terms : ε}
      (usable : ∀ other, t.usable other =
        if other = ticket then some terms
        else if s.held holder = some other then none else s.usable other)
      (held : ∀ i, t.held i = if i = holder then some ticket else s.held i) :
      Serves live honours s t [.issued ticket holder terms]

/-- The invariant of the table and the history, at a time at which the `live` tickets have
not run out. -/
structure Book (live : ε → Prop) (honours : ε → π → Prop) (s : TicketTable τ ι ε)
    (history : List (DeskEvent τ ι ε π)) : Prop where
  issued : ∀ holder ticket, s.held holder = some ticket → ticket ∈ history.filterMap issues
  held : ∀ holder ticket terms, outstanding history holder = some (ticket, terms) →
    s.held holder = some ticket
  owner : ∀ i j ticket terms, s.held i = some ticket →
    outstanding history j = some (ticket, terms) → i = j
  dropped : ∀ ticket terms, s.usable ticket = some terms →
    ∃ holder, outstanding history holder = some (ticket, terms)
  kept : ∀ holder ticket terms, outstanding history holder = some (ticket, terms) → live terms →
    s.usable ticket = some terms
  decided : Fits (Decided honours) history

theorem outstanding_concat (history : List (DeskEvent τ ι ε π)) (event : DeskEvent τ ι ε π)
    (holder : ι) : outstanding (history ++ [event]) holder =
      after holder (outstanding history holder) event := by
  rw [outstanding, List.foldl_append]
  rfl

theorem outstanding_checked {history : List (DeskEvent τ ι ε π)} {ticket other : τ} {use : π}
    {passed : Bool} {holder : ι} {terms : ε} :
    outstanding (history ++ [.checked ticket use passed]) holder = some (other, terms) ↔
      outstanding history holder = some (other, terms) ∧ other ≠ ticket := by
  rw [outstanding_concat, after, Option.filter_eq_some_iff, decide_eq_true_eq]

theorem outstanding_issued (history : List (DeskEvent τ ι ε π)) (ticket : τ) (i : ι) (terms : ε)
    (holder : ι) : outstanding (history ++ [.issued ticket i terms]) holder =
      if i = holder then some (ticket, terms) else outstanding history holder := by
  rw [outstanding_concat, after]

/-- What is outstanding has been issued. -/
theorem issued_of_outstanding {history : List (DeskEvent τ ι ε π)} {holder : ι} {ticket : τ}
    {terms : ε} (h : outstanding history holder = some (ticket, terms)) :
    ticket ∈ history.filterMap issues := by
  induction history using List.reverseRecOn with
  | nil => cases h
  | append_singleton history event ih =>
    rw [List.filterMap_append, List.mem_append]
    cases event with
    | checked other use passed => exact Or.inl (ih (outstanding_checked.mp h).1)
    | issued other i terms' =>
      rw [outstanding_issued] at h
      split at h
      next =>
        cases h
        exact Or.inr (List.mem_singleton_self _)
      next => exact Or.inl (ih h)

theorem book_empty (live : ε → Prop) (honours : ε → π → Prop) {s : TicketTable τ ι ε}
    (husable : ∀ ticket, s.usable ticket = none) (hheld : ∀ holder, s.held holder = none) :
    Book live honours s [] where
  issued holder ticket hget := by cases (hheld holder).symm.trans hget
  held holder ticket terms hget := by cases hget
  owner i j ticket terms hget := by cases (hheld i).symm.trans hget
  dropped ticket terms hget := by cases (husable ticket).symm.trans hget
  kept holder ticket terms hget := by cases hget
  decided := Fits.nil

section Steps
variable {live live' : ε → Prop} {honours : ε → π → Prop} {s t : TicketTable τ ι ε}
  {history : List (DeskEvent τ ι ε π)}

/-- Time passes: fewer tickets are live. -/
theorem Book.later (h : Book live honours s history) (hlater : ∀ terms, live' terms → live terms) :
    Book live' honours s history :=
  { h with kept := fun holder ticket terms hget hlive => h.kept holder ticket terms hget (hlater _ hlive) }

theorem Book.check (h : Book live honours s history) {ticket : τ} {use : π} {passed : Bool}
    (inTime : ∀ terms, honours terms use → live terms)
    (verdict : passed = true ↔ ∃ terms, s.usable ticket = some terms ∧ honours terms use)
    (gone : t.usable ticket = none)
    (dropped : ∀ other terms, t.usable other = some terms → s.usable other = some terms)
    (kept : ∀ other terms, other ≠ ticket → s.usable other = some terms → live terms →
      t.usable other = some terms)
    (held : t.held = s.held) : Book live honours t (history ++ [.checked ticket use passed]) where
  issued holder other hget := by
    rw [List.filterMap_append]
    exact List.mem_append_left _ (h.issued holder other (held ▸ hget))
  held holder other terms hget := by
    rw [held]
    exact h.held holder other terms (outstanding_checked.mp hget).1
  owner i j other terms hi hj :=
    h.owner i j other terms (held ▸ hi) (outstanding_checked.mp hj).1
  dropped other terms hget := by
    obtain ⟨holder, hholder⟩ := h.dropped other terms (dropped other terms hget)
    refine ⟨holder, outstanding_checked.mpr ⟨hholder, ?_⟩⟩
    rintro rfl
    cases gone.symm.trans hget
  kept holder other terms hget hlive := by
    obtain ⟨hold, hne⟩ := outstanding_checked.mp hget
    exact kept other terms hne (h.kept holder other terms hold hlive) hlive
  decided := by
    refine Fits.concat_iff.mpr ⟨h.decided, ?_⟩
    rintro _ _ _ ⟨⟩
    rw [verdict]
    constructor
    · rintro ⟨terms, hget, hhonours⟩
      obtain ⟨holder, hholder⟩ := h.dropped ticket terms hget
      exact ⟨holder, terms, hholder, hhonours⟩
    · rintro ⟨holder, terms, hholder, hhonours⟩
      exact ⟨terms, h.kept holder ticket terms hholder (inTime terms hhonours), hhonours⟩

theorem Book.issue (h : Book live honours s history) {ticket : τ} {holder : ι} {terms : ε}
    (fresh : ticket ∉ history.filterMap issues)
    (usable : ∀ other, t.usable other =
      if other = ticket then some terms
      else if s.held holder = some other then none else s.usable other)
    (held : ∀ i, t.held i = if i = holder then some ticket else s.held i) :
    Book live honours t (history ++ [.issued ticket holder terms]) where
  issued i other hget := by
    rw [List.filterMap_append]
    rw [held] at hget
    split at hget
    next =>
      cases hget
      exact List.mem_append_right _ (List.mem_singleton_self _)
    next => exact List.mem_append_left _ (h.issued i other hget)
  held i other terms' hget := by
    rw [outstanding_issued] at hget
    rw [held]
    split at hget
    next heq =>
      cases hget
      exact if_pos heq.symm
    next hne =>
      rw [if_neg (Ne.symm hne)]
      exact h.held i other terms' hget
  owner i j other terms' hi hj := by
    rw [held] at hi
    rw [outstanding_issued] at hj
    split at hi <;> split at hj
    next hi' hj' => exact hi'.trans hj'
    next =>
      cases hi
      exact absurd (issued_of_outstanding hj) fresh
    next =>
      cases hj
      exact absurd (h.issued i _ hi) fresh
    next => exact h.owner i j other terms' hi hj
  dropped other terms' hget := by
    rw [usable] at hget
    split at hget
    next heq =>
      cases hget
      exact ⟨holder, (outstanding_issued _ _ _ _ _).trans ((if_pos rfl).trans (by rw [heq]))⟩
    next hne =>
      split at hget
      next => cases hget
      next hother =>
        -- the ticket is another holder's: the one this holder had is taken out
        obtain ⟨i, hi⟩ := h.dropped other terms' hget
        refine ⟨i, (outstanding_issued _ _ _ _ _).trans ((if_neg ?_).trans hi)⟩
        rintro rfl
        exact hother (h.held _ other terms' hi)
  kept i other terms' hget hlive := by
    rw [outstanding_issued] at hget
    rw [usable]
    split at hget
    next =>
      cases hget
      exact if_pos rfl
    next hne =>
      rw [if_neg, if_neg]
      · exact h.kept i other terms' hget hlive
      · intro hother
        exact hne (h.owner holder i other terms' hother hget)
      · rintro rfl
        exact fresh (issued_of_outstanding hget)
  decided := by
    refine Fits.concat_iff.mpr ⟨h.decided, ?_⟩
    rintro _ _ _ ⟨⟩

/-- Steps that issue no ticket a second time keep the invariant. -/
theorem Book.step (h : Book live honours s history) {events : List (DeskEvent τ ι ε π)}
    (hserves : Serves live honours s t events)
    (hfresh : ∀ ticket ∈ events.filterMap issues, ticket ∉ history.filterMap issues) :
    Book live honours t (history ++ events) := by
  cases hserves with
  | idle dropped kept held =>
    rw [List.append_nil]
    refine ⟨fun holder ticket hget => h.issued holder ticket (held ▸ hget),
      fun holder ticket terms hget => held ▸ h.held holder ticket terms hget,
      fun i j ticket terms hi => h.owner i j ticket terms (held ▸ hi),
      fun ticket terms hget => h.dropped ticket terms (dropped ticket terms hget),
      fun holder ticket terms hget hlive => ?_, h.decided⟩
    exact kept ticket terms (h.kept holder ticket terms hget hlive) hlive
  | checked inTime verdict gone dropped kept held =>
    exact h.check inTime verdict gone dropped kept held
  | issued usable held => exact h.issue (hfresh _ (List.mem_singleton_self _)) usable held

end Steps
end TicketDesk
end RealtimeGameServer.Lib
