import RealtimeGameServer.Lib.History

/-!
# Tickets that are used once

A table holds the tickets that can still be used, with their terms. A ticket is
issued to a holder and takes the place of the one the holder had; using a ticket
takes it out of the table, and tickets may be dropped at any time. The history
lists the issues and the uses. `Ledger` is the invariant that such steps keep as
long as no ticket is issued twice, and `UsedOnce` what follows of the history.
-/
namespace RealtimeGameServer.Lib

inductive TicketEvent (τ ι ε π : Type*) where
  | issued (ticket : τ) (holder : ι) (terms : ε)
  | used (ticket : τ) (use : π)
  deriving DecidableEq

/-- The usable tickets with their terms, and the ticket that each holder holds. -/
structure TicketTable (τ ι ε : Type*) where
  usable : τ → Option ε
  held : ι → Option τ

namespace Tickets
variable {τ ι ε π : Type*} [DecidableEq ι]

/-- The ticket an event issues. -/
def issues : TicketEvent τ ι ε π → Option τ
  | .issued ticket _ _ => some ticket
  | .used _ _ => none

/-- The ticket an event uses. -/
def uses : TicketEvent τ ι ε π → Option τ
  | .issued _ _ _ => none
  | .used ticket _ => some ticket

def issuedTo (holder : ι) : TicketEvent τ ι ε π → Option (τ × ε)
  | .issued ticket to_ terms => if to_ = holder then some (ticket, terms) else none
  | .used _ _ => none

/-- The last ticket issued to a holder. -/
def latest (history : List (TicketEvent τ ι ε π)) (holder : ι) : Option (τ × ε) :=
  history.foldl (fun found event => (issuedTo holder event).or found) none

/-- What a step does to the table, and the events it leaves in the history. -/
inductive Changes (honours : ε → π → Prop) (s t : TicketTable τ ι ε) :
    List (TicketEvent τ ι ε π) → Prop
  | kept (usable : ∀ ticket terms, t.usable ticket = some terms → s.usable ticket = some terms)
      (held : ∀ holder, t.held holder = s.held holder) : Changes honours s t []
  | used {ticket : τ} {terms : ε} {use : π} (found : s.usable ticket = some terms)
      (honoured : honours terms use) (gone : t.usable ticket = none)
      (usable : ∀ ticket terms, t.usable ticket = some terms → s.usable ticket = some terms)
      (held : ∀ holder, t.held holder = s.held holder) : Changes honours s t [.used ticket use]
  | issued {ticket : τ} {holder : ι} {terms : ε}
      (usable : ∀ other terms', t.usable other = some terms' →
        (other = ticket ∧ terms' = terms) ∨
          (other ≠ ticket ∧ s.held holder ≠ some other ∧ s.usable other = some terms'))
      (held : ∀ i, t.held i = if i = holder then some ticket else s.held i) :
      Changes honours s t [.issued ticket holder terms]

/-- A use comes after an issue of the ticket, on its terms, and with no later issue to
the holder it was issued to. -/
def Honoured (honours : ε → π → Prop) (history : List (TicketEvent τ ι ε π)) : Prop :=
  ∀ before ticket use after, history = before ++ .used ticket use :: after →
    ∃ holder terms, latest before holder = some (ticket, terms) ∧ honours terms use

variable [DecidableEq τ]

/-- The invariant of the table and the history. -/
structure Ledger (honours : ε → π → Prop) (s : TicketTable τ ι ε)
    (history : List (TicketEvent τ ι ε π)) : Prop where
  held : ∀ holder ticket terms, latest history holder = some (ticket, terms) →
    s.held holder = some ticket
  usable : ∀ ticket terms, s.usable ticket = some terms →
    (∃ holder, latest history holder = some (ticket, terms)) ∧
      ∀ event ∈ history, uses event ≠ some ticket
  unique : ∀ ticket i terms j terms', .issued ticket i terms ∈ history →
    .issued ticket j terms' ∈ history → i = j
  once : ∀ ticket, history.countP (fun event => uses event = some ticket) ≤ 1
  honoured : Honoured honours history

/-- Each ticket is used at most once and on its terms, and never after its holder has
been issued another; no holder has two tickets in the table. -/
structure UsedOnce (honours : ε → π → Prop) (s : TicketTable τ ι ε)
    (history : List (TicketEvent τ ι ε π)) : Prop where
  once : ∀ ticket, history.countP (fun event => uses event = some ticket) ≤ 1
  honoured : Honoured honours history
  single : ∀ ticket ticket' holder terms terms', .issued ticket holder terms ∈ history →
    .issued ticket' holder terms' ∈ history → (s.usable ticket).isSome →
    (s.usable ticket').isSome → ticket = ticket'

section Latest
omit [DecidableEq τ]

theorem latest_concat (history : List (TicketEvent τ ι ε π)) (event : TicketEvent τ ι ε π)
    (holder : ι) : latest (history ++ [event]) holder =
      (issuedTo holder event).or (latest history holder) := by
  rw [latest, List.foldl_append]
  rfl

theorem latest_used (history : List (TicketEvent τ ι ε π)) (ticket : τ) (use : π) (holder : ι) :
    latest (history ++ [.used ticket use]) holder = latest history holder :=
  latest_concat history _ holder

theorem latest_issued (history : List (TicketEvent τ ι ε π)) (ticket : τ) (i : ι) (terms : ε)
    (holder : ι) : latest (history ++ [.issued ticket i terms]) holder =
      if i = holder then some (ticket, terms) else latest history holder := by
  rw [latest_concat]
  change (if i = holder then some (ticket, terms) else none).or _ = _
  split <;> rfl

theorem mem_of_latest {history : List (TicketEvent τ ι ε π)} {holder : ι} {ticket : τ} {terms : ε}
    (h : latest history holder = some (ticket, terms)) : .issued ticket holder terms ∈ history := by
  induction history using List.reverseRecOn with
  | nil => cases h
  | append_singleton history event ih =>
    rw [List.mem_append, List.mem_singleton]
    cases event with
    | used other use =>
      rw [latest_used] at h
      exact Or.inl (ih h)
    | issued other i terms' =>
      rw [latest_issued] at h
      split at h
      next heq =>
        cases h
        rw [heq]
        exact Or.inr rfl
      next => exact Or.inl (ih h)

theorem honoured_iff_fits {honours : ε → π → Prop} {history : List (TicketEvent τ ι ε π)} :
    Honoured honours history ↔ Fits (fun before event => ∀ ticket use, event = .used ticket use →
      ∃ holder terms, latest before holder = some (ticket, terms) ∧ honours terms use) history := by
  constructor
  · rintro h before event after heq ticket use rfl
    exact h before ticket use after heq
  · exact fun h before ticket use after heq => h before _ after heq ticket use rfl

/-- The uses of a longer history: those of the shorter one, and the last event. -/
theorem honoured_concat {honours : ε → π → Prop} {history : List (TicketEvent τ ι ε π)}
    {event : TicketEvent τ ι ε π} (h : Honoured honours history)
    (hlast : ∀ ticket use, event = .used ticket use →
      ∃ holder terms, latest history holder = some (ticket, terms) ∧ honours terms use) :
    Honoured honours (history ++ [event]) :=
  honoured_iff_fits.mpr (Fits.concat_iff.mpr ⟨honoured_iff_fits.mp h, hlast⟩)

end Latest

theorem ledger_empty (honours : ε → π → Prop) {s : TicketTable τ ι ε}
    (h : ∀ ticket, s.usable ticket = none) : Ledger honours s [] where
  held holder ticket terms hlatest := by cases hlatest
  usable ticket terms hget := by cases (h ticket).symm.trans hget
  unique ticket i terms j terms' hi := by cases hi
  once ticket := Nat.zero_le 1
  honoured before ticket use after heq := by cases before <;> cases heq

section Steps
variable {honours : ε → π → Prop} {s t : TicketTable τ ι ε}
  {history : List (TicketEvent τ ι ε π)}

theorem Ledger.used_mem (h : Ledger honours s history) {event : TicketEvent τ ι ε π} {ticket : τ}
    (hmem : event ∈ history) (huses : uses event = some ticket) :
    ∃ holder terms, .issued ticket holder terms ∈ history := by
  cases event with
  | issued => cases huses
  | used other use =>
    cases huses
    obtain ⟨before, after, rfl⟩ := List.append_of_mem hmem
    obtain ⟨holder, terms, hlatest, -⟩ := h.honoured before ticket use after rfl
    exact ⟨holder, terms, List.mem_append_left _ (mem_of_latest hlatest)⟩

omit [DecidableEq ι] in
theorem countP_concat (event : TicketEvent τ ι ε π) (ticket : τ) :
    (history ++ [event]).countP (fun event => uses event = some ticket) =
      history.countP (fun event => uses event = some ticket) +
        if uses event = some ticket then 1 else 0 := by
  rw [List.countP_append, List.countP_singleton]
  simp only [decide_eq_true_eq]

theorem Ledger.use (h : Ledger honours s history) {ticket : τ} {terms : ε} {use : π}
    (found : s.usable ticket = some terms) (honoured : honours terms use)
    (gone : t.usable ticket = none)
    (usable : ∀ ticket terms, t.usable ticket = some terms → s.usable ticket = some terms)
    (held : ∀ holder, t.held holder = s.held holder) :
    Ledger honours t (history ++ [.used ticket use]) := by
  obtain ⟨⟨issuer, hissuer⟩, hunused⟩ := h.usable ticket terms found
  constructor
  case held =>
    intro holder other terms' hlatest
    rw [latest_used] at hlatest
    rw [held]
    exact h.held holder other terms' hlatest
  case usable =>
    intro other terms' hget
    obtain ⟨⟨holder, hlatest⟩, hother⟩ := h.usable other terms' (usable other terms' hget)
    refine ⟨⟨holder, (latest_used _ _ _ _).trans hlatest⟩, fun event hevent heq => ?_⟩
    rcases List.mem_append.mp hevent with hold | hnew
    · exact hother event hold heq
    · rw [List.mem_singleton.mp hnew] at heq
      cases heq
      cases gone.symm.trans hget
  case unique =>
    intro other i terms' j terms'' hi hj
    simp only [List.mem_append, List.mem_singleton, reduceCtorEq, or_false] at hi hj
    exact h.unique other i terms' j terms'' hi hj
  case once =>
    intro other
    rw [countP_concat]
    split
    next heq =>
      cases heq
      have hnone := List.countP_eq_zero.mpr fun event hevent heq =>
        hunused event hevent (of_decide_eq_true heq)
      exact Nat.le_of_eq (congrArg (· + 1) hnone)
    next => exact h.once other
  case honoured =>
    refine honoured_concat h.honoured fun other use' heq => ?_
    cases heq
    exact ⟨issuer, terms, hissuer, honoured⟩

theorem Ledger.issue (h : Ledger honours s history) {ticket : τ} {holder : ι} {terms : ε}
    (fresh : ticket ∉ history.filterMap issues)
    (usable : ∀ other terms', t.usable other = some terms' →
      (other = ticket ∧ terms' = terms) ∨
        (other ≠ ticket ∧ s.held holder ≠ some other ∧ s.usable other = some terms'))
    (held : ∀ i, t.held i = if i = holder then some ticket else s.held i) :
    Ledger honours t (history ++ [.issued ticket holder terms]) := by
  have hfresh : ∀ i terms', .issued ticket i terms' ∉ history := fun i terms' hmem =>
    fresh (List.mem_filterMap.mpr ⟨_, hmem, rfl⟩)
  constructor
  case held =>
    intro i other terms' hlatest
    rw [latest_issued] at hlatest
    rw [held]
    split at hlatest
    next heq =>
      cases hlatest
      exact if_pos heq.symm
    next hne =>
      rw [if_neg (Ne.symm hne)]
      exact h.held i other terms' hlatest
  case usable =>
    intro other terms' hget
    rcases usable other terms' hget with ⟨rfl, rfl⟩ | ⟨hne, hheld, hold⟩
    · refine ⟨⟨holder, (latest_issued _ _ _ _ _).trans (if_pos rfl)⟩, fun event hevent heq => ?_⟩
      -- what has been used before had been issued before
      rcases List.mem_append.mp hevent with hold | hnew
      · obtain ⟨i, terms', hmem⟩ := h.used_mem hold heq
        exact hfresh i terms' hmem
      · rw [List.mem_singleton.mp hnew] at heq
        cases heq
    · obtain ⟨⟨i, hlatest⟩, hother⟩ := h.usable other terms' hold
      have hi : holder ≠ i := by
        rintro rfl
        exact hheld (h.held holder other terms' hlatest)
      refine ⟨⟨i, ?_⟩, fun event hevent heq => ?_⟩
      · rw [latest_issued, if_neg hi]
        exact hlatest
      · rcases List.mem_append.mp hevent with hold | hnew
        · exact hother event hold heq
        · rw [List.mem_singleton.mp hnew] at heq
          cases heq
  case unique =>
    intro other i terms' j terms'' hi hj
    simp only [List.mem_append, List.mem_singleton, TicketEvent.issued.injEq] at hi hj
    rcases hi with hi | ⟨rfl, rfl, -⟩ <;> rcases hj with hj | ⟨hsame, rfl, -⟩
    · exact h.unique other i terms' j terms'' hi hj
    · rw [hsame] at hi
      exact absurd hi (hfresh i terms')
    · exact absurd hj (hfresh j terms'')
    · rfl
  case once =>
    intro other
    rw [countP_concat]
    exact h.once other
  case honoured => exact honoured_concat h.honoured fun other use heq => by cases heq

/-- Steps that issue no ticket a second time keep the invariant. -/
theorem Ledger.step (h : Ledger honours s history) {events : List (TicketEvent τ ι ε π)}
    (hchanges : Changes honours s t events)
    (hfresh : ∀ ticket ∈ events.filterMap issues, ticket ∉ history.filterMap issues) :
    Ledger honours t (history ++ events) := by
  cases hchanges with
  | kept usable held =>
    rw [List.append_nil]
    refine ⟨fun holder ticket terms hlatest => ?_, fun ticket terms hget => ?_, h.unique, h.once,
      h.honoured⟩
    · rw [held]
      exact h.held holder ticket terms hlatest
    · exact h.usable ticket terms (usable ticket terms hget)
  | used found honoured gone usable held => exact h.use found honoured gone usable held
  | issued usable held => exact h.issue (hfresh _ (List.mem_singleton_self _)) usable held

theorem Ledger.usedOnce (h : Ledger honours s history) : UsedOnce honours s history where
  once := h.once
  honoured := h.honoured
  single := by
    intro ticket ticket' holder terms terms' hissued hissued' hsome hsome'
    obtain ⟨terms₁, hget⟩ := Option.isSome_iff_exists.mp hsome
    obtain ⟨terms₂, hget'⟩ := Option.isSome_iff_exists.mp hsome'
    obtain ⟨⟨i, hi⟩, -⟩ := h.usable ticket terms₁ hget
    obtain ⟨⟨j, hj⟩, -⟩ := h.usable ticket' terms₂ hget'
    -- both are the last ticket of the one holder
    cases h.unique ticket holder terms i terms₁ hissued (mem_of_latest hi)
    cases h.unique ticket' holder terms' j terms₂ hissued' (mem_of_latest hj)
    rw [hi] at hj
    cases hj
    rfl

end Steps
end Tickets
end RealtimeGameServer.Lib
