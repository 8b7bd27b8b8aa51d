import Mathlib.Data.List.Nodup
import RealtimeGameServer.Lib.Calls

/-!
# Grants that are spent at most once

Some operations take a key: they find it free, take it and grant it to the call.
A call keeps its grant until it ends and spends it if it returns. A key that has
been taken stays taken. Then no key is spent twice, whatever the order of the
operations (`Grants.along_once`).
-/
namespace RealtimeGameServer.Lib

namespace Calls
variable {σ C D P ρ τ κ : Type*}

/-- What a call is granted at a place, what an ended call has spent, and which keys
of the store are taken. -/
structure Grants (σ C P ρ τ κ : Type*) where
  granted : C → P → Option κ
  spent : C → Except τ ρ → Option κ
  taken : κ → σ → Prop

namespace Grants
variable (G : Grants σ C P ρ τ κ)

/-- The keys the ended calls have spent, in the order in which they ended. -/
def ledger (ended : List (Nat × C × Except τ ρ)) : List κ :=
  ended.filterMap fun e => G.spent e.2.1 e.2.2

/-- A grant comes from an operation that takes a free key, and only a grant is
spent. -/
structure Lawful (T : Program σ C D P ρ τ) (le : σ → σ → Prop) (Local : C → P → σ → Prop) :
    Prop where
  kept : ∀ key s t, le s t → G.taken key s → G.taken key t
  opens : ∀ call draw place, T.opens call draw = .goes place → G.granted call place = none
  opensSpent : ∀ call draw result, T.opens call draw = .returns result →
    G.spent call (.ok result) = none
  throws : ∀ call reason, G.spent call (.error reason) = none
  goes : ∀ call place draw s next key, Local call place s → (T.run place draw s).2 = .goes next →
    G.granted call next = some key →
    G.granted call place = some key ∨ (¬G.taken key s ∧ G.taken key (T.run place draw s).1)
  returns : ∀ call place draw s result key, Local call place s →
    (T.run place draw s).2 = .returns result → G.spent call (.ok result) = some key →
    G.granted call place = some key

/-- Grants and spent keys are taken, and no key is granted or spent twice. -/
structure Once (s : State σ C P ρ τ) : Prop where
  grantedTaken : ∀ i a key, s.active.get i = some a → G.granted a.call a.place = some key →
    G.taken key s.store
  spentTaken : ∀ key ∈ G.ledger s.ended, G.taken key s.store
  apart : ∀ i j a b key, s.active.get i = some a → s.active.get j = some b →
    G.granted a.call a.place = some key → G.granted b.call b.place = some key → i = j
  unspent : ∀ i a key, s.active.get i = some a → G.granted a.call a.place = some key →
    key ∉ G.ledger s.ended
  once : (G.ledger s.ended).Nodup

variable {G}

theorem mem_ledger_append {ended : List (Nat × C × Except τ ρ)} {number : Nat} {call : C}
    {next : Next P ρ τ} {key : κ} (h : key ∈ G.ledger (ended ++ next.log number call)) :
    key ∈ G.ledger ended ∨ (∃ result, next = .returns result ∧ G.spent call (.ok result) = some key) ∨
      ∃ reason, next = .throws reason ∧ G.spent call (.error reason) = some key := by
  rw [ledger, List.filterMap_append, List.mem_append] at h
  rcases h with hold | hnew
  · exact Or.inl hold
  · obtain ⟨e, he, hspent⟩ := List.mem_filterMap.mp hnew
    cases next with
    | goes place => cases he
    | returns result =>
      cases List.mem_singleton.mp he
      exact Or.inr (Or.inl ⟨result, rfl, hspent⟩)
    | throws reason =>
      cases List.mem_singleton.mp he
      exact Or.inr (Or.inr ⟨reason, rfl, hspent⟩)

/-- A call that holds `held` gets an answer: afterwards it holds that key, or one it
has just taken, and it spends none but that one. -/
theorem Once.proceed {s : State σ C P ρ τ} (h : G.Once s) {number : Nat} {call : C} {store : σ}
    {next : Next P ρ τ} (held : Option κ)
    (kept : ∀ key, G.taken key s.store → G.taken key store)
    (heldTaken : ∀ key, held = some key → G.taken key s.store)
    (heldApart : ∀ i a key, s.active.get i = some a → i ≠ number →
      G.granted a.call a.place = some key → held ≠ some key)
    (heldUnspent : ∀ key, held = some key → key ∉ G.ledger s.ended)
    (goes : ∀ place key, next = .goes place → G.granted call place = some key →
      held = some key ∨ (¬G.taken key s.store ∧ G.taken key store))
    (returns : ∀ result key, next = .returns result → G.spent call (.ok result) = some key →
      held = some key)
    (throws : ∀ reason, G.spent call (.error reason) = none) :
    G.Once (s.proceed number call store next) := by
  -- the key of the call that moved is its old one, or nobody had it
  have hspent : ∀ key, key ∈ G.ledger (s.ended ++ next.log number call) →
      key ∈ G.ledger s.ended ∨ (held = some key ∧ ∀ place, next ≠ .goes place) := by
    intro key hkey
    rcases mem_ledger_append hkey with hold | ⟨result, rfl, hspent⟩ | ⟨reason, -, hspent⟩
    · exact Or.inl hold
    · exact Or.inr ⟨returns result key rfl hspent, nofun⟩
    · rw [throws] at hspent
      cases hspent
  constructor
  case grantedTaken =>
    intro i b key hget hgranted
    rw [store_proceed]
    rcases get_proceed hget with ⟨-, hold⟩ | ⟨-, place, rfl, rfl⟩
    · exact kept key (h.grantedTaken i b key hold hgranted)
    · rcases goes place key rfl hgranted with hheld | ⟨-, htaken⟩
      · exact kept key (heldTaken key hheld)
      · exact htaken
  case spentTaken =>
    intro key hkey
    rw [ended_proceed] at hkey
    rw [store_proceed]
    rcases hspent key hkey with hold | ⟨hheld, -⟩
    · exact kept key (h.spentTaken key hold)
    · exact kept key (heldTaken key hheld)
  case apart =>
    -- another call's key is neither the old one of this call nor free
    have hother : ∀ i b place key, s.active.get i = some b → i ≠ number → next = .goes place →
        G.granted b.call b.place = some key → G.granted call place ≠ some key := by
      intro i b place key hget hne hnext hb hgranted
      rcases goes place key hnext hgranted with hheld | ⟨hfree, -⟩
      · exact heldApart i b key hget hne hb hheld
      · exact hfree (h.grantedTaken i b key hget hb)
    intro i j b c key hi hj hb hc
    rcases get_proceed hi with ⟨hine, hiold⟩ | ⟨hinew, place, hnext, rfl⟩ <;>
      rcases get_proceed hj with ⟨hjne, hjold⟩ | ⟨hjnew, place', hnext', rfl⟩
    · exact h.apart i j b c key hiold hjold hb hc
    · exact absurd hc (hother i b place' key hiold hine hnext' hb)
    · exact absurd hb (hother j c place key hjold hjne hnext hc)
    · exact hinew.trans hjnew.symm
  case unspent =>
    intro i b key hget hgranted hkey
    rw [ended_proceed] at hkey
    rcases get_proceed hget with ⟨hne, hold⟩ | ⟨-, place, rfl, rfl⟩
    · rcases hspent key hkey with hspent | ⟨hheld, -⟩
      · exact h.unspent i b key hold hgranted hspent
      · exact heldApart i b key hold hne hgranted hheld
    · rcases hspent key hkey with hspent | ⟨-, hnext⟩
      · rcases goes place key rfl hgranted with hheld | ⟨hfree, -⟩
        · exact heldUnspent key hheld hspent
        · exact hfree (h.spentTaken key hspent)
      · exact hnext place rfl
  case once =>
    rw [ended_proceed, ledger, List.filterMap_append]
    refine List.Nodup.append h.once ?_ ?_
    · cases next with
      | goes place => exact List.nodup_nil
      | returns result =>
        rw [Next.log, List.filterMap_cons]
        split
        next => exact List.nodup_nil
        next => exact List.nodup_singleton _
      | throws reason => simp [Next.log, throws]
    · intro key hold hnew
      obtain ⟨e, he, hspentBy⟩ := List.mem_filterMap.mp hnew
      cases next with
      | goes place => cases he
      | returns result =>
        cases List.mem_singleton.mp he
        exact heldUnspent key (returns result key rfl hspentBy) hold
      | throws reason =>
        cases List.mem_singleton.mp he
        simp [throws] at hspentBy

variable {T : Program σ C D P ρ τ} {le : σ → σ → Prop} {Local : C → P → σ → Prop}
  {Global : σ → List (Nat × C × Except τ ρ) → Prop}

theorem Once.step (hG : G.Lawful T le Local) (hrule : Rule T le Global Local) {base : σ}
    {s t : State σ C P ρ τ} {event : Event C D τ} (hheld : Held le Global Local base s)
    (h : G.Once s) (hstep : Steps T s event t) : G.Once t := by
  cases hstep with
  | @called call draw =>
    have hproceed : G.Once (s.proceed s.started call s.store (T.opens call draw)) := by
      apply h.proceed none
      case kept => exact fun _ hkey => hkey
      case heldTaken => exact nofun
      case heldApart => exact nofun
      case heldUnspent => exact nofun
      case goes =>
        intro place key hnext hgranted
        rw [hG.opens call draw place hnext] at hgranted
        cases hgranted
      case returns =>
        intro result key hnext hspent
        rw [hG.opensSpent call draw result hnext] at hspent
        cases hspent
      case throws => exact hG.throws call
    exact ⟨hproceed.grantedTaken, hproceed.spentTaken, hproceed.apart, hproceed.unspent,
      hproceed.once⟩
  | @operated number draw a store next get run =>
    have hlocal := hheld.locally_ number a get
    have hstore : (T.run a.place draw s.store).1 = store := congrArg Prod.fst run
    have hnext : (T.run a.place draw s.store).2 = next := congrArg Prod.snd run
    apply h.proceed (G.granted a.call a.place)
    case kept =>
      intro key
      exact hG.kept key _ _ (hstore ▸ hrule.grows a.place draw s.store)
    case heldTaken => exact fun key => h.grantedTaken number a key get
    case heldApart =>
      intro i b key hget hne hb hheld
      exact hne (h.apart i number b a key hget get hb hheld)
    case heldUnspent => exact fun key => h.unspent number a key get
    case goes =>
      intro place key hgoes hgranted
      rw [← hstore]
      exact hG.goes a.call a.place draw s.store place key hlocal (hnext.trans hgoes) hgranted
    case returns =>
      intro result key hreturns
      exact hG.returns a.call a.place draw s.store result key hlocal (hnext.trans hreturns)
    case throws => exact hG.throws a.call
  | @rejected number reason a get =>
    apply h.proceed (G.granted a.call a.place)
    case kept => exact fun _ hkey => hkey
    case heldTaken => exact fun key => h.grantedTaken number a key get
    case heldApart =>
      intro i b key hget hne hb hheld
      exact hne (h.apart i number b a key hget get hb hheld)
    case heldUnspent => exact fun key => h.unspent number a key get
    case goes => exact nofun
    case returns => exact nofun
    case throws => exact hG.throws a.call

/-- Along every run no key is spent twice. -/
theorem along_once (hG : G.Lawful T le Local) (hrule : Rule T le Global Local) {store : σ}
    (h0 : Global store []) (events : List (Event C D τ)) :
    (machine T).Along G.Once (start store) events := by
  have halong : (machine T).Along (fun s => Held le Global Local store s ∧ G.Once s)
      (start store) events := by
    apply Machine.along_of_invariant
    · intro s event t h hstep
      exact ⟨h.1.step hrule (step_cases hstep), Once.step hG hrule h.1 h.2 (step_cases hstep)⟩
    · exact ⟨⟨hrule.refl _, h0, nofun⟩, nofun, nofun, nofun, nofun, List.nodup_nil⟩
  exact halong.mono fun _ h => h.2

end Grants

/-- A call in progress has not ended, and the numbers of the log are given out. -/
structure EndedOnce (s : State σ C P ρ τ) : Prop where
  numbered : Numbered s
  given : ∀ e ∈ s.ended, e.1 < s.started
  apart : ∀ i a, s.active.get i = some a → ∀ e ∈ s.ended, e.1 ≠ i

theorem mem_log {number : Nat} {call : C} {next : Next P ρ τ} {e : Nat × C × Except τ ρ}
    (h : e ∈ next.log number call) : e.1 = number ∧ ∀ place, next ≠ .goes place := by
  cases next with
  | goes place => cases h
  | _ =>
    cases List.mem_singleton.mp h
    exact ⟨rfl, nofun⟩

theorem EndedOnce.proceed {s : State σ C P ρ τ} (h : EndedOnce s) {number : Nat}
    {a : InProgress C P} (get : s.active.get number = some a) (store : σ) (next : Next P ρ τ) :
    EndedOnce (s.proceed number a.call store next) where
  numbered := h.numbered.proceed get store next
  given e he := by
    rw [ended_proceed] at he
    rw [started_proceed]
    rcases List.mem_append.mp he with hold | hnew
    · exact h.given e hold
    · exact (mem_log hnew).1 ▸ h.numbered number a get
  apart i b hget e he := by
    rw [ended_proceed] at he
    rcases get_proceed hget with ⟨hne, hactive⟩ | ⟨rfl, place, rfl, -⟩
    · rcases List.mem_append.mp he with hold | hnew
      · exact h.apart i b hactive e hold
      · exact fun heq => hne (heq.symm.trans (mem_log hnew).1)
    · rw [Next.log, List.append_nil] at he
      exact h.apart i a get e he

theorem EndedOnce.step {T : Program σ C D P ρ τ} {s t : State σ C P ρ τ} {event : Event C D τ}
    (h : EndedOnce s) (hstep : Steps T s event t) : EndedOnce t := by
  have hnumbered := h.numbered.step hstep
  cases hstep with
  | called =>
    constructor
    case numbered => exact hnumbered
    case given =>
      intro e he
      rw [ended_proceed] at he
      rcases List.mem_append.mp he with hold | hnew
      · exact Nat.lt_succ_of_lt (h.given e hold)
      · exact (mem_log hnew).1 ▸ Nat.lt_succ_self _
    case apart =>
      intro i b hget e he
      rw [ended_proceed] at he
      rcases get_proceed hget with ⟨hne, hactive⟩ | ⟨rfl, place, hnext, -⟩
      · rcases List.mem_append.mp he with hold | hnew
        · exact h.apart i b hactive e hold
        · exact fun heq => hne (heq.symm.trans (mem_log hnew).1)
      · rw [hnext, Next.log, List.append_nil] at he
        exact Nat.ne_of_lt (h.given e he)
  | operated get run => exact h.proceed get _ _
  | rejected get => exact h.proceed get _ _

theorem endedOnce_along (T : Program σ C D P ρ τ) (store : σ) (events : List (Event C D τ)) :
    (machine T).Along EndedOnce (start store) events :=
  Machine.along_of_invariant (fun _ _ _ h hstep => h.step (step_cases hstep)) events
    ⟨nofun, nofun, nofun⟩

/-- The call is at a lost place or has thrown. -/
structure Lost (lost : P → Prop) (number : Nat) (s : State σ C P ρ τ) : Prop where
  endedOnce : EndedOnce s
  given : number < s.started
  active : ∀ a, s.active.get number = some a → lost a.place
  ended : ∀ call result, (number, call, .ok result) ∉ s.ended

theorem Lost.proceed {lost : P → Prop} {number i : Nat} {s : State σ C P ρ τ}
    (h : Lost lost number s) {a : InProgress C P} (get : s.active.get i = some a) {store : σ}
    {next : Next P ρ τ} (hgoes : lost a.place → ∀ place, next = .goes place → lost place)
    (hreturns : lost a.place → ∀ result, next ≠ .returns result) :
    Lost lost number (s.proceed i a.call store next) where
  endedOnce := h.endedOnce.proceed get store next
  given := by
    rw [started_proceed]
    exact h.given
  active b hget := by
    rcases get_proceed hget with ⟨-, hold⟩ | ⟨rfl, place, hnext, rfl⟩
    · exact h.active b hold
    · exact hgoes (h.active a get) place hnext
  ended call result hmem := by
    rw [ended_proceed] at hmem
    rcases List.mem_append.mp hmem with hold | hnew
    · exact h.ended call result hold
    · cases next with
      | goes place => cases hnew
      | returns answer =>
        cases List.mem_singleton.mp hnew
        exact hreturns (h.active a get) result rfl
      | throws reason => cases List.mem_singleton.mp hnew

/-- From a lost place a call gets to lost places only and does not return. -/
theorem Lost.step {T : Program σ C D P ρ τ} {lost : P → Prop}
    (hgoes : ∀ place draw s next, lost place → (T.run place draw s).2 = .goes next → lost next)
    (hreturns : ∀ place draw s result, lost place → (T.run place draw s).2 ≠ .returns result)
    {number : Nat} {s t : State σ C P ρ τ} {event : Event C D τ} (h : Lost lost number s)
    (hstep : Steps T s event t) : Lost lost number t := by
  have hendedOnce := h.endedOnce.step hstep
  cases hstep with
  | called =>
    constructor
    case endedOnce => exact hendedOnce
    case given => exact Nat.lt_succ_of_lt h.given
    case active =>
      intro b hget
      rcases get_proceed hget with ⟨-, hold⟩ | ⟨heq, -⟩
      · exact h.active b hold
      · exact absurd heq (Nat.ne_of_lt h.given)
    case ended =>
      intro call result hmem
      rw [ended_proceed] at hmem
      rcases List.mem_append.mp hmem with hold | hnew
      · exact h.ended call result hold
      · exact Nat.ne_of_lt h.given (mem_log hnew).1
  | @operated i draw a store next get run =>
    have hnext : (T.run a.place draw s.store).2 = next := congrArg Prod.snd run
    apply h.proceed get
    · intro hlost place hgo
      exact hgoes a.place draw s.store place hlost (hnext.trans hgo)
    · intro hlost result hreturn
      exact hreturns a.place draw s.store result hlost (hnext.trans hreturn)
  | rejected get => exact h.proceed get (fun _ => nofun) (fun _ => nofun)

end Calls
end RealtimeGameServer.Lib
