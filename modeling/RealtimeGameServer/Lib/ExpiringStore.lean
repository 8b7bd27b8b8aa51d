import Mathlib.Data.List.Induction
import Mathlib.Order.Lattice
import RealtimeGameServer.Lib.JsMap
import RealtimeGameServer.Lib.Machine

/-!
# Stores whose keys expire

An entry may carry the time at which it stops to exist. Commands act on one key each,
atomically, and find an entry only while it lives; the store itself may drop an entry
that no longer does at any moment. `peek_exec` says that neither the moment at which
it does so nor the commands on other keys can be seen: what a command finds is the
replay of the earlier commands on its own key.
-/
namespace RealtimeGameServer.Lib
namespace ExpiringStore

structure Entry (ν T : Type*) where
  value : ν
  expiresAt : Option T
  deriving DecidableEq, Repr

abbrev Store (κ ν T : Type*) := JsMap κ (Entry ν T)

/-- A command on one key: what it leaves in place of the entry it finds. -/
structure Command (κ ν T : Type*) where
  key : κ
  now : T
  act : Option (Entry ν T) → Option (Entry ν T)

inductive Event (κ ν T : Type*) where
  | command (command : Command κ ν T)
  /-- The store drops the key. -/
  | expire (now : T) (key : κ)

def Event.now {κ ν T : Type*} : Event κ ν T → T
  | .command c => c.now
  | .expire now _ => now

def Event.command? {κ ν T : Type*} : Event κ ν T → Option (Command κ ν T)
  | .command c => some c
  | .expire _ _ => none

variable {κ ν T : Type*} [LinearOrder T]

/-- An entry at a time. -/
def living (now : T) (entry : Option (Entry ν T)) : Option (Entry ν T) :=
  entry.filter fun e => e.expiresAt.all fun t => now < t

/-- What the commands on one key make of an entry. -/
def replay (entry : Option (Entry ν T)) (commands : List (Command κ ν T)) : Option (Entry ν T) :=
  commands.foldl (fun entry command => command.act (living command.now entry)) entry

section Entries

@[simp] theorem living_none (now : T) : living now (none : Option (Entry ν T)) = none := rfl

theorem living_some {now : T} {entry : Entry ν T} :
    living now (some entry) = if entry.expiresAt.all (now < ·) then some entry else none := by
  rw [living, Option.filter_some]

theorem living_of_expiresAt {now t : T} {value : ν} :
    living now (some ⟨value, some t⟩) = if now < t then some ⟨value, some t⟩ else none := by
  rw [living_some]
  exact if_congr decide_eq_true_iff rfl rfl

/-- Two entries that no command after `last` can tell apart. -/
def SameFrom (last : T) (a b : Option (Entry ν T)) : Prop :=
  ∀ now, last ≤ now → living now a = living now b

theorem SameFrom.refl (last : T) (a : Option (Entry ν T)) : SameFrom last a a := fun _ _ => rfl

theorem SameFrom.mono {last last' : T} {a b : Option (Entry ν T)} (h : SameFrom last a b)
    (hle : last ≤ last') : SameFrom last' a b := fun now hnow => h now (hle.trans hnow)

/-- An entry that is dead stays dead. -/
theorem sameFrom_of_dead {now : T} {a : Option (Entry ν T)} (h : living now a = none) :
    SameFrom now a none := by
  intro later hlater
  rw [living_none]
  cases a with
  | none => exact living_none later
  | some entry =>
    cases hexpires : entry.expiresAt with
    | none =>
      rw [living_some, hexpires] at h
      cases h
    | some t =>
      rw [living_some, hexpires, Option.all_some, ite_eq_right_iff] at h
      have hdead : ¬now < t := fun hlt => by cases h (decide_eq_true hlt)
      rw [living_some, hexpires, Option.all_some, if_neg]
      exact fun hlt => hdead (hlater.trans_lt (of_decide_eq_true hlt))

end Entries

variable [DecidableEq κ]

/-- The entry a command at `now` finds. -/
def peek (store : Store κ ν T) (now : T) (key : κ) : Option (Entry ν T) :=
  living now (store.get key)

def put (store : Store κ ν T) (key : κ) : Option (Entry ν T) → Store κ ν T
  | none => store.delete key
  | some entry => store.set key entry

def run (store : Store κ ν T) (command : Command κ ν T) : Store κ ν T :=
  put store command.key (command.act (peek store command.now command.key))

/-- The store drops only what has expired. -/
def machine : Machine (Store κ ν T) (Event κ ν T) where
  step store
    | .command command => some (run store command)
    | .expire now key => if (peek store now key).isNone then some (store.delete key) else none

/-- The commands on a key, in order. -/
def commandsOn (key : κ) (events : List (Event κ ν T)) : List (Command κ ν T) :=
  (events.filterMap Event.command?).filter fun command => command.key = key

/-- The events follow the clock. -/
def Chronological (events : List (Event κ ν T)) : Prop :=
  events.Pairwise fun earlier later => earlier.now ≤ later.now

omit [LinearOrder T] in
theorem get_put (store : Store κ ν T) (key other : κ) (entry : Option (Entry ν T)) :
    (put store key entry).get other = if other = key then entry else store.get other := by
  cases entry with
  | none => exact JsMap.get_delete store key other
  | some e => exact JsMap.get_set store key other e

theorem get_run (store : Store κ ν T) (command : Command κ ν T) (key : κ) :
    (run store command).get key = if key = command.key then
      command.act (living command.now (store.get key)) else store.get key := by
  rw [run, get_put]
  split
  next heq => rw [heq, peek]
  next => rfl

/-- What a run leaves under a key cannot be told from the replay of the key's commands. -/
theorem sameFrom_exec {events : List (Event κ ν T)} {store reached : Store κ ν T} {key : κ} {last : T}
    {entry : Option (Entry ν T)} (hchron : Chronological events)
    (hstart : ∀ event ∈ events, last ≤ event.now) {now : T} (hlast : last ≤ now)
    (hend : ∀ event ∈ events, event.now ≤ now) (hsame : SameFrom last (store.get key) entry)
    (hexec : machine.exec store events = some reached) :
    SameFrom now (reached.get key) (replay entry (commandsOn key events)) := by
  induction events generalizing store last entry with
  | nil =>
    cases hexec
    exact hsame.mono hlast
  | cons event rest ih =>
    obtain ⟨next, hnext, hrest⟩ := Machine.exec_cons.mp hexec
    obtain ⟨hlater, hchron'⟩ := List.pairwise_cons.mp hchron
    have hnow : event.now ≤ now := hend event List.mem_cons_self
    have hbegun : last ≤ event.now := hstart event List.mem_cons_self
    have hend' : ∀ other ∈ rest, other.now ≤ now :=
      fun other hother => hend other (List.mem_cons_of_mem _ hother)
    cases event with
    | command command =>
      cases hnext
      by_cases hkey : command.key = key
      · have hget : (run store command).get key = command.act (living command.now entry) := by
          have hfound : living command.now (store.get key) = living command.now entry :=
            hsame command.now hbegun
          rw [get_run, if_pos hkey.symm, hfound]
        have hsame' : SameFrom command.now ((run store command).get key)
            (command.act (living command.now entry)) := by
          rw [hget]
          exact .refl _ _
        have htail := ih hchron' hlater hnow hend' hsame' hrest
        simpa only [commandsOn, List.filterMap_cons, Event.command?, List.filter_cons, hkey,
          decide_true, if_true, replay, List.foldl_cons] using htail
      · have hget : (run store command).get key = store.get key := by
          rw [get_run, if_neg (Ne.symm hkey)]
        have hsame' : SameFrom command.now ((run store command).get key) entry := by
          rw [hget]
          exact hsame.mono hbegun
        have htail := ih hchron' hlater hnow hend' hsame' hrest
        simpa only [commandsOn, List.filterMap_cons, Event.command?, List.filter_cons, hkey,
          decide_false, Bool.false_eq_true, if_false] using htail
    | expire at_ other =>
      simp only [machine, Option.isNone_iff_eq_none, Option.ite_none_right_eq_some,
        Option.some.injEq] at hnext
      obtain ⟨hdead, rfl⟩ := hnext
      have hsilent : commandsOn key (Event.expire (ν := ν) at_ other :: rest) = commandsOn key rest := rfl
      rw [hsilent]
      have hsame' : SameFrom at_ ((store.delete other).get key) entry := by
        rw [JsMap.get_delete]
        split
        next heq =>
          subst heq
          have hgone : SameFrom at_ (store.get key) none := sameFrom_of_dead hdead
          exact fun u hu => (hgone u hu).symm.trans (hsame.mono hbegun u hu)
        next => exact hsame.mono hbegun
      exact ih hchron' hlater hnow hend' hsame' hrest

/-- The refinement: after a run that follows the clock, a key reads as the replay of its
own commands. -/
theorem peek_exec {events : List (Event κ ν T)} {store reached : Store κ ν T} {now : T}
    (hchron : Chronological events) (hend : ∀ event ∈ events, event.now ≤ now)
    (hexec : machine.exec store events = some reached) (key : κ) :
    peek reached now key = living now (replay (store.get key) (commandsOn key events)) := by
  cases events with
  | nil =>
    cases hexec
    rfl
  | cons event rest =>
    have hfirst : ∀ other ∈ event :: rest, event.now ≤ other.now := by
      intro other hother
      rcases List.mem_cons.mp hother with rfl | hrest
      · exact le_rfl
      · exact (List.pairwise_cons.mp hchron).1 other hrest
    exact sameFrom_exec hchron hfirst (hend event List.mem_cons_self) hend (.refl _ _) hexec now le_rfl

end ExpiringStore
end RealtimeGameServer.Lib
