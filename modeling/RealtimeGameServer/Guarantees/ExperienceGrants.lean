import Mathlib.Algebra.BigOperators.Group.List.Basic
import Mathlib.Algebra.Ring.Int.Defs
import RealtimeGameServer.Source.ProgressionSteps

/-!
# Experience under concurrent grants

`addExperience` writes the sum of its amount and an experience it has read before its
transaction began. The row lock orders the writes, not the reads: a grant that
commits after another one it has not seen takes that one back. What one player has
been granted is there once all calls have finished, and its experience never falls,
if and only if every commit finds the experience that its call has read.
-/
namespace RealtimeGameServer.Guarantees.ExperienceGrants
open Lib ReadCommitted Source Source.Progression

abbrev ServiceState := State ProgressionDb Effect Lock Call Pc PlayerProfile Failure

abbrev ServiceEvent := ReadCommitted.Event Call Failure

/-- What a call that returns has granted to a player. -/
def grantedTo (playerId : String) : Call → Int
  | .create _ _ => 0
  | .addExperience grant => if grant.playerId = playerId then grant.amount else 0

def total (playerId : String) (log : List (Nat × Call × PlayerProfile)) : Int :=
  (log.map fun entry => grantedTo playerId entry.2.1).sum

/-- Once all calls have finished the player has what it started with and what it has
been granted. -/
def AllCounted (playerId : String) (initial : Int) (s : ServiceState) : Prop :=
  s.active.keys = [] → ∃ player, s.committed.players.get playerId = some player ∧
    player.experience = initial + total playerId s.succeeded

/-- The step leads to a committed state with no less experience. -/
def Rises (playerId : String) (s : ServiceState) (event : ServiceEvent) : Prop :=
  ∀ t, (machine service).step s event = some t →
    ∀ before, s.committed.players.get playerId = some before →
      ∃ after, t.committed.players.get playerId = some after ∧
        before.experience ≤ after.experience

/-- A grant to the player finds, when it commits, the experience it has read. -/
def ReadStands (playerId : String) (a : Active Effect Lock Call Pc) (db : ProgressionDb) : Prop :=
  ∀ grant current updated, a.pc = .granted grant current updated → grant.playerId = playerId →
    ∀ player, db.players.get playerId = some player → player.experience = current.experience

/-- The counter is not above its target, nor is any value read from it; a value that
equals the target is the counter's. -/
structure Ledger (counter target : Int) (reads : Int → Prop) : Prop where
  counter_le : counter ≤ target
  read_le : ∀ value, reads value → value ≤ target
  current : ∀ value, reads value → value = target → counter = value

/-- Reading the counter keeps the ledger. -/
theorem Ledger.read {counter target : Int} {reads reads' : Int → Prop}
    (h : Ledger counter target reads)
    (hreads : ∀ value, reads' value → reads value ∨ value = counter) :
    Ledger counter target reads' where
  counter_le := h.counter_le
  read_le := by
    intro value hvalue
    rcases hreads value hvalue with hold | rfl
    · exact h.read_le value hold
    · exact h.counter_le
  current := by
    intro value hvalue heq
    rcases hreads value hvalue with hold | rfl
    · exact h.current value hold heq
    · rfl

/-- A value that was read, with an amount added, overwrites the counter: the ledger
is kept, and the counter is at its new target exactly when it was at the old one and
the value was the counter's. -/
theorem Ledger.overwrite {counter target value amount : Int} {reads reads' : Int → Prop}
    (h : Ledger counter target reads) (hvalue : reads value) (hpos : 0 < amount)
    (hreads : ∀ other, reads' other → reads other) :
    Ledger (value + amount) (target + amount) reads' ∧
      (value + amount = target + amount ↔ counter = target ∧ counter = value) := by
  have hle := h.read_le value hvalue
  have hcurrent := h.current value hvalue
  constructor
  · constructor
    case counter_le => omega
    case read_le =>
      intro other hother
      have hother' := h.read_le other (hreads other hother)
      omega
    case current =>
      -- what was read before this write is below the new target
      intro other hother heq
      have hother' := h.read_le other (hreads other hother)
      omega
  · omega

section
variable (playerId : String)

def experienceAt (db : ProgressionDb) : Int :=
  ((db.players.get playerId).map (·.experience)).getD 0

/-- The player a grant has read, at the places that still hold it. -/
def readOf : Pc → Option PlayerProfile
  | .found grant current => if grant.playerId = playerId then some current else none
  | .updatePlayer grant current => if grant.playerId = playerId then some current else none
  | .upsertEntry grant current _ => if grant.playerId = playerId then some current else none
  | .granted grant current _ => if grant.playerId = playerId then some current else none
  | _ => none

def Reads (s : ServiceState) (value : Int) : Prop :=
  ∃ number a current, s.active.get number = some a ∧ readOf playerId a.pc = some current ∧
    current.experience = value

/-- Every grant in progress is positive, and the player is there. -/
structure Sound (s : ServiceState) : Prop where
  known : Known touches Knows s
  positive : ∀ number a, s.active.get number = some a →
    ∀ grant, a.call = .addExperience grant → 0 < grant.amount
  present : ∃ player, s.committed.players.get playerId = some player

/-- What a step does to the player, to what its experience should be and to the
values read from it. -/
inductive Moves (s : ServiceState) (event : ServiceEvent) (t : ServiceState) : Prop
  | quiet (ok : CommitOk service (ReadStands playerId) s event)
      (player : t.committed.players.get playerId = s.committed.players.get playerId)
      (total : total playerId t.succeeded = total playerId s.succeeded)
      (reads : ∀ value, Reads playerId t value →
        Reads playerId s value ∨ value = experienceAt playerId s.committed)
  | granted (value amount level : Int) (read : Reads playerId s value) (positive : 0 < amount)
      (ok_iff : CommitOk service (ReadStands playerId) s event ↔
        experienceAt playerId s.committed = value)
      (player : t.committed.players.get playerId =
        (s.committed.players.get playerId).map (withProgress (value + amount) level))
      (total : total playerId t.succeeded = total playerId s.succeeded + amount)
      (reads : ∀ other, Reads playerId t other → Reads playerId s other)

end

variable {playerId : String}

theorem experienceAt_of_get {db : ProgressionDb} {player : PlayerProfile}
    (h : db.players.get playerId = some player) : experienceAt playerId db = player.experience := by
  rw [experienceAt, h]
  rfl

theorem total_append (log : List (Nat × Call × PlayerProfile)) (number : Nat) (call : Call)
    (result : PlayerProfile) : total playerId (log ++ [(number, call, result)]) =
      total playerId log + grantedTo playerId call := by
  simp [total]

theorem Reads.of_delete {s t : ServiceState} {number : Nat} (ht : t.active = s.active.delete number)
    {value : Int} (h : Reads playerId t value) : Reads playerId s value := by
  obtain ⟨i, a, current, hget, hread, hvalue⟩ := h
  rw [ht] at hget
  exact ⟨i, a, current, (JsMap.get_delete_cases hget).2, hread, hvalue⟩

theorem Reads.of_set {s t : ServiceState} {number : Nat} {b : Active Effect Lock Call Pc}
    (ht : t.active = s.active.set number b) {value : Int} (h : Reads playerId t value) :
    Reads playerId s value ∨ ∃ current, readOf playerId b.pc = some current ∧
      current.experience = value := by
  obtain ⟨i, a, current, hget, hread, hvalue⟩ := h
  rw [ht] at hget
  rcases JsMap.get_set_cases hget with ⟨-, rfl⟩ | ⟨-, hold⟩
  · exact Or.inr ⟨current, hread, hvalue⟩
  · exact Or.inl ⟨i, a, current, hold, hread, hvalue⟩

/-- A statement that goes on holds what was read before, or reads the player now. -/
theorem readOf_continues {db : ProgressionDb} {a : Active Effect Lock Call Pc}
    {effects : List Effect} {next : Pc} {current : PlayerProfile} (hknows : Knows a db)
    (hrun : run a.pc (service.view a db) = .continues effects next)
    (hread : readOf playerId next = some current) :
    readOf playerId a.pc = some current ∨ db.players.get playerId = some current := by
  obtain ⟨call, pc, pending, held⟩ := a
  have hcontinues := run_continues hrun
  cases pc with
  | findUnique grant =>
    obtain ⟨rfl, -⟩ := hknows
    cases hcontinues with
    | found get =>
      obtain ⟨heq, hcurrent⟩ := Option.ite_none_right_eq_some.mp hread
      cases hcurrent
      exact Or.inr (heq ▸ get)
    | stays hcommits => exact absurd rfl hcommits
  | updatePlayer grant current' =>
    cases hcontinues with
    | updated => exact Or.inl hread
    | stays hcommits => exact absurd rfl hcommits
  | upsertEntry grant current' updated =>
    cases hcontinues with
    | entryUpdated | entryCreated => exact Or.inl hread
    | stays hcommits => exact absurd rfl hcommits
  | insertPlayer | insertInventory | insertEntry | created =>
    cases hcontinues <;> cases hread
  | found | granted =>
    cases hcontinues
    exact Or.inl hread

theorem readOf_opens {call : Call} {pc : Pc} (h : serviceOpens call = .ok pc) :
    readOf playerId pc = none := by
  cases call with
  | create =>
    cases h
    rfl
  | addExperience grant =>
    simp only [serviceOpens] at h
    split at h <;> cases h
    rfl

theorem positive_opens {call : Call} {pc : Pc} (h : serviceOpens call = .ok pc) :
    (opens call = .ok pc) ∧ ∀ grant, call = .addExperience grant → 0 < grant.amount := by
  cases call with
  | create => exact ⟨h, nofun⟩
  | addExperience grant =>
    simp only [serviceOpens] at h
    split at h
    next => cases h
    next hpos =>
      refine ⟨h, ?_⟩
      rintro _ ⟨⟩
      exact Int.not_le.mp hpos

theorem serviceRule : Rule service part (fun _ _ => True) Knows fun _ _ => True :=
  rule fun _ _ h => (positive_opens h).1

/-- The guard says nothing of a commit that is no grant to the player. -/
theorem readStands_of_ne {a : Active Effect Lock Call Pc} {db : ProgressionDb}
    (h : ∀ grant current updated, a.pc = .granted grant current updated →
      grant.playerId ≠ playerId) : ReadStands playerId a db :=
  fun grant current updated hpc heq => absurd heq (h grant current updated hpc)

/-- A call that commits and returns is no grant to the player and leaves it, or sets
its experience. -/
theorem returned_cases {s : ServiceState} (h : Sound playerId s) {number : Nat}
    {a : Active Effect Lock Call Pc} (get : s.active.get number = some a) {result : PlayerProfile}
    (hfollow : follow a.pc = .commitReturn result) :
    (ReadStands playerId a s.committed ∧ grantedTo playerId a.call = 0 ∧
      (service.view a s.committed).players.get playerId = s.committed.players.get playerId) ∨
    ∃ grant current updated, a.pc = .granted grant current updated ∧
      a.call = .addExperience grant ∧ grant.playerId = playerId ∧
      (service.view a s.committed).players.get playerId = (s.committed.players.get playerId).map
        (withProgress (grantedExperience grant current) (grantedLevel grant current)) := by
  obtain ⟨before, hbefore⟩ := h.present
  have hcommits : follow a.pc ≠ .statement := fun heq => by
    rw [heq] at hfollow
    cases hfollow
  rcases commit_cases serviceOpens (h.known.locally_ number a get) hcommits with
    ⟨grant, current, hpc, -⟩ | ⟨player, hpc, ⟨input, ids, hcall⟩, hcreated⟩ |
    ⟨grant, current, updated, hpc, hcall, hgranted⟩
  · rw [hpc] at hfollow
    cases hfollow
  · left
    have hother : playerId ≠ player.id := fun heq => by
      rw [heq, hcreated.absent] at hbefore
      cases hbefore
    refine ⟨readStands_of_ne fun _ _ _ heq => ?_, by rw [hcall]; rfl, ?_⟩
    · rw [hpc] at heq
      cases heq
    · exact (hcreated.players playerId).trans (if_neg hother)
  · by_cases heq : grant.playerId = playerId
    · right
      refine ⟨grant, current, updated, hpc, hcall, heq, ?_⟩
      exact (hgranted.players playerId).trans (if_pos heq.symm)
    · left
      refine ⟨readStands_of_ne fun _ _ _ hpc' => ?_, ?_, ?_⟩
      · rw [hpc] at hpc'
        cases hpc'
        exact heq
      · rw [hcall]
        exact if_neg heq
      · exact (hgranted.players playerId).trans (if_neg (Ne.symm heq))

/-- What a commit does to the player. -/
theorem commit_moves {s t : ServiceState} {number : Nat} (h : Sound playerId s)
    (hstep : (machine service).step s (.commit number) = some t) :
    Moves playerId s (.commit number) t := by
  obtain ⟨before, hbefore⟩ := h.present
  obtain ⟨a, get, hcommit⟩ := commit_step hstep
  have hguard : CommitOk service (ReadStands playerId) s (.commit number) ↔
      (service.follow a.pc ≠ .statement → ReadStands playerId a s.committed) := by
    constructor
    · exact fun hok => hok a get
    · intro hok b hget
      cases get.symm.trans hget
      exact hok
  cases hcommit with
  | @proceeded next follow =>
    -- only the read of a grant is followed by another transaction
    obtain ⟨grant, current, hpc, hsame⟩ : ∃ grant current, a.pc = .found grant current ∧
        service.view a s.committed = s.committed := by
      have hfollow : Progression.follow a.pc = .commitThen next := follow
      rcases commit_cases serviceOpens (h.known.locally_ number a get)
          (fun heq => by rw [heq] at hfollow; cases hfollow) with
        hfound | ⟨player, hpc, -⟩ | ⟨grant, current, updated, hpc, -⟩
      · exact hfound
      · rw [hpc] at hfollow
        cases hfollow
      · rw [hpc] at hfollow
        cases hfollow
    have hnext : next = .updatePlayer grant current := by
      have hfollow : Progression.follow a.pc = .commitThen next := follow
      rw [hpc] at hfollow
      cases hfollow
      rfl
    refine .quiet (hguard.mpr fun _ => readStands_of_ne fun _ _ _ heq => ?_)
      (congrArg (fun db => db.players.get playerId) hsame) rfl fun value hread => Or.inl ?_
    · rw [hpc] at heq
      cases heq
    · rcases Reads.of_set rfl hread with hold | ⟨read, hcurrent, hvalue⟩
      · exact hold
      · rw [hnext] at hcurrent
        exact ⟨number, a, read, get, hpc ▸ hcurrent, hvalue⟩
  | @returned result follow =>
    rcases returned_cases h get follow with ⟨hstands, hzero, hplayer⟩ |
      ⟨grant, current, updated, hpc, hcall, heq, hplayer⟩
    · refine .quiet (hguard.mpr fun _ => hstands) hplayer ?_ fun _ hread =>
        Or.inl (.of_delete rfl hread)
      rw [total_append, hzero, add_zero]
    · have hread : readOf playerId a.pc = some current := by
        rw [hpc]
        exact if_pos heq
      refine .granted current.experience grant.amount _ ⟨number, a, current, get, hread, rfl⟩
        (h.positive number a get grant hcall) ?_ hplayer ?_ fun _ hother => .of_delete rfl hother
      · rw [hguard, experienceAt_of_get hbefore]
        constructor
        · intro hok
          have hfollows : service.follow a.pc ≠ .statement := fun hstatement => by
            rw [hstatement] at follow
            cases follow
          exact hok hfollows grant current updated hpc heq before hbefore
        · rintro hsame - grant' current' updated' hpc' - player hget
          rw [hpc] at hpc'
          cases hpc'
          cases hbefore.symm.trans hget
          exact hsame
      · rw [total_append, hcall, grantedTo, if_pos heq]

/-- Every step is quiet for the player or grants it what its call has read and an
amount. -/
theorem moves {s t : ServiceState} {event : ServiceEvent} (h : Sound playerId s)
    (hstep : (machine service).step s event = some t) : Moves playerId s event t := by
  cases event with
  | commit number => exact commit_moves h hstep
  | call call =>
    cases step_cases hstep with
    | refused => exact .quiet trivial rfl rfl fun _ hread => Or.inl hread
    | threw get => exact .quiet trivial rfl rfl fun _ hread => Or.inl (.of_delete rfl hread)
    | opened hopens =>
      refine .quiet trivial rfl rfl fun value hread => ?_
      rcases Reads.of_set rfl hread with hold | ⟨current, hcurrent, -⟩
      · exact Or.inl hold
      · rw [readOf_opens hopens] at hcurrent
        cases hcurrent
  | statement number =>
    cases step_cases hstep with
    | threw get => exact .quiet trivial rfl rfl fun _ hread => Or.inl (.of_delete rfl hread)
    | ran get free run =>
      refine .quiet trivial rfl rfl fun value hread => ?_
      rcases Reads.of_set rfl hread with hold | ⟨current, hcurrent, hvalue⟩
      · exact Or.inl hold
      · rcases readOf_continues (h.known.locally_ number _ get) run hcurrent with hheld | hnow
        · exact Or.inl ⟨number, _, current, get, hheld, hvalue⟩
        · exact Or.inr (hvalue.symm.trans (experienceAt_of_get hnow).symm)
  | abort number reason =>
    cases step_cases hstep with
    | threw get => exact .quiet trivial rfl rfl fun _ hread => Or.inl (.of_delete rfl hread)

/-- Every grant in progress stays positive. -/
theorem positive_step {s t : ServiceState} {event : ServiceEvent}
    (h : ∀ number a, s.active.get number = some a →
      ∀ grant, a.call = .addExperience grant → 0 < grant.amount)
    (hstep : (machine service).step s event = some t) :
    ∀ number a, t.active.get number = some a →
      ∀ grant, a.call = .addExperience grant → 0 < grant.amount := by
  cases step_cases hstep with
  | refused => exact h
  | opened hopens => exact JsMap.forall_get_set h (positive_opens hopens).2
  | @ran number a _ _ get => exact JsMap.forall_get_set h (h number a get)
  | threw => exact JsMap.forall_get_delete h _
  | @proceeded number a _ get => exact JsMap.forall_get_set h (h number a get)
  | returned => exact JsMap.forall_get_delete h _

theorem Sound.step {s t : ServiceState} {event : ServiceEvent} (h : Sound playerId s)
    (hstep : (machine service).step s event = some t) : Sound playerId t where
  known := h.known.step (guarded serviceOpens) serviceRule (statementOk_true s event) hstep
  positive := positive_step h.positive hstep
  present := by
    obtain ⟨before, hbefore⟩ := h.present
    cases moves h hstep with
    | quiet _ player => exact ⟨before, player.trans hbefore⟩
    | granted _ _ _ _ _ _ player =>
      rw [hbefore, Option.map_some] at player
      exact ⟨_, player⟩

/-- The experience, what it should be, and the reads in progress form a ledger. -/
structure Accounted (playerId : String) (initial : Int) (s : ServiceState) : Prop where
  sound : Sound playerId s
  ledger : Ledger (experienceAt playerId s.committed) (initial + total playerId s.succeeded)
    (Reads playerId s)

/-- Nothing is missing. -/
def Even (playerId : String) (initial : Int) (s : ServiceState) : Prop :=
  experienceAt playerId s.committed = initial + total playerId s.succeeded

/-- One step keeps the ledger; it leaves nothing missing exactly when nothing was and
the commit, if it is one, met the guard. -/
theorem Accounted.step {initial : Int} {s t : ServiceState} {event : ServiceEvent}
    (h : Accounted playerId initial s) (hstep : (machine service).step s event = some t) :
    Accounted playerId initial t ∧ (Even playerId initial t ↔
      Even playerId initial s ∧ CommitOk service (ReadStands playerId) s event) := by
  have hsound := h.sound.step hstep
  cases moves h.sound hstep with
  | quiet ok player total reads =>
    have hexperience : experienceAt playerId t.committed = experienceAt playerId s.committed := by
      rw [experienceAt, player]
      rfl
    refine ⟨⟨hsound, ?_⟩, ?_⟩
    · rw [hexperience, total]
      exact h.ledger.read reads
    · rw [Even, hexperience, total]
      exact ⟨fun heven => ⟨heven, ok⟩, And.left⟩
  | granted value amount level read positive ok_iff player total reads =>
    obtain ⟨before, hbefore⟩ := h.sound.present
    rw [hbefore, Option.map_some] at player
    have hexperience : experienceAt playerId t.committed = value + amount :=
      experienceAt_of_get player
    obtain ⟨hledger, heven⟩ := h.ledger.overwrite read positive reads
    refine ⟨⟨hsound, ?_⟩, ?_⟩
    · rw [hexperience, total, ← add_assoc]
      exact hledger
    · rw [Even, hexperience, total, ← add_assoc, ok_iff]
      exact heven

theorem accounted_start {db : ProgressionDb} {player : PlayerProfile}
    (get : db.players.get playerId = some player) :
    Accounted playerId player.experience (start db) ∧
      Even playerId player.experience (start db) := by
  have heven : Even playerId player.experience (start db) := by
    have hexperience := experienceAt_of_get get
    simpa [Even, start, total] using hexperience
  have hidle : ∀ i a, (start db : ServiceState).active.get i ≠ some a :=
    fun i a hget => by cases hget
  have hnone : ∀ value, ¬Reads playerId (start db) value := by
    rintro value ⟨number, a, current, hget, -⟩
    exact hidle number a hget
  constructor
  · constructor
    case sound =>
      constructor
      case known => exact (along_of_free_rule (guarded serviceOpens) serviceRule trivial []).head
      case positive => exact fun i a hget => absurd hget (hidle i a)
      case present => exact ⟨player, get⟩
    case ledger =>
      exact ⟨heven.le, fun value hread => absurd hread (hnone value),
        fun value hread => absurd hread (hnone value)⟩
  · exact heven

theorem Even.counted {initial : Int} {s : ServiceState} (h : Even playerId initial s)
    (hsound : Sound playerId s) : AllCounted playerId initial s := by
  intro _
  obtain ⟨player, hget⟩ := hsound.present
  exact ⟨player, hget, (experienceAt_of_get hget).symm.trans h⟩

/-- Between two states with nothing missing the experience does not fall. -/
theorem Even.rises {initial : Int} {s t : ServiceState} {event : ServiceEvent}
    (hs : Even playerId initial s) (ht : Even playerId initial t) (hsound : Sound playerId s)
    (hstep : (machine service).step s event = some t) : Rises playerId s event := by
  intro t' hstep' before hbefore
  cases hstep.symm.trans hstep'
  obtain ⟨after, hafter⟩ := (hsound.step hstep).present
  refine ⟨after, hafter, ?_⟩
  rw [Even, experienceAt_of_get hbefore] at hs
  rw [Even, experienceAt_of_get hafter] at ht
  cases moves hsound hstep with
  | quiet _ _ total => omega
  | granted _ amount _ _ positive _ _ total => omega

/-- In every run of `addExperience` calls of `PlayerService` (and `create` calls) in
which every commit of a grant to the player finds the experience its call has read,
the experience never falls, and once all calls have finished it is the initial one
plus the amounts of the calls that returned. A run that ends with all calls finished
and nothing lost is such a run. -/
theorem experience_kept_iff (db : ProgressionDb) (playerId : String) (player : PlayerProfile)
    (get : db.players.get playerId = some player) (events : List ServiceEvent) :
    ((machine service).StepsMeet (CommitOk service (ReadStands playerId)) (start db) events →
      (machine service).Along (AllCounted playerId player.experience) (start db) events ∧
      (machine service).StepsMeet (Rises playerId) (start db) events) ∧
    ∀ t, (machine service).exec (start db) events = some t → t.active.keys = [] →
      (machine service).Along (AllCounted playerId player.experience) (start db) events →
      (machine service).StepsMeet (CommitOk service (ReadStands playerId)) (start db) events := by
  obtain ⟨hstart, heven⟩ := accounted_start get
  constructor
  · intro hstands
    have halong := Machine.along_of_guarded (L := fun _ => True)
      (I := fun s => Accounted playerId player.experience s ∧ Even playerId player.experience s)
      (fun s event t h _ hstep hok =>
        ⟨(h.1.step hstep).1, (h.1.step hstep).2.mpr ⟨h.2, hok⟩⟩)
      (fun _ _ => trivial) ⟨hstart, heven⟩ hstands
    constructor
    · exact halong.mono fun s h => h.2.counted h.1.sound
    · exact halong.stepsMeet fun s event t h hstep h' => h.2.rises h'.2 h.1.sound hstep
  · intro t hexec hdone hcounted
    have hlast : Accounted playerId player.experience t :=
      (Machine.along_of_invariant (fun _ _ _ h hstep => (Accounted.step h hstep).1) events
        hstart).last hexec
    have hend : Even playerId player.experience t := by
      obtain ⟨after, hafter, hsum⟩ := hcounted.last hexec hdone
      exact (experienceAt_of_get hafter).trans hsum
    have hall := Machine.along_of_last (fun _ _ _ h hstep => (Accounted.step h hstep).1)
      (fun _ _ _ h hstep hlater => ((Accounted.step h hstep).2.mp hlater).1) hstart hexec hend
    have haccounted := Machine.along_of_invariant (M := machine service)
      (fun _ _ _ h hstep => (Accounted.step h hstep).1) events hstart
    exact (haccounted.and hall).stepsMeet fun s event t h hstep h' =>
      ((h.1.step hstep).2.mp h'.2).2

/-- One player at the start, with its leaderboard row. -/
def onePlayer : ProgressionDb where
  users := ["u1"]
  players := JsMap.empty.set "p1" ⟨"p1", "u1", "nova", 0, 100, 1⟩
  inventories := JsMap.empty.set "p1" ⟨"i1", "p1", 40⟩
  leaderboard := [⟨"l1", "p1", "nova", 0, 1, 0⟩]

def grant (amount : Int) (entryId : String) : ServiceEvent :=
  .call (.addExperience ⟨"p1", amount, entryId⟩)

/-- Both calls read 0 before either commits. -/
def staleGrant : List ServiceEvent :=
  [grant 1500 "l2", grant 400 "l3", .statement 0, .commit 0, .statement 1, .commit 1,
    .statement 0, .statement 0, .commit 0, .statement 1, .statement 1, .commit 1]

theorem staleGrant_result :
    ((machine service).exec (start onePlayer) staleGrant).map
      (fun s => (experienceAt "p1" s.committed, total "p1" s.succeeded, s.active.keys)) =
      some (400, 1900, []) := rfl

/-- Of 1900 points granted 400 are there. -/
theorem stale_grant_takes_back : ¬∀ (db : ProgressionDb) (playerId : String)
    (player : PlayerProfile), db.players.get playerId = some player →
      ∀ events : List ServiceEvent,
        (machine service).Along (AllCounted playerId player.experience) (start db) events ∧
        (machine service).StepsMeet (Rises playerId) (start db) events := by
  intro h
  obtain ⟨s, hexec, hresult⟩ := Option.map_eq_some_iff.mp staleGrant_result
  simp only [Prod.mk.injEq] at hresult
  obtain ⟨hexperience, htotal, hdone⟩ := hresult
  obtain ⟨player, hget, hsum⟩ := (h onePlayer "p1" _ rfl staleGrant).1.last hexec hdone
  rw [experienceAt_of_get hget] at hexperience
  rw [hexperience, htotal] at hsum
  exact absurd hsum (by decide)

instance (playerId : String) (a : Active Effect Lock Call Pc) (db : ProgressionDb) :
    Decidable (ReadStands playerId a db) :=
  match h : a.pc with
  | .granted grant current _ =>
    decidable_of_iff (grant.playerId = playerId →
      ∀ player ∈ db.players.get playerId, player.experience = current.experience)
      ⟨fun hstands _ _ _ hpc => by cases h.symm.trans hpc; exact hstands,
        fun hstands => hstands grant current _ h⟩
  | .insertPlayer _ _ | .insertInventory _ _ | .insertEntry _ _ | .created _ | .findUnique _
  | .found _ _ | .updatePlayer _ _ | .upsertEntry _ _ _ =>
    isTrue fun _ _ _ hpc => by cases h.symm.trans hpc

/-- Three grants in progress together. The second and the third read what the first has
committed; the third is lost with its connection, so the second still finds what it has read. A
fourth one reads after that. -/
def overlapping : List ServiceEvent :=
  [grant 1500 "l2", grant 400 "l3", grant 100 "l4", .statement 0, .commit 0, .statement 0,
    .statement 0, .commit 0, .statement 1, .statement 2, .commit 2, .commit 1, .statement 1,
    grant 50 "l5", .abort 2 .connectionLost, .statement 1, .commit 1, .statement 3, .commit 3,
    .statement 3, .statement 3, .commit 3]

/-- All three that return are counted, and the experience does not fall. -/
theorem overlapping_grants_counted :
    ∃ s, (machine service).exec (start onePlayer) overlapping = some s ∧
      s.succeeded.map Prod.fst = [0, 1, 3] ∧ AllCounted "p1" 0 s ∧
      (machine service).StepsMeet (Rises "p1") (start onePlayer) overlapping := by
  have hrun : ((machine service).exec (start onePlayer) overlapping).map
      (fun s => s.succeeded.map Prod.fst) = some [0, 1, 3] := by decide +kernel
  obtain ⟨s, hexec, hreturned⟩ := Option.map_eq_some_iff.mp hrun
  obtain ⟨hcounted, hrises⟩ :=
    (experience_kept_iff onePlayer "p1" ⟨"p1", "u1", "nova", 0, 100, 1⟩ rfl overlapping).1
      (Machine.stepsMeet_iff_decide.mpr (by decide +kernel))
  exact ⟨s, hexec, hreturned, hcounted.last hexec, hrises⟩

end RealtimeGameServer.Guarantees.ExperienceGrants
