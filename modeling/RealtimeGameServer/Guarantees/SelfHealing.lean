import RealtimeGameServer.Guarantees.Replication

/-!
# A client catches up

The transport may lose messages, and a client may hold anything. Every twentieth tick
replaces its table, so a client that hears twenty ticks in a row holds the current
players from the last full snapshot among them on, whatever it had and whatever it
missed before. `removePlayer`, which no caller uses, is left out of the ticks it hears:
the delta after it does not tell of the removal.
-/
namespace RealtimeGameServer.Guarantees.SelfHealing
open Lib Source Source.GameSession
open Replication (FullTick Replica Tracks isTick)

variable {R : Type*}

/-- The session and a client's table. -/
structure Follower (R : Type*) where
  session : GameSession R
  table : ClientTable R
  afterTick : Bool

/-- What the client hears of an operation, all of it or nothing. -/
abbrev Heard (R : Type*) := Op R × Bool

/-- The client hears of the operation, which removes no player. -/
def Clear (heard : Heard R) : Prop := heard.2 = true ∧ ∀ id, heard.1 ≠ .removePlayer id

def ticks (window : List (Heard R)) : Nat := window.countP fun heard => isTick heard.1

variable [Field R] [LinearOrder R] [JsMath R]

def lossy (env : Env R) : Machine (Follower R) (Heard R) where
  step o heard :=
    let result := o.session.apply env heard.1
    some
      { session := result.session
        table := if heard.2 then o.table.deliver result.events else o.table
        afterTick := isTick heard.1 }

/-- After a tick the table is the current players. -/
def Synced (o : Follower R) : Prop := o.afterTick = true → o.table = o.session.currentTable

/-- The table holds what the session published last. -/
def InStep (o : Follower R) : Prop := Tracks ⟨o.session, o.table, [], o.afterTick⟩

/-- A client whose table is the baseline. -/
def onBaseline (s : GameSession R) : Replica R where
  session := s
  table := fun k => (s.previousSnapshots.get k).map PlayerSnapshot.toPatch
  dropped := []
  afterTick := false

omit [Field R] [LinearOrder R] [JsMath R] in
theorem onBaseline_tracks {s : GameSession R} (h : Grounded s) : Tracks (onBaseline s) := by
  constructor
  case grounded => exact h
  case held =>
    intro k b hb
    exact congrArg (Option.map PlayerSnapshot.toPatch) hb
  case dropped =>
    intro k hb
    have hnone : (onBaseline s).table k = none := congrArg (Option.map PlayerSnapshot.toPatch) hb
    exact iff_of_false (fun hne => hne hnone) List.not_mem_nil
  case synced =>
    intro hafter
    cases hafter

/-- A full snapshot brings any table into step. -/
theorem inStep_of_full {env : Env R} {o o' : Follower R} {now : Int}
    (hgrounded : Grounded o.session) (hfull : FullTick o.session)
    (hstep : (lossy env).step o (.step now, true) = some o') : InStep o' := by
  cases hstep
  have hother : (onBaseline o.session).table.deliver (o.session.step env now).events =
      o.table.deliver (o.session.step env now).events :=
    (Replication.deliver_full hgrounded hfull _).trans
      (Replication.deliver_full hgrounded hfull _).symm
  have htracks : Tracks (R := R) ⟨(o.session.step env now).session,
      (onBaseline o.session).table.deliver (o.session.step env now).events, [], true⟩ :=
    (onBaseline_tracks hgrounded).tick rfl
      (Replication.deliver_full hgrounded hfull _)
  rw [hother] at htracks
  exact htracks

/-- A client in step stays so while it hears everything. -/
theorem InStep.step {env : Env R} {o o' : Follower R} {heard : Heard R} (h : InStep o)
    (hclear : Clear heard) (hstep : (lossy env).step o heard = some o') : InStep o' := by
  obtain ⟨op, received⟩ := heard
  obtain ⟨hreceived, hstay⟩ := hclear
  dsimp only at hreceived hstay
  subst hreceived
  cases hstep
  by_cases hop : op.IsStep
  · cases op with
    | step now =>
      refine Tracks.tick h rfl ?_
      refine (Replication.tick_syncs_iff h).mpr (Or.inr fun id hid => ?_)
      cases hid
    | _ => exact hop.elim
  · have hbetween : (Replication.replica env).step ⟨o.session, o.table, [], o.afterTick⟩ op = some _ := rfl
    have hnext := Tracks.between h hop hbetween
    have hdropped : Replication.dropNext o.session [] op = [] := by
      cases op with
      | removePlayer id => exact absurd rfl (hstay id)
      | _ => rfl
    rw [hdropped] at hnext
    exact hnext

theorem tick_apply (env : Env R) (s : GameSession R) (op : Op R) :
    (s.apply env op).session.tick = s.tick + (if isTick op then 1 else 0) := by
  cases op with
  | step now => simp [apply, step_session, swept, isTick]
  | addPlayer now id username =>
    unfold apply addPlayer
    dsimp only
    split <;> rfl
  | markDisconnected id => exact withPlayer_tick s id _
  | heartbeat now id => exact withPlayer_tick s id _
  | updatePing id ping => exact withPlayer_tick s id _
  | enqueueInput id input =>
    unfold apply enqueueInput
    dsimp only
    split <;> rfl
  | removePlayer id => rfl

theorem inStep_along {env : Env R} {window : List (Heard R)}
    (hclear : ∀ heard ∈ window, Clear heard) {o : Follower R} (h : InStep o) :
    (lossy env).Along InStep o window :=
  Machine.along_of_guarded (G := fun _ _ => True) (fun _ _ _ h hclear hstep _ => h.step hclear hstep)
    hclear h (Machine.StepsMeet.of_labels (fun _ _ _ => trivial) o)

/-- A client that hears everything is in step once the count of ticks has passed a multiple
of `fullSnapshotEvery`. -/
theorem inStep_or_counting {env : Env R} {window : List (Heard R)} {o o' : Follower R}
    (hgrounded : Grounded o.session) (hclear : ∀ heard ∈ window, Clear heard)
    (hrun : (lossy env).exec o window = some o') :
    InStep o' ∨ (o.session.tick + ticks window) / fullSnapshotEvery =
      o.session.tick / fullSnapshotEvery := by
  induction window generalizing o with
  | nil => exact Or.inr rfl
  | cons heard rest ih =>
    obtain ⟨u, hu, hrest⟩ := Machine.exec_cons.mp hrun
    have hnow := hclear heard List.mem_cons_self
    have hlater : ∀ h ∈ rest, Clear h := fun h hmem => hclear h (List.mem_cons_of_mem _ hmem)
    have htick : u.session.tick = o.session.tick + (if isTick heard.1 then 1 else 0) := by
      cases hu
      exact tick_apply env o.session heard.1
    have hgrounded' : Grounded u.session := by
      cases hu
      exact hgrounded.apply env heard.1
    have hcount : ticks (heard :: rest) = (if isTick heard.1 then 1 else 0) + ticks rest := by
      rw [ticks, List.countP_cons, Nat.add_comm]
      rfl
    by_cases hfull : isTick heard.1 = true ∧ FullTick o.session
    · obtain ⟨op, received⟩ := heard
      obtain ⟨hreceived, -⟩ := hnow
      dsimp only at hreceived
      subst hreceived
      cases op with
      | step now =>
        exact Or.inl ((inStep_along hlater (inStep_of_full hgrounded hfull.2 hu)).last hrest)
      | _ => cases hfull.1
    · rcases ih hgrounded' hlater hrest with hin | hsame
      · exact Or.inl hin
      · refine Or.inr ?_
        rw [hcount, ← Nat.add_assoc, ← htick, hsame, htick]
        split
        next htickNow =>
          have hnotfull : ¬(o.session.tick + 1) % fullSnapshotEvery = 0 := by
            intro hround
            exact hfull ⟨htickNow, Or.inl hround⟩
          unfold fullSnapshotEvery at hnotfull ⊢
          omega
        next => rfl

theorem grounded_exec {env : Env R} {window : List (Heard R)} {o o' : Follower R}
    (h : Grounded o.session) (hrun : (lossy env).exec o window = some o') : Grounded o'.session := by
  refine Machine.exec_invariant (I := fun o => Grounded o.session) (fun o heard t h hstep => ?_) h hrun
  cases hstep
  exact h.apply env heard.1

/-- Whatever the client held, missed and heard before: once it has heard as many ticks as
lie between two full snapshots, it holds the current players after every further tick. -/
theorem self_heals (env : Env R) (roomId : String) (junk : ClientTable R)
    {before window after : List (Heard R)} {o : Follower R}
    (hrun : (lossy env).exec ⟨GameSession.create roomId, junk, false⟩ (before ++ window) = some o)
    (hclear : ∀ heard ∈ window ++ after, Clear heard) (hlong : fullSnapshotEvery ≤ ticks window) :
    (lossy env).Along Synced o after := by
  obtain ⟨start, hbefore, hwindow⟩ := Machine.exec_append.mp hrun
  have hgrounded := grounded_exec (.create roomId) hbefore
  have hcaught : InStep o := by
    rcases inStep_or_counting hgrounded
      (fun heard hmem => hclear heard (List.mem_append_left _ hmem)) hwindow with hin | hsame
    · exact hin
    · -- that many ticks pass a multiple
      unfold fullSnapshotEvery at hsame hlong
      omega
  exact (inStep_along (fun heard hmem => hclear heard (List.mem_append_right _ hmem)) hcaught).mono
    fun _ h => h.synced

/-- A player joins, and the client misses the tick that tells of it. -/
def missed : List (Heard ℝ) := [(.addPlayer 0 "p1" "nova", true), (.step 0, false)]

def heard : List (Heard ℝ) := (List.range 20).map fun n => (.step (50 * (n + 1)), true)

/-- The table had an entry for every id there is. -/
theorem ghosts_forgotten : ∃ o,
    (lossy defaultEnv).exec
      ⟨GameSession.create "room-1", fun id => some { id := id }, false⟩ (missed ++ heard) = some o ∧
    (lossy defaultEnv).Along Synced o [(.heartbeat 1050 "p1", true), (.step 1050, true)] := by
  have hrun : ((lossy defaultEnv).exec ⟨GameSession.create "room-1", fun id => some { id := id }, false⟩
      (missed ++ heard)).isSome := rfl
  obtain ⟨o, ho⟩ := Option.isSome_iff_exists.mp hrun
  refine ⟨o, ho, self_heals defaultEnv "room-1" _ ho ?_ (by decide)⟩
  intro entry hmem
  rcases List.mem_append.mp hmem with hwindow | hafter
  · obtain ⟨n, -, rfl⟩ := List.mem_map.mp hwindow
    exact ⟨rfl, fun id h => by cases h⟩
  · simp only [List.mem_cons, List.not_mem_nil, or_false] at hafter
    rcases hafter with rfl | rfl <;> exact ⟨rfl, fun id h => by cases h⟩

end RealtimeGameServer.Guarantees.SelfHealing
