import RealtimeGameServer.Source.LobbySteps

/-!
# The order of a room's statuses

`startGame` writes the status on the strength of a room it read earlier, so it
reopens a room that its last member has closed in between. Along a run every
status changes forward only, if and only if no status write of a `startGame`
finds its room closed.
-/
namespace RealtimeGameServer.Guarantees.RoomStatusOrder
open Lib Calls Source Source.Rooms Source.LobbyService

abbrev LobbyState := State LobbyDb LobbyService.Call Place Reply Failure

abbrev LobbyEvent := Calls.Event LobbyService.Call LobbyDraw Failure

/-- A status stays, or changes from waiting to in progress or closed, or from in
progress to closed. -/
inductive Forward : RoomStatus → RoomStatus → Prop
  | stays {status} : Forward status status
  | starts : Forward .waiting .inProgress
  | closes {status} : Forward status .closed

/-- A step that changes no room's status backward. -/
def ChangesForward (maxPlayersPerRoom : Nat) (s : LobbyState) (event : LobbyEvent) : Prop :=
  ∀ t, (machine (program maxPlayersPerRoom)).step s event = some t → ∀ roomId row row',
    s.store.rooms.get roomId = some row → t.store.rooms.get roomId = some row' →
      Forward row.status row'.status

/-- The step is not the status write of a `startGame` on a room that is closed. -/
def FindsOpen (s : LobbyState) (event : LobbyEvent) : Prop :=
  ∀ number draw a room row, event = .operation number draw → s.active.get number = some a →
    a.place = .startUpdateStatus room → s.store.rooms.get room.id = some row →
      row.status ≠ .closed

theorem forward_inProgress {status : RoomStatus} :
    Forward status .inProgress ↔ status ≠ .closed := by
  constructor
  · intro h
    cases h with
    | stays => nofun
    | starts => nofun
  · intro hopen
    cases status with
    | waiting => exact .starts
    | inProgress => exact .stays
    | closed => exact absurd rfl hopen

/-- What one room's change does to all statuses. -/
theorem forward_withRoom {db : LobbyDb} {roomId i : String} {old new row row' : RoomRow}
    (found : db.rooms.get roomId = some old) (hforward : Forward old.status new.status)
    (hrow : db.rooms.get i = some row) (hrow' : (withRoom db roomId new).rooms.get i = some row') :
    Forward row.status row'.status := by
  rw [get_withRoom] at hrow'
  split at hrow'
  next heq =>
    cases hrow'
    rw [heq, found] at hrow
    cases hrow
    exact hforward
  next =>
    cases hrow.symm.trans hrow'
    exact .stays

/-- A repository call that is no status write on a closed room changes statuses
forward. -/
theorem forward_run {place : Place} {draw : LobbyDraw} {db : LobbyDb}
    (hopen : ∀ room row, place = .startUpdateStatus room → db.rooms.get room.id = some row →
      row.status ≠ .closed) {i : String} {row row' : RoomRow} (hrow : db.rooms.get i = some row)
    (hrow' : (run place draw db).1.rooms.get i = some row') : Forward row.status row'.status := by
  have hchanges := run_changes place draw db
  generalize (run place draw db).1 = db' at hchanges hrow'
  cases hchanges with
  | same =>
    cases hrow.symm.trans hrow'
    exact .stays
  | created fresh =>
    rw [get_withRoom] at hrow'
    split at hrow'
    next heq =>
      rw [heq, fresh] at hrow
      cases hrow
    next =>
      cases hrow.symm.trans hrow'
      exact .stays
  | joined found =>
    refine forward_withRoom found ?_ hrow hrow'
    exact .stays
  | closed found => exact forward_withRoom found .closes hrow hrow'
  | left found =>
    refine forward_withRoom found ?_ hrow hrow'
    exact .stays
  | @readied _ playerId ready old found =>
    refine forward_withRoom found ?_ hrow hrow'
    rw [status_setReadyOf]
    exact .stays
  | started found =>
    exact forward_withRoom found (forward_inProgress.mpr (hopen _ _ rfl found)) hrow hrow'
  | sessionCreated =>
    cases hrow.symm.trans hrow'
    exact .stays

/-- A step changes statuses forward if and only if it reopens no room. -/
theorem changesForward_iff {maxPlayersPerRoom : Nat} {s t : LobbyState} {event : LobbyEvent}
    (hstep : (machine (program maxPlayersPerRoom)).step s event = some t) :
    ChangesForward maxPlayersPerRoom s event ↔ FindsOpen s event := by
  constructor
  · intro hforward number draw a room row hevent hget hplace hrow hclosed
    subst hevent
    have hcases := step_cases hstep
    cases hcases with
    | @operated _ _ b store next get hrun =>
      cases hget.symm.trans get
      have hstarted := run_startUpdateStatus draw hrow
      rw [← hplace] at hstarted
      have hstore := congrArg Prod.fst (hrun.symm.trans hstarted)
      have hrow' : (s.proceed number a.call store next).store.rooms.get room.id =
          some (setStatus .inProgress row) := by
        rw [store_proceed, show store = _ from hstore, get_withRoom, if_pos rfl]
      have hback := hforward _ hstep room.id row _ hrow hrow'
      rw [hclosed] at hback
      exact forward_inProgress.mp hback rfl
  · intro hopen u hu i row row' hrow hrow'
    have hcases := step_cases hu
    cases hcases with
    | called =>
      rw [show _ = s.store from store_proceed _ _ _ _ _] at hrow'
      cases hrow.symm.trans hrow'
      exact .stays
    | @operated number draw a store next get hrun =>
      rw [store_proceed] at hrow'
      have hstore : (run a.place draw s.store).1 = store := congrArg Prod.fst hrun
      exact forward_run (fun room found hplace => hopen number draw a room found rfl get hplace)
        hrow (hstore ▸ hrow')
    | rejected =>
      rw [store_proceed] at hrow'
      cases hrow.symm.trans hrow'
      exact .stays

/-- Every step of a run changes statuses forward if and only if no status write of
a `startGame` finds its room closed. -/
theorem status_forward_iff (maxPlayersPerRoom : Nat) (db : LobbyDb) (events : List LobbyEvent) :
    (machine (program maxPlayersPerRoom)).StepsMeet (ChangesForward maxPlayersPerRoom)
        (start db) events ↔
      (machine (program maxPlayersPerRoom)).StepsMeet FindsOpen (start db) events :=
  Machine.stepsMeet_congr fun _ _ _ hstep => changesForward_iff hstep

/-- A room with nobody but its host. -/
def solo : LobbyDb where
  rooms := JsMap.empty.set "r1" {
    code := "ABCDEF"
    name := "duel"
    hostId := "p1"
    maxPlayers := 4
    status := .waiting
    members := JsMap.empty.set "p1" ⟨"m1", false, 0⟩ }
  sessions := []
  usernames := JsMap.empty.set "p1" "ann"

/-- The host leaves between the read and the status write of the start. -/
def leftBehind : List LobbyEvent :=
  [.call (.startGame "p1") default, .operation 0 default, .call (.leaveRoom "p1") default,
    .operation 1 default, .operation 1 default, .operation 0 default]

/-- Not every run changes the statuses forward only: a closed room is reopened. -/
theorem overtaken_start_reopens : ¬∀ (maxPlayersPerRoom : Nat) (db : LobbyDb)
    (events : List LobbyEvent), (machine (program maxPlayersPerRoom)).StepsMeet
      (ChangesForward maxPlayersPerRoom) (start db) events := by
  intro h
  obtain ⟨-, h⟩ := h 8 solo leftBehind _ rfl
  obtain ⟨-, h⟩ := h _ rfl
  obtain ⟨-, h⟩ := h _ rfl
  obtain ⟨-, h⟩ := h _ rfl
  obtain ⟨-, h⟩ := h _ rfl
  obtain ⟨hforward, -⟩ := h _ rfl
  have hback := hforward _ rfl "r1" _ _ rfl rfl
  exact forward_inProgress.mp hback rfl

end RealtimeGameServer.Guarantees.RoomStatusOrder
