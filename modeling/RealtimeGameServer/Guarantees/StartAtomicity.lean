import RealtimeGameServer.Source.LobbyCalls

/-!
# A start that fails

`startGame` writes the status of the room before it issues the session inserts, and takes
neither the status nor the sessions that have been inserted back when one of them fails. A
start that rejects has left the statuses and the sessions as they were if and only if it
did not get to the status write: from then on every insert has to succeed.
-/
namespace RealtimeGameServer.Guarantees.StartAtomicity
open Lib Calls Source Source.Rooms Source.LobbyService

/-- The statuses of the rooms and the session rows are as they were. -/
structure Untouched (db db' : LobbyDb) : Prop where
  statuses : ∀ roomId,
    (db'.rooms.get roomId).map RoomRow.status = (db.rooms.get roomId).map RoomRow.status
  sessions : db'.sessions = db.sessions

/-- A call that rejects leaves the statuses and the sessions as they were. -/
def AllOrNothing (db db' : LobbyDb) (result : Except Failure Reply) : Prop :=
  ∀ failure, result = .error failure → Untouched db db'

/-- No insert of a session for one of the members is refused, or has an id that is taken;
the players are there. -/
structure Insertable (db : LobbyDb) (members : List RoomMemberEntity) (drawn : List LobbyDraw) :
    Prop where
  accepted : ∀ draw ∈ drawn, draw.refused = none
  distinct : (drawn.map LobbyDraw.rowId).Nodup
  fresh : ∀ draw ∈ drawn, ∀ session ∈ db.sessions, session.id ≠ draw.rowId
  players : ∀ member ∈ members, db.usernames.has member.playerId

/-- Every session insert is answered, and succeeds. -/
def InsertsSucceed (db : LobbyDb) (members : List RoomMemberEntity)
    (inserts : List (Except Failure LobbyDraw)) : Prop :=
  ∃ drawn, inserts = drawn.map .ok ∧ Insertable db members drawn

/-- If the room found passes the checks and the status write is answered, then every session
insert succeeds. -/
def FailsBeforeUpdate (db : LobbyDb) (playerId : String)
    (draws : List (Except Failure LobbyDraw)) : Prop :=
  ∀ finding updating inserts room, draws = .ok finding :: .ok updating :: inserts →
    findByPlayerId db playerId finding.pick = some room → checkStart playerId room = .ok () →
      InsertsSucceed db room.members inserts

variable {maxPlayersPerRoom : Nat} {db db' : LobbyDb} {result : Except Failure Reply}
  {roomId : String} {remaining : List RoomMemberEntity} {failed : Option Failure}
  {updated : Reply} {inserts : List (Except Failure LobbyDraw)}

theorem refuseSession_eq_none {member : RoomMemberEntity} {draw : LobbyDraw}
    (hroom : db.rooms.has roomId) : refuseSession db (newSession roomId member draw) draw = none ↔
      draw.refused = none ∧ (∀ session ∈ db.sessions, session.id ≠ draw.rowId) ∧
        db.usernames.has member.playerId := by
  unfold refuseSession
  cases draw.refused with
  | some failure => simp
  | none =>
    simp only [newSession, hroom, Bool.true_and, List.any_eq_true, true_and]
    split
    next htaken =>
      obtain ⟨session, hsession, heq⟩ := htaken
      exact iff_of_false (Option.some_ne_none _) fun h =>
        h.1 session hsession (of_decide_eq_true heq)
    next hfresh =>
      split
      next hmissing => exact iff_of_false (Option.some_ne_none _) fun h => hmissing h.2
      next hthere =>
        refine iff_of_true rfl ⟨fun session hsession heq => ?_, not_not.mp hthere⟩
        exact hfresh ⟨session, hsession, decide_eq_true heq⟩

/-- The state after the insert. -/
def withSession (db : LobbyDb) (session : SessionEntity) : LobbyDb :=
  { db with sessions := db.sessions ++ [session] }

/-- One of the inserts settles: the one of some member, and the others remain. -/
theorem startCreateSessions_cases (hsome : remaining ≠ []) (roomId : String)
    (failed : Option Failure) (updated : Reply) (draw : LobbyDraw) (db : LobbyDb) :
    ∃ member rest, remaining.Perm (member :: rest) ∧
      ((∃ failure, refuseSession db (newSession roomId member draw) draw = some failure ∧
        run (.startCreateSessions roomId remaining failed updated) draw db =
          (db, startSessions roomId rest (failed <|> some failure) updated)) ∨
      (refuseSession db (newSession roomId member draw) draw = none ∧
        run (.startCreateSessions roomId remaining failed updated) draw db =
          (withSession db (newSession roomId member draw),
            startSessions roomId rest failed updated))) := by
  cases hpicked : findFirst remaining draw.pick with
  | none => exact absurd (findFirst_eq_none hpicked) hsome
  | some member =>
    obtain ⟨hlt, hmember⟩ := List.getElem?_eq_some_iff.mp hpicked
    have hperm := List.getElem_cons_eraseIdx_perm hlt
    rw [hmember] at hperm
    refine ⟨member, _, hperm.symm, ?_⟩
    cases hrefused : refuseSession db (newSession roomId member draw) draw with
    | some failure =>
      refine Or.inl ⟨failure, rfl, ?_⟩
      simp only [run, settleSession, hpicked, createSession, hrefused]
    | none =>
      refine Or.inr ⟨rfl, ?_⟩
      simp only [run, settleSession, hpicked, createSession, hrefused, withSession]

/-- The inserts succeed if the first one does and the others do after it. -/
theorem insertsSucceed_cons (roomId : String) {member : RoomMemberEntity}
    {rest : List RoomMemberEntity} {draw : LobbyDraw} (hperm : remaining.Perm (member :: rest))
    (haccepted : draw.refused = none) (hfresh : ∀ session ∈ db.sessions, session.id ≠ draw.rowId)
    (hplayer : db.usernames.has member.playerId) :
    InsertsSucceed db remaining (.ok draw :: inserts) ↔
      InsertsSucceed (withSession db (newSession roomId member draw)) rest inserts := by
  constructor
  · rintro ⟨drawn, heq, h⟩
    cases drawn with
    | nil => cases heq
    | cons first drawn =>
      obtain ⟨hfirst, rfl⟩ := List.cons.inj heq
      cases hfirst
      obtain ⟨hnew, hdistinct⟩ := List.nodup_cons.mp h.distinct
      refine ⟨drawn, rfl, ?_, hdistinct, ?_, ?_⟩
      · exact fun other hother => h.accepted other (List.mem_cons_of_mem _ hother)
      · intro other hother session hsession
        rcases List.mem_append.mp hsession with hold | hlast
        · exact h.fresh other (List.mem_cons_of_mem _ hother) session hold
        · rw [List.mem_singleton.mp hlast]
          exact fun heq => hnew (List.mem_map.mpr ⟨other, hother, heq.symm⟩)
      · exact fun other hother =>
          h.players other (hperm.mem_iff.mpr (List.mem_cons_of_mem _ hother))
  · rintro ⟨drawn, rfl, h⟩
    refine ⟨draw :: drawn, rfl, ?_, ?_, ?_, ?_⟩
    · rintro other (_ | ⟨_, hother⟩)
      · exact haccepted
      · exact h.accepted other hother
    · refine List.nodup_cons.mpr ⟨fun hmem => ?_, h.distinct⟩
      obtain ⟨other, hother, heq⟩ := List.mem_map.mp hmem
      exact h.fresh other hother _ (List.mem_append_right _ (List.mem_singleton_self _)) heq.symm
    · rintro other (_ | ⟨_, hother⟩) session hsession
      · exact hfresh session hsession
      · exact h.fresh other hother session (List.mem_append_left _ hsession)
    · intro other hother
      rcases List.mem_cons.mp (hperm.mem_iff.mp hother) with rfl | hrest
      · exact hplayer
      · exact h.players other hrest

/-- The first of inserts that succeed is not refused. -/
theorem InsertsSucceed.head {member : RoomMemberEntity} {draw : LobbyDraw}
    (h : InsertsSucceed db remaining (.ok draw :: inserts)) (hmember : member ∈ remaining)
    (hroom : db.rooms.has roomId) :
    refuseSession db (newSession roomId member draw) draw = none := by
  obtain ⟨drawn, heq, hinsertable⟩ := h
  cases drawn with
  | nil => cases heq
  | cons first drawn =>
    cases (List.cons.inj heq).1
    have hfirst := List.mem_cons_self (a := draw) (l := drawn)
    exact (refuseSession_eq_none hroom).mpr ⟨hinsertable.accepted draw hfirst,
      hinsertable.fresh draw hfirst, hinsertable.players member hmember⟩

theorem insertsSucceed_withRoom (row : RoomRow) :
    InsertsSucceed (withRoom db roomId row) remaining inserts ↔
      InsertsSucceed db remaining inserts := by
  constructor
  · rintro ⟨drawn, heq, h⟩
    exact ⟨drawn, heq, h.accepted, h.distinct, h.fresh, h.players⟩
  · rintro ⟨drawn, heq, h⟩
    exact ⟨drawn, heq, h.accepted, h.distinct, h.fresh, h.players⟩

/-- The inserts of a start leave the rooms. The start returns if they all succeed, and
rejects if one has failed. -/
theorem finish_startSessions (hroom : db.rooms.has roomId)
    (h : finish (program maxPlayersPerRoom) (startSessions roomId remaining failed updated)
      inserts db = some (db', result)) :
    db'.rooms = db.rooms ∧
      ((failed = none ∧ InsertsSucceed db remaining inserts ∧ ∃ reply, result = .ok reply) ∨
      ((failed = none → ¬InsertsSucceed db remaining inserts) ∧
        ∃ failure, result = .error failure)) := by
  induction inserts generalizing remaining failed db with
  | nil =>
    cases remaining with
    | cons member rest => cases h
    | nil =>
      cases failed with
      | none =>
        obtain ⟨-, rfl, rfl⟩ := finish_returns h
        refine ⟨rfl, Or.inl ⟨rfl, ⟨[], rfl, ?_⟩, _, rfl⟩⟩
        exact ⟨nofun, List.nodup_nil, nofun, nofun⟩
      | some failure =>
        obtain ⟨-, rfl, rfl⟩ := finish_throws h
        exact ⟨rfl, Or.inr ⟨nofun, failure, rfl⟩⟩
  | cons insert inserts ih =>
    cases hremaining : remaining with
    | nil =>
      rw [hremaining] at h
      cases failed <;> cases h
    | cons member rest =>
      have hgoes : startSessions roomId remaining failed updated =
          .goes (.startCreateSessions roomId remaining failed updated) := by
        rw [hremaining]
        rfl
      have hsome : remaining ≠ [] := by
        rw [hremaining]
        exact List.cons_ne_nil _ _
      rw [hgoes] at h
      rw [← hremaining]
      rcases finish_goes h with ⟨reason, hinsert, rfl, rfl⟩ | ⟨draw, inserts', hinsert, hnext⟩
      · obtain ⟨rfl, rfl⟩ := List.cons.inj hinsert
        refine ⟨rfl, Or.inr ⟨fun _ ⟨drawn, hdrawn, _⟩ => ?_, reason, rfl⟩⟩
        cases drawn <;> cases hdrawn
      · obtain ⟨rfl, rfl⟩ := List.cons.inj hinsert
        obtain ⟨picked, others, hperm, hrun⟩ :=
          startCreateSessions_cases hsome roomId failed updated draw db
        have hprogram : (program maxPlayersPerRoom).run = run := rfl
        rw [hprogram] at hnext
        rcases hrun with ⟨failure, hrefused, hrun⟩ | ⟨haccepted, hrun⟩
        · rw [hrun] at hnext
          obtain ⟨hrooms, hlast⟩ := ih hroom hnext
          have hfails : ¬InsertsSucceed db remaining (.ok draw :: inserts) := by
            intro hsucceed
            have hnone := hsucceed.head (hperm.mem_iff.mpr List.mem_cons_self) hroom
            cases hrefused.symm.trans hnone
          refine ⟨hrooms, Or.inr ⟨fun _ => hfails, ?_⟩⟩
          rcases hlast with ⟨hnone, -⟩ | ⟨-, hrejects⟩
          · cases failed <;> cases hnone
          · exact hrejects
        · rw [hrun] at hnext
          have hthere : (withSession db (newSession roomId picked draw)).rooms.has roomId := hroom
          obtain ⟨hrooms, hlast⟩ := ih hthere hnext
          obtain ⟨hnone, hfresh, hplayer⟩ := (refuseSession_eq_none hroom).mp haccepted
          rw [insertsSucceed_cons roomId hperm hnone hfresh hplayer]
          exact ⟨hrooms, hlast⟩

/-- A start rejects with the tables as they were, or goes on from its status write. -/
theorem startGame_writes {playerId : String} {draws : List (Except Failure LobbyDraw)}
    (h : finish (program maxPlayersPerRoom)
      (LobbyService.opens maxPlayersPerRoom (.startGame playerId)) draws db = some (db', result)) :
    (db' = db ∧ ∀ finding updating inserts room,
      draws = .ok finding :: .ok updating :: inserts →
        findByPlayerId db playerId finding.pick = some room → checkStart playerId room ≠ .ok ()) ∨
    ∃ finding updating inserts room row updated,
      draws = .ok finding :: .ok updating :: inserts ∧
      findByPlayerId db playerId finding.pick = some room ∧ checkStart playerId room = .ok () ∧
      db.rooms.get room.id = some row ∧ row.status = .waiting ∧
      finish (program maxPlayersPerRoom) (startSessions room.id room.members none updated) inserts
        (withRoom db room.id (setStatus .inProgress row)) = some (db', result) := by
  have hprogram : (program maxPlayersPerRoom).run = run := rfl
  rcases finish_goes h with ⟨reason, rfl, rfl, -⟩ | ⟨finding, rest, rfl, hfind⟩
  · exact Or.inl ⟨rfl, fun _ _ _ _ hdraws => by cases hdraws⟩
  · rw [hprogram] at hfind
    cases hfound : findByPlayerId db playerId finding.pick with
    | none =>
      simp only [run, repositoryCall, hfound, answer] at hfind
      obtain ⟨rfl, rfl, -⟩ := finish_throws hfind
      exact Or.inl ⟨rfl, fun _ _ _ _ hdraws => by cases hdraws⟩
    | some room =>
      obtain ⟨row, hrow, hroom⟩ := findByPlayerId_eq_some hfound
      simp only [run, repositoryCall, hfound, answer] at hfind
      cases hcheck : checkStart playerId room with
      | error failure =>
        simp only [hcheck] at hfind
        obtain ⟨rfl, rfl, -⟩ := finish_throws hfind
        exact Or.inl ⟨rfl, fun _ _ _ _ hdraws => by cases hdraws⟩
      | ok checked =>
        cases checked
        simp only [hcheck] at hfind
        have hwaiting : row.status = .waiting := by
          rw [hroom] at hcheck
          exact (checkStart_eq_ok hcheck).1
        rcases finish_goes hfind with ⟨reason, rfl, rfl, -⟩ | ⟨updating, inserts, rfl, hupdate⟩
        · exact Or.inl ⟨rfl, fun _ _ _ _ hdraws => by cases hdraws⟩
        · rw [hprogram, run_startUpdateStatus updating hrow] at hupdate
          exact Or.inr ⟨finding, updating, inserts, room, row, _, rfl, hfound, hcheck, hrow,
            hwaiting, hupdate⟩

/-- A start that runs alone, of a room with any number of members and whichever of its
repository calls fail, is all or nothing if and only if it fails, where it does, before
the status is written. -/
theorem start_atomic_iff (maxPlayersPerRoom : Nat) (db db' : LobbyDb) (playerId : String)
    (draws : List (Except Failure LobbyDraw)) (result : Except Failure Reply)
    (h : finish (program maxPlayersPerRoom)
      (LobbyService.opens maxPlayersPerRoom (.startGame playerId)) draws db = some (db', result)) :
    AllOrNothing db db' result ↔ FailsBeforeUpdate db playerId draws := by
  rcases startGame_writes h with ⟨rfl, hunwritten⟩ |
    ⟨finding, updating, inserts, room, row, updated, rfl, hfound, hcheck, hrow, hwaiting, hrest⟩
  · refine iff_of_true (fun _ _ => ⟨fun _ => rfl, rfl⟩) ?_
    intro finding updating inserts room hdraws hfound hcheck
    exact absurd hcheck (hunwritten finding updating inserts room hdraws hfound)
  · have hlater : FailsBeforeUpdate db playerId (.ok finding :: .ok updating :: inserts) ↔
        InsertsSucceed db room.members inserts := by
      constructor
      · exact fun hbefore => hbefore finding updating inserts room rfl hfound hcheck
      · intro hsucceed finding' updating' inserts' room' hdraws hfound' _
        cases hdraws
        cases hfound.symm.trans hfound'
        exact hsucceed
    have hget : (withRoom db room.id (setStatus .inProgress row)).rooms.get room.id =
        some (setStatus .inProgress row) := (get_withRoom _ _ _ _).trans (if_pos rfl)
    have hhas : (withRoom db room.id (setStatus .inProgress row)).rooms.has room.id := by
      rw [JsMap.has, hget, Option.isSome_some]
    rw [hlater, ← insertsSucceed_withRoom (setStatus .inProgress row)]
    obtain ⟨hrooms, ⟨-, hsucceed, reply, rfl⟩ | ⟨hfails, failure, rfl⟩⟩ :=
      finish_startSessions hhas hrest
    · exact iff_of_true (fun _ hfailed => by cases hfailed) hsucceed
    · refine iff_of_false (fun hatomic => ?_) (hfails rfl)
      -- the room stays in progress
      have hstatus := (hatomic failure rfl).statuses room.id
      rw [hrooms, hget, hrow, Option.map_some, Option.map_some, hwaiting] at hstatus
      cases hstatus

/-- A room of two, whose guest is ready. -/
def duo : LobbyDb where
  rooms := JsMap.empty.set "r1" {
    code := "ABCDEF"
    name := "duel"
    hostId := "p1"
    maxPlayers := 2
    status := .waiting
    members := (JsMap.empty.set "p1" ⟨"m1", false, 0⟩).set "p2" ⟨"m2", true, 1⟩ }
  sessions := []
  usernames := (JsMap.empty.set "p1" "nova").set "p2" "orion"

def answered (rowId : String) (refused : Option Failure) : LobbyDraw := ⟨0, "", "", rowId, 2, refused⟩

/-- The second of the two inserts fails. -/
def halfStarted : List (Except Failure LobbyDraw) :=
  [.ok (answered "" none), .ok (answered "" none), .ok (answered "s1" none),
    .ok (answered "s2" (some .connectionLost))]

theorem half_started_remains : ¬∀ (maxPlayersPerRoom : Nat) (db db' : LobbyDb) (playerId : String)
    (draws : List (Except Failure LobbyDraw)) (result : Except Failure Reply),
    finish (program maxPlayersPerRoom)
      (LobbyService.opens maxPlayersPerRoom (.startGame playerId)) draws db = some (db', result) →
      AllOrNothing db db' result := by
  intro h
  have hatomic := h 8 duo _ "p1" halfStarted _ rfl .connectionLost rfl
  have hlength := congrArg List.length hatomic.sessions
  cases hlength

/-- The status write fails. -/
def unstarted : List (Except Failure LobbyDraw) := [.ok (answered "" none), .error .connectionLost]

theorem unstarted_atomic :
    finish (program 8) (LobbyService.opens 8 (.startGame "p1")) unstarted duo =
      some (duo, .error .connectionLost) ∧ AllOrNothing duo duo (.error .connectionLost) := by
  refine ⟨rfl, ?_⟩
  refine (start_atomic_iff 8 duo duo "p1" unstarted (.error .connectionLost) rfl).mpr ?_
  intro _ _ _ _ hdraws
  cases hdraws

end RealtimeGameServer.Guarantees.StartAtomicity
