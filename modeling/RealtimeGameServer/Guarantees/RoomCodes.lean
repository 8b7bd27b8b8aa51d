import RealtimeGameServer.Source.HttpServer
import RealtimeGameServer.Source.LobbyAlone
import RealtimeGameServer.Source.RoomCode

/-!
# A room's code leads to the room

`createRoom` looks for a free code before it inserts, and two calls may draw the same one in
between; the unique index lets only one of them insert it. No call changes a code or deletes
a room. So the code that `createRoom` answered with is the room's for good, and whoever
types it, in whatever case, is led to this room and no other.
-/
namespace RealtimeGameServer.Guarantees.RoomCodes
open Lib Calls Source Rooms LobbyService

abbrev LobbyState := State LobbyDb LobbyService.Call Place Reply Failure

abbrev LobbyEvent := Calls.Event LobbyService.Call LobbyDraw Failure

def HasCode (db : LobbyDb) (roomId code : String) : Prop :=
  ∃ row, db.rooms.get roomId = some row ∧ row.code = code

/-- Every room has a code that is drawn and that no other room has. -/
structure Coded (db : LobbyDb) : Prop where
  drawn : ∀ roomId code, HasCode db roomId code → IsRoomCode code
  unique : ∀ roomId other code, HasCode db roomId code → HasCode db other code → other = roomId

/-- Rooms stay, with the codes they have. -/
def KeepsCodes (db db' : LobbyDb) : Prop :=
  ∀ roomId code, HasCode db roomId code → HasCode db' roomId code

def roomNotFound : Failure := .app (.notFound "Room")

/-- What happens comes from the service and the database: codes are drawn by
`generateRoomCode`, and the database refuses an operation with an error of its own. -/
def Genuine : LobbyEvent → Prop
  | .call _ _ => True
  | .operation _ draw => IsRoomCode draw.code
  | .reject _ reason => reason ≠ roomNotFound

theorem hasCode_withRoom {db : LobbyDb} {changed roomId code : String} {row : RoomRow} :
    HasCode (withRoom db changed row) roomId code ↔
      if roomId = changed then row.code = code else HasCode db roomId code := by
  unfold HasCode
  rw [get_withRoom]
  split
  next => exact ⟨fun ⟨_, heq, hcode⟩ => Option.some.inj heq ▸ hcode, fun hcode => ⟨row, rfl, hcode⟩⟩
  next => exact Iff.rfl

/-- A room that is there changes and keeps its code. -/
theorem hasCode_changed {db : LobbyDb} {changed roomId code : String} {row row' : RoomRow}
    (found : db.rooms.get changed = some row) (hcode : row'.code = row.code) :
    HasCode (withRoom db changed row') roomId code ↔ HasCode db roomId code := by
  rw [hasCode_withRoom]
  split
  next heq =>
    subst heq
    rw [hcode]
    exact ⟨fun h => ⟨row, found, h⟩, fun ⟨other, hother, h⟩ => by
      cases found.symm.trans hother
      exact h⟩
  next => exact Iff.rfl

/-- A repository call gives no room a code but the insert of a new one. -/
theorem hasCode_changes {draw : LobbyDraw} {db db' : LobbyDb} {place : Place}
    (h : Changes draw db place db') :
    (∀ roomId code, HasCode db' roomId code ↔ HasCode db roomId code) ∨
      ∃ input, place = .createInsert input ∧ db.rooms.get draw.roomId = none ∧
        ∀ roomId code, HasCode db' roomId code ↔
          if roomId = draw.roomId then input.code = code else HasCode db roomId code := by
  cases h with
  | same => exact Or.inl fun _ _ => Iff.rfl
  | created fresh => exact Or.inr ⟨_, rfl, fresh, fun _ _ => hasCode_withRoom⟩
  | joined found | closed found | left found | started found =>
    exact Or.inl fun _ _ => hasCode_changed found rfl
  | @readied roomId playerId ready row found =>
    have hcode : (setReadyOf playerId ready row).code = row.code :=
      (RoomRow.mk.inj (columns_setReadyOf row playerId ready)).1
    exact Or.inl fun _ _ => hasCode_changed found hcode
  | sessionCreated => exact Or.inl fun _ _ => Iff.rfl

theorem keepsCodes_run (place : Place) (draw : LobbyDraw) (db : LobbyDb) :
    KeepsCodes db (run place draw db).1 := by
  intro roomId code h
  rcases hasCode_changes (run_changes place draw db) with hsame | ⟨input, -, fresh, hnew⟩
  · exact (hsame _ _).mpr h
  · rw [hnew, if_neg]
    · exact h
    · rintro rfl
      obtain ⟨row, hrow, -⟩ := h
      cases fresh.symm.trans hrow

theorem rowByCode_eq_some {db : LobbyDb} {code : String} {room : String × RoomRow}
    (h : rowByCode db code = some room) : HasCode db room.1 code := by
  refine ⟨room.2, (JsMap.get_eq_some _ _ _).mpr (List.mem_of_find?_eq_some h), ?_⟩
  simpa using List.find?_some h

theorem rowByCode_eq_none {db : LobbyDb} {code : String} (h : rowByCode db code = none)
    (roomId : String) : ¬HasCode db roomId code := by
  rintro ⟨row, hrow, hcode⟩
  have hother := List.find?_eq_none.mp h _ ((JsMap.get_eq_some _ _ _).mp hrow)
  exact hother (decide_eq_true hcode)

theorem create_free {db : LobbyDb} {input : CreateRoomInput} {draw : LobbyDraw}
    {result : LobbyDb × Option RoomEntity} (h : create db input draw = .ok result) :
    rowByCode db input.code = none := by
  unfold create at h
  split at h
  next => cases h
  next hfree =>
    rw [Bool.or_eq_true, not_or, Option.isSome_iff_ne_none, not_not] at hfree
    exact hfree.2

theorem coded_run {place : Place} {draw : LobbyDraw} {db : LobbyDb} (h : Coded db)
    (hdrawn : ∀ input, place = .createInsert input → IsRoomCode input.code) :
    Coded (run place draw db).1 := by
  rcases hasCode_changes (run_changes place draw db) with hsame | ⟨input, rfl, fresh, hnew⟩
  · constructor
    · exact fun roomId code hcode => h.drawn roomId code ((hsame _ _).mp hcode)
    · exact fun roomId other code hcode hother =>
        h.unique roomId other code ((hsame _ _).mp hcode) ((hsame _ _).mp hother)
  · -- where the insert has gone through, the index had no row with the code
    have hfree : ∀ roomId, ¬HasCode db roomId input.code := by
      cases hcreate : create db input draw with
      | ok result => exact rowByCode_eq_none (create_free hcreate)
      | error failure =>
        have hsame : (run (.createInsert input) draw db).1 = db := by
          simp only [run, hcreate, repositoryCall]
        rw [hsame] at hnew
        obtain ⟨row, hrow, -⟩ := (hnew draw.roomId input.code).mpr (if_pos rfl ▸ rfl)
        cases fresh.symm.trans hrow
    constructor
    · intro roomId code hcode
      rw [hnew] at hcode
      split at hcode
      next => exact hcode ▸ hdrawn input rfl
      next => exact h.drawn roomId code hcode
    · intro roomId other code hcode hother
      rw [hnew] at hcode hother
      split at hcode <;> split at hother
      next hroom hsame => exact hsame.trans hroom.symm
      next => exact absurd (hcode ▸ hother) (hfree other)
      next => exact absurd (hother ▸ hcode) (hfree roomId)
      next => exact h.unique roomId other code hcode hother

/-- What is known of a call at a place. -/
def Knows (call : LobbyService.Call) (db : LobbyDb) : Place → Prop
  | .createFindByCode input _ | .createInsert input => IsRoomCode input.code
  | .joinFindByPlayer _ code => ∃ playerId, call = .joinRoom playerId code
  | .joinFindByCode _ code => ∃ playerId typed, call = .joinRoom playerId typed ∧
      code = toUpperCase typed
  | .joinAddMember roomId _ => ∃ playerId typed, call = .joinRoom playerId typed ∧
      HasCode db roomId (toUpperCase typed)
  | _ => True

/-- The room a call is answered with has its code, which is the one a join has asked for. -/
def Answered (db : LobbyDb) (call : LobbyService.Call) (result : Reply) : Prop :=
  call.method = .createRoom ∨ call.method = .joinRoom →
    ∃ room, result = some room ∧ HasCode db room.id room.code ∧
      ∀ playerId typed, call = .joinRoom playerId typed → room.code = toUpperCase typed

/-- A join fails to find a room only where no room has the code. -/
def Refused (db : LobbyDb) (call : LobbyService.Call) (failure : Failure) : Prop :=
  ∀ playerId typed, call = .joinRoom playerId typed → failure = roomNotFound →
    ∀ roomId, ¬HasCode db roomId (toUpperCase typed)

/-- What is known of a call after an answer, which left the tables as given. -/
structure Serves (call : LobbyService.Call) (db : LobbyDb) (next : Next Place Reply Failure) :
    Prop where
  goes : ∀ place, next = .goes place → Knows call db place
  returns : ∀ result, next = .returns result → Answered db call result
  throws : ∀ failure, next = .throws failure → Refused db call failure

theorem serves_goes {call : LobbyService.Call} {db : LobbyDb} {place : Place}
    (h : Knows call db place) : Serves call db (.goes place) where
  goes := by
    rintro _ ⟨⟩
    exact h
  returns := by rintro _ ⟨⟩
  throws := by rintro _ ⟨⟩

theorem serves_returns {call : LobbyService.Call} {db : LobbyDb} {result : Reply}
    (h : Answered db call result) : Serves call db (.returns result) where
  goes := by rintro _ ⟨⟩
  returns := by
    rintro _ ⟨⟩
    exact h
  throws := by rintro _ ⟨⟩

theorem serves_throws {call : LobbyService.Call} {db : LobbyDb} {failure : Failure}
    (h : Refused db call failure) : Serves call db (.throws failure) where
  goes := by rintro _ ⟨⟩
  returns := by rintro _ ⟨⟩
  throws := by
    rintro _ ⟨⟩
    exact h

theorem refused_of_ne {call : LobbyService.Call} {db : LobbyDb} {failure : Failure}
    (h : failure ≠ roomNotFound) : Refused db call failure :=
  fun _ _ _ heq => absurd heq h

theorem refused_of_method {call : LobbyService.Call} {db : LobbyDb} {failure : Failure}
    (h : call.method ≠ .joinRoom) : Refused db call failure := by
  rintro playerId typed rfl
  exact absurd rfl h

/-- The methods that neither create a room nor join one. -/
theorem serves_other {call : LobbyService.Call} {db : LobbyDb} {next : Next Place Reply Failure}
    (hstays : StaysIn call.method next) (hcreate : call.method ≠ .createRoom)
    (hjoin : call.method ≠ .joinRoom) : Serves call db next := by
  cases next with
  | goes place =>
    have hplace := hstays place rfl
    refine serves_goes ?_
    cases place with
    | createFindByCode | createInsert => exact absurd hplace.symm hcreate
    | joinFindByPlayer | joinFindByCode | joinAddMember => exact absurd hplace.symm hjoin
    | _ => trivial
  | returns result =>
    refine serves_returns fun hmethod => ?_
    exact absurd hmethod (not_or.mpr ⟨hcreate, hjoin⟩)
  | throws failure => exact serves_throws (refused_of_method hjoin)

theorem serves_opens (maxPlayersPerRoom : Nat) (call : LobbyService.Call) (db : LobbyDb) :
    Serves call db (opens maxPlayersPerRoom call) := by
  cases call with
  | createRoom hostId name maxPlayers =>
    simp only [opens]
    split
    next => exact serves_throws (refused_of_method (by rintro ⟨⟩))
    next => exact serves_goes trivial
  | joinRoom playerId code => exact serves_goes ⟨playerId, rfl⟩
  | _ => exact serves_goes trivial

/-- What `create` answers with. -/
theorem create_answered {db : LobbyDb} {input : CreateRoomInput} {draw : LobbyDraw}
    {result : LobbyDb × Option RoomEntity} (h : create db input draw = .ok result) :
    ∃ room, result.2 = some room ∧ HasCode result.1 room.id room.code := by
  simp only [create] at h
  split at h
  next => cases h
  next =>
    split at h
    next => cases h
    next =>
      split at h
      next => cases h
      next =>
        obtain ⟨row, hrow, rfl⟩ := readBack_eq_ok h
        exact ⟨_, rfl, row, hrow, rfl⟩

/-- What `addMember` answers with: the room it was asked for. -/
theorem addMember_answered {db : LobbyDb} {roomId playerId code : String} {draw : LobbyDraw}
    {result : LobbyDb × Option RoomEntity} (hcode : HasCode db roomId code)
    (h : addMember db roomId playerId draw = .ok result) :
    ∃ room, result.2 = some room ∧ room.id = roomId ∧ room.code = code ∧
      HasCode result.1 roomId code := by
  obtain ⟨row, hrow, rfl⟩ := hcode
  simp only [addMember, findById, hrow, Option.map_some] at h
  cases hcheck : checkAdd playerId (mapRoom db roomId row) with
  | error failure =>
    rw [hcheck] at h
    cases h
  | ok =>
    simp only [hcheck, bind, Except.bind] at h
    split at h
    next => cases h
    next =>
      obtain ⟨updated, hupdated, rfl⟩ := readBack_eq_ok h
      rw [updateRoom_eq hrow, get_withRoom, if_pos rfl] at hupdated
      cases hupdated
      refine ⟨_, rfl, rfl, rfl, addTo playerId (newMember draw) row, ?_, rfl⟩
      rw [updateRoom_eq hrow, get_withRoom, if_pos rfl]

/-- Where the room is there, `addMember` does not miss it. -/
theorem addMember_refused {db : LobbyDb} {roomId playerId code : String} {draw : LobbyDraw}
    {failure : Failure} (hcode : HasCode db roomId code)
    (h : addMember db roomId playerId draw = .error failure) : failure ≠ roomNotFound := by
  obtain ⟨row, hrow, -⟩ := hcode
  simp only [addMember, findById, hrow, Option.map_some] at h
  cases hcheck : checkAdd playerId (mapRoom db roomId row) with
  | error refused =>
    rw [hcheck] at h
    cases h
    unfold checkAdd at hcheck
    split at hcheck
    next =>
      cases hcheck
      decide
    next =>
      split at hcheck
      next =>
        cases hcheck
        decide
      next =>
        split at hcheck
        next =>
          cases hcheck
          decide
        next => cases hcheck
  | ok =>
    simp only [hcheck, bind, Except.bind] at h
    split at h
    next =>
      cases h
      rintro ⟨⟩
    next =>
      unfold readBack at h
      split at h <;> cases h
      rintro ⟨⟩

/-- A repository call brings a call to what is known at its next place, or to its end. -/
theorem serves_run {call : LobbyService.Call} {place : Place} {draw : LobbyDraw} {db : LobbyDb}
    (hmethod : place.method = call.method) (hknows : Knows call db place)
    (hdrawn : IsRoomCode draw.code) :
    Serves call (run place draw db).1 (run place draw db).2 := by
  cases place with
  | createFindByPlayer hostId name capacity =>
    simp only [run, repositoryCall]
    cases findByPlayerId db hostId draw.pick with
    | none => exact serves_goes hdrawn
    | some room => exact serves_throws (refused_of_ne (by decide))
  | createFindByCode input attempt =>
    simp only [run, repositoryCall]
    cases findByCode db input.code with
    | none => exact serves_goes hknows
    | some room =>
      simp only [answer]
      split <;> exact serves_goes hdrawn
  | createInsert input =>
    have hjoin : call.method ≠ .joinRoom := by
      rw [← hmethod]
      rintro ⟨⟩
    cases hcreate : create db input draw with
    | error failure =>
      simp only [run, hcreate, repositoryCall]
      exact serves_throws (refused_of_method hjoin)
    | ok result =>
      obtain ⟨room, hresult, hcode⟩ := create_answered hcreate
      simp only [run, hcreate, repositoryCall, answer]
      refine serves_returns fun _ => ⟨room, hresult, hcode, ?_⟩
      rintro playerId typed rfl
      exact absurd rfl hjoin
  | joinFindByPlayer playerId code =>
    obtain ⟨player, rfl⟩ := hknows
    simp only [run, repositoryCall]
    cases findByPlayerId db playerId draw.pick with
    | none => exact serves_goes ⟨player, code, rfl, rfl⟩
    | some room => exact serves_throws (refused_of_ne (by decide))
  | joinFindByCode playerId code =>
    obtain ⟨player, typed, rfl, rfl⟩ := hknows
    simp only [run, repositoryCall]
    cases hfound : rowByCode db (toUpperCase typed) with
    | none =>
      simp only [findByCode, hfound, Option.map_none, answer]
      refine serves_throws ?_
      rintro _ _ ⟨⟩ -
      exact rowByCode_eq_none hfound
    | some room =>
      simp only [findByCode, hfound, Option.map_some, answer]
      exact serves_goes ⟨player, typed, rfl, rowByCode_eq_some hfound⟩
  | joinAddMember roomId playerId =>
    obtain ⟨player, typed, rfl, hcode⟩ := hknows
    cases hadd : addMember db roomId playerId draw with
    | error failure =>
      simp only [run, hadd, repositoryCall]
      exact serves_throws (refused_of_ne (addMember_refused hcode hadd))
    | ok result =>
      obtain ⟨room, hresult, rfl, hsame, hthere⟩ := addMember_answered hcode hadd
      simp only [run, hadd, repositoryCall, answer]
      refine serves_returns fun _ => ⟨room, hresult, hsame ▸ hthere, ?_⟩
      rintro _ _ ⟨⟩
      exact hsame
  | leaveFindByPlayer | leaveRemoveMember | readyFindByPlayer | readySet | startFindByPlayer
    | startUpdateStatus | startCreateSessions =>
    refine serves_other (hmethod ▸ staysIn_run _ draw db) ?_ ?_ <;>
    · rw [← hmethod]
      rintro ⟨⟩

/-- How a call has ended, after the tables `base` and before the tables `db`. -/
def EndsAs (base db : LobbyDb) (call : LobbyService.Call) : Except Failure Reply → Prop
  | .ok result => Answered db call result
  | .error failure => Refused base call failure

/-- After the tables `base` and the log `old`, codes are unique and stay, and calls have
ended with the rooms that have them. -/
structure Addressed (base : LobbyDb) (old : List (Nat × LobbyService.Call × Except Failure Reply))
    (s : LobbyState) : Prop where
  coded : Coded s.store
  keeps : KeepsCodes base s.store
  method : ∀ number a, s.active.get number = some a → a.place.method = a.call.method
  knows : ∀ number a, s.active.get number = some a → Knows a.call s.store a.place
  ended : ∃ new, s.ended = old ++ new ∧ ∀ entry ∈ new, EndsAs base s.store entry.2.1 entry.2.2

theorem Knows.mono {call : LobbyService.Call} {db db' : LobbyDb} {place : Place}
    (hkeeps : KeepsCodes db db') (h : Knows call db place) : Knows call db' place := by
  cases place with
  | joinAddMember roomId playerId =>
    obtain ⟨player, typed, hcall, hcode⟩ := h
    exact ⟨player, typed, hcall, hkeeps _ _ hcode⟩
  | _ => exact h

theorem EndsAs.mono {base db db' : LobbyDb} {call : LobbyService.Call}
    {result : Except Failure Reply} (hkeeps : KeepsCodes db db') (h : EndsAs base db call result) :
    EndsAs base db' call result := by
  cases result with
  | ok result =>
    intro hmethod
    obtain ⟨room, hroom, hcode, hjoined⟩ := h hmethod
    exact ⟨room, hroom, hkeeps _ _ hcode, hjoined⟩
  | error failure => exact h

/-- A call goes on, or ends and is logged, after an answer that left the tables as given. -/
theorem Addressed.proceed {base db : LobbyDb}
    {old : List (Nat × LobbyService.Call × Except Failure Reply)} {s : LobbyState}
    (h : Addressed base old s) (number : Nat) {call : LobbyService.Call}
    {next : Next Place Reply Failure} (hcoded : Coded db) (hkeeps : KeepsCodes s.store db)
    (hstays : StaysIn call.method next) (hserves : Serves call db next) :
    Addressed base old (s.proceed number call db next) where
  coded := (store_proceed s number call db next).symm ▸ hcoded
  keeps := by
    rw [store_proceed]
    exact fun roomId code hcode => hkeeps _ _ (h.keeps _ _ hcode)
  method i b hget := by
    rcases get_proceed hget with ⟨-, hold⟩ | ⟨-, place, hnext, rfl⟩
    · exact h.method i b hold
    · exact hstays place hnext
  knows i b hget := by
    rw [store_proceed]
    rcases get_proceed hget with ⟨-, hold⟩ | ⟨-, place, hnext, rfl⟩
    · exact (h.knows i b hold).mono hkeeps
    · exact hserves.goes place hnext
  ended := by
    obtain ⟨new, hnew, hends⟩ := h.ended
    refine ⟨new ++ next.log number call, ?_, fun entry hentry => ?_⟩
    · rw [ended_proceed, hnew, List.append_assoc]
    · rw [store_proceed]
      rcases List.mem_append.mp hentry with hold | hlast
      · exact (hends entry hold).mono hkeeps
      · cases next with
        | goes place => cases hlast
        | returns result =>
          cases List.mem_singleton.mp hlast
          exact hserves.returns result rfl
        | throws failure =>
          cases List.mem_singleton.mp hlast
          refine fun playerId typed hcall hfailure roomId hcode => ?_
          exact hserves.throws failure rfl playerId typed hcall hfailure roomId
            (hkeeps _ _ (h.keeps _ _ hcode))

theorem Addressed.step {maxPlayersPerRoom : Nat} {base : LobbyDb}
    {old : List (Nat × LobbyService.Call × Except Failure Reply)} {s t : LobbyState}
    {event : LobbyEvent} (h : Addressed base old s) (hgenuine : Genuine event)
    (hstep : Steps (program maxPlayersPerRoom) s event t) : Addressed base old t := by
  cases hstep with
  | @called call draw =>
    have hproceed := h.proceed s.started h.coded (fun _ _ hcode => hcode)
      (staysIn_opens maxPlayersPerRoom call) (serves_opens maxPlayersPerRoom call s.store)
    exact { hproceed with }
  | @operated number draw a store next get hrun =>
    obtain ⟨rfl, rfl⟩ := Prod.mk.inj hrun
    have hmethod := h.method number a get
    have hknows := h.knows number a get
    refine h.proceed number (coded_run h.coded fun input hplace => ?_) (keepsCodes_run _ _ _)
      (hmethod ▸ staysIn_run a.place draw s.store) (serves_run hmethod hknows hgenuine)
    rw [hplace] at hknows
    exact hknows
  | @rejected number reason a get =>
    refine h.proceed number h.coded (fun _ _ hcode => hcode) ?_
      (serves_throws (refused_of_ne hgenuine))
    rintro place ⟨⟩

theorem addressed_exec {maxPlayersPerRoom : Nat} {base : LobbyDb}
    {old : List (Nat × LobbyService.Call × Except Failure Reply)} {s t : LobbyState}
    {events : List LobbyEvent} (hgenuine : ∀ event ∈ events, Genuine event)
    (hexec : (machine (program maxPlayersPerRoom)).exec s events = some t)
    (h : Addressed base old s) : Addressed base old t :=
  (Machine.along_of_guarded (G := fun _ _ => True)
    (fun _ _ _ h hgenuine hstep _ => h.step hgenuine (step_cases hstep)) hgenuine h
    (Machine.StepsMeet.of_labels (fun _ _ _ => trivial) s)).last hexec

/-- Where a run goes on, it goes on from the tables and the log it has reached. -/
theorem Addressed.rebase {base : LobbyDb}
    {old : List (Nat × LobbyService.Call × Except Failure Reply)} {s : LobbyState}
    (h : Addressed base old s) : Addressed s.store s.ended s where
  coded := h.coded
  keeps _ _ hcode := hcode
  method := h.method
  knows := h.knows
  ended := ⟨[], (List.append_nil _).symm, fun _ hentry => by cases hentry⟩

theorem addressed_start {db : LobbyDb} (hdb : Coded db) : Addressed db [] (start db) where
  coded := hdb
  keeps _ _ hcode := hcode
  method _ _ hget := by cases hget
  knows _ _ hget := by cases hget
  ended := ⟨[], rfl, fun _ hentry => by cases hentry⟩

/-- How a join by the code of the room ends: in the room, or with an error that is not that
there is no such room. -/
inductive Leads (room : RoomEntity) : Except Failure Reply → Prop
  | entered {joined} (id : joined.id = room.id) (code : joined.code = room.code) :
      Leads room (.ok (some joined))
  | failed {failure} (there : failure ≠ roomNotFound) : Leads room (.error failure)

/-- In every run of lobby calls in any order, to `s` and on to `t`: where a `createRoom` has
been answered with a room by `s`, a request to join with its code, typed in ASCII in any case
and with blanks around it, calls the service with the code; every `joinRoom` with what has the
code as its upper case that ends after `s` enters this room or fails for another reason than
that there is no such room; and no other room of `t` has the code. -/
theorem code_leads_to_room {maxPlayersPerRoom : Nat} {db : LobbyDb} (hdb : Coded db)
    {before after : List LobbyEvent} (hgenuine : ∀ event ∈ before ++ after, Genuine event)
    {s t : LobbyState}
    (hbefore : (machine (program maxPlayersPerRoom)).exec (start db) before = some s)
    (hafter : (machine (program maxPlayersPerRoom)).exec s after = some t)
    {number : Nat} {hostId name : String} {maxPlayers : Option Nat} {room : RoomEntity}
    (hcreated : (number, .createRoom hostId name maxPlayers, .ok (some room)) ∈ s.ended) :
    (∀ auth body typed, stringField body "code" = some typed →
      (∀ c ∈ (trim typed).toList, isAscii c) → toUpperCase (trim typed) = room.code →
        HttpServer.handleOwn auth body .joinRoom =
          .ok (.lobby (.joinRoom auth.playerId room.code))) ∧
    (∀ entry ∈ t.ended.drop s.ended.length, ∀ playerId typed,
      entry.2.1 = .joinRoom playerId typed → toUpperCase typed = room.code →
        Leads room entry.2.2) ∧
    ∀ roomId row, t.store.rooms.get roomId = some row →
      (row.code = room.code ↔ roomId = room.id) := by
  have hs := addressed_exec (fun event h => hgenuine event (List.mem_append_left _ h)) hbefore
    (addressed_start hdb)
  obtain ⟨logged, hlogged, hended⟩ := hs.ended
  rw [List.nil_append] at hlogged
  have hanswered : Answered s.store (.createRoom hostId name maxPlayers) (some room) :=
    hended (number, .createRoom hostId name maxPlayers, .ok (some room)) (hlogged ▸ hcreated)
  obtain ⟨_, heq, hcode, -⟩ := hanswered (Or.inl rfl)
  cases heq
  have ht := addressed_exec (fun event h => hgenuine event (List.mem_append_right _ h)) hafter
    hs.rebase
  refine ⟨fun auth body typed hbody hascii hspells => ?_,
    fun entry hentry playerId typed hcall htyped => ?_,
    fun roomId row hrow => ⟨fun hsame => ?_, ?_⟩⟩
  · have hschema := (hs.coded.drawn _ _ hcode).joinRoomSchema hbody hascii hspells
    simp only [HttpServer.handleOwn, hschema, HttpServer.parsed]
    rfl
  · obtain ⟨new, hnew, hends⟩ := ht.ended
    rw [hnew, List.drop_left] at hentry
    have houtcome := hends entry hentry
    generalize entry.2.2 = result at houtcome
    cases result with
    | error failure =>
      refine .failed fun hfailure => ?_
      exact houtcome playerId typed hcall hfailure room.id (htyped ▸ hcode)
    | ok result =>
      obtain ⟨joined, rfl, hthere, hjoined⟩ := houtcome (Or.inr (hcall ▸ rfl))
      have hsame : joined.code = room.code := (hjoined playerId typed hcall).trans htyped
      exact .entered (ht.coded.unique _ _ _ (ht.keeps _ _ hcode) (hsame ▸ hthere)) hsame
  · exact ht.coded.unique _ _ _ (ht.keeps _ _ hcode) ⟨row, hrow, hsame⟩
  · rintro rfl
    obtain ⟨own, hown, hsame⟩ := ht.keeps _ _ hcode
    cases hrow.symm.trans hown
    exact hsame

def threePlayers : LobbyDb where
  rooms := JsMap.empty
  sessions := []
  usernames := ((JsMap.empty.set "p1" "ann").set "p2" "bob").set "p3" "cy"

def lettersFrom (place i : Nat) : Fin roomCodeAlphabet.length :=
  ⟨(place + i) % roomCodeAlphabet.length, Nat.mod_lt _ (by decide)⟩

/-- A draw with the six letters of the alphabet from a place on. -/
def drawnFrom (place : Nat) (id : String) : LobbyDraw where
  pick := 0
  code := generateRoomCode (lettersFrom place) 6
  roomId := "room-" ++ id
  rowId := "member-" ++ id
  now := 0
  refused := none

/-- A player creates a room, and another one draws its code first and then a free one. -/
def creating : List LobbyEvent :=
  [.call (.createRoom "p1" "duel" none) default, .call (.createRoom "p2" "arena" none) default,
    .operation 0 (drawnFrom 0 "a"), .operation 0 (drawnFrom 0 "a"), .operation 0 (drawnFrom 0 "a"),
    .operation 1 (drawnFrom 0 "b"), .operation 1 (drawnFrom 6 "b"), .operation 1 (drawnFrom 6 "b"),
    .operation 1 (drawnFrom 6 "b")]

def joining : List LobbyEvent :=
  [.call (.joinRoom "p3" "abcdef") default, .operation 2 (drawnFrom 0 "c"),
    .operation 2 (drawnFrom 0 "c"), .operation 2 (drawnFrom 0 "c")]

theorem isRoomCode_drawnFrom (place : Nat) (id : String) : IsRoomCode (drawnFrom place id).code :=
  ⟨lettersFrom place, rfl⟩

theorem genuine_creating_joining : ∀ event ∈ creating ++ joining, Genuine event := by
  intro event hevent
  simp only [creating, joining, List.cons_append, List.nil_append, List.mem_cons, List.not_mem_nil,
    or_false] at hevent
  rcases hevent with rfl | rfl | rfl | rfl | rfl | rfl | rfl | rfl | rfl | rfl | rfl | rfl | rfl <;>
    first
      | exact trivial
      | exact isRoomCode_drawnFrom _ _

theorem coded_threePlayers : Coded threePlayers where
  drawn := by
    rintro roomId code ⟨row, ⟨⟩, -⟩
  unique := by
    rintro roomId other code ⟨row, ⟨⟩, -⟩

/-- The first room, as its host gets it. -/
def duel : RoomEntity where
  id := "room-a"
  code := "ABCDEF"
  name := "duel"
  hostId := "p1"
  maxPlayers := 8
  status := .waiting
  members := [⟨"member-a", "room-a", "p1", "ann", false, 0⟩]

/-- The body of a request to join, with a code typed in lower case and blanks around it. -/
def typedCode : Body := .obj fun key => if key = "code" then some (.str " abcdef ") else none

/-- Three calls end, and the last one, by the code in lower case, in the first room. -/
theorem abcdef_leads_to_duel : ∃ (s t : LobbyState) (room : RoomEntity),
    (machine (program 8)).exec (start threePlayers) creating = some s ∧
      (machine (program 8)).exec s joining = some t ∧ room.code = "ABCDEF" ∧
      t.ended.length = s.ended.length + 1 ∧
      (∀ auth, HttpServer.handleOwn auth typedCode .joinRoom =
        .ok (.lobby (.joinRoom auth.playerId room.code))) ∧
      (∀ entry ∈ t.ended.drop s.ended.length, ∀ playerId typed,
        entry.2.1 = .joinRoom playerId typed → toUpperCase typed = room.code →
          Leads room entry.2.2) ∧
      ∀ roomId row, t.store.rooms.get roomId = some row →
        (row.code = room.code ↔ roomId = room.id) := by
  have hcreating : ((machine (program 8)).exec (start threePlayers) creating).map (fun s =>
      (s.ended.head?, s.ended.length)) = some (some (0, .createRoom "p1" "duel" none, .ok (some duel)),
        2) := rfl
  have hended : ((machine (program 8)).exec (start threePlayers) (creating ++ joining)).map
      (fun t => t.ended.length) = some 3 := by decide +kernel
  obtain ⟨s, hs, hfirst⟩ := Option.map_eq_some_iff.mp hcreating
  obtain ⟨hcreated, htwo⟩ := Prod.mk.inj hfirst
  obtain ⟨t, hexec, hthree⟩ := Option.map_eq_some_iff.mp hended
  obtain ⟨s', hs', ht⟩ := Machine.exec_append.mp hexec
  cases hs.symm.trans hs'
  have hleads := code_leads_to_room coded_threePlayers genuine_creating_joining hs ht
    (List.mem_of_mem_head? hcreated)
  have hrequest : ∀ auth, HttpServer.handleOwn auth typedCode .joinRoom =
      .ok (.lobby (.joinRoom auth.playerId duel.code)) := fun auth =>
    hleads.1 auth typedCode " abcdef " rfl (List.all_eq_true.mp (by decide)) (by decide)
  exact ⟨s, t, duel, hs, ht, rfl, by rw [htwo, hthree], hrequest, hleads.2.1, hleads.2.2⟩

end RealtimeGameServer.Guarantees.RoomCodes
