import RealtimeGameServer.Guarantees.RoomCapacity

/-!
# One active room per player

`createRoom` and `joinRoom` look for an active room of the player in a statement
of its own, and the only constraint is per room and player. So a player gets a
second active room when two of the player's calls overlap, or when `startGame`
reopens a room that was closed. Along a run every player has at most one active
room if and only if every commit that gives players an active room finds none of
them in another one.
-/
namespace RealtimeGameServer.Guarantees.ActiveRooms
open Lib ReadCommitted Source Source.Rooms Source.LobbyStatements

/-- The player is a member of the room, and the room is waiting or in progress. -/
def ActiveIn (db : LobbyDb) (playerId roomId : String) : Prop :=
  ∃ row, db.rooms.get roomId = some row ∧ isActive row.status = true ∧
    row.members.get playerId ≠ none

/-- Every player has at most one active room. -/
def OneActiveRoom (db : LobbyDb) : Prop :=
  ∀ playerId roomId other, ActiveIn db playerId roomId → ActiveIn db playerId other →
    other = roomId

/-- The room is active, or the transaction creates it. -/
def Opened (a : ActiveCall) (db : LobbyDb) (roomId : String) : Prop :=
  (∃ row, db.rooms.get roomId = some row ∧ isActive row.status = true) ∨
    ∃ input, Effect.insertRoom roomId input ∈ a.pending

/-- A transaction that commits a member of an active room, or the start of a room,
finds no player of it in another active room. -/
structure FindsNoOther (a : ActiveCall) (db : LobbyDb) : Prop where
  inserted : ∀ roomId playerId member, Effect.insertMember roomId playerId member ∈ a.pending →
    Opened a db roomId → ∀ other, ActiveIn db playerId other → other = roomId
  started : ∀ roomId row, Effect.setStatus roomId .inProgress ∈ a.pending →
    db.rooms.get roomId = some row → ∀ playerId, row.members.get playerId ≠ none →
      ∀ other, ActiveIn db playerId other → other = roomId

/-- The effect gives players no active room. -/
def Effect.inert : Effect → Bool
  | .insertRoom _ _ => false
  | .insertMember _ _ _ => false
  | .setStatus _ status => !isActive status
  | _ => true

/-- An update that makes no room active and adds no member. -/
theorem activeIn_update {db : LobbyDb} {roomId i playerId : String} (change : RoomRow → RoomRow)
    (hstatus : ∀ row, isActive (change row).status = true → isActive row.status = true)
    (hmembers : ∀ row, (change row).members.get playerId ≠ none → row.members.get playerId ≠ none)
    (h : ActiveIn (updateRoom db roomId change) playerId i) : ActiveIn db playerId i := by
  obtain ⟨row, hrow, hactive, hmember⟩ := h
  rw [get_updateRoom] at hrow
  split at hrow
  next =>
    obtain ⟨old, hold, rfl⟩ := Option.map_eq_some_iff.mp hrow
    exact ⟨old, hold, hstatus old hactive, hmembers old hmember⟩
  next => exact ⟨row, hrow, hactive, hmember⟩

theorem activeIn_apply {db : LobbyDb} {effect : Effect} (hinert : Effect.inert effect = true)
    {playerId i : String} (h : ActiveIn (apply db effect) playerId i) : ActiveIn db playerId i := by
  cases effect with
  | insertRoom | insertMember => cases hinert
  | deleteMember roomId leaving =>
    refine activeIn_update (removeFrom leaving) (fun _ hactive => hactive) (fun row hmember => ?_) h
    simp only [removeFrom, JsMap.get_delete] at hmember
    split at hmember
    next => exact absurd rfl hmember
    next => exact hmember
  | setReady roomId member ready =>
    refine activeIn_update (setReadyOf member ready) (fun row hactive => ?_)
      (fun row hmember => (get_setReadyOf_eq_none row member playerId ready).not.mp hmember) h
    rwa [status_setReadyOf] at hactive
  | setStatus roomId status =>
    refine activeIn_update (Rooms.setStatus status) (fun row hactive => ?_)
      (fun _ hmember => hmember) h
    simp only [Effect.inert, Bool.not_eq_true'] at hinert
    rw [Rooms.setStatus, hinert] at hactive
    cases hactive
  | setHost roomId hostId =>
    exact activeIn_update (Rooms.setHost hostId) (fun _ hactive => hactive) (fun _ hm => hm) h
  | insertSession session => exact h

theorem activeIn_foldl {db : LobbyDb} {effects : List Effect}
    (hinert : ∀ effect ∈ effects, Effect.inert effect = true) {playerId i : String}
    (h : ActiveIn (effects.foldl apply db) playerId i) : ActiveIn db playerId i := by
  induction effects generalizing db with
  | nil => exact h
  | cons effect rest ih =>
    have hrest := ih (fun e he => hinert e (List.mem_cons_of_mem _ he)) h
    exact activeIn_apply (hinert effect List.mem_cons_self) hrest

/-- Where only one room changes, the players active in it must be in no other. -/
theorem oneActiveRoom_iff {db view : LobbyDb} (h : OneActiveRoom db) (roomId : String)
    (hsame : ∀ i, i ≠ roomId → ∀ playerId, ActiveIn view playerId i ↔ ActiveIn db playerId i) :
    OneActiveRoom view ↔ ∀ playerId, ActiveIn view playerId roomId →
      ∀ other, ActiveIn db playerId other → other = roomId := by
  constructor
  · intro hview playerId hactive other hother
    by_contra hne
    exact hne (hview playerId roomId other hactive ((hsame other hne playerId).mpr hother))
  · intro hguard playerId i j hi hj
    by_cases hir : i = roomId <;> by_cases hjr : j = roomId
    · exact hjr.trans hir.symm
    · rw [hir] at hi ⊢
      exact hguard playerId hi j ((hsame j hjr playerId).mp hj)
    · rw [hjr] at hj ⊢
      exact (hguard playerId hj i ((hsame i hir playerId).mp hi)).symm
    · exact h playerId i j ((hsame i hir playerId).mp hi) ((hsame j hjr playerId).mp hj)

theorem activeIn_update_other {db : LobbyDb} {roomId i playerId : String}
    {change : RoomRow → RoomRow} (h : i ≠ roomId) :
    ActiveIn (updateRoom db roomId change) playerId i ↔ ActiveIn db playerId i := by
  simp only [ActiveIn, get_updateRoom, if_neg h]

theorem activeIn_update_self {db : LobbyDb} {roomId playerId : String}
    {change : RoomRow → RoomRow} : ActiveIn (updateRoom db roomId change) playerId roomId ↔
      ∃ row, db.rooms.get roomId = some row ∧ isActive (change row).status = true ∧
        (change row).members.get playerId ≠ none := by
  simp only [ActiveIn, get_updateRoom, if_true, Option.map_eq_some_iff]
  constructor
  · rintro ⟨_, ⟨row, hrow, rfl⟩, hactive, hmember⟩
    exact ⟨row, hrow, hactive, hmember⟩
  · rintro ⟨row, hrow, hactive, hmember⟩
    exact ⟨_, ⟨row, hrow, rfl⟩, hactive, hmember⟩

theorem joined_iff {db : LobbyDb} (h : OneActiveRoom db) (roomId playerId : String)
    (member : MemberRow) : OneActiveRoom (updateRoom db roomId (addTo playerId member)) ↔
      ((∃ row, db.rooms.get roomId = some row ∧ isActive row.status = true) →
        ∀ other, ActiveIn db playerId other → other = roomId) := by
  rw [oneActiveRoom_iff h roomId fun i hne q => activeIn_update_other hne]
  constructor
  · rintro hguard ⟨row, hrow, hactive⟩
    refine hguard playerId (activeIn_update_self.mpr ⟨row, hrow, hactive, ?_⟩)
    rw [addTo, JsMap.get_set_self]
    exact Option.some_ne_none _
  · intro hguard q hq
    obtain ⟨row, hrow, hactive, hmember⟩ := activeIn_update_self.mp hq
    by_cases hplayer : q = playerId
    · subst hplayer
      exact hguard ⟨row, hrow, hactive⟩
    · -- a player who was a member before is in no other active room
      rw [addTo, JsMap.get_set_of_ne _ hplayer] at hmember
      intro other hother
      exact h q roomId other ⟨row, hrow, hactive, hmember⟩ hother

theorem started_iff {db : LobbyDb} (h : OneActiveRoom db) (roomId : String) :
    OneActiveRoom (updateRoom db roomId (Rooms.setStatus .inProgress)) ↔
      ∀ row, db.rooms.get roomId = some row → ∀ playerId, row.members.get playerId ≠ none →
        ∀ other, ActiveIn db playerId other → other = roomId := by
  rw [oneActiveRoom_iff h roomId fun i hne q => activeIn_update_other hne]
  constructor
  · intro hguard row hrow playerId hmember
    exact hguard playerId (activeIn_update_self.mpr ⟨row, hrow, rfl, hmember⟩)
  · intro hguard playerId hactive
    obtain ⟨row, hrow, -, hmember⟩ := activeIn_update_self.mp hactive
    exact hguard row hrow playerId hmember

theorem created_iff {db : LobbyDb} (h : OneActiveRoom db) {roomId : String}
    {input : CreateRoomInput} {member : MemberRow} (fresh : db.rooms.get roomId = none) :
    OneActiveRoom ([Effect.insertRoom roomId input,
        .insertMember roomId input.hostId member].foldl apply db) ↔
      ∀ other, ActiveIn db input.hostId other → other = roomId := by
  have hget : ∀ i, ([Effect.insertRoom roomId input,
      .insertMember roomId input.hostId member].foldl apply db).rooms.get i =
        if i = roomId then some (addTo input.hostId member (newRoom input))
          else db.rooms.get i :=
    get_created fresh
  rw [oneActiveRoom_iff h roomId fun i hne q => by simp only [ActiveIn, hget, if_neg hne]]
  constructor
  · intro hguard
    refine hguard input.hostId ⟨_, (hget roomId).trans (if_pos rfl), rfl, ?_⟩
    rw [addTo, JsMap.get_set_self]
    exact Option.some_ne_none _
  · intro hguard q hq
    obtain ⟨row, hrow, -, hmember⟩ := hq
    rw [hget, if_pos rfl] at hrow
    cases hrow
    by_cases hhost : q = input.hostId
    · exact hhost ▸ hguard
    · rw [addTo, JsMap.get_set_of_ne _ hhost] at hmember
      exact absurd rfl hmember

/-- A commit of effects that give nobody an active room. -/
theorem inert_iff {call : DrawnCall} {pc : Pc} {pending : List Effect} {held : List Lock}
    {db : LobbyDb} (h : OneActiveRoom db)
    (hall : ∀ effect ∈ pending, Effect.inert effect = true) :
    OneActiveRoom (pending.foldl apply db) ↔ FindsNoOther ⟨call, pc, pending, held⟩ db := by
  apply iff_of_true
  · intro playerId i j hi hj
    exact h playerId i j (activeIn_foldl hall hi) (activeIn_foldl hall hj)
  · constructor
    case inserted =>
      intro _ _ _ hmem
      cases hall _ hmem
    case started =>
      intro _ _ hmem
      cases hall _ hmem

/-- A commit keeps the active rooms apart if and only if it finds no player of its
room in another one. -/
theorem oneActiveRoom_commit_iff {a : ActiveCall} {db : LobbyDb} (maxPlayersPerRoom : Nat)
    (hwritten : Written db a.held a.pending) (h : OneActiveRoom db) :
    OneActiveRoom ((protocol maxPlayersPerRoom).view a db) ↔ FindsNoOther a db := by
  obtain ⟨call, pc, pending, held⟩ := a
  simp only [Protocol.view, protocol]
  cases hwritten with
  | @created roomId input member fresh locked capacity =>
    rw [created_iff h fresh]
    constructor
    · intro hguard
      constructor
      case inserted =>
        intro i playerId inserted hmem _
        simp only [List.mem_cons, reduceCtorEq, Effect.insertMember.injEq, List.not_mem_nil,
          or_false, false_or] at hmem
        rw [hmem.1, hmem.2.1]
        exact hguard
      case started =>
        intro _ _ hmem
        simp at hmem
    · intro hguard
      refine hguard.inserted roomId input.hostId member ?_ (Or.inr ⟨input, List.mem_cons_self⟩)
      exact List.mem_cons_of_mem _ List.mem_cons_self
  | @joined roomId playerId member absent locked =>
    rw [List.foldl_cons, List.foldl_nil, apply, joined_iff h]
    constructor
    · intro hguard
      constructor
      case inserted =>
        intro i q inserted hmem hopened
        cases List.mem_singleton.mp hmem
        rcases hopened with hactive | ⟨input, hinput⟩
        · exact hguard hactive
        · simp at hinput
      case started =>
        intro _ _ hmem
        simp at hmem
    · intro hguard hactive
      exact hguard.inserted roomId playerId member List.mem_cons_self (Or.inl hactive)
  | @started roomId =>
    rw [List.foldl_cons, List.foldl_nil, apply, started_iff h]
    constructor
    · intro hguard
      constructor
      case inserted =>
        intro _ _ _ hmem
        simp at hmem
      case started =>
        intro i row hmem hrow
        cases List.mem_singleton.mp hmem
        exact hguard row hrow
    · intro hguard row hrow
      exact hguard.started roomId row List.mem_cons_self hrow
  | closed removes =>
    refine inert_iff h ?_
    rcases removes with rfl | rfl <;> simp [Effect.inert, isActive]
  | handedOver removes =>
    refine inert_iff h ?_
    rcases removes with rfl | rfl <;> simp [Effect.inert]
  | _ =>
    refine inert_iff h ?_
    simp [Effect.inert]

/-- In a run that starts with at most one active room for each player, this holds
in every committed state if and only if every commit that gives players an active
room finds none of them in another one. -/
theorem one_active_room_iff (maxPlayersPerRoom : Nat) (db : LobbyDb) (hdb : OneActiveRoom db)
    (events : List LobbyEvent) :
    (machine (protocol maxPlayersPerRoom)).Along (fun s => OneActiveRoom s.committed)
        (start db) events ↔
      (machine (protocol maxPlayersPerRoom)).StepsMeet
        (CommitOk (protocol maxPlayersPerRoom) FindsNoOther) (start db) events :=
  along_iff_commits (guarded maxPlayersPerRoom) (rule maxPlayersPerRoom)
    (fun _ _ hknows h hfollow =>
      oneActiveRoom_commit_iff maxPlayersPerRoom (written_of_commit hknows hfollow) h)
    hdb events

/-- Two waiting rooms and a player in neither. -/
def arcade : LobbyDb where
  rooms := (JsMap.empty.set "r1" {
    code := "ABCDEF"
    name := "duel"
    hostId := "p1"
    maxPlayers := 2
    status := .waiting
    members := JsMap.empty.set "p1" ⟨"m1", false, 0⟩ }).set "r2" {
    code := "GHJKLM"
    name := "brawl"
    hostId := "p2"
    maxPlayers := 4
    status := .waiting
    members := JsMap.empty.set "p2" ⟨"m2", false, 0⟩ }
  sessions := []
  usernames := ((JsMap.empty.set "p1" "ann").set "p2" "bob").set "p3" "cid"

def join (code rowId : String) : DrawnCall where
  call := .joinRoom "p3" code
  draws := List.replicate 3 ⟨0, "", "", rowId, 1, none⟩

/-- Both joins look for a membership before either inserts one. -/
def overlapping : List LobbyEvent :=
  [.call (join "ABCDEF" "m3"), .call (join "GHJKLM" "m4")] ++ RoomCapacity.untilInsert 0 ++
    RoomCapacity.untilInsert 1 ++ RoomCapacity.readBack 0 ++ RoomCapacity.readBack 1

theorem arcade_one : OneActiveRoom arcade := by
  have hone : ∀ playerId roomId, ActiveIn arcade playerId roomId →
      roomId = "r1" ∧ playerId = "p1" ∨ roomId = "r2" ∧ playerId = "p2" := by
    intro playerId roomId h
    obtain ⟨row, hrow, -, hmember⟩ := h
    simp only [arcade, JsMap.get_set] at hrow
    split at hrow
    next heq =>
      cases hrow
      simp only [JsMap.get_set, JsMap.get_empty, ne_eq, ite_eq_right_iff] at hmember
      exact Or.inr ⟨heq, by simpa using hmember⟩
    next =>
      split at hrow
      next heq =>
        cases hrow
        simp only [JsMap.get_set, JsMap.get_empty, ne_eq, ite_eq_right_iff] at hmember
        exact Or.inl ⟨heq, by simpa using hmember⟩
      next => cases hrow
  intro playerId i j hi hj
  rcases hone playerId i hi with ⟨rfl, rfl⟩ | ⟨rfl, rfl⟩ <;>
    rcases hone _ j hj with ⟨rfl, hp⟩ | ⟨rfl, hp⟩
  · rfl
  · exact absurd hp (by decide)
  · exact absurd hp (by decide)
  · rfl

theorem overlapping_two_rooms : ¬(machine (protocol 8)).Along
    (fun s => OneActiveRoom s.committed) (start arcade) overlapping := by
  intro h
  have htwo := h.last rfl "p3" "r1" "r2" ⟨_, rfl, rfl, nofun⟩ ⟨_, rfl, rfl, nofun⟩
  exact absurd htwo (by decide)

/-- Not every run leaves every player with at most one active room. -/
theorem overlapping_joins_two_rooms : ¬∀ (maxPlayersPerRoom : Nat) (db : LobbyDb),
    OneActiveRoom db → ∀ events : List LobbyEvent,
      (machine (protocol maxPlayersPerRoom)).Along (fun s => OneActiveRoom s.committed)
        (start db) events :=
  fun h => overlapping_two_rooms (h 8 arcade arcade_one overlapping)

/-- The second of the two joins commits while the player is in the other room. -/
theorem overlapping_joins_find_other : ¬(machine (protocol 8)).StepsMeet
    (CommitOk (protocol 8) FindsNoOther) (start arcade) overlapping :=
  fun h => overlapping_two_rooms ((one_active_room_iff 8 arcade arcade_one overlapping).mpr h)

end RealtimeGameServer.Guarantees.ActiveRooms
