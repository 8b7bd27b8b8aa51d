import RealtimeGameServer.Source.LobbyCalls

/-!
# The host of a room

`createRoom` makes its caller the host and first member, `removeMember` hands the room on
to the member who has joined earliest and closes it when there is none. Over any sequence
of calls that run one after the other from empty tables, with a later `joinedAt` for every
new member, a room is CLOSED precisely when it is empty, its host is the member who joined
first, and in a started room all others are ready.
-/
namespace RealtimeGameServer.Guarantees.HostSuccession
open Lib Source Source.Rooms Source.LobbyService

/-- A call with what its repository calls draw. -/
abbrev DrawnCall := Call × List (Except Failure LobbyDraw)

/-- Calls that run one after the other, each to its end. -/
def sequential (maxPlayersPerRoom : Nat) : Machine LobbyDb DrawnCall :=
  Calls.sequential (program maxPlayersPerRoom) (opens maxPlayersPerRoom)

/-- No rooms, no members and no sessions. -/
def emptyTables (usernames : JsMap String String) : LobbyDb where
  rooms := .empty
  sessions := []
  usernames

/-- The rows of `room_members`: the room, the player and the row. -/
def memberRows (db : LobbyDb) : List (String × String × MemberRow) :=
  db.rooms.entries.flatMap fun room => room.2.members.entries.map fun member => (room.1, member)

/-- The member rows that are new are later than all that were there. -/
def joinsLater (db db' : LobbyDb) : Bool :=
  (memberRows db').all fun new =>
    (memberRows db).any (fun old => old.1 = new.1 ∧ old.2.1 = new.2.1) ||
      (memberRows db).all fun old => old.2.2.joinedAt < new.2.2.joinedAt

/-- `joinedAt` increases with the calls. -/
def laterJoins (maxPlayersPerRoom : Nat) (db : LobbyDb) (call : DrawnCall) : Bool :=
  ((sequential maxPlayersPerRoom).step db call).all (joinsLater db)

/-- A room is closed precisely when it is empty, its host is the first of its members, and
in a started room the others are ready. -/
structure Succession (row : RoomRow) : Prop where
  closed : row.status = .closed ↔ row.members.size = 0
  host : row.members.size ≠ 0 → ∃ member, row.members.get row.hostId = some member ∧
    ∀ other row', row.members.get other = some row' → other ≠ row.hostId →
      member.joinedAt < row'.joinedAt
  ready : row.status = .inProgress → OthersReady row

/-- No two members have joined at the same time. -/
structure Ordered (row : RoomRow) : Prop extends Succession row where
  distinct : ∀ p q member member', row.members.get p = some member →
    row.members.get q = some member' → member.joinedAt = member'.joinedAt → p = q

theorem mem_memberRows {db : LobbyDb} {roomId playerId : String} {member : MemberRow} :
    (roomId, playerId, member) ∈ memberRows db ↔
      ∃ row, db.rooms.get roomId = some row ∧ row.members.get playerId = some member := by
  unfold memberRows
  rw [List.mem_flatMap]
  constructor
  · rintro ⟨⟨id, row⟩, hroom, hmember⟩
    obtain ⟨⟨p, m⟩, hentry, heq⟩ := List.mem_map.mp hmember
    cases heq
    exact ⟨row, (JsMap.get_eq_some _ _ _).mpr hroom, (JsMap.get_eq_some _ _ _).mpr hentry⟩
  · rintro ⟨row, hrow, hmember⟩
    refine ⟨(roomId, row), (JsMap.get_eq_some _ _ _).mp hrow, List.mem_map.mpr ?_⟩
    exact ⟨(playerId, member), (JsMap.get_eq_some _ _ _).mp hmember, rfl⟩

theorem size_ne_zero_of_get {members : JsMap String MemberRow} {playerId : String}
    {member : MemberRow} (h : members.get playerId = some member) : members.size ≠ 0 := by
  intro hzero
  cases h.symm.trans ((JsMap.size_eq_zero _).mp hzero playerId)

theorem ordered_created (input : CreateRoomInput) (draw : LobbyDraw) :
    Ordered (addTo input.hostId (newMember draw) (newRoom input)) := by
  have hget : ∀ p, (addTo input.hostId (newMember draw) (newRoom input)).members.get p =
      if p = input.hostId then some (newMember draw) else none := fun p => JsMap.get_set _ _ _ _
  have hself := (hget input.hostId).trans (if_pos rfl)
  have honly : ∀ p member, (addTo input.hostId (newMember draw) (newRoom input)).members.get p =
      some member → p = input.hostId := by
    intro p member hp
    rw [hget] at hp
    split at hp
    next heq => exact heq
    next => cases hp
  refine { closed := ?closed, host := ?host, ready := ?ready, distinct := ?distinct }
  case closed =>
    constructor
    · intro hclosed
      cases hclosed
    · exact fun hzero => absurd hzero (size_ne_zero_of_get hself)
  case host => exact fun _ => ⟨_, hself, fun other row' hother hne => absurd (honly other row' hother) hne⟩
  case ready =>
    intro hstatus
    cases hstatus
  case distinct =>
    intro p q member member' hp hq _
    rw [honly p member hp, honly q member' hq]

namespace Ordered
variable {row : RoomRow}

/-- A new member comes last, so the host stays. -/
theorem joined (h : Ordered row) (waiting : row.status = .waiting) {playerId : String}
    {draw : LobbyDraw} (absent : row.members.get playerId = none)
    (hlater : ∀ other member, row.members.get other = some member → member.joinedAt < draw.now) :
    Ordered (addTo playerId (newMember draw) row) := by
  have hget : ∀ p, (addTo playerId (newMember draw) row).members.get p =
      if p = playerId then some (newMember draw) else row.members.get p :=
    fun p => JsMap.get_set _ _ _ _
  have hself := (hget playerId).trans (if_pos rfl)
  have hsome : row.members.size ≠ 0 := by
    intro hzero
    cases waiting.symm.trans (h.closed.mpr hzero)
  have hhost : row.hostId ≠ playerId := by
    obtain ⟨member, hmember, -⟩ := h.host hsome
    rintro rfl
    cases absent.symm.trans hmember
  refine { closed := ?closed, host := ?host, ready := ?ready, distinct := ?distinct }
  case closed =>
    constructor
    · intro hclosed
      cases waiting.symm.trans hclosed
    · exact fun hzero => absurd hzero (size_ne_zero_of_get hself)
  case host =>
    intro _
    obtain ⟨member, hmember, hfirst⟩ := h.host hsome
    refine ⟨member, (hget row.hostId).trans ((if_neg hhost).trans hmember), ?_⟩
    intro other row' hother hne
    rw [hget] at hother
    split at hother
    next =>
      cases hother
      exact hlater row.hostId member hmember
    next => exact hfirst other row' hother hne
  case ready =>
    intro hstatus
    cases waiting.symm.trans hstatus
  case distinct =>
    intro p q member member' hp hq hsame
    rw [hget] at hp hq
    split at hp <;> split at hq
    next hp' hq' => exact hp'.trans hq'.symm
    next =>
      cases hp
      exact absurd hsame.symm (hlater q member' hq).ne
    next =>
      cases hq
      exact absurd hsame (hlater p member hp).ne
    next => exact h.distinct p q member member' hp hq hsame

theorem closed_room (playerId : String) (empty : (row.members.delete playerId).size = 0) :
    Ordered (setStatus .closed (removeFrom playerId row)) := by
  have hnone := (JsMap.size_eq_zero _).mp empty
  refine { closed := ?closed, host := ?host, ready := ?ready, distinct := ?distinct }
  case closed => exact iff_of_true rfl empty
  case host => exact fun hsome => absurd empty hsome
  case ready =>
    intro hstatus
    cases hstatus
  case distinct =>
    intro p q member member' hp
    cases (hnone p).symm.trans hp

/-- The host stays, or leaves the room to the earliest of the others. -/
theorem left (h : Ordered row) {playerId hostId : String}
    (others : (row.members.delete playerId).size ≠ 0)
    (host : (row.hostId ≠ playerId ∧ hostId = row.hostId) ∨
      row.hostId = playerId ∧ Earliest (row.members.delete playerId) hostId) :
    Ordered (setHost hostId (removeFrom playerId row)) := by
  have hold : ∀ {p member}, (row.members.delete playerId).get p = some member →
      row.members.get p = some member ∧ p ≠ playerId := by
    intro p member hp
    exact (JsMap.get_delete_cases hp).symm
  have hsome : row.members.size ≠ 0 := fun hzero =>
    others (Nat.le_zero.mp (hzero ▸ JsMap.size_delete_le row.members playerId))
  have hclosed : row.status ≠ .closed := fun hclosed => hsome (h.closed.mp hclosed)
  refine { closed := ?closed, host := ?host, ready := ?ready, distinct := ?distinct }
  case closed => exact iff_of_false hclosed others
  case host =>
    intro _
    rcases host with ⟨hguest, rfl⟩ | ⟨-, member, hmember, hearliest⟩
    · obtain ⟨member, hmember, hfirst⟩ := h.host hsome
      refine ⟨member, ?_, fun other row' hother hne => hfirst other row' (hold hother).1 hne⟩
      exact (JsMap.get_delete _ _ _).trans ((if_neg hguest).trans hmember)
    · refine ⟨member, hmember, fun other row' hother hne => ?_⟩
      refine lt_of_le_of_ne (hearliest other row' hother) fun hsame => hne ?_
      exact (h.distinct hostId other member row' (hold hmember).1 (hold hother).1 hsame).symm
  case ready =>
    intro hstatus other row' hother hne
    obtain ⟨hother, hstays⟩ := hold hother
    refine h.ready hstatus other row' hother ?_
    rcases host with ⟨-, rfl⟩ | ⟨rfl, -⟩
    · exact hne
    · exact hstays
  case distinct =>
    exact fun p q member member' hp hq => h.distinct p q member member' (hold hp).1 (hold hq).1

/-- A ready flag changes no time of joining. -/
theorem readied (h : Ordered row) (waiting : row.status = .waiting) (playerId : String)
    (ready : Bool) : Ordered (setReadyOf playerId ready row) := by
  have hold : ∀ {p member}, (setReadyOf playerId ready row).members.get p = some member →
      ∃ old, row.members.get p = some old ∧ old.joinedAt = member.joinedAt := by
    intro p member hp
    unfold setReadyOf at hp
    split at hp
    next => exact ⟨member, hp, rfl⟩
    next old hget =>
      rcases JsMap.get_set_cases hp with ⟨rfl, rfl⟩ | ⟨-, hold⟩
      · exact ⟨old, hget, rfl⟩
      · exact ⟨member, hold, rfl⟩
  have hstatus := status_setReadyOf row playerId ready
  have hsize := size_setReadyOf row playerId ready
  have hhost := hostId_setReadyOf row playerId ready
  refine { closed := ?closed, host := ?host, ready := ?ready, distinct := ?distinct }
  case closed => rw [hstatus, hsize, h.closed]
  case host =>
    intro hsome
    rw [hsize] at hsome
    rw [hhost]
    obtain ⟨first, hfirst, hbefore⟩ := h.host hsome
    have hpresent : (setReadyOf playerId ready row).members.get row.hostId ≠ none := by
      rw [Ne, get_setReadyOf_eq_none, hfirst]
      exact Option.some_ne_none first
    obtain ⟨member, hmember⟩ := Option.ne_none_iff_exists'.mp hpresent
    obtain ⟨old, hget, hjoined⟩ := hold hmember
    cases hfirst.symm.trans hget
    refine ⟨member, hmember, fun other row' hother hne => ?_⟩
    obtain ⟨old', hget', hjoined'⟩ := hold hother
    rw [← hjoined, ← hjoined']
    exact hbefore other old' hget' hne
  case ready =>
    intro hprogress
    rw [hstatus, waiting] at hprogress
    cases hprogress
  case distinct =>
    intro p q member member' hp hq hsame
    obtain ⟨old, hget, hjoined⟩ := hold hp
    obtain ⟨old', hget', hjoined'⟩ := hold hq
    exact h.distinct p q old old' hget hget' ((hjoined.trans hsame).trans hjoined'.symm)

theorem started (h : Ordered row) (waiting : row.status = .waiting) (ready : OthersReady row) :
    Ordered (setStatus .inProgress row) where
  closed := by
    refine iff_of_false (fun hclosed => by cases hclosed) fun hzero => ?_
    cases waiting.symm.trans (h.closed.mpr hzero)
  host := h.host
  ready _ := ready
  distinct := h.distinct

end Ordered

/-- The new member of a room is later than the others. -/
theorem later_of_joinsLater {db db' : LobbyDb} (hlater : joinsLater db db' = true)
    {roomId playerId : String} {row row' : RoomRow} {member : MemberRow}
    (found : db.rooms.get roomId = some row) (absent : row.members.get playerId = none)
    (found' : db'.rooms.get roomId = some row') (present : row'.members.get playerId = some member)
    (other : String) (old : MemberRow) (hold : row.members.get other = some old) :
    old.joinedAt < member.joinedAt := by
  have hnew := List.all_eq_true.mp hlater _ (mem_memberRows.mpr ⟨row', found', present⟩)
  rcases Bool.or_eq_true _ _ ▸ hnew with hthere | hall
  · obtain ⟨⟨id, p, m⟩, hmem, hsame⟩ := List.any_eq_true.mp hthere
    obtain ⟨hroom, hplayer⟩ := of_decide_eq_true hsame
    obtain ⟨row'', hrow, hmember⟩ := mem_memberRows.mp hmem
    simp only at hroom hplayer
    rw [hroom] at hrow
    cases found.symm.trans hrow
    rw [hplayer] at hmember
    cases absent.symm.trans hmember
  · have hbefore := List.all_eq_true.mp hall _ (mem_memberRows.mpr ⟨row, found, hold⟩)
    exact of_decide_eq_true hbefore

/-- A call keeps all rooms in order, if new members come last. -/
theorem ordered_acts {db db' : LobbyDb} {rooms : JsMap String RoomRow}
    (h : ∀ roomId row, db.rooms.get roomId = some row → Ordered row) (hacts : Acts db rooms)
    (hrooms : db'.rooms = rooms) (hlater : joinsLater db db' = true) :
    ∀ roomId row, db'.rooms.get roomId = some row → Ordered row := by
  have hset : ∀ {changed : String} {row : RoomRow}, db'.rooms = db.rooms.set changed row →
      Ordered row → ∀ roomId row, db'.rooms.get roomId = some row → Ordered row := by
    intro changed row hrooms hrow
    rw [hrooms]
    exact JsMap.forall_get_set h hrow
  cases hacts with
  | same =>
    rw [hrooms]
    exact h
  | created fresh => exact hset hrooms (ordered_created _ _)
  | @joined roomId playerId row draw found waiting absent =>
    refine hset hrooms ((h roomId row found).joined waiting absent fun other old hold => ?_)
    have hfound : db'.rooms.get roomId = some (addTo playerId (newMember draw) row) := by
      rw [hrooms]
      exact JsMap.get_set_self _ _ _
    have hself : (addTo playerId (newMember draw) row).members.get playerId = some (newMember draw) :=
      JsMap.get_set_self _ _ _
    exact later_of_joinsLater hlater found absent hfound hself other old hold
  | closed found empty => exact hset hrooms (Ordered.closed_room _ empty)
  | left found others host => exact hset hrooms ((h _ _ found).left others host)
  | readied found waiting => exact hset hrooms ((h _ _ found).readied waiting _ _)
  | started found waiting ready => exact hset hrooms ((h _ _ found).started waiting ready)

/-- Along every sequence of calls from empty tables, with increasing `joinedAt`, a room is
CLOSED precisely when it is empty, its host is the member who joined first, and in a room
that is IN_PROGRESS all other members are ready. -/
theorem host_succession (maxPlayersPerRoom : Nat) (usernames : JsMap String String)
    (calls : List DrawnCall)
    (hlater : (sequential maxPlayersPerRoom).StepsMeet
      (fun db call => laterJoins maxPlayersPerRoom db call) (emptyTables usernames) calls) :
    (sequential maxPlayersPerRoom).Along
      (fun db => ∀ roomId row, db.rooms.get roomId = some row → Succession row)
      (emptyTables usernames) calls := by
  have hkeep : ∀ (db : LobbyDb) (call : DrawnCall) db',
      (∀ roomId row, db.rooms.get roomId = some row → Ordered row) → True →
      (sequential maxPlayersPerRoom).step db call = some db' →
      laterJoins maxPlayersPerRoom db call →
      ∀ roomId row, db'.rooms.get roomId = some row → Ordered row := by
    intro db call db' h _ hstep hguard
    rw [laterJoins, hstep] at hguard
    obtain ⟨result, hfinish⟩ := Calls.sequential_step hstep
    exact ordered_acts h (finish_acts hfinish) rfl hguard
  refine (Machine.along_of_guarded hkeep (fun _ _ => trivial) ?_ hlater).mono
    fun db h roomId row hget => (h roomId row hget).toSuccession
  intro roomId row hget
  cases hget

def drawn (rowId : String) (now : Int) : Except Failure LobbyDraw :=
  .ok { pick := 0, code := "ABCD", roomId := "r1", rowId, now, refused := none }

/-- The host starts the game without being ready and leaves it to the other member. -/
def handedOver : List DrawnCall :=
  [(.createRoom "p1" "arena" none, [drawn "m1" 1, drawn "m1" 1, drawn "m1" 1]),
    (.joinRoom "p2" "abcd", [drawn "m2" 2, drawn "m2" 2, drawn "m2" 2]),
    (.setReady "p2" true, [drawn "" 3, drawn "" 3]),
    (.startGame "p1", [drawn "" 4, drawn "" 4, drawn "s1" 4, drawn "s2" 4]),
    (.leaveRoom "p1", [drawn "" 5, drawn "" 5])]

def twoPlayers : JsMap String String := (JsMap.empty.set "p1" "ann").set "p2" "bob"

theorem handedOver_succession :
    ((sequential 4).exec (emptyTables twoPlayers) handedOver).map (fun db =>
        db.rooms.entries.map fun room => (room.2.status, room.2.hostId)) =
          some [(.inProgress, "p2")] ∧
      (sequential 4).Along (fun db => ∀ roomId row, db.rooms.get roomId = some row → Succession row)
        (emptyTables twoPlayers) handedOver := by
  have hlater : (sequential 4).StepsMeet (fun db call => laterJoins 4 db call)
      (emptyTables twoPlayers) handedOver := Machine.stepsMeet_iff_checks.mpr (by decide)
  exact ⟨by decide, host_succession 4 twoPlayers handedOver hlater⟩

end RealtimeGameServer.Guarantees.HostSuccession
