import RealtimeGameServer.Source.LobbyTransactions

/-!
# The capacity of a room

`addMember` counts the members it can see and inserts without a lock, so two
joins that overlap both find the last free place. A room stays within its
capacity along a run if and only if every commit of a new member finds a free
place among the committed members.
-/
namespace RealtimeGameServer.Guarantees.RoomCapacity
open Lib ReadCommitted Source Source.Rooms Source.LobbyStatements

/-- Every room has at most `maxPlayers` members. -/
def WithinCapacity (db : LobbyDb) : Prop :=
  ∀ roomId row, db.rooms.get roomId = some row → row.members.size ≤ row.maxPlayers

/-- A transaction that has inserted a member finds, when it commits, fewer than
`maxPlayers` committed members. -/
def FindsSpace (a : ActiveCall) (db : LobbyDb) : Prop :=
  ∀ roomId playerId member, Effect.insertMember roomId playerId member ∈ a.pending →
    ∀ row, db.rooms.get roomId = some row → row.members.size < row.maxPlayers

/-- An update that adds no member keeps the capacity. -/
theorem withinCapacity_update {db : LobbyDb} (h : WithinCapacity db) (roomId : String)
    {change : RoomRow → RoomRow} (hchange : ∀ row, (change row).members.size ≤ row.members.size)
    (hmax : ∀ row, (change row).maxPlayers = row.maxPlayers) :
    WithinCapacity (updateRoom db roomId change) := by
  intro i row hrow
  rw [get_updateRoom] at hrow
  split at hrow
  next =>
    obtain ⟨old, hold, rfl⟩ := Option.map_eq_some_iff.mp hrow
    have hle := hchange old
    have hcapacity := h i old hold
    rw [hmax]
    omega
  next => exact h i row hrow

theorem withinCapacity_apply {db : LobbyDb} (h : WithinCapacity db) {effect : Effect}
    (hinserts : effect.inserts = false) : WithinCapacity (apply db effect) := by
  cases effect with
  | insertRoom | insertMember => cases hinserts
  | deleteMember roomId playerId =>
    exact withinCapacity_update h roomId (fun row => JsMap.size_delete_le _ _) fun _ => rfl
  | setReady roomId playerId ready =>
    exact withinCapacity_update h roomId (fun row => (size_setReadyOf row playerId ready).le)
      fun row => maxPlayers_setReadyOf row playerId ready
  | setStatus roomId status =>
    exact withinCapacity_update h roomId (fun _ => Nat.le_refl _) fun _ => rfl
  | setHost roomId hostId =>
    exact withinCapacity_update h roomId (fun _ => Nat.le_refl _) fun _ => rfl
  | insertSession session => exact h

theorem withinCapacity_foldl {db : LobbyDb} (h : WithinCapacity db) {effects : List Effect}
    (hinserts : ∀ effect ∈ effects, effect.inserts = false) :
    WithinCapacity (effects.foldl apply db) := by
  induction effects generalizing db with
  | nil => exact h
  | cons effect rest ih =>
    have hfirst := withinCapacity_apply h (hinserts effect List.mem_cons_self)
    exact ih hfirst fun e he => hinserts e (List.mem_cons_of_mem _ he)

/-- A commit keeps the capacity if and only if its new member finds a place. -/
theorem withinCapacity_commit_iff {a : ActiveCall} {db : LobbyDb} (maxPlayersPerRoom : Nat)
    (hwritten : Written db a.held a.pending) (h : WithinCapacity db) :
    WithinCapacity ((protocol maxPlayersPerRoom).view a db) ↔ FindsSpace a db := by
  obtain ⟨call, pc, pending, held⟩ := a
  simp only [Protocol.view, protocol]
  rcases hwritten.cases with hinserts | ⟨roomId, input, member, rfl, hfresh, hcapacity⟩ |
    ⟨roomId, playerId, member, rfl, habsent⟩
  · apply iff_of_true
    · exact withinCapacity_foldl h hinserts
    · intro roomId playerId member hmem
      cases hinserts _ hmem
  · apply iff_of_true
    · intro i row hrow
      rw [get_created hfresh] at hrow
      split at hrow
      next =>
        cases hrow
        have hsize : ((newRoom input).members.set input.hostId member).size = 0 + 1 :=
          JsMap.size_set_of_absent rfl member
        have hmax : (newRoom input).maxPlayers = input.maxPlayers := rfl
        simp only [addTo]
        omega
      next => exact h i row hrow
    · intro i playerId inserted hmem row hrow
      simp only [List.mem_cons, reduceCtorEq, Effect.insertMember.injEq, List.not_mem_nil,
        or_false, false_or] at hmem
      rw [hmem.1, hfresh] at hrow
      cases hrow
  · have hsize : ∀ row, db.rooms.get roomId = some row →
        (addTo playerId member row).members.size = row.members.size + 1 := by
      intro row hrow
      rw [memberAt, hrow] at habsent
      exact JsMap.size_set_of_absent habsent member
    constructor
    · intro hview i other inserted hmem row hrow
      cases List.mem_singleton.mp hmem
      have hrow' : (updateRoom db roomId (addTo playerId member)).rooms.get roomId =
          some (addTo playerId member row) := get_updateRoom_self hrow _
      have hcapacity := hview roomId _ hrow'
      rw [hsize row hrow] at hcapacity
      exact hcapacity
    · intro hspace i row hrow
      rw [List.foldl_cons, List.foldl_nil, apply, get_updateRoom] at hrow
      split at hrow
      next heq =>
        subst heq
        obtain ⟨old, hold, rfl⟩ := Option.map_eq_some_iff.mp hrow
        rw [hsize old hold]
        exact hspace i playerId member (List.mem_singleton_self _) old hold
      next => exact h i row hrow

/-- In a run that starts within the capacities, every committed state is within
them if and only if every commit of a new member finds a free place. -/
theorem within_capacity_iff (maxPlayersPerRoom : Nat) (db : LobbyDb) (hdb : WithinCapacity db)
    (events : List LobbyEvent) :
    (machine (protocol maxPlayersPerRoom)).Along (fun s => WithinCapacity s.committed)
        (start db) events ↔
      (machine (protocol maxPlayersPerRoom)).StepsMeet
        (CommitOk (protocol maxPlayersPerRoom) FindsSpace) (start db) events :=
  along_iff_commits (guarded maxPlayersPerRoom) (rule maxPlayersPerRoom)
    (fun _ _ hknows h hfollow =>
      withinCapacity_commit_iff maxPlayersPerRoom (written_of_commit hknows hfollow) h)
    hdb events

/-- A room for two with its host, and two more players. -/
def duel : LobbyDb where
  rooms := JsMap.empty.set "r1" {
    code := "ABCDEF"
    name := "duel"
    hostId := "p1"
    maxPlayers := 2
    status := .waiting
    members := JsMap.empty.set "p1" ⟨"m1", false, 0⟩ }
  sessions := []
  usernames := ((JsMap.empty.set "p1" "ann").set "p2" "bob").set "p3" "cid"

def join (playerId rowId : String) : DrawnCall where
  call := .joinRoom playerId "ABCDEF"
  draws := List.replicate 3 ⟨0, "", "", rowId, 1, none⟩

/-- A join that finds no membership and a room, up to its insert. -/
def untilInsert (number : Nat) : List LobbyEvent :=
  [.statement number, .commit number, .statement number, .statement number, .commit number,
    .statement number, .statement number, .statement number]

def readBack (number : Nat) : List LobbyEvent :=
  [.statement number, .statement number, .commit number]

/-- Both joins insert before either commits. -/
def overlapping : List LobbyEvent :=
  [.call (join "p2" "m2"), .call (join "p3" "m3")] ++ untilInsert 0 ++ untilInsert 1 ++
    readBack 0 ++ readBack 1

theorem duel_within : WithinCapacity duel := by
  intro roomId row hrow
  simp only [duel, JsMap.get_set] at hrow
  split at hrow
  next =>
    cases hrow
    decide
  next => cases hrow

theorem overlapping_overfills : ¬(machine (protocol 8)).Along
    (fun s => WithinCapacity s.committed) (start duel) overlapping := by
  intro h
  have hthree := h.last rfl "r1" _ rfl
  exact absurd hthree (by decide)

/-- Not every run keeps the rooms within their capacity. -/
theorem overlapping_joins_overfill : ¬∀ (maxPlayersPerRoom : Nat) (db : LobbyDb),
    WithinCapacity db → ∀ events : List LobbyEvent,
      (machine (protocol maxPlayersPerRoom)).Along (fun s => WithinCapacity s.committed)
        (start db) events :=
  fun h => overlapping_overfills (h 8 duel duel_within overlapping)

/-- The second of the two joins commits without a free place. -/
theorem overlapping_joins_miss_space : ¬(machine (protocol 8)).StepsMeet
    (CommitOk (protocol 8) FindsSpace) (start duel) overlapping :=
  fun h => overlapping_overfills ((within_capacity_iff 8 duel duel_within overlapping).mpr h)

end RealtimeGameServer.Guarantees.RoomCapacity
