import RealtimeGameServer.Guarantees.RevocationClosure

/-!
# A registration that fails

`register` inserts the user, then the player with its rows, then the refresh token, each
in a write of its own, and undoes none of them. A registration that rejects has left every
table as it was if and only if it did not get to insert its user; from then on every step
has to succeed.
-/
namespace RealtimeGameServer.Guarantees.RegisterAtomicity
open Lib Calls Source Auth

/-- A call that rejects leaves the tables as they were. -/
def AllOrNothing (db db' : AuthDb) (result : Except Failure Reply) : Prop :=
  ∀ failure, result = .error failure → db' = db

/-- The user that `register` inserts. -/
def newUser (service : TokenService) (input : RegisterInput) (hashing inserting : Draw) :
    UserEntity where
  id := inserting.id
  email := trim (toLowerCase input.email)
  username := normalizeUsername input.username
  passwordHash := service.bcryptHash input.password hashing.salt

/-- The player and its rows are inserted, the tokens are signed and the refresh token is
stored. -/
def NothingFails (service : TokenService) (db : AuthDb) (user : UserEntity)
    (rest : List (Except Failure Draw)) : Prop :=
  ∃ creating storing created accessToken refresh stored, rest = [.ok creating, .ok storing] ∧
    createPlayer db (newPlayer user creating) creating.inventoryId creating.leaderboardId =
      .ok created ∧
    service.signAccessToken user.id creating.id user.username creating.now = .ok accessToken ∧
    service.createRefreshTokenPair user.id creating.jti creating.now = .ok refresh ∧
    createToken created (issuedRow storing user.id refresh) = .ok stored

/-- If the first three repository calls are answered and the user's row is inserted,
then nothing fails after that. -/
def FailsBeforeInsert (service : TokenService) (db : AuthDb) (input : RegisterInput)
    (draws : List (Except Failure Draw)) : Prop :=
  ∀ finding hashing inserting rest users,
    draws = .ok finding :: .ok hashing :: .ok inserting :: rest →
      db.users.insertRow (newUser service input hashing inserting) = some users →
        NothingFails service { db with users } (newUser service input hashing inserting) rest

variable {service : TokenService} {db db' : AuthDb} {result : Except Failure Reply}

/-- A call that has got to store its refresh token stores it and returns, or rejects. -/
theorem issueCreateToken_cases {userId accessToken : String} {refresh : RefreshTokenPair}
    {account : Option (UserEntity × PlayerProfile)} {rest : List (Except Failure Draw)}
    (h : finish (program service) (.goes (.issueCreateToken userId accessToken refresh account))
      rest db = some (db', result)) :
    (∃ storing stored reply, rest = [.ok storing] ∧
      createToken db (issuedRow storing userId refresh) = .ok stored ∧ result = .ok reply) ∨
    ∃ failure, result = .error failure ∧ db' = db ∧ ∀ storing stored, rest = [.ok storing] →
      createToken db (issuedRow storing userId refresh) ≠ .ok stored := by
  rcases finish_goes h with ⟨reason, rfl, rfl, rfl⟩ | ⟨storing, rest, rfl, hrest⟩
  · exact Or.inr ⟨reason, rfl, rfl, fun _ _ hrest => by cases hrest⟩
  · simp only [run_program, run] at hrest
    cases hstored : createToken db (issuedRow storing userId refresh) with
    | error failure =>
      rw [hstored] at hrest
      obtain ⟨rfl, rfl, rfl⟩ := finish_throws hrest
      refine Or.inr ⟨failure, rfl, rfl, fun storing' stored heq => ?_⟩
      cases heq
      rw [hstored]
      rintro ⟨⟩
    | ok stored =>
      rw [hstored] at hrest
      obtain ⟨rfl, rfl, rfl⟩ := finish_returns hrest
      exact Or.inl ⟨storing, _, _, rfl, hstored, rfl⟩

/-- A call that has inserted its user returns, and then nothing has failed, or it rejects
and the user stays. -/
theorem registerCreatePlayer_cases {user : UserEntity} {rest : List (Except Failure Draw)}
    (h : finish (program service) (.goes (.registerCreatePlayer user)) rest db =
      some (db', result)) :
    (NothingFails service db user rest ∧ ∃ reply, result = .ok reply) ∨
    (¬NothingFails service db user rest ∧ (∃ failure, result = .error failure) ∧
      db'.users = db.users) := by
  rcases finish_goes h with ⟨reason, rfl, rfl, rfl⟩ | ⟨creating, rest, rfl, hrest⟩
  · refine Or.inr ⟨?_, ⟨reason, rfl⟩, rfl⟩
    rintro ⟨creating, storing, created, accessToken, refresh, stored, heq, -⟩
    cases heq
  · rw [run_program, run_registerCreatePlayer] at hrest
    cases hcreated : createPlayer db (newPlayer user creating) creating.inventoryId
        creating.leaderboardId with
    | error failure =>
      rw [hcreated] at hrest
      obtain ⟨rfl, rfl, rfl⟩ := finish_throws hrest
      refine Or.inr ⟨?_, ⟨failure, rfl⟩, rfl⟩
      rintro ⟨creating', storing, created, accessToken, refresh, stored, heq, -⟩
      cases heq
    | ok created =>
      rw [hcreated] at hrest
      have husers := (createPlayer_ok hcreated).2
      rcases issueTokens_cases service creating user.id (newPlayer user creating)
          (some (user, newPlayer user creating)) with
        ⟨accessToken, refresh, haccess, hpair, hgoes⟩ | ⟨⟨failure, hthrows⟩, hunsigned⟩
      · rw [hgoes] at hrest
        rcases issueCreateToken_cases hrest with
          ⟨storing, stored, reply, rfl, hstored, rfl⟩ | ⟨failure, rfl, rfl, hrefused⟩
        · exact Or.inl ⟨⟨creating, storing, created, accessToken, refresh, stored, rfl, hcreated,
            haccess, hpair, hstored⟩, reply, rfl⟩
        · refine Or.inr ⟨?_, ⟨failure, rfl⟩, husers⟩
          rintro ⟨creating', storing, created', accessToken', refresh', stored, heq, hcreated',
            -, hpair', hstored⟩
          cases heq
          cases hcreated.symm.trans hcreated'
          cases hpair.symm.trans hpair'
          exact hrefused storing stored rfl hstored
      · rw [hthrows] at hrest
        obtain ⟨rfl, rfl, rfl⟩ := finish_throws hrest
        refine Or.inr ⟨?_, ⟨failure, rfl⟩, husers⟩
        rintro ⟨creating', storing, created', accessToken', refresh', stored, heq, -⟩
        cases heq

/-- A registration rejects before it has inserted its user, or goes on from there. -/
theorem register_cases {input : RegisterInput} {draw : Draw} {draws : List (Except Failure Draw)}
    (h : finish (program service) (Auth.opens service (.register input) draw) draws db =
      some (db', result)) :
    (db' = db ∧ ∀ finding hashing inserting rest users,
      draws = .ok finding :: .ok hashing :: .ok inserting :: rest →
        db.users.insertRow (newUser service input hashing inserting) ≠ some users) ∨
    ∃ finding hashing inserting rest users,
      draws = .ok finding :: .ok hashing :: .ok inserting :: rest ∧
      db.users.insertRow (newUser service input hashing inserting) = some users ∧
      finish (program service)
        (.goes (.registerCreatePlayer (newUser service input hashing inserting))) rest
        { db with users } = some (db', result) := by
  rcases finish_goes h with ⟨reason, rfl, rfl, -⟩ | ⟨finding, rest, rfl, hfirst⟩
  · exact Or.inl ⟨rfl, fun _ _ _ _ _ hdraws => by cases hdraws⟩
  · simp only [run_program, run] at hfirst
    cases hemail : db.users.findUnique (·.email) (trim (toLowerCase input.email)) with
    | some user =>
      simp only [hemail] at hfirst
      obtain ⟨rfl, rfl, -⟩ := finish_throws hfirst
      exact Or.inl ⟨rfl, fun _ _ _ _ _ hdraws => by cases hdraws⟩
    | none =>
      simp only [hemail] at hfirst
      rcases finish_goes hfirst with ⟨reason, rfl, rfl, -⟩ | ⟨hashing, rest, rfl, hsecond⟩
      · exact Or.inl ⟨rfl, fun _ _ _ _ _ hdraws => by cases hdraws⟩
      · simp only [run_program, run] at hsecond
        cases husername : db.users.findUnique (·.username) (normalizeUsername input.username) with
        | some user =>
          simp only [husername] at hsecond
          obtain ⟨rfl, rfl, -⟩ := finish_throws hsecond
          exact Or.inl ⟨rfl, fun _ _ _ _ _ hdraws => by cases hdraws⟩
        | none =>
          simp only [husername] at hsecond
          rcases finish_goes hsecond with ⟨reason, rfl, rfl, -⟩ | ⟨inserting, rest, rfl, hthird⟩
          · exact Or.inl ⟨rfl, fun _ _ _ _ _ hdraws => by cases hdraws⟩
          · have hcreate : run service (.registerCreateUser (trim (toLowerCase input.email))
                (normalizeUsername input.username)
                (service.bcryptHash input.password hashing.salt)) inserting db =
              write db (createUser db (newUser service input hashing inserting))
                (.goes (.registerCreatePlayer (newUser service input hashing inserting))) := rfl
            rw [run_program, hcreate, createUser] at hthird
            cases hinsert : db.users.insertRow (newUser service input hashing inserting) with
            | none =>
              simp only [hinsert] at hthird
              obtain ⟨rfl, rfl, -⟩ := finish_throws hthird
              refine Or.inl ⟨rfl, fun _ _ _ _ users heq => ?_⟩
              cases heq
              rw [hinsert]
              rintro ⟨⟩
            | some users =>
              simp only [hinsert] at hthird
              exact Or.inr ⟨finding, hashing, inserting, rest, users, rfl, hinsert, hthird⟩

/-- A registration that runs alone, whatever its input and whichever of its repository and
token calls fail, is all or nothing if and only if it fails, where it does, before it has
inserted its user. -/
theorem register_atomic_iff (service : TokenService) (db db' : AuthDb) (input : RegisterInput)
    (draw : Draw) (draws : List (Except Failure Draw)) (result : Except Failure Reply)
    (h : finish (program service) (Auth.opens service (.register input) draw) draws db =
      some (db', result)) :
    AllOrNothing db db' result ↔ FailsBeforeInsert service db input draws := by
  rcases register_cases h with ⟨rfl, hnone⟩ |
    ⟨finding, hashing, inserting, rest, users, rfl, hinsert, hrest⟩
  · exact iff_of_true (fun _ _ => rfl) fun finding hashing inserting rest users hdraws hinsert =>
      absurd hinsert (hnone finding hashing inserting rest users hdraws)
  · have hlater : FailsBeforeInsert service db input
        (.ok finding :: .ok hashing :: .ok inserting :: rest) ↔
        NothingFails service { db with users } (newUser service input hashing inserting) rest := by
      constructor
      · exact fun hbefore => hbefore finding hashing inserting rest users rfl hinsert
      · intro hnothing _ _ _ _ _ heq hinsert'
        cases heq
        cases hinsert.symm.trans hinsert'
        exact hnothing
    rw [hlater]
    rcases registerCreatePlayer_cases hrest with ⟨hnothing, reply, rfl⟩ |
      ⟨hfails, ⟨failure, rfl⟩, husers⟩
    · exact iff_of_true (fun _ hfailed => by cases hfailed) hnothing
    · refine iff_of_false (fun hatomic => ?_) hfails
      -- the user is still there
      have hrows := UniqueTable.rows_insertRow hinsert
      rw [hatomic failure rfl] at husers
      have hlength := congrArg (fun table => table.rows.length) husers
      simp [hrows] at hlength

def noAccounts : AuthDb := ⟨.empty, .empty, .empty, .empty, .empty⟩

def ace : RegisterInput := ⟨"A@example.com", "Ace", "password123"⟩

def drawn : Draw := ⟨0, "n1", "n2", "n3", "b", "salt"⟩

/-- The connection is lost when the player is inserted: the user is there. -/
theorem register_leaves_user : ¬∀ (service : TokenService) (db db' : AuthDb)
    (input : RegisterInput) (draw : Draw) (draws : List (Except Failure Draw))
    (result : Except Failure Reply),
    finish (program service) (Auth.opens service (.register input) draw) draws db =
      some (db', result) → AllOrNothing db db' result := by
  intro h
  have hatomic := h RevocationClosure.plainService noAccounts _ ace drawn
    [.ok drawn, .ok drawn, .ok drawn, .error .connectionLost] _ rfl .connectionLost rfl
  have hlength := congrArg (fun db => db.users.rows.length) hatomic
  cases hlength

def bob : RegisterInput := ⟨"B@example.com", "Bob", "password123"⟩

/-- The connection is lost when the user is inserted: nothing is written. -/
theorem register_lost_atomic :
    finish (program RevocationClosure.plainService)
      (Auth.opens RevocationClosure.plainService (.register bob) drawn)
      [.ok drawn, .ok drawn, .error .connectionLost] RevocationClosure.oneToken =
        some (RevocationClosure.oneToken, .error .connectionLost) ∧
    AllOrNothing RevocationClosure.oneToken RevocationClosure.oneToken
      (.error .connectionLost) := by
  refine ⟨rfl, ?_⟩
  refine (register_atomic_iff RevocationClosure.plainService _ _ bob drawn
    [.ok drawn, .ok drawn, .error .connectionLost] _ rfl).mpr ?_
  intro _ _ _ _ _ heq
  cases heq

end RealtimeGameServer.Guarantees.RegisterAtomicity
