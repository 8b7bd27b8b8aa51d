import RealtimeGameServer.Source.AuthSteps

/-!
# Whose rows an operation changes

Every row of the account tables belongs to a user: directly, or through the
player it refers to. A call is made as one user (`MadeAs`), and what it knows at
each place is that it acts for that user (`Acts`). An operation changes rows of
that user only (`rowsOf_run`).
-/
namespace RealtimeGameServer.Source.Auth
open Lib Calls

/-- The rows of one user. -/
structure UserRows where
  users : List UserEntity
  players : List PlayerProfile
  inventories : List PlayerInventory
  leaderboard : List LeaderboardEntry
  refreshTokens : List RefreshTokenEntity
  deriving DecidableEq, Repr

/-- Among the players, the one with the id is the user's. -/
def ownsPlayer (players : List PlayerProfile) (userId playerId : String) : Bool :=
  players.any fun player => player.id = playerId ∧ player.userId = userId

def rowsOf (db : AuthDb) (userId : String) : UserRows where
  users := db.users.rows.filter fun user => user.id = userId
  players := db.players.rows.filter fun player => player.userId = userId
  inventories := db.inventories.rows.filter fun row => ownsPlayer db.players.rows userId row.playerId
  leaderboard := db.leaderboard.rows.filter fun row => ownsPlayer db.players.rows userId row.playerId
  refreshTokens := db.refreshTokens.rows.filter fun row => row.userId = userId

theorem rowsOf_createUser {db db' : AuthDb} {user : UserEntity} (h : createUser db user = .ok db')
    {userId : String} (hother : user.id ≠ userId) : rowsOf db' userId = rowsOf db userId := by
  unfold createUser at h
  split at h <;> cases h
  next users hinsert =>
    have husers := UniqueTable.rows_insertRow hinsert
    simp [rowsOf, husers, hother]

theorem rowsOf_createPlayer {db db' : AuthDb} {player : PlayerProfile}
    {inventoryId leaderboardId : String}
    (h : createPlayer db player inventoryId leaderboardId = .ok db')
    {userId : String} (hother : player.userId ≠ userId) : rowsOf db' userId = rowsOf db userId := by
  simp only [createPlayer] at h
  split at h
  next players inventories leaderboard hplayers hinventories hleaderboard =>
    split at h <;> cases h
    have hrows := UniqueTable.rows_insertRow hplayers
    have hinventoryRows := UniqueTable.rows_insertRow hinventories
    have hleaderboardRows := UniqueTable.rows_insertRow hleaderboard
    have howns : ownsPlayer players.rows userId = ownsPlayer db.players.rows userId := by
      funext playerId
      simp [ownsPlayer, hrows, hother]
    -- the rows inserted with the player are those of a new player
    have hnew : ownsPlayer db.players.rows userId player.id = false := by
      rw [ownsPlayer, List.any_eq_false]
      intro old hold
      have hfresh := UniqueTable.fresh_insertRow hplayers (·.id) (by simp) old hold
      simp [hfresh]
    simp only [rowsOf, UserRows.mk.injEq, true_and, and_true, howns]
    refine ⟨?_, ?_, ?_⟩
    · simp [hrows, hother]
    · simp [hinventoryRows, hnew]
    · simp [hleaderboardRows, hnew]
  next => cases h

theorem rowsOf_createToken {db db' : AuthDb} {row : RefreshTokenEntity}
    (h : createToken db row = .ok db') {userId : String} (hother : row.userId ≠ userId) :
    rowsOf db' userId = rowsOf db userId := by
  have htokens := createToken_ok h
  unfold createToken at h
  split at h
  next => cases h
  next =>
    split at h <;> cases h
    simp only at htokens
    simp [rowsOf, htokens, hother]

/-- A revocation leaves the rows of a user none of whose tokens is selected. -/
theorem rowsOf_revokeWhere {db : AuthDb} {selected : RefreshTokenEntity → Bool} {now : Int}
    {userId : String}
    (hother : ∀ row ∈ db.refreshTokens.rows, selected row = true → row.userId ≠ userId) :
    rowsOf (revokeWhere db selected now) userId = rowsOf db userId := by
  have htokens : ((revokeWhere db selected now).refreshTokens.rows.filter
      fun row => decide (row.userId = userId)) =
      db.refreshTokens.rows.filter fun row => decide (row.userId = userId) := by
    simp only [revokeWhere, UniqueTable.updateMany]
    generalize db.refreshTokens.rows = rows at hother
    induction rows with
    | nil => rfl
    | cons row rest ih =>
      have hrest := ih fun r hr => hother r (List.mem_cons_of_mem _ hr)
      rw [List.map_cons, List.filter_cons, List.filter_cons, hrest]
      split
      next hselected =>
        have hne := hother row List.mem_cons_self hselected
        simp [hne]
      next => rfl
  simp only [rowsOf, UserRows.mk.injEq]
  exact ⟨rfl, rfl, rfl, rfl, htokens⟩

variable {signedFor : String → String}

/-- The user of a call: the one who registers or logs in with the email, the one
the refresh token was signed for, or the authenticated one. -/
def MadeAs (signedFor : String → String) (db : AuthDb) (call : Call) (userId : String) : Prop :=
  match call with
  | .register input =>
    ∃ user ∈ db.users.rows, user.id = userId ∧ user.email = trim (toLowerCase input.email)
  | .login input =>
    ∃ user ∈ db.users.rows, user.id = userId ∧ user.email = trim (toLowerCase input.email)
  | .refresh refreshToken => signedFor refreshToken = userId
  | .logout user _ => user = userId
  | .logoutAll user => user = userId

theorem eq_of_email {db : AuthDb} {a b : UserEntity} (ha : a ∈ db.users.rows)
    (hb : b ∈ db.users.rows) (h : a.email = b.email) : a = b :=
  db.users.eq_of_key (·.email) (by simp) ha hb h

theorem MadeAs.unique {db : AuthDb} {call : Call} {userId other : String}
    (h : MadeAs signedFor db call userId) (h' : MadeAs signedFor db call other) :
    userId = other := by
  cases call with
  | register input =>
    obtain ⟨user, hmem, rfl, hemail⟩ := h
    obtain ⟨user', hmem', rfl, hemail'⟩ := h'
    rw [eq_of_email hmem hmem' (hemail.trans hemail'.symm)]
  | login input =>
    obtain ⟨user, hmem, rfl, hemail⟩ := h
    obtain ⟨user', hmem', rfl, hemail'⟩ := h'
    rw [eq_of_email hmem hmem' (hemail.trans hemail'.symm)]
  | _ => exact h.symm.trans h'

/-- Tokens stay, and no user is removed or changed. -/
structure Extends (db db' : AuthDb) : Prop where
  tokens : Grows db db'
  users : ∀ user ∈ db.users.rows, user ∈ db'.users.rows

theorem Extends.refl (db : AuthDb) : Extends db db := ⟨Grows.refl db, fun _ h => h⟩

theorem Extends.trans {a b c : AuthDb} (hab : Extends a b) (hbc : Extends b c) : Extends a c :=
  ⟨hab.tokens.trans hbc.tokens, fun user h => hbc.users user (hab.users user h)⟩

theorem MadeAs.mono {db db' : AuthDb} (hle : Extends db db') {call : Call} {userId : String}
    (h : MadeAs signedFor db call userId) : MadeAs signedFor db' call userId := by
  cases call with
  | register input =>
    obtain ⟨user, hmem, hid, hemail⟩ := h
    exact ⟨user, hle.users user hmem, hid, hemail⟩
  | login input =>
    obtain ⟨user, hmem, hid, hemail⟩ := h
    exact ⟨user, hle.users user hmem, hid, hemail⟩
  | _ => exact h

theorem users_write {db : AuthDb} {result : Except Failure AuthDb} {next : Next Place Reply Failure}
    (h : ∀ db', result = .ok db' → ∀ user ∈ db.users.rows, user ∈ db'.users.rows) :
    ∀ user ∈ db.users.rows, user ∈ (write db result next).1.users.rows := by
  cases result with
  | ok db' => exact h db' rfl
  | error failure => exact fun _ huser => huser

theorem extends_run (service : TokenService) (place : Place) (draw : Draw) (db : AuthDb) :
    Extends db (run service place draw db).1 := by
  constructor
  case tokens => exact grows_run service place draw db
  case users =>
    cases place with
    | registerCreateUser email username passwordHash =>
      apply users_write
      intro db' h user huser
      unfold createUser at h
      split at h <;> cases h
      next hinsert =>
        rw [UniqueTable.rows_insertRow hinsert]
        exact List.mem_append_left _ huser
    | registerCreatePlayer user =>
      apply users_write
      intro db' h user huser
      simp only [createPlayer] at h
      split at h
      next =>
        split at h <;> cases h
        exact huser
      next => cases h
    | issueCreateToken userId accessToken refresh account =>
      apply users_write
      intro db' h user huser
      unfold createToken at h
      split at h
      next => cases h
      next =>
        split at h <;> cases h
        exact huser
    | logoutRevoke id =>
      apply users_write
      intro db' h user huser
      unfold revoke at h
      split at h <;> cases h
      exact huser
    | _ => exact fun _ huser => huser

/-- The call registers the email. -/
def Registers (call : Call) (email : String) : Prop :=
  ∃ input, call = .register input ∧ email = trim (toLowerCase input.email)

/-- At each place a call acts for the user it is made as. -/
def Acts (signedFor : String → String) (call : Call) (place : Place) (db : AuthDb) : Prop :=
  match place with
  | .registerFindByEmail email _ _ => Registers call email
  | .registerFindByUsername email _ _ => Registers call email
  | .registerCreateUser email _ _ => Registers call email
  | .registerCreatePlayer user => MadeAs signedFor db call user.id
  | .loginFindByEmail input => call = .login input
  | .loginFindPlayer user => MadeAs signedFor db call user.id
  | .refreshFindToken _ payload => MadeAs signedFor db call payload.userId
  | .refreshRevokeIfActive stored payload => MadeAs signedFor db call stored.userId ∧
      stored.userId = payload.userId ∧
        ∃ row ∈ db.refreshTokens.rows, row.id = stored.id ∧ row.userId = stored.userId
  | .refreshRevokeFamily userId => MadeAs signedFor db call userId
  | .refreshFindPlayer payload => MadeAs signedFor db call payload.userId
  | .issueCreateToken userId _ _ _ => MadeAs signedFor db call userId
  | .logoutFindToken userId _ => MadeAs signedFor db call userId
  | .logoutRevoke id => ∃ row ∈ db.refreshTokens.rows, row.id = id ∧
      MadeAs signedFor db call row.userId
  | .logoutAllRevoke userId => MadeAs signedFor db call userId

theorem Acts.mono {db db' : AuthDb} (hle : Extends db db') {call : Call} {place : Place}
    (h : Acts signedFor call place db) : Acts signedFor call place db' := by
  cases place with
  | refreshRevokeIfActive stored payload =>
    obtain ⟨hmade, hpayload, row, hrow, hid, huser⟩ := h
    obtain ⟨row', hrow', hid', huser', -, -⟩ := hle.tokens row hrow
    exact ⟨hmade.mono hle, hpayload, row', hrow', hid'.trans hid, huser'.trans huser⟩
  | logoutRevoke id =>
    obtain ⟨row, hrow, hid, hmade⟩ := h
    obtain ⟨row', hrow', hid', huser', -, -⟩ := hle.tokens row hrow
    exact ⟨row', hrow', hid'.trans hid, huser' ▸ hmade.mono hle⟩
  | registerFindByEmail | registerFindByUsername | registerCreateUser | loginFindByEmail => exact h
  | _ => exact MadeAs.mono hle h

variable {service : TokenService}

/-- `verifyRefreshToken` answers with the user a token was signed for. -/
def Verifies (service : TokenService) (signedFor : String → String) : Prop :=
  ∀ token now payload, service.verifyRefreshToken token now = some payload →
    payload.userId = signedFor token

theorem opens_acts (hverifies : Verifies service signedFor) {call : Call} {draw : Draw}
    {place : Place} (db : AuthDb) (h : opens service call draw = .goes place) :
    Acts signedFor call place db := by
  cases call with
  | register input =>
    cases h
    exact ⟨input, rfl, rfl⟩
  | refresh refreshToken =>
    simp only [opens] at h
    split at h <;> cases h
    next payload hpayload => exact (hverifies _ _ _ hpayload).symm
  | _ =>
    cases h
    exact rfl

/-- A `logout` revokes a token of the user it is made as. -/
theorem checkLogout_goes {userId : String} {found : Option RefreshTokenEntity} {place : Place}
    (h : checkLogout userId found = .goes place) :
    ∃ stored, found = some stored ∧ stored.userId = userId ∧ place = .logoutRevoke stored.id := by
  cases found with
  | none => cases h
  | some stored =>
    simp only [checkLogout] at h
    split at h
    next => cases h
    next huser =>
      split at h <;> cases h
      exact ⟨stored, rfl, not_not.mp huser, rfl⟩

theorem issueTokens_acts {call : Call} {draw : Draw} {userId : String} {player : PlayerProfile}
    {account : Option (UserEntity × PlayerProfile)} {next : Place} {db : AuthDb}
    (hmade : MadeAs signedFor db call userId)
    (h : issueTokens service draw userId player account = .goes next) :
    Acts signedFor call next db := by
  obtain ⟨accessToken, refresh, rfl, -⟩ := issueTokens_goes h
  exact hmade

/-- A created user is the one its `register` is made as. -/
theorem madeAs_createUser (signedFor : String → String) {db db' : AuthDb} {user : UserEntity}
    {call : Call} (hcall : Registers call user.email) (h : createUser db user = .ok db') :
    MadeAs signedFor db' call user.id := by
  obtain ⟨input, rfl, hemail⟩ := hcall
  unfold createUser at h
  split at h <;> cases h
  next hinsert =>
    refine ⟨user, ?_, rfl, hemail⟩
    rw [UniqueTable.rows_insertRow hinsert]
    exact List.mem_append_right _ (List.mem_singleton_self _)

/-- The place a write goes on to was reached with the row written. -/
theorem write_goes {db : AuthDb} {result : Except Failure AuthDb} {next : Next Place Reply Failure}
    {place : Place} (h : (write db result next).2 = .goes place) :
    next = .goes place ∧ result = .ok (write db result next).1 := by
  cases result with
  | ok db' => exact ⟨h, rfl⟩
  | error failure => cases h

theorem Acts.ran {call : Call} {place next : Place} {draw : Draw} {db : AuthDb}
    (h : Acts signedFor call place db) (hrun : (run service place draw db).2 = .goes next) :
    Acts signedFor call next (run service place draw db).1 := by
  have hextends := extends_run service place draw db
  have hanswers := run_answers service place draw db
  rw [hrun] at hanswers
  cases hanswers with
  | userCreated =>
    obtain ⟨hnext, hcreated⟩ := write_goes hrun
    cases hnext
    exact madeAs_createUser signedFor h hcreated
  | userFound =>
    simp only [run] at hrun
    split at hrun
    next hfound =>
      split at hrun <;> cases hrun
      obtain ⟨hmem, hemail⟩ := UniqueTable.findUnique_eq_some _ hfound
      have hcall : call = .login _ := h
      subst hcall
      exact ⟨_, hmem, rfl, hemail⟩
    next => cases hrun
  | logoutFound =>
    obtain ⟨stored, hfound, huser, hplace⟩ := checkLogout_goes hrun
    obtain ⟨hstored, -⟩ := UniqueTable.findUnique_eq_some _ hfound
    cases hplace
    exact ⟨stored, hstored, rfl, huser ▸ h⟩
  | playerCreated issued => exact issueTokens_acts (MadeAs.mono hextends h) issued
  | playerFound issued => exact issueTokens_acts (MadeAs.mono hextends h) issued
  | ownerFound issued => exact issueTokens_acts (MadeAs.mono hextends h) issued
  | @tokenFound refreshToken payload stored found user =>
    obtain ⟨hstored, -⟩ := UniqueTable.findUnique_eq_some _ found
    have hmade : MadeAs signedFor db call payload.userId := h
    exact ⟨user ▸ hmade, user, stored, hstored, rfl, rfl⟩
  | reused => exact MadeAs.mono hextends h.1
  | revoked =>
    obtain ⟨hmade, hpayload, -⟩ := h
    exact MadeAs.mono hextends (hpayload ▸ hmade)
  | _ => exact h

theorem acts_rule (hverifies : Verifies service signedFor) :
    Rule (program service) Extends (fun _ _ => True) (Acts signedFor) where
  refl := Extends.refl
  trans _ _ _ := Extends.trans
  mono _ _ _ _ hle h := h.mono hle
  grows := extends_run service
  opened _ _ db _ _ := ⟨fun _ => trivial, fun _ h => opens_acts hverifies db h⟩
  ran _ _ _ _ _ _ hacts := ⟨fun _ => trivial, fun _ hrun => hacts.ran hrun⟩
  rejected _ _ _ _ _ _ := trivial

theorem rowsOf_write {db : AuthDb} {result : Except Failure AuthDb}
    {next : Next Place Reply Failure} {userId : String}
    (h : ∀ db', result = .ok db' → rowsOf db' userId = rowsOf db userId) :
    rowsOf (write db result next).1 userId = rowsOf db userId := by
  cases result with
  | ok db' => exact h db' rfl
  | error failure => rfl

/-- An operation of a call changes the rows of the user it is made as. -/
theorem rowsOf_run {call : Call} {place : Place} {draw : Draw} {db : AuthDb} {userId : String}
    (hacts : Acts signedFor call place db)
    (hother : ¬MadeAs signedFor (run service place draw db).1 call userId) :
    rowsOf (run service place draw db).1 userId = rowsOf db userId := by
  -- the user the call acts for is another one
  have hne : ∀ actor, MadeAs signedFor db call actor → actor ≠ userId := by
    intro actor hmade heq
    exact hother (heq ▸ hmade.mono (extends_run service place draw db))
  cases place with
  | registerCreateUser email username passwordHash =>
    have hregisters : Registers call email := hacts
    cases hcreate : createUser db ⟨draw.id, email, username, passwordHash⟩ with
    | error failure =>
      apply rowsOf_write
      intro db' h
      cases hcreate.symm.trans h
    | ok db' =>
      have hmade := madeAs_createUser signedFor hregisters hcreate
      simp only [run, hcreate, write] at hother ⊢
      apply rowsOf_createUser hcreate
      intro heq
      exact hother (heq ▸ hmade)
  | registerCreatePlayer user =>
    apply rowsOf_write
    intro db' h
    exact rowsOf_createPlayer h (hne user.id hacts)
  | issueCreateToken actor accessToken refresh account =>
    apply rowsOf_write
    intro db' h
    exact rowsOf_createToken h (hne actor hacts)
  | refreshRevokeIfActive stored payload =>
    obtain ⟨hmade, -, row, hrow, hid, huser⟩ := hacts
    apply rowsOf_revokeWhere
    intro selected hmem hselected
    rw [Bool.and_eq_true, decide_eq_true_eq] at hselected
    rw [eq_of_id hmem hrow (hselected.1.trans hid.symm), huser]
    exact hne stored.userId hmade
  | refreshRevokeFamily actor =>
    apply rowsOf_revokeWhere
    intro selected hmem hselected
    rw [Bool.and_eq_true, decide_eq_true_eq] at hselected
    rw [hselected.1]
    exact hne actor hacts
  | logoutRevoke id =>
    apply rowsOf_write
    intro db' h
    unfold revoke at h
    split at h <;> cases h
    obtain ⟨row, hrow, hid, hmade⟩ := hacts
    apply rowsOf_revokeWhere
    intro selected hmem hselected
    rw [eq_of_id hmem hrow ((decide_eq_true_eq.mp hselected).trans hid.symm)]
    exact hne row.userId hmade
  | logoutAllRevoke actor =>
    apply rowsOf_revokeWhere
    intro selected hmem hselected
    rw [Bool.and_eq_true, decide_eq_true_eq] at hselected
    rw [hselected.1]
    exact hne actor hacts
  | _ => rfl

end RealtimeGameServer.Source.Auth
