import RealtimeGameServer.Source.AuthOwnership

/-!
# What a call of the account service has found out about an account

Source: application/services/auth-service.ts. Users and players stay as they were
inserted (`keeps_run`). A registration remembers its input, a login the account that
admits it, and a call that is about to store a refresh token has signed its access
token for a player that is there and whose user it is (`Vouched`).
-/
namespace RealtimeGameServer.Source.Auth
open Lib Calls

/-- No row of an account is removed or changed. -/
structure Keeps (db db' : AuthDb) : Prop where
  users : ∀ user ∈ db.users.rows, user ∈ db'.users.rows
  players : ∀ player ∈ db.players.rows, player ∈ db'.players.rows

theorem Keeps.refl (db : AuthDb) : Keeps db db := ⟨fun _ h => h, fun _ h => h⟩

theorem Keeps.trans {a b c : AuthDb} (hab : Keeps a b) (hbc : Keeps b c) : Keeps a c :=
  ⟨fun user h => hbc.users user (hab.users user h),
    fun player h => hbc.players player (hab.players player h)⟩

variable {service : TokenService}

theorem keeps_run (service : TokenService) (place : Place) (draw : Draw) (db : AuthDb) :
    Keeps db (run service place draw db).1 := by
  constructor
  case users => exact (extends_run service place draw db).users
  case players =>
    cases place with
    | registerCreateUser email username passwordHash =>
      simp only [run]
      cases hcreated : createUser db ⟨draw.id, email, username, passwordHash⟩ with
      | error failure => exact fun _ h => h
      | ok db' => exact fun player h => (createUser_ok hcreated).2.1 ▸ h
    | registerCreatePlayer user =>
      rw [run_registerCreatePlayer]
      cases hcreated : createPlayer db (newPlayer user draw) draw.inventoryId
          draw.leaderboardId with
      | error failure => exact fun _ h => h
      | ok db' =>
        intro player h
        simp only [write, (createPlayer_ok hcreated).1]
        exact List.mem_append_left _ h
    | issueCreateToken userId accessToken refresh account =>
      simp only [run]
      cases hcreated : createToken db (issuedRow draw userId refresh) with
      | error failure => exact fun _ h => h
      | ok db' => exact fun player h => (createToken_accounts hcreated).2 ▸ h
    | logoutRevoke id =>
      simp only [run, revoke]
      split <;> exact fun _ h => h
    | _ => exact fun _ h => h

/-- The user a registration makes. -/
def MadeBy (service : TokenService) (input : RegisterInput) (user : UserEntity) : Prop :=
  user.email = trim (toLowerCase input.email) ∧ user.username = normalizeUsername input.username ∧
    ∃ salt, user.passwordHash = service.bcryptHash input.password salt

/-- The account that a login finds and whose password it has. -/
def Admits (service : TokenService) (db : AuthDb) (input : LoginInput) (user : UserEntity) : Prop :=
  user ∈ db.users.rows ∧ user.email = trim (toLowerCase input.email) ∧
    service.verifyPasswordWithTimingPad input.password (some user.passwordHash) = true

/-- The user has a player. -/
def Playable (db : AuthDb) (user : UserEntity) : Prop :=
  ∃ player ∈ db.players.rows, player.userId = user.id

/-- The access token is signed for the user and their player. -/
def SignedFor (service : TokenService) (db : AuthDb) (userId accessToken : String)
    (player : PlayerProfile) : Prop :=
  player ∈ db.players.rows ∧ player.userId = userId ∧
    ∃ now, service.signAccessToken userId player.id player.username now = .ok accessToken

section
variable {db db' : AuthDb}

theorem Admits.mono (h : Keeps db db') {input : LoginInput} {user : UserEntity}
    (hadmits : Admits service db input user) : Admits service db' input user :=
  ⟨h.users user hadmits.1, hadmits.2⟩

theorem Playable.mono (h : Keeps db db') {user : UserEntity} (hplayable : Playable db user) :
    Playable db' user := by
  obtain ⟨player, hmem, huser⟩ := hplayable
  exact ⟨player, h.players player hmem, huser⟩

theorem SignedFor.mono (h : Keeps db db') {userId accessToken : String} {player : PlayerProfile}
    (hsigned : SignedFor service db userId accessToken player) :
    SignedFor service db' userId accessToken player :=
  ⟨h.players player hsigned.1, hsigned.2⟩

end

/-- The account that a call answers with beside the tokens: none for a `refresh`. -/
def Accounts (service : TokenService) (db : AuthDb) (userId : String) (player : PlayerProfile)
    (account : Option (UserEntity × PlayerProfile)) : Call → Prop
  | .register input => ∃ user ∈ db.users.rows,
      MadeBy service input user ∧ user.id = userId ∧ account = some (user, player)
  | .login input => ∃ user,
      Admits service db input user ∧ user.id = userId ∧ account = some (user, player)
  | .refresh _ => account = none
  | _ => False

theorem Accounts.mono {db db' : AuthDb} (h : Keeps db db') {userId : String}
    {player : PlayerProfile} {account : Option (UserEntity × PlayerProfile)} {call : Call}
    (haccounts : Accounts service db userId player account call) :
    Accounts service db' userId player account call := by
  cases call with
  | register input =>
    obtain ⟨user, hmem, hrest⟩ := haccounts
    exact ⟨user, h.users user hmem, hrest⟩
  | login input =>
    obtain ⟨user, hadmits, hrest⟩ := haccounts
    exact ⟨user, hadmits.mono h, hrest⟩
  | _ => exact haccounts

/-- What a call knows at its place about its account. -/
def Vouched (service : TokenService) (call : Call) (place : Place) (db : AuthDb) : Prop :=
  match place with
  | .registerFindByEmail email username password
  | .registerFindByUsername email username password => ∃ input, call = .register input ∧
      email = trim (toLowerCase input.email) ∧ username = normalizeUsername input.username ∧
        password = input.password
  | .registerCreateUser email username passwordHash => ∃ input, call = .register input ∧
      ∀ id, MadeBy service input ⟨id, email, username, passwordHash⟩
  | .registerCreatePlayer user =>
    ∃ input, call = .register input ∧ user ∈ db.users.rows ∧ MadeBy service input user
  | .loginFindByEmail input => call = .login input
  | .loginFindPlayer user => ∃ input, call = .login input ∧ Admits service db input user
  | .refreshFindToken _ _ | .refreshRevokeIfActive _ _ | .refreshRevokeFamily _
  | .refreshFindPlayer _ => ∃ token, call = .refresh token
  | .issueCreateToken userId accessToken _ account => ∃ player,
      SignedFor service db userId accessToken player ∧
        Accounts service db userId player account call
  | .logoutFindToken _ _ | .logoutRevoke _ => ∃ userId token, call = .logout userId token
  | .logoutAllRevoke _ => ∃ userId, call = .logoutAll userId

theorem Vouched.mono {db db' : AuthDb} (hkeeps : Keeps db db') {call : Call} {place : Place}
    (h : Vouched service call place db) : Vouched service call place db' := by
  cases place with
  | registerCreatePlayer user =>
    obtain ⟨input, hcall, huser, hmade⟩ := h
    exact ⟨input, hcall, hkeeps.users user huser, hmade⟩
  | loginFindPlayer user =>
    obtain ⟨input, hcall, hadmits⟩ := h
    exact ⟨input, hcall, hadmits.mono hkeeps⟩
  | issueCreateToken userId accessToken refresh account =>
    obtain ⟨player, hsigned, haccounts⟩ := h
    exact ⟨player, hsigned.mono hkeeps, haccounts.mono hkeeps⟩
  | _ => exact h

theorem opens_vouched {call : Call} {draw : Draw} {place : Place} (db : AuthDb)
    (h : opens service call draw = .goes place) : Vouched service call place db := by
  cases call with
  | register input =>
    cases h
    exact ⟨input, rfl, rfl, rfl, rfl⟩
  | login input =>
    cases h
    exact rfl
  | refresh refreshToken =>
    simp only [opens] at h
    split at h <;> cases h
    exact ⟨refreshToken, rfl⟩
  | logout userId refreshToken =>
    cases h
    exact ⟨userId, refreshToken, rfl⟩
  | logoutAll userId =>
    cases h
    exact ⟨userId, rfl⟩

/-- Tokens are signed for the player that `issueTokens` is given. -/
theorem issueTokens_signed {draw : Draw} {db : AuthDb} {userId : String} {player : PlayerProfile}
    {account : Option (UserEntity × PlayerProfile)} {place : Place} {call : Call}
    (h : issueTokens service draw userId player account = .goes place)
    (hplayer : player ∈ db.players.rows) (huser : player.userId = userId)
    (haccounts : Accounts service db userId player account call) :
    Vouched service call place db := by
  rcases issueTokens_cases service draw userId player account with
    ⟨accessToken, refresh, hsign, -, hgoes⟩ | ⟨⟨failure, hthrows⟩, -⟩
  · cases hgoes.symm.trans h
    exact ⟨player, ⟨hplayer, huser, draw.now, hsign⟩, haccounts⟩
  · cases hthrows.symm.trans h

/-- An operation brings a call to its next place with what it knows there. -/
theorem Vouched.ran {call : Call} {place next : Place} {draw : Draw} {db : AuthDb}
    (h : Vouched service call place db) (hrun : (run service place draw db).2 = .goes next) :
    Vouched service call next (run service place draw db).1 := by
  cases place with
  | registerFindByEmail email username password =>
    simp only [run] at hrun ⊢
    split at hrun <;> cases hrun
    exact h
  | registerFindByUsername email username password =>
    simp only [run] at hrun ⊢
    split at hrun <;> cases hrun
    obtain ⟨input, hcall, hemail, husername, rfl⟩ := h
    exact ⟨input, hcall, fun id => ⟨hemail, husername, draw.salt, rfl⟩⟩
  | registerCreateUser email username passwordHash =>
    obtain ⟨input, hcall, hmade⟩ := h
    simp only [run] at hrun ⊢
    obtain ⟨hnext, hcreated⟩ := write_goes hrun
    cases hnext
    refine ⟨input, hcall, ?_, hmade draw.id⟩
    rw [(createUser_ok hcreated).1]
    exact List.mem_append_right _ (List.mem_singleton_self _)
  | registerCreatePlayer user =>
    obtain ⟨input, rfl, huser, hmade⟩ := h
    rw [run_registerCreatePlayer] at hrun ⊢
    obtain ⟨hissued, hcreated⟩ := write_goes hrun
    obtain ⟨hplayers, husers⟩ := createPlayer_ok hcreated
    refine issueTokens_signed hissued ?_ rfl ⟨user, ?_, hmade, rfl, rfl⟩
    · rw [hplayers]
      exact List.mem_append_right _ (List.mem_singleton_self _)
    · rw [husers]
      exact huser
  | loginFindByEmail input =>
    simp only [run] at hrun ⊢
    split at hrun
    next user hfound =>
      split at hrun <;> cases hrun
      next hvalid =>
        rw [hfound] at hvalid
        obtain ⟨hmem, hemail⟩ := UniqueTable.findUnique_eq_some _ hfound
        exact ⟨input, h, hmem, hemail, hvalid⟩
    next => cases hrun
  | loginFindPlayer user =>
    obtain ⟨input, rfl, hadmits⟩ := h
    simp only [run] at hrun ⊢
    split at hrun
    next => cases hrun
    next player hfound =>
      obtain ⟨hmem, huser⟩ := UniqueTable.findUnique_eq_some _ hfound
      exact issueTokens_signed hrun hmem huser ⟨user, hadmits, rfl, rfl⟩
  | refreshFindToken refreshToken payload =>
    simp only [run] at hrun ⊢
    cases hfound : findByTokenHash db (service.hashToken refreshToken) with
    | none =>
      rw [hfound] at hrun
      cases hrun
    | some stored =>
      simp only [hfound, checkStored] at hrun
      split at hrun
      next => cases hrun
      next =>
        split at hrun <;> cases hrun
        exact h
  | refreshRevokeIfActive stored payload =>
    simp only [run] at hrun ⊢
    split at hrun <;> cases hrun <;> exact h
  | refreshRevokeFamily userId => cases hrun
  | refreshFindPlayer payload =>
    obtain ⟨token, rfl⟩ := h
    simp only [run] at hrun ⊢
    split at hrun
    next => cases hrun
    next player hfound =>
      obtain ⟨hmem, huser⟩ := UniqueTable.findUnique_eq_some _ hfound
      exact issueTokens_signed hrun hmem huser rfl
  | issueCreateToken userId accessToken refresh account => cases (write_goes hrun).1
  | logoutFindToken userId refreshToken =>
    simp only [run] at hrun ⊢
    obtain ⟨stored, -, -, rfl⟩ := checkLogout_goes hrun
    exact h
  | logoutRevoke id => cases (write_goes hrun).1
  | logoutAllRevoke userId => cases hrun

end RealtimeGameServer.Source.Auth
