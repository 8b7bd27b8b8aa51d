import RealtimeGameServer.Source.Auth

/-!
# What the operations of the account service do

Rows stay, with their keys and owner, and stay revoked (`grows_run`).
`run_answers` says once what an operation answers with; who answers with rotated
tokens (`run_returns_tokens`) and which places lead to a rotation
(`run_goes_rotating`) are read off it. What a call knows at its place follows
(`rule`).
-/
namespace RealtimeGameServer.Source.Auth
open Lib Calls

@[simp] theorem run_program (service : TokenService) : (program service).run = run service := rfl

/-- Every row is still there, with its keys and its user, and revoked if it was. -/
def Grows (db db' : AuthDb) : Prop := ∀ row ∈ db.refreshTokens.rows,
  ∃ row' ∈ db'.refreshTokens.rows, row'.id = row.id ∧ row'.userId = row.userId ∧
    row'.tokenHash = row.tokenHash ∧ (row.revokedAt ≠ none → row'.revokedAt ≠ none)

/-- A token of the user is stored under the hash. -/
def HasToken (db : AuthDb) (userId tokenHash : String) : Prop :=
  ∃ row ∈ db.refreshTokens.rows, row.userId = userId ∧ row.tokenHash = tokenHash

theorem Grows.refl (db : AuthDb) : Grows db db := fun row hrow => ⟨row, hrow, rfl, rfl, rfl, id⟩

theorem Grows.trans {a b c : AuthDb} (hab : Grows a b) (hbc : Grows b c) : Grows a c := by
  intro row hrow
  obtain ⟨row', hrow', hid, huser, hhash, hrevoked⟩ := hab row hrow
  obtain ⟨row'', hrow'', hid', huser', hhash', hrevoked'⟩ := hbc row' hrow'
  exact ⟨row'', hrow'', hid'.trans hid, huser'.trans huser, hhash'.trans hhash,
    fun h => hrevoked' (hrevoked h)⟩

theorem HasToken.mono {db db' : AuthDb} (hgrows : Grows db db') {userId tokenHash : String}
    (h : HasToken db userId tokenHash) : HasToken db' userId tokenHash := by
  obtain ⟨row, hrow, huser, hhash⟩ := h
  obtain ⟨row', hrow', -, huser', hhash', -⟩ := hgrows row hrow
  exact ⟨row', hrow', huser'.trans huser, hhash'.trans hhash⟩

theorem eq_of_tokenHash {db : AuthDb} {a b : RefreshTokenEntity} (ha : a ∈ db.refreshTokens.rows)
    (hb : b ∈ db.refreshTokens.rows) (h : a.tokenHash = b.tokenHash) : a = b :=
  db.refreshTokens.eq_of_key (·.tokenHash) (by simp [refreshTokenIndices]) ha hb h

theorem eq_of_id {db : AuthDb} {a b : RefreshTokenEntity} (ha : a ∈ db.refreshTokens.rows)
    (hb : b ∈ db.refreshTokens.rows) (h : a.id = b.id) : a = b :=
  db.refreshTokens.eq_of_key (·.id) (by simp [refreshTokenIndices]) ha hb h

/-- A hash belongs to one user. -/
theorem HasToken.unique {db : AuthDb} {tokenHash user user' : String}
    (h : HasToken db user tokenHash) (h' : HasToken db user' tokenHash) : user = user' := by
  obtain ⟨row, hrow, huser, hhash⟩ := h
  obtain ⟨row', hrow', huser', hhash'⟩ := h'
  rw [← huser, ← huser', eq_of_tokenHash hrow hrow' (hhash.trans hhash'.symm)]

theorem mem_revokeWhere {db : AuthDb} {selected : RefreshTokenEntity → Bool} {now : Int}
    {row : RefreshTokenEntity} :
    row ∈ (revokeWhere db selected now).refreshTokens.rows ↔ ∃ old ∈ db.refreshTokens.rows,
      (if selected old then { old with revokedAt := some now } else old) = row :=
  List.mem_map

theorem grows_revokeWhere (db : AuthDb) (selected : RefreshTokenEntity → Bool) (now : Int) :
    Grows db (revokeWhere db selected now) := by
  intro row hrow
  refine ⟨_, mem_revokeWhere.mpr ⟨row, hrow, rfl⟩, ?_⟩
  split
  next => exact ⟨rfl, rfl, rfl, fun _ => nofun⟩
  next => exact ⟨rfl, rfl, rfl, id⟩

/-- A stored token: its row is new and it is the only new row. -/
theorem createToken_ok {db db' : AuthDb} {row : RefreshTokenEntity}
    (h : createToken db row = .ok db') :
    db'.refreshTokens.rows = db.refreshTokens.rows ++ [row] := by
  unfold createToken at h
  split at h
  next => cases h
  next hinsert =>
    split at h <;> cases h
    exact UniqueTable.rows_insertRow hinsert

theorem grows_of_rows {db db' : AuthDb} {extra : List RefreshTokenEntity}
    (h : db'.refreshTokens.rows = db.refreshTokens.rows ++ extra) : Grows db db' :=
  fun row hrow => ⟨row, h ▸ List.mem_append_left _ hrow, rfl, rfl, rfl, id⟩

theorem grows_of_eq {db db' : AuthDb} (h : db'.refreshTokens = db.refreshTokens) : Grows db db' :=
  fun row hrow => ⟨row, h ▸ hrow, rfl, rfl, rfl, id⟩

theorem createUser_tokens {db db' : AuthDb} {user : UserEntity} (h : createUser db user = .ok db') :
    db'.refreshTokens = db.refreshTokens := by
  unfold createUser at h
  split at h <;> cases h
  rfl

/-- An inserted user: its row is new and the only new row, and no row had its email or
its username. -/
theorem createUser_ok {db db' : AuthDb} {user : UserEntity} (h : createUser db user = .ok db') :
    db'.users.rows = db.users.rows ++ [user] ∧ db'.players = db.players ∧
      ∀ old ∈ db.users.rows, old.email ≠ user.email ∧ old.username ≠ user.username := by
  unfold createUser at h
  split at h <;> cases h
  next users hinsert =>
    refine ⟨UniqueTable.rows_insertRow hinsert, rfl, fun old hold => ⟨?_, ?_⟩⟩
    · exact UniqueTable.fresh_insertRow hinsert (·.email) (by simp) old hold
    · exact UniqueTable.fresh_insertRow hinsert (·.username) (by simp) old hold

/-- An inserted player: its row is new and the only new row of a player. -/
theorem createPlayer_ok {db db' : AuthDb} {player : PlayerProfile}
    {inventoryId leaderboardId : String}
    (h : createPlayer db player inventoryId leaderboardId = .ok db') :
    db'.players.rows = db.players.rows ++ [player] ∧ db'.users = db.users := by
  simp only [createPlayer] at h
  split at h
  next players _ _ hplayers _ _ =>
    split at h <;> cases h
    exact ⟨UniqueTable.rows_insertRow hplayers, rfl⟩
  next => cases h

theorem createToken_accounts {db db' : AuthDb} {row : RefreshTokenEntity}
    (h : createToken db row = .ok db') : db'.users = db.users ∧ db'.players = db.players := by
  unfold createToken at h
  split at h
  next => cases h
  next =>
    split at h <;> cases h
    exact ⟨rfl, rfl⟩

theorem createPlayer_tokens {db db' : AuthDb} {player : PlayerProfile}
    {inventoryId leaderboardId : String}
    (h : createPlayer db player inventoryId leaderboardId = .ok db') :
    db'.refreshTokens = db.refreshTokens := by
  simp only [createPlayer] at h
  split at h
  next =>
    split at h <;> cases h
    rfl
  next => cases h

/-- A successful conditional revocation found an active row. -/
theorem revokeIfActive_true {db : AuthDb} {id : String} {now : Int}
    (h : (revokeIfActive db id now).2 = true) :
    ∃ row ∈ db.refreshTokens.rows, row.id = id ∧ row.revokedAt = none := by
  simp only [revokeIfActive, decide_eq_true_eq] at h
  obtain ⟨row, hrow, hselected⟩ := List.countP_pos_iff.mp (h ▸ Nat.one_pos)
  rw [Bool.and_eq_true, decide_eq_true_eq, Option.isNone_iff_eq_none] at hselected
  exact ⟨row, hrow, hselected⟩

/-- A conditional revocation of an active row succeeds. -/
theorem revokeIfActive_of_active {db : AuthDb} {row : RefreshTokenEntity} (now : Int)
    (hrow : row ∈ db.refreshTokens.rows) (hactive : row.revokedAt = none) :
    (revokeIfActive db row.id now).2 = true := by
  refine decide_eq_true (db.refreshTokens.countP_eq_one (·.id) ?_ hrow ?_ ?_)
  · simp [refreshTokenIndices]
  · simp [hactive]
  · intro other hselected
    exact of_decide_eq_true (Bool.and_eq_true_iff.mp hselected).1

/-- After `revokeAllForUser` no token of the user is active. -/
theorem revoked_revokeAllForUser {db : AuthDb} {userId : String} {now : Int} :
    ∀ row ∈ (revokeAllForUser db userId now).refreshTokens.rows, row.userId = userId →
      row.revokedAt ≠ none := by
  intro row hrow huser
  obtain ⟨old, -, rfl⟩ := mem_revokeWhere.mp hrow
  split at huser <;> split
  next => nofun
  next => nofun
  next hselected => contradiction
  next hselected =>
    intro hactive
    simp [huser, hactive] at hselected

theorem grows_write {db : AuthDb} {result : Except Failure AuthDb}
    {next : Next Place Reply Failure} (h : ∀ db', result = .ok db' → Grows db db') :
    Grows db (write db result next).1 := by
  cases result with
  | ok db' => exact h db' rfl
  | error failure => exact Grows.refl db

variable {service : TokenService}

theorem grows_run (service : TokenService) (place : Place) (draw : Draw) (db : AuthDb) :
    Grows db (run service place draw db).1 := by
  cases place with
  | registerCreateUser email username passwordHash =>
    exact grows_write fun db' h => grows_of_eq (createUser_tokens h)
  | registerCreatePlayer user =>
    exact grows_write fun db' h => grows_of_eq (createPlayer_tokens h)
  | refreshRevokeIfActive stored payload => exact grows_revokeWhere db _ _
  | refreshRevokeFamily userId => exact grows_revokeWhere db _ _
  | issueCreateToken userId accessToken refresh account =>
    exact grows_write fun db' h => grows_of_rows (createToken_ok h)
  | logoutRevoke id =>
    refine grows_write fun db' h => ?_
    unfold revoke at h
    split at h <;> cases h
    exact grows_revokeWhere db _ _
  | logoutAllRevoke userId => exact grows_revokeWhere db _ _
  | _ => exact Grows.refl db

/-- The tokens are signed and the call goes on to store the refresh token, or one of the
two is not and the call throws. -/
theorem issueTokens_cases (service : TokenService) (draw : Draw) (userId : String)
    (player : PlayerProfile) (account : Option (UserEntity × PlayerProfile)) :
    (∃ accessToken refresh,
      service.signAccessToken userId player.id player.username draw.now = .ok accessToken ∧
      service.createRefreshTokenPair userId draw.jti draw.now = .ok refresh ∧
      issueTokens service draw userId player account =
        .goes (.issueCreateToken userId accessToken refresh account)) ∨
    ((∃ failure, issueTokens service draw userId player account = .throws failure) ∧
      ∀ accessToken refresh,
        service.signAccessToken userId player.id player.username draw.now = .ok accessToken →
          service.createRefreshTokenPair userId draw.jti draw.now ≠ .ok refresh) := by
  unfold issueTokens
  cases service.signAccessToken userId player.id player.username draw.now with
  | error failure => exact Or.inr ⟨⟨failure, rfl⟩, nofun⟩
  | ok accessToken =>
    cases service.createRefreshTokenPair userId draw.jti draw.now with
    | error failure => exact Or.inr ⟨⟨failure, rfl⟩, nofun⟩
    | ok refresh => exact Or.inl ⟨accessToken, refresh, rfl, rfl, rfl⟩

theorem issueTokens_goes {draw : Draw} {userId : String} {player : PlayerProfile}
    {account : Option (UserEntity × PlayerProfile)} {place : Place}
    (h : issueTokens service draw userId player account = .goes place) :
    ∃ accessToken refresh, place = .issueCreateToken userId accessToken refresh account ∧
      refresh.tokenHash = service.hashToken refresh.token := by
  rcases issueTokens_cases service draw userId player account with
    ⟨accessToken, refresh, -, hpair, hgoes⟩ | ⟨⟨failure, hthrows⟩, -⟩
  · cases hgoes.symm.trans h
    exact ⟨accessToken, refresh, rfl, tokenHash_createRefreshTokenPair hpair⟩
  · cases hthrows.symm.trans h

theorem issueTokens_not_returns {draw : Draw} {userId : String} {player : PlayerProfile}
    {account : Option (UserEntity × PlayerProfile)} {reply : Reply} :
    issueTokens service draw userId player account ≠ .returns reply := by
  rcases issueTokens_cases service draw userId player account with
    ⟨accessToken, refresh, -, -, hgoes⟩ | ⟨⟨failure, hthrows⟩, -⟩
  · rw [hgoes]
    nofun
  · rw [hthrows]
    nofun

/-- The player that `register` inserts for its user. -/
def newPlayer (user : UserEntity) (creating : Draw) : PlayerProfile where
  id := creating.id
  userId := user.id
  username := user.username
  experience := 0
  coins := 100
  level := 1

theorem run_registerCreatePlayer (user : UserEntity) (creating : Draw) (db : AuthDb) :
    run service (.registerCreatePlayer user) creating db =
      write db (createPlayer db (newPlayer user creating) creating.inventoryId
        creating.leaderboardId)
        (issueTokens service creating user.id (newPlayer user creating)
          (some (user, newPlayer user creating))) := rfl

/-- The user for whom a `refresh` at this place is about to store a token: it has
revoked the old one. -/
def Place.rotating : Place → Option String
  | .refreshFindPlayer payload => some payload.userId
  | .issueCreateToken userId _ _ none => some userId
  | _ => none

theorem issueTokens_rotating {draw : Draw} {userId user : String} {player : PlayerProfile}
    {account : Option (UserEntity × PlayerProfile)} {next : Place}
    (h : issueTokens service draw userId player account = .goes next)
    (hrotating : next.rotating = some user) : account = none ∧ userId = user := by
  obtain ⟨accessToken, refresh, rfl, -⟩ := issueTokens_goes h
  cases account with
  | none => exact ⟨rfl, Option.some.inj hrotating⟩
  | some account => cases hrotating

/-- What a call can do with the answer at its place: throw, go on to the next
place, or return. -/
inductive Answers (service : TokenService) (draw : Draw) (db : AuthDb) :
    Place → Next Place Reply Failure → Prop
  | throws {place failure} : Answers service draw db place (.throws failure)
  | done {place} : Answers service draw db place (.returns .done)
  | emailFree {email username password} : Answers service draw db
      (.registerFindByEmail email username password)
      (.goes (.registerFindByUsername email username password))
  | usernameFree {email username password passwordHash} : Answers service draw db
      (.registerFindByUsername email username password)
      (.goes (.registerCreateUser email username passwordHash))
  | userCreated {email username passwordHash user} : Answers service draw db
      (.registerCreateUser email username passwordHash) (.goes (.registerCreatePlayer user))
  | playerCreated {user player next}
      (issued : issueTokens service draw user.id player (some (user, player)) = .goes next) :
      Answers service draw db (.registerCreatePlayer user) (.goes next)
  | userFound {input user} :
      Answers service draw db (.loginFindByEmail input) (.goes (.loginFindPlayer user))
  | playerFound {user player next}
      (issued : issueTokens service draw user.id player (some (user, player)) = .goes next) :
      Answers service draw db (.loginFindPlayer user) (.goes next)
  | tokenFound {refreshToken payload stored}
      (found : findByTokenHash db (service.hashToken refreshToken) = some stored)
      (user : stored.userId = payload.userId) : Answers service draw db
      (.refreshFindToken refreshToken payload) (.goes (.refreshRevokeIfActive stored payload))
  | reused {stored payload} : Answers service draw db (.refreshRevokeIfActive stored payload)
      (.goes (.refreshRevokeFamily stored.userId))
  | revoked {stored payload} (active : (revokeIfActive db stored.id draw.now).2 = true) :
      Answers service draw db (.refreshRevokeIfActive stored payload)
      (.goes (.refreshFindPlayer payload))
  | ownerFound {payload player next}
      (issued : issueTokens service draw payload.userId player none = .goes next) :
      Answers service draw db (.refreshFindPlayer payload) (.goes next)
  | stored {userId accessToken refresh account answer}
      (created : createToken db (issuedRow draw userId refresh) = .ok
        (run service (.issueCreateToken userId accessToken refresh account) draw db).1)
      (answered : answer = reply ⟨accessToken, refresh.token⟩ account) : Answers service draw db
      (.issueCreateToken userId accessToken refresh account) (.returns answer)
  | logoutFound {userId refreshToken id} : Answers service draw db
      (.logoutFindToken userId refreshToken) (.goes (.logoutRevoke id))

theorem issueTokens_answers {db : AuthDb} {place : Place} {draw : Draw} {userId : String}
    {player : PlayerProfile} {account : Option (UserEntity × PlayerProfile)}
    (h : ∀ next, issueTokens service draw userId player account = .goes next →
      Answers service draw db place (.goes next)) :
    Answers service draw db place (issueTokens service draw userId player account) := by
  cases hissued : issueTokens service draw userId player account with
  | goes next => exact h next hissued
  | returns answer => exact absurd hissued issueTokens_not_returns
  | throws failure => exact .throws

theorem write_answers {db : AuthDb} {place : Place} {draw : Draw} {result : Except Failure AuthDb}
    {next : Next Place Reply Failure}
    (h : ∀ db', result = .ok db' → Answers service draw db place next) :
    Answers service draw db place (write db result next).2 := by
  cases result with
  | ok db' => exact h db' rfl
  | error failure => exact .throws

/-- Everything an operation can answer. -/
theorem run_answers (service : TokenService) (place : Place) (draw : Draw) (db : AuthDb) :
    Answers service draw db place (run service place draw db).2 := by
  cases place with
  | registerFindByEmail email username password =>
    simp only [run]
    split
    next => exact .throws
    next => exact .emailFree
  | registerFindByUsername email username password =>
    simp only [run]
    split
    next => exact .throws
    next => exact .usernameFree
  | registerCreateUser email username passwordHash => exact write_answers fun _ _ => .userCreated
  | registerCreatePlayer user =>
    exact write_answers fun _ _ => issueTokens_answers fun _ issued => .playerCreated issued
  | loginFindByEmail input =>
    simp only [run]
    split
    next =>
      split
      next => exact .userFound
      next => exact .throws
    next => exact .throws
  | loginFindPlayer user =>
    simp only [run]
    split
    next => exact .throws
    next => exact issueTokens_answers fun _ issued => .playerFound issued
  | refreshFindToken refreshToken payload =>
    simp only [run]
    cases hfound : findByTokenHash db (service.hashToken refreshToken) with
    | none => exact .throws
    | some stored =>
      simp only [checkStored]
      split
      next => exact .throws
      next =>
        split
        next => exact .throws
        next huser => exact .tokenFound hfound (not_not.mp huser)
  | refreshRevokeIfActive stored payload =>
    simp only [run]
    split
    next => exact .reused
    next hactive => exact .revoked (not_not.mp hactive)
  | refreshRevokeFamily userId => exact .throws
  | refreshFindPlayer payload =>
    simp only [run]
    split
    next => exact .throws
    next => exact issueTokens_answers fun _ issued => .ownerFound issued
  | issueCreateToken userId accessToken refresh account =>
    refine write_answers fun db' hcreate => .stored ?_ rfl
    rw [run, hcreate]
    rfl
  | logoutFindToken userId refreshToken =>
    simp only [run]
    cases findByTokenHash db (service.hashToken refreshToken) with
    | none => exact .done
    | some stored =>
      simp only [checkLogout]
      split
      next => exact .throws
      next =>
        split
        next => exact .logoutFound
        next => exact .done
  | logoutRevoke id => exact write_answers fun _ _ => .done
  | logoutAllRevoke userId => exact .done

/-- Tokens without an account are the answer of a `refresh` that has stored them. -/
theorem run_returns_tokens {place : Place} {draw : Draw} {db : AuthDb} {tokens : AuthTokens}
    (h : (run service place draw db).2 = .returns (.tokens tokens)) :
    ∃ userId accessToken refresh, place = .issueCreateToken userId accessToken refresh none ∧
      tokens.refreshToken = refresh.token ∧
      createToken db (issuedRow draw userId refresh) = .ok (run service place draw db).1 := by
  have hanswers := run_answers service place draw db
  rw [h] at hanswers
  cases hanswers with
  | @stored userId accessToken refresh account _ created answered =>
    cases account with
    | none =>
      cases answered
      exact ⟨userId, accessToken, refresh, rfl, rfl, created⟩
    | some account => cases answered

/-- A rotation starts where `revokeIfActive` answers that the token was active. -/
theorem run_goes_rotating {place next : Place} {draw : Draw} {db : AuthDb} {user : String}
    (h : (run service place draw db).2 = .goes next) (hrotating : next.rotating = some user) :
    place.rotating = some user ∨ ∃ stored payload,
      place = .refreshRevokeIfActive stored payload ∧ payload.userId = user ∧
        (revokeIfActive db stored.id draw.now).2 = true := by
  have hanswers := run_answers service place draw db
  rw [h] at hanswers
  cases hanswers with
  | @revoked stored payload active =>
    exact Or.inr ⟨stored, payload, rfl, Option.some.inj hrotating, active⟩
  | @ownerFound payload player _ issued =>
    exact Or.inl (congrArg some (issueTokens_rotating issued hrotating).2)
  | playerCreated issued => cases (issueTokens_rotating issued hrotating).1
  | playerFound issued => cases (issueTokens_rotating issued hrotating).1
  | _ => cases hrotating

/-- The call is a `refresh` of a token stored for the user. -/
def Refreshes (service : TokenService) (call : Call) (userId : String) (db : AuthDb) : Prop :=
  ∃ token, call = .refresh token ∧ HasToken db userId (service.hashToken token)

/-- What a call knows at its place: which token it refreshes, where it does. -/
def Knows (service : TokenService) (call : Call) (place : Place) (db : AuthDb) : Prop :=
  match place with
  | .refreshFindToken refreshToken _ => call = .refresh refreshToken
  | .refreshRevokeIfActive stored payload => stored.userId = payload.userId ∧
      ∃ token, call = .refresh token ∧ ∃ row ∈ db.refreshTokens.rows, row.id = stored.id ∧
        row.userId = payload.userId ∧ row.tokenHash = service.hashToken token
  | .refreshRevokeFamily _ => True
  | .refreshFindPlayer payload => Refreshes service call payload.userId db
  | .issueCreateToken userId _ refresh account =>
      refresh.tokenHash = service.hashToken refresh.token ∧ match account with
        | none => Refreshes service call userId db
        | some _ => ∀ token, call ≠ .refresh token
  | _ => ∀ token, call ≠ .refresh token

/-- The call answered with tokens for a refreshed one; these are their hashes. -/
def Rotates (service : TokenService) (log : List (Nat × Call × Except Failure Reply))
    (tokenHash successor : String) : Prop :=
  ∃ number token tokens, (number, Call.refresh token, Except.ok (Reply.tokens tokens)) ∈ log ∧
    tokenHash = service.hashToken token ∧ successor = service.hashToken tokens.refreshToken

/-- A token and its successor are stored for one user. -/
def Linked (service : TokenService) (db : AuthDb) (log : List (Nat × Call × Except Failure Reply)) :
    Prop :=
  ∀ tokenHash successor, Rotates service log tokenHash successor →
    ∃ userId, HasToken db userId tokenHash ∧ HasToken db userId successor

theorem linked_nil (db : AuthDb) : Linked service db [] := by
  rintro _ _ ⟨_, _, _, hmem, -⟩
  cases hmem

theorem Knows.mono {call : Call} {place : Place} {db db' : AuthDb} (hgrows : Grows db db')
    (h : Knows service call place db) : Knows service call place db' := by
  have hrefreshes : ∀ userId, Refreshes service call userId db →
      Refreshes service call userId db' := by
    intro userId hrefreshes
    obtain ⟨token, hcall, htoken⟩ := hrefreshes
    exact ⟨token, hcall, htoken.mono hgrows⟩
  cases place with
  | refreshRevokeIfActive stored payload =>
    obtain ⟨huser, token, hcall, row, hrow, hid, hrowuser, hhash⟩ := h
    obtain ⟨row', hrow', hid', huser', hhash', -⟩ := hgrows row hrow
    exact ⟨huser, token, hcall, row', hrow', hid'.trans hid, huser'.trans hrowuser,
      hhash'.trans hhash⟩
  | refreshFindPlayer payload => exact hrefreshes _ h
  | issueCreateToken userId accessToken refresh account =>
    cases account with
    | none => exact ⟨h.1, hrefreshes _ h.2⟩
    | some account => exact h
  | _ => exact h

/-- A call about to store a successor refreshes a token of that user. -/
theorem Knows.rotating {call : Call} {place : Place} {db : AuthDb} {userId : String}
    (h : Knows service call place db) (hrotating : place.rotating = some userId) :
    Refreshes service call userId db := by
  cases place with
  | refreshFindPlayer payload =>
    cases hrotating
    exact h
  | issueCreateToken user accessToken refresh account =>
    cases account with
    | none =>
      cases hrotating
      exact h.2
    | some account => cases hrotating
  | _ => cases hrotating

/-- A rotation in the log after an answer is an old one, or the call has just
rotated its token. -/
theorem Rotates.append {log : List (Nat × Call × Except Failure Reply)} {number : Nat} {call : Call}
    {next : Next Place Reply Failure} {tokenHash successor : String}
    (h : Rotates service (log ++ next.log number call) tokenHash successor) :
    Rotates service log tokenHash successor ∨ ∃ token tokens, call = .refresh token ∧
      next = .returns (.tokens tokens) ∧ tokenHash = service.hashToken token ∧
        successor = service.hashToken tokens.refreshToken := by
  obtain ⟨number', token, tokens, hmem, hhash, hsuccessor⟩ := h
  rcases List.mem_append.mp hmem with hold | hnew
  · exact Or.inl ⟨number', token, tokens, hold, hhash, hsuccessor⟩
  · cases next with
    | goes place => cases hnew
    | returns reply =>
      cases List.mem_singleton.mp hnew
      exact Or.inr ⟨token, tokens, rfl, rfl, hhash, hsuccessor⟩
    | throws failure => cases List.mem_singleton.mp hnew

theorem Linked.append {log : List (Nat × Call × Except Failure Reply)} {number : Nat} {call : Call}
    (next : Next Place Reply Failure) {db db' : AuthDb} (h : Linked service db log)
    (hgrows : Grows db db')
    (hnew : ∀ token tokens, call = .refresh token → next = .returns (.tokens tokens) →
      ∃ userId, HasToken db' userId (service.hashToken token) ∧
        HasToken db' userId (service.hashToken tokens.refreshToken)) :
    Linked service db' (log ++ next.log number call) := by
  intro tokenHash successor hrotates
  rcases hrotates.append with hold | ⟨token, tokens, hcall, hnext, rfl, rfl⟩
  · obtain ⟨userId, htoken, hsuccessor⟩ := h _ _ hold
    exact ⟨userId, htoken.mono hgrows, hsuccessor.mono hgrows⟩
  · exact hnew token tokens hcall hnext

theorem issueTokens_knows {call : Call} {draw : Draw} {userId : String} {player : PlayerProfile}
    {account : Option (UserEntity × PlayerProfile)} {next : Place} {db : AuthDb}
    (hcall : match account with
      | none => Refreshes service call userId db
      | some _ => ∀ token, call ≠ .refresh token)
    (h : issueTokens service draw userId player account = .goes next) :
    Knows service call next db := by
  obtain ⟨accessToken, refresh, rfl, hhash⟩ := issueTokens_goes h
  exact ⟨hhash, hcall⟩

theorem opens_knows {call : Call} {draw : Draw} {next : Place} (db : AuthDb)
    (h : opens service call draw = .goes next) : Knows service call next db := by
  cases call with
  | refresh refreshToken =>
    simp only [opens] at h
    split at h <;> cases h
    exact rfl
  | _ =>
    cases h
    nofun

/-- An operation brings a call to its next place with what it knows there. -/
theorem Knows.ran {call : Call} {place next : Place} {draw : Draw} {db : AuthDb}
    (h : Knows service call place db) (hrun : (run service place draw db).2 = .goes next) :
    Knows service call next (run service place draw db).1 := by
  have hgrows := grows_run service place draw db
  have hanswers := run_answers service place draw db
  rw [hrun] at hanswers
  apply Knows.mono hgrows
  cases hanswers with
  | playerCreated issued => exact issueTokens_knows h issued
  | playerFound issued => exact issueTokens_knows h issued
  | ownerFound issued => exact issueTokens_knows h issued
  | @tokenFound refreshToken payload stored found user =>
    obtain ⟨hstored, hhash⟩ := UniqueTable.findUnique_eq_some _ found
    exact ⟨user, refreshToken, h, stored, hstored, rfl, user, hhash⟩
  | reused => exact trivial
  | revoked active =>
    obtain ⟨-, token, hcall, row, hrow, -, huser, hhash⟩ := h
    exact ⟨token, hcall, row, hrow, huser, hhash⟩
  | _ => exact h

/-- The stored successor of a refreshed token belongs to the same user. -/
theorem Knows.returned {call : Call} {place : Place} {draw : Draw} {db : AuthDb} {token : String}
    {tokens : AuthTokens} (h : Knows service call place db) (hcall : call = .refresh token)
    (hrun : (run service place draw db).2 = .returns (.tokens tokens)) :
    ∃ userId, HasToken (run service place draw db).1 userId (service.hashToken token) ∧
      HasToken (run service place draw db).1 userId (service.hashToken tokens.refreshToken) := by
  have hgrows := grows_run service place draw db
  obtain ⟨userId, accessToken, refresh, rfl, hrefresh, hcreate⟩ := run_returns_tokens hrun
  obtain ⟨hhash, token', hcall', htoken⟩ := h
  cases hcall.symm.trans hcall'
  have hstored : issuedRow draw userId refresh ∈
      (run service (.issueCreateToken userId accessToken refresh none) draw db).1.refreshTokens.rows := by
    rw [createToken_ok hcreate]
    exact List.mem_append_right _ (List.mem_singleton_self _)
  have hsuccessor : (issuedRow draw userId refresh).tokenHash =
      service.hashToken tokens.refreshToken := by
    rw [hrefresh]
    exact hhash
  exact ⟨userId, htoken.mono hgrows, issuedRow draw userId refresh, hstored, rfl, hsuccessor⟩

theorem rule (service : TokenService) :
    Rule (program service) Grows (Linked service) (Knows service) where
  refl := Grows.refl
  trans _ _ _ := Grows.trans
  mono _ _ _ _ hgrows h := h.mono hgrows
  grows := grows_run service
  opened call draw db log hlinked := by
    constructor
    case globally =>
      intro number
      apply hlinked.append _ (Grows.refl db)
      intro token tokens hcall hnext
      subst hcall
      simp only [program, opens] at hnext
      split at hnext <;> cases hnext
    case locally_ =>
      intro place hnext
      exact opens_knows db hnext
  ran call place draw db log hlinked hknows := by
    constructor
    case globally =>
      intro number
      apply hlinked.append _ (grows_run service place draw db)
      intro token tokens hcall hrun
      exact hknows.returned hcall hrun
    case locally_ =>
      intro next hrun
      exact hknows.ran hrun
  rejected call reason number db log hlinked :=
    hlinked.append (.throws reason) (Grows.refl db) nofun

end RealtimeGameServer.Source.Auth
