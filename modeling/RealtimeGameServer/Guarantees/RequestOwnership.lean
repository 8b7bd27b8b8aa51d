import RealtimeGameServer.Source.AuthAccounts
import RealtimeGameServer.Source.HttpServer
import RealtimeGameServer.Source.LobbyBystanders

/-!
# Who a request acts for

Every route but the open ones reads the player and the user it acts for from an access
token, and the admin routes need the configured key. In every run of the server in which
no request carries a token that the server has not answered with, a call on behalf of a
user is made by a request with an access token that a registration, a login or a refresh
of that user was answered with, and names the player that belongs to the user. A refresh
token opens no route, even where both secrets are the same.
-/
namespace RealtimeGameServer.Guarantees.RequestOwnership
open Lib Calls Source Auth HttpServer

abbrev AuthState := State AuthDb Call Place Reply Failure

/-- What a token the server has signed verifies as. -/
structure Jwt (env : HttpEnv) : Prop where
  access : ∀ userId playerId username signedAt token now claims,
    env.tokens.signAccessToken userId playerId username signedAt = .ok token →
      env.jwtVerifyAccess token now = some claims →
        claims.userId = userId ∧ claims.playerId = playerId
  refresh : ∀ payload signedAt token now claims,
    env.tokens.signRefreshJwt payload signedAt = .ok token →
      env.jwtVerifyAccess token now = some claims → claims.type = payload.type

def accessTokenOf : Except Failure Reply → Option String
  | .ok (.auth result) => some result.tokens.accessToken
  | .ok (.tokens tokens) => some tokens.accessToken
  | _ => none

def refreshTokenOf : Except Failure Reply → Option String
  | .ok (.auth result) => some result.tokens.refreshToken
  | .ok (.tokens tokens) => some tokens.refreshToken
  | _ => none

/-- A call of the account service has been answered with the token. -/
def Issued (s : AuthState) (token : String) : Prop := ∃ entry ∈ s.ended,
  accessTokenOf entry.2.2 = some token ∨ refreshTokenOf entry.2.2 = some token

/-- A bearer token that the library accepts is one that the server has answered with. -/
def Unforged (env : HttpEnv) (s : HttpServer) : HttpEvent → Prop
  | .request request draw => ∀ token claims, bearerToken request.authorization = some token →
      env.jwtVerifyAccess token draw.now = some claims → Issued s.auth token
  | _ => True

/-- A call that anyone may make. -/
def IsOpen : ServiceCall → Prop
  | .auth (.register _) | .auth (.login _) | .auth (.refresh _) | .getTopPlayers _ => True
  | _ => False

/-- A call that needs the admin key. -/
def IsAdmin : ServiceCall → Prop
  | .items (.addItem _) | .transfer _ _ _ _ => True
  | _ => False

/-- A call on behalf of a user and their player. -/
def ActsAs (userId playerId : String) : ServiceCall → Prop
  | .auth (.logout user _) => user = userId
  | .auth (.logoutAll user) => user = userId
  | .getProfile player => player = playerId
  | .items (.removeItem input) => input.playerId = playerId
  | .items (.equipItem player _ _) => player = playerId
  | .items (.unequipItem player _) => player = playerId
  | .getInventory player => player = playerId
  | .getBalance player => player = playerId
  | .listTransactions player => player = playerId
  | .listRooms => True
  | .getMyRoom player => player = playerId
  | .lobby call => LobbyStatements.callPlayer call = playerId
  | _ => False

/-- Why a request may make a call. -/
inductive Authorized (env : HttpEnv) (signedFor : String → String) (s : AuthState)
    (request : HttpRequest) (call : ServiceCall) : Prop
  | anyone (isOpen : IsOpen call)
  | owner {token userId entry player} (bearer : bearerToken request.authorization = some token)
      (answered : entry ∈ s.ended) (token_ : accessTokenOf entry.2.2 = some token)
      (madeAs : MadeAs signedFor s.store entry.2.1 userId)
      (there : player ∈ s.store.players.rows) (own : player.userId = userId)
      (acts : ActsAs userId player.id call)
  | admin {key} (configured : env.adminApiKey = some key) (nonempty : key ≠ "")
      (header : request.xAdminKey = .single key) (isAdmin : IsAdmin call)

theorem handleOpen_isOpen {env : HttpEnv} {request : HttpRequest} {route : OpenRoute}
    {call : ServiceCall} (h : handleOpen env request route = .ok call) : IsOpen call := by
  cases route <;>
  · obtain ⟨input, -, hcall⟩ := parsed_bind.mp h
    cases hcall
    trivial

theorem handleOwn_acts {auth : AccessTokenClaims} {body : Body} {route : OwnRoute}
    {call : ServiceCall} (h : handleOwn auth body route = .ok call) :
    ActsAs auth.userId auth.playerId call := by
  cases route with
  | logoutAll | me | inventory | balance | transactions | rooms | myRoom | leaveRoom | startRoom =>
    cases h
    first
      | exact trivial
      | exact rfl
  | _ =>
    obtain ⟨input, -, hcall⟩ := parsed_bind.mp h
    cases hcall
    exact rfl

theorem handleAdmin_isAdmin {env : HttpEnv} {body : Body} {route : AdminRoute} {call : ServiceCall}
    (h : handleAdmin env body route = .ok call) : IsAdmin call := by
  cases route <;>
  · obtain ⟨playerId, -, hitem⟩ := parsed_bind.mp h
    obtain ⟨item, -, hcall⟩ := parsed_bind.mp hitem
    cases hcall
    trivial

theorem safeEqualString_iff {a b : String} : safeEqualString a b = true ↔ a = b := by
  constructor
  · intro h
    unfold safeEqualString at h
    split at h
    next => cases h
    next => exact String.toByteArray_inj.mp (ByteArray.ext (decide_eq_true_eq.mp h))
  · rintro rfl
    simp [safeEqualString]

theorem assertAdminKey_ok {env : HttpEnv} {provided : HeaderValue}
    (h : assertAdminKey env provided = .ok ()) :
    ∃ key, env.adminApiKey = some key ∧ key ≠ "" ∧ provided = .single key := by
  unfold assertAdminKey at h
  split at h
  next => cases h
  next => cases h
  next key hempty hkey =>
    split at h
    next => cases h
    next => cases h
    next => cases h
    next value _ =>
      split at h
      next hequal =>
        rw [safeEqualString_iff.mp hequal]
        exact ⟨key, hkey, hempty, rfl⟩
      next => cases h

theorem authenticate_ok {env : HttpEnv} {now : Int} {request : HttpRequest}
    {auth : AccessTokenClaims} (h : HttpServer.authenticate env now request = .ok auth) :
    ∃ token, bearerToken request.authorization = some token ∧
      env.jwtVerifyAccess token now = some auth ∧ auth.type = "access" := by
  unfold HttpServer.authenticate at h
  split at h
  next => cases h
  next token htoken =>
    split at h
    next => cases h
    next claims hverify =>
      cases h
      obtain ⟨hclaims, htype⟩ := Option.filter_eq_some_iff.mp hverify
      exact ⟨token, htoken, hclaims, decide_eq_true_eq.mp htype⟩

/-- A call is open, or made for the user of a verified token, or made with the key. -/
theorem respond_ok {env : HttpEnv} {now : Int} {request : HttpRequest} {call : ServiceCall}
    (h : respond env now request = some (.ok call)) : IsOpen call ∨
      (∃ token auth, bearerToken request.authorization = some token ∧
        env.jwtVerifyAccess token now = some auth ∧ auth.type = "access" ∧
          ActsAs auth.userId auth.playerId call) ∨
      ∃ key, env.adminApiKey = some key ∧ key ≠ "" ∧ request.xAdminKey = .single key ∧
        IsAdmin call := by
  obtain ⟨route, -, hroute⟩ := Option.map_eq_some_iff.mp h
  cases route with
  | anyone route => exact Or.inl (handleOpen_isOpen hroute)
  | own route =>
    simp only [handle] at hroute
    cases hauth : HttpServer.authenticate env now request with
    | error thrown =>
      rw [hauth] at hroute
      cases hroute
    | ok auth =>
      rw [hauth] at hroute
      obtain ⟨token, htoken, hverify, htype⟩ := authenticate_ok hauth
      exact Or.inr (Or.inl ⟨token, auth, htoken, hverify, htype, handleOwn_acts hroute⟩)
  | admin route =>
    simp only [handle] at hroute
    cases hkey : assertAdminKey env request.xAdminKey with
    | error thrown =>
      rw [hkey] at hroute
      cases hroute
    | ok done =>
      rw [hkey] at hroute
      obtain ⟨key, hconfigured, hnonempty, hheader⟩ := assertAdminKey_ok hkey
      exact Or.inr (Or.inr ⟨key, hconfigured, hnonempty, hheader, handleAdmin_isAdmin hroute⟩)

variable {service : TokenService} {signedFor : String → String}

/-- The tokens of an answer: an access token for the user the call is made as and their
player, and a refresh token. -/
def Grounded (service : TokenService) (signedFor : String → String) (db : AuthDb)
    (log : List (Nat × Call × Except Failure Reply)) : Prop := ∀ entry ∈ log,
  (∀ token, accessTokenOf entry.2.2 = some token → ∃ userId player,
    SignedFor service db userId token player ∧ MadeAs signedFor db entry.2.1 userId) ∧
  ∀ token, refreshTokenOf entry.2.2 = some token → ∃ payload now, payload.type = "refresh" ∧
    service.signRefreshJwt payload now = .ok token

/-- The refresh token that a call is about to store is signed as one. -/
def RefreshSigned (service : TokenService) : Place → Prop
  | .issueCreateToken _ _ refresh _ => ∃ payload now, payload.type = "refresh" ∧
      service.signRefreshJwt payload now = .ok refresh.token
  | _ => True

/-- What a call knows: its account, the user it acts for, and its refresh token. -/
structure Local (service : TokenService) (signedFor : String → String) (call : Call)
    (place : Place) (db : AuthDb) : Prop where
  vouched : Vouched service call place db
  acts : Acts signedFor call place db
  refresh : RefreshSigned service place

structure Le (db db' : AuthDb) : Prop where
  keeps : Keeps db db'
  extends_ : Extends db db'

theorem Grounded.mono {db db' : AuthDb} (hle : Le db db')
    {log : List (Nat × Call × Except Failure Reply)} (h : Grounded service signedFor db log) :
    Grounded service signedFor db' log := by
  intro entry hentry
  refine ⟨fun token htoken => ?_, (h entry hentry).2⟩
  obtain ⟨userId, player, hsigned, hmade⟩ := (h entry hentry).1 token htoken
  exact ⟨userId, player, hsigned.mono hle.keeps, hmade.mono hle.extends_⟩

theorem Grounded.concat {db : AuthDb} {log : List (Nat × Call × Except Failure Reply)}
    (h : Grounded service signedFor db log) {number : Nat} {call : Call}
    {next : Next Place Reply Failure} (hnext : ∀ result, next = .returns result →
      (∀ token, accessTokenOf (.ok result) = some token → ∃ userId player,
        SignedFor service db userId token player ∧ MadeAs signedFor db call userId) ∧
      ∀ token, refreshTokenOf (.ok result) = some token → ∃ payload now,
        payload.type = "refresh" ∧ service.signRefreshJwt payload now = .ok token) :
    Grounded service signedFor db (log ++ next.log number call) := by
  intro entry hentry
  rcases List.mem_append.mp hentry with hold | hnew
  · exact h entry hold
  · cases next with
    | goes place => cases hnew
    | returns result =>
      cases List.mem_singleton.mp hnew
      exact hnext result rfl
    | throws failure =>
      cases List.mem_singleton.mp hnew
      exact ⟨(fun _ htoken => by cases htoken), (fun _ htoken => by cases htoken)⟩

theorem refreshSigned_issueTokens {draw : Draw} {userId : String} {player : PlayerProfile}
    {account : Option (UserEntity × PlayerProfile)} {place : Place}
    (h : issueTokens service draw userId player account = .goes place) :
    RefreshSigned service place := by
  rcases issueTokens_cases service draw userId player account with
    ⟨accessToken, refresh, -, hpair, hgoes⟩ | ⟨⟨failure, hthrows⟩, -⟩
  · cases hgoes.symm.trans h
    refine ⟨⟨userId, userId, "refresh", draw.jti⟩, draw.now, rfl, ?_⟩
    unfold TokenService.createRefreshTokenPair at hpair
    cases hsign : service.signRefreshJwt ⟨userId, userId, "refresh", draw.jti⟩ draw.now with
    | error reason =>
      rw [hsign] at hpair
      cases hpair
    | ok token =>
      rw [hsign] at hpair
      simp only [bind, Except.bind] at hpair
      split at hpair <;> cases hpair
      rfl
  · cases hthrows.symm.trans h

theorem refreshSigned_run {place next : Place} {draw : Draw} {db : AuthDb}
    (hrun : (run service place draw db).2 = .goes next) : RefreshSigned service next := by
  have hanswers := run_answers service place draw db
  rw [hrun] at hanswers
  cases hanswers with
  | playerCreated issued | playerFound issued | ownerFound issued =>
    exact refreshSigned_issueTokens issued
  | _ => exact trivial

/-- Tokens are returned where they have been signed. -/
theorem grounded_returned {call : Call} {place : Place} {draw : Draw} {db : AuthDb} {result : Reply}
    (h : Local service signedFor call place db)
    (hrun : (run service place draw db).2 = .returns result) :
    (∀ token, accessTokenOf (.ok result) = some token → ∃ userId player,
      SignedFor service (run service place draw db).1 userId token player ∧
        MadeAs signedFor (run service place draw db).1 call userId) ∧
    ∀ token, refreshTokenOf (.ok result) = some token → ∃ payload now,
      payload.type = "refresh" ∧ service.signRefreshJwt payload now = .ok token := by
  have hkeeps := keeps_run service place draw db
  have hextends := extends_run service place draw db
  have hanswers := run_answers service place draw db
  rw [hrun] at hanswers
  cases hanswers with
  | done => exact ⟨(fun _ htoken => by cases htoken), (fun _ htoken => by cases htoken)⟩
  | @stored userId accessToken refresh account _ created answered =>
    obtain ⟨player, hsigned, -⟩ := h.vouched
    have hmade : MadeAs signedFor db call userId := h.acts
    have haccess : accessTokenOf (.ok result) = some accessToken := by
      rw [answered]
      cases account <;> rfl
    have hrefresh : refreshTokenOf (.ok result) = some refresh.token := by
      rw [answered]
      cases account <;> rfl
    constructor
    · intro token htoken
      cases haccess.symm.trans htoken
      exact ⟨userId, player, hsigned.mono hkeeps, hmade.mono hextends⟩
    · intro token htoken
      cases hrefresh.symm.trans htoken
      exact h.refresh

theorem tokens_rule (hverifies : Verifies service signedFor) :
    Rule (program service) Le (Grounded service signedFor) (Local service signedFor) where
  refl db := ⟨Keeps.refl db, Extends.refl db⟩
  trans _ _ _ hab hbc := ⟨hab.keeps.trans hbc.keeps, hab.extends_.trans hbc.extends_⟩
  mono _ _ _ _ hle h := ⟨h.vouched.mono hle.keeps, h.acts.mono hle.extends_, h.refresh⟩
  grows place draw db := ⟨keeps_run service place draw db, extends_run service place draw db⟩
  opened call draw db log h := by
    refine ⟨fun number => h.concat fun result hreturns => ?_, fun place hgoes => ?_⟩
    · cases call with
      | refresh refreshToken =>
        simp only [program, opens] at hreturns
        split at hreturns <;> cases hreturns
      | _ => cases hreturns
    · refine ⟨opens_vouched db hgoes, opens_acts hverifies db hgoes, ?_⟩
      cases call with
      | refresh refreshToken =>
        simp only [program, opens] at hgoes
        split at hgoes <;> cases hgoes
        exact trivial
      | _ =>
        cases hgoes
        exact trivial
  ran call place draw db log h hlocal := by
    have hle : Le db (run service place draw db).1 :=
      ⟨keeps_run service place draw db, extends_run service place draw db⟩
    refine ⟨fun number => (h.mono hle).concat fun result hreturns => ?_, fun next hgoes => ?_⟩
    · exact grounded_returned hlocal hreturns
    · exact ⟨hlocal.vouched.ran hgoes, hlocal.acts.ran hgoes, refreshSigned_run hgoes⟩
  rejected call reason number db log h := by
    have hnext : Grounded service signedFor db
        (log ++ (Next.throws reason : Next Place Reply Failure).log number call) :=
      h.concat fun result hreturns => by cases hreturns
    exact hnext

variable {env : HttpEnv}

theorem Authorized.mono {s t : AuthState} (hle : Le s.store t.store)
    (hended : ∀ entry ∈ s.ended, entry ∈ t.ended) {request : HttpRequest}
    {call : ServiceCall} (h : Authorized env signedFor s request call) :
    Authorized env signedFor t request call := by
  cases h with
  | anyone isOpen => exact .anyone isOpen
  | owner bearer answered token_ madeAs there own acts =>
    exact .owner bearer (hended _ answered) token_ (madeAs.mono hle.extends_)
      (hle.keeps.players _ there) own acts
  | admin configured nonempty header isAdmin => exact .admin configured nonempty header isAdmin

/-- The invariant of the account service, and the right of every call. -/
structure Sound (env : HttpEnv) (signedFor : String → String) (base : AuthDb) (s : HttpServer) :
    Prop where
  auth : Held Le (Grounded env.tokens signedFor) (Local env.tokens signedFor) base s.auth
  authorized : ∀ entry ∈ s.dispatched, Authorized env signedFor s.auth entry.1 entry.2

/-- A call that a request leads to has its right. -/
theorem respond_authorized (hjwt : Jwt env) {base : AuthDb} {s : HttpServer}
    (h : Sound env signedFor base s) {request : HttpRequest} {draw : Draw}
    (hunforged : Unforged env s (.request request draw)) {call : ServiceCall}
    (hcall : respond env draw.now request = some (.ok call)) :
    Authorized env signedFor s.auth request call := by
  rcases respond_ok hcall with hopen | ⟨token, auth, hbearer, hverify, htype, hacts⟩ |
    ⟨key, hconfigured, hnonempty, hheader, hadmin⟩
  · exact .anyone hopen
  · obtain ⟨entry, hended, haccess | hrefresh⟩ := hunforged token auth hbearer hverify
    · obtain ⟨userId, player, ⟨hmem, hown, signedAt, hsign⟩, hmade⟩ :=
        (h.auth.globally entry hended).1 token haccess
      obtain ⟨huser, hplayer⟩ := hjwt.access _ _ _ _ _ _ _ hsign hverify
      exact .owner hbearer hended haccess hmade hmem hown (hplayer ▸ huser ▸ hacts)
    · -- a refresh token verifies as what it was signed as
      obtain ⟨payload, signedAt, hpayload, hsign⟩ := (h.auth.globally entry hended).2 token hrefresh
      have hother := hjwt.refresh _ _ _ _ _ hsign hverify
      rw [htype, hpayload] at hother
      exact absurd hother (by decide)
  · exact .admin hconfigured hnonempty hheader hadmin

/-- A step of the account service keeps the rights of the calls. -/
theorem Sound.auth_step (hverifies : Verifies env.tokens signedFor) {base : AuthDb}
    {s t : HttpServer} (h : Sound env signedFor base s) {event : Calls.Event Call Draw Failure}
    (hstep : Calls.step (program env.tokens) s.auth event = some t.auth)
    (hdispatched : ∀ entry ∈ t.dispatched, entry ∈ s.dispatched ∨
      Authorized env signedFor s.auth entry.1 entry.2) : Sound env signedFor base t := by
  have hsteps := step_cases hstep
  have hrule := tokens_rule hverifies
  refine ⟨h.auth.step hrule hsteps, fun entry hentry => ?_⟩
  have hauthorized : Authorized env signedFor s.auth entry.1 entry.2 :=
    (hdispatched entry hentry).elim (h.authorized entry) id
  obtain ⟨more, hended⟩ := hsteps.ended
  exact hauthorized.mono (hrule.moves hsteps) fun old hold =>
    hended ▸ List.mem_append_left _ hold

theorem Sound.step (hjwt : Jwt env) (hverifies : Verifies env.tokens signedFor) {base : AuthDb}
    {s t : HttpServer} {event : HttpEvent} (h : Sound env signedFor base s)
    (hunforged : Unforged env s event) (hstep : (HttpServer.machine env).step s event = some t) :
    Sound env signedFor base t := by
  cases event with
  | request request draw =>
    simp only [HttpServer.machine, HttpServer.step] at hstep
    split at hstep
    next =>
      cases hstep
      exact h
    next =>
      cases hstep
      exact ⟨h.auth, h.authorized⟩
    next call hcall =>
      have hauthorized := respond_authorized hjwt h hunforged hcall
      -- the new call beside the old ones
      have hcalls : ∀ entry ∈ s.dispatched ++ [(request, call)],
          entry ∈ s.dispatched ∨ Authorized env signedFor s.auth entry.1 entry.2 := by
        intro entry hentry
        rcases List.mem_append.mp hentry with hold | hnew
        · exact Or.inl hold
        · rw [List.mem_singleton.mp hnew]
          exact Or.inr hauthorized
      unfold HttpServer.dispatch at hstep
      dsimp only at hstep
      split at hstep
      next authCall =>
        obtain ⟨auth, hauth, rfl⟩ := Option.map_eq_some_iff.mp hstep
        exact h.auth_step hverifies hauth hcalls
      next =>
        cases hstep
        exact ⟨h.auth, fun entry hentry => (hcalls entry hentry).elim (h.authorized entry) id⟩
  | operation number draw =>
    obtain ⟨auth, hauth, rfl⟩ := Option.map_eq_some_iff.mp hstep
    exact h.auth_step hverifies hauth fun _ => Or.inl
  | reject number reason =>
    obtain ⟨auth, hauth, rfl⟩ := Option.map_eq_some_iff.mp hstep
    exact h.auth_step hverifies hauth fun _ => Or.inl

theorem sound_start (db : AuthDb) : Sound env signedFor db (HttpServer.start db) where
  auth := ⟨⟨Keeps.refl _, Extends.refl _⟩, (fun _ h => by cases h), (fun _ _ h => by cases h)⟩
  authorized _ h := by cases h

/-- Every run keeps the invariant. -/
theorem along_sound (hjwt : Jwt env) (hverifies : Verifies env.tokens signedFor) (db : AuthDb)
    {events : List HttpEvent}
    (hunforged : (HttpServer.machine env).StepsMeet (Unforged env) (HttpServer.start db) events) :
    (HttpServer.machine env).Along (Sound env signedFor db) (HttpServer.start db) events :=
  Machine.along_of_guarded (L := fun _ => True)
    (fun _ _ _ h _ hstep hunforged => h.step hjwt hverifies hunforged hstep)
    (fun _ _ => trivial) (sound_start db) hunforged

/-- In every run of the server in which every bearer token that the library accepts is one
that the server has answered with: every call that a request leads to is open to
everyone, or is made for a user with an access token that a registration, a login or a
refresh of that user was answered with and names the user's own player, or is an admin
call made with the configured key. -/
theorem calls_authorized (env : HttpEnv) (signedFor : String → String) (hjwt : Jwt env)
    (hverifies : Verifies env.tokens signedFor) (db : AuthDb) (events : List HttpEvent)
    (hunforged : (HttpServer.machine env).StepsMeet (Unforged env) (HttpServer.start db) events) :
    (HttpServer.machine env).Along
      (fun s => ∀ entry ∈ s.dispatched, Authorized env signedFor s.auth entry.1 entry.2)
      (HttpServer.start db) events :=
  (along_sound hjwt hverifies db hunforged).mono fun _ h => h.authorized

/-- One user with one token of each kind. -/
def smallEnv : HttpEnv where
  adminApiKey := some "a-long-admin-key"
  tokens := {
    jwtRefreshExpiresIn := "7d"
    signAccessToken := fun userId playerId _ _ =>
      if userId = "u1" ∧ playerId = "p1" then .ok "access-1" else .error (.error "no key")
    signRefreshJwt := fun _ _ => .ok "refresh-1"
    jwtVerify := fun _ _ => none
    sha256Hex := fun token => "hash-" ++ token
    bcryptHash := fun password _ => "$" ++ password
    bcryptCompare := fun password hash => hash = "$" ++ password }
  jwtVerifyAccess token _ :=
    if token = "access-1" then some ⟨"u1", "u1", "p1", "ace", "access"⟩ else none
  isEmail _ := true
  number _ := .nan
  stringify _ := ""

theorem smallEnv_jwt : Jwt smallEnv where
  access userId playerId username signedAt token now claims hsign hverify := by
    simp only [smallEnv] at hsign hverify
    split at hsign <;> cases hsign
    next huser =>
      cases hverify
      exact ⟨huser.1.symm, huser.2.symm⟩
  refresh payload signedAt token now claims hsign hverify := by
    cases hsign
    cases hverify

theorem smallEnv_verifies : Verifies smallEnv.tokens fun _ => "" := by
  intro token now payload h
  cases h

def bodyOf (members : List (String × Body)) : Body := .obj fun key => members.lookup key

def post (path : String) (authorization : Option String) (members : List (String × Body)) :
    HttpRequest where
  method := "POST"
  path
  authorization
  xAdminKey := .absent
  body := bodyOf members
  limit := none

def drawn (id : String) : Draw := ⟨0, id, "i1", "l1", "j1", "salt"⟩

def registration : HttpRequest :=
  post "/auth/register" none
    [("email", .str "Ace@example.com"), ("username", .str "Ace"), ("password", .str "password123")]

def removal : HttpRequest :=
  post "/inventory/remove" (some "Bearer access-1")
    [("itemKey", .str "sword"), ("quantity", .num 1)]

/-- Register, take an item away with the token, and try the admin route without the key. -/
def session : List HttpEvent :=
  [.request registration (drawn "u1"), .operation 0 (drawn "u1"), .operation 0 (drawn "u1"),
    .operation 0 (drawn "u1"), .operation 0 (drawn "p1"), .operation 0 (drawn "t1"),
    .request removal (drawn ""), .request (post "/admin/economy/credit" none []) (drawn "")]

/-- The check of `Unforged` on a run. -/
def carriesIssued (env : HttpEnv) (s : HttpServer) : HttpEvent → Bool
  | .request request draw => (bearerToken request.authorization).all fun token =>
      (env.jwtVerifyAccess token draw.now).isNone || s.auth.ended.any fun entry =>
        accessTokenOf entry.2.2 = some token || refreshTokenOf entry.2.2 = some token
  | _ => true

theorem unforged_of_carriesIssued {s : HttpServer} {event : HttpEvent}
    (h : carriesIssued env s event = true) : Unforged env s event := by
  cases event with
  | request request draw =>
    intro token claims hbearer hverify
    simp only [carriesIssued, hbearer, Option.all_some, hverify, Option.isNone_some, Bool.false_or,
      List.any_eq_true, Bool.or_eq_true, decide_eq_true_eq] at h
    exact h
  | _ => trivial

theorem session_unforged : (HttpServer.machine smallEnv).StepsMeet (Unforged smallEnv)
    (HttpServer.start ⟨.empty, .empty, .empty, .empty, .empty⟩) session :=
  (Machine.stepsMeet_iff_checks.mpr (by decide +kernel)).mono fun _ _ => unforged_of_carriesIssued

/-- The calls that the session leads to, and what it is refused. -/
theorem session_calls : ∃ s,
    (HttpServer.machine smallEnv).exec (HttpServer.start ⟨.empty, .empty, .empty, .empty, .empty⟩)
      session = some s ∧
    s.dispatched.map Prod.snd = [.auth (.register ⟨"ace@example.com", "ace", "password123"⟩),
      .items (.removeItem ⟨"p1", "sword", 1⟩)] ∧
    s.refused.map Prod.snd = [⟨401, "UNAUTHORIZED", "Missing x-admin-key header"⟩] := by
  have hcalls : ((HttpServer.machine smallEnv).exec
      (HttpServer.start ⟨.empty, .empty, .empty, .empty, .empty⟩) session).map
        (fun s => (s.dispatched.map Prod.snd, s.refused.map Prod.snd)) =
      some ([.auth (.register ⟨"ace@example.com", "ace", "password123"⟩),
        .items (.removeItem ⟨"p1", "sword", 1⟩)],
        [⟨401, "UNAUTHORIZED", "Missing x-admin-key header"⟩]) := by decide +kernel
  obtain ⟨s, hexec, heq⟩ := Option.map_eq_some_iff.mp hcalls
  obtain ⟨hdispatched, hrefused⟩ := Prod.mk.inj heq
  exact ⟨s, hexec, hdispatched, hrefused⟩

/-- Both calls are authorized, the second by the token of the first. -/
theorem session_authorized : ∃ s,
    (HttpServer.machine smallEnv).exec (HttpServer.start ⟨.empty, .empty, .empty, .empty, .empty⟩)
      session = some s ∧ s.dispatched.length = 2 ∧
    ∀ entry ∈ s.dispatched, Authorized smallEnv (fun _ => "") s.auth entry.1 entry.2 := by
  obtain ⟨s, hexec, hcalls, -⟩ := session_calls
  have hlength := congrArg List.length hcalls
  rw [List.length_map] at hlength
  exact ⟨s, hexec, hlength, (calls_authorized smallEnv (fun _ => "") smallEnv_jwt
    smallEnv_verifies _ session session_unforged).last hexec⟩

end RealtimeGameServer.Guarantees.RequestOwnership
