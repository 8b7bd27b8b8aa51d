import RealtimeGameServer.Source.AuthAccounts

/-!
# An account is reached by its address and its password

`register` normalizes the email and stores a hash of the password; `login` looks for
the normalized email and compares. In every run from empty tables, whatever the order
of the repository calls, a login that succeeds does so with the password the account
was registered with, and answers with that account and its player. A login that ends
once the account has its player is refused only for another password. An unknown
address and a wrong password get the same answer.
-/
namespace RealtimeGameServer.Guarantees.AccountAccess
open Lib Calls Source Auth

abbrev AuthState := State AuthDb Call Place Reply Failure

abbrev AuthEvent := Calls.Event Call Draw Failure

/-- No error that the server throws itself. -/
def NotApp (failure : Failure) : Prop := ∀ error, failure ≠ .app error

/-- What `jsonwebtoken` throws is an error of its own. -/
structure ForeignErrors (service : TokenService) : Prop where
  access : ∀ userId playerId username now failure,
    service.signAccessToken userId playerId username now = .error failure → NotApp failure
  refresh : ∀ payload now failure, service.signRefreshJwt payload now = .error failure →
    NotApp failure

def invalidCredentials : Failure := unauthorized "Invalid credentials"

def emptyDb : AuthDb := ⟨.empty, .empty, .empty, .empty, .empty⟩

variable {service : TokenService}

/-- An operation that inserts a user is the `users.create` of a registration. -/
theorem mem_users_run {place : Place} {draw : Draw} {db : AuthDb} {user : UserEntity}
    (h : user ∈ (run service place draw db).1.users.rows) : user ∈ db.users.rows ∨
      place = .registerCreateUser user.email user.username user.passwordHash := by
  cases place with
  | registerCreateUser email username passwordHash =>
    simp only [run] at h
    cases hcreated : createUser db ⟨draw.id, email, username, passwordHash⟩ with
    | error failure =>
      rw [hcreated] at h
      exact Or.inl h
    | ok db' =>
      rw [hcreated, write, (createUser_ok hcreated).1] at h
      rcases List.mem_append.mp h with hold | hnew
      · exact Or.inl hold
      · rw [List.mem_singleton.mp hnew]
        exact Or.inr rfl
  | registerCreatePlayer created =>
    rw [run_registerCreatePlayer] at h
    cases hcreated : createPlayer db (newPlayer created draw) draw.inventoryId
        draw.leaderboardId with
    | error failure =>
      rw [hcreated] at h
      exact Or.inl h
    | ok db' =>
      rw [hcreated, write, (createPlayer_ok hcreated).2] at h
      exact Or.inl h
  | issueCreateToken userId accessToken refresh account =>
    simp only [run] at h
    cases hcreated : createToken db (issuedRow draw userId refresh) with
    | error failure =>
      rw [hcreated] at h
      exact Or.inl h
    | ok db' =>
      rw [hcreated, write, (createToken_accounts hcreated).1] at h
      exact Or.inl h
  | logoutRevoke id =>
    simp only [run, revoke] at h
    split at h <;> exact Or.inl h
  | _ => exact Or.inl h

/-- Every user was made by a registration that has begun. -/
def Registered (service : TokenService) (s : AuthState) : Prop :=
  ∀ user ∈ s.store.users.rows, ∃ input, Begun s (.register input) ∧ MadeBy service input user

/-- Calls in progress know their accounts, and every account has its registration. -/
structure Sound (service : TokenService) (s : AuthState) : Prop where
  numbered : Numbered s
  vouched : ∀ number a, s.active.get number = some a → Vouched service a.call a.place s.store
  registered : Registered service s

theorem sound_start (service : TokenService) : Sound service (start emptyDb) where
  numbered _ _ h := by cases h
  vouched _ _ h := by cases h
  registered _ h := by cases h

/-- The tables move on and the calls in progress know their accounts there. -/
theorem vouched_step {s t : AuthState} {event : AuthEvent}
    (h : ∀ number a, s.active.get number = some a → Vouched service a.call a.place s.store)
    (hstep : Steps (program service) s event t) :
    Keeps s.store t.store ∧
      ∀ number a, t.active.get number = some a → Vouched service a.call a.place t.store := by
  cases hstep with
  | @called call draw =>
    refine ⟨by rw [store_proceed]; exact Keeps.refl _, fun number a hget => ?_⟩
    rw [store_proceed]
    rcases get_proceed hget with ⟨-, hold⟩ | ⟨-, place, hopens, rfl⟩
    · exact h number a hold
    · exact opens_vouched s.store hopens
  | @operated number draw a store next get hrun =>
    have hkeeps := keeps_run service a.place draw s.store
    obtain ⟨rfl, rfl⟩ := Prod.mk.inj hrun
    rw [store_proceed]
    refine ⟨hkeeps, fun i b hget => ?_⟩
    rcases get_proceed hget with ⟨-, hold⟩ | ⟨-, place, hgoes, rfl⟩
    · exact (h i b hold).mono hkeeps
    · exact (h number a get).ran hgoes
  | @rejected number reason a get =>
    rw [store_proceed]
    refine ⟨Keeps.refl _, fun i b hget => ?_⟩
    rcases get_proceed hget with ⟨-, hold⟩ | ⟨-, place, hgoes, -⟩
    · exact h i b hold
    · cases hgoes

theorem Sound.step {s t : AuthState} {event : AuthEvent} (h : Sound service s)
    (hstep : Steps (program service) s event t) : Sound service t where
  numbered := h.numbered.step hstep
  vouched := (vouched_step h.vouched hstep).2
  registered := by
    intro user huser
    have hbegun : ∀ input, Begun s (.register input) → Begun t (.register input) :=
      fun input => Begun.step h.numbered hstep
    have hold : user ∈ s.store.users.rows →
        ∃ input, Begun t (.register input) ∧ MadeBy service input user := by
      intro hmem
      obtain ⟨input, hinput, hmade⟩ := h.registered user hmem
      exact ⟨input, hbegun input hinput, hmade⟩
    cases hstep with
    | called =>
      rw [store_proceed] at huser
      exact hold huser
    | @operated number draw a store next get hrun =>
      obtain ⟨rfl, rfl⟩ := Prod.mk.inj hrun
      rw [store_proceed] at huser
      rcases mem_users_run huser with hmem | hplace
      · exact hold hmem
      · -- the call that inserts the user is a registration in progress
        have hvouched := h.vouched number a get
        obtain ⟨call, place⟩ := a
        dsimp only at hplace hvouched
        subst hplace
        obtain ⟨input, rfl, hmade⟩ := hvouched
        exact ⟨input, hbegun input (Or.inl ⟨number, _, get⟩), hmade user.id⟩
    | rejected =>
      rw [store_proceed] at huser
      exact hold huser

/-- How a login ends, from the tables at the beginning and at the end. -/
inductive Answered (service : TokenService) (base db : AuthDb) (input : LoginInput) :
    Except Failure Reply → Prop
  | welcomed {result} (admits : Admits service db input result.user)
      (player : SignedFor service db result.user.id result.tokens.accessToken result.player) :
      Answered service base db input (.ok (.auth result))
  | refused (closed : ∀ user, Admits service base input user → ¬Playable base user) :
      Answered service base db input (.error invalidCredentials)
  | broken {failure} (foreign_ : NotApp failure) : Answered service base db input (.error failure)

theorem Answered.mono {base db db' : AuthDb} (hkeeps : Keeps db db') {input : LoginInput}
    {result : Except Failure Reply} (h : Answered service base db input result) :
    Answered service base db' input result := by
  cases h with
  | welcomed admits player => exact .welcomed (admits.mono hkeeps) (player.mono hkeeps)
  | refused closed => exact .refused closed
  | broken foreign_ => exact .broken foreign_

/-- What a login that ends leaves in the log. -/
def EndsAnswered (service : TokenService) (base db : AuthDb) (call : Call)
    (next : Next Place Reply Failure) : Prop :=
  ∀ number, ∀ entry ∈ next.log number call, ∀ input, entry.2.1 = .login input →
    Answered service base db input entry.2.2

theorem endsAnswered_goes {base db : AuthDb} {call : Call} {place : Place} :
    EndsAnswered service base db call (.goes place) := by
  intro number entry hentry
  cases hentry

theorem endsAnswered_throws {base db : AuthDb} {call : Call} {failure : Failure}
    (h : ∀ input, call = .login input → Answered service base db input (.error failure)) :
    EndsAnswered service base db call (.throws failure) := by
  intro number entry hentry
  cases List.mem_singleton.mp hentry
  exact h

theorem endsAnswered_of_ne {base db : AuthDb} {call : Call} {next : Next Place Reply Failure}
    (h : ∀ input, call ≠ .login input) : EndsAnswered service base db call next := by
  intro number entry hentry input heq
  exact absurd ((Next.mem_log hentry).2.1.symm.trans heq) (h input)

/-- A user of the tables at the beginning is the one that is found. -/
theorem admits_found {base db : AuthDb} (hkeeps : Keeps base db) {input : LoginInput}
    {user : UserEntity} (h : Admits service base input user) :
    db.users.findUnique (·.email) (trim (toLowerCase input.email)) = some user := by
  rw [← h.2.1]
  exact db.users.findUnique_of_mem (by simp) (hkeeps.users user h.1)

theorem issueTokens_answered (hforeign : ForeignErrors service) {base db : AuthDb} {draw : Draw}
    {userId : String} {player : PlayerProfile} {account : Option (UserEntity × PlayerProfile)}
    {call : Call} :
    EndsAnswered service base db call (issueTokens service draw userId player account) := by
  cases hissued : issueTokens service draw userId player account with
  | goes place => exact endsAnswered_goes
  | returns answer => exact absurd hissued issueTokens_not_returns
  | throws failure =>
    refine endsAnswered_throws fun input _ => .broken ?_
    unfold issueTokens at hissued
    cases hsign : service.signAccessToken userId player.id player.username draw.now with
    | error reason =>
      rw [hsign] at hissued
      cases hissued
      exact hforeign.access _ _ _ _ _ hsign
    | ok accessToken =>
      rw [hsign] at hissued
      simp only [TokenService.createRefreshTokenPair, bind, Except.bind] at hissued
      cases hrefresh : service.signRefreshJwt ⟨userId, userId, "refresh", draw.jti⟩ draw.now with
      | error reason =>
        rw [hrefresh] at hissued
        cases hissued
        exact hforeign.refresh _ _ _ hrefresh
      | ok token =>
        rw [hrefresh] at hissued
        dsimp only at hissued
        cases hduration : parseDurationToMs service.jwtRefreshExpiresIn <;> rw [hduration] at hissued <;>
          cases hissued
        exact fun error heq => by cases heq

/-- An operation of a login that ends it answers as the accounts say. -/
theorem run_answered (hforeign : ForeignErrors service) {base : AuthDb} {call : Call}
    {place : Place} {draw : Draw} {db : AuthDb} (hkeeps : Keeps base db)
    (h : Vouched service call place db) :
    EndsAnswered service base (run service place draw db).1 call (run service place draw db).2 := by
  by_cases hlogin : ∃ input, call = .login input
  case neg => exact endsAnswered_of_ne fun input heq => hlogin ⟨input, heq⟩
  case pos =>
    obtain ⟨input, rfl⟩ := hlogin
    cases place with
    | loginFindByEmail found =>
      cases h
      simp only [run]
      have hrefused : (∀ user, ¬Admits service base input user) → EndsAnswered service base db
          (.login input) (.throws invalidCredentials) := by
        intro hnone
        refine endsAnswered_throws fun other heq => ?_
        cases heq
        exact .refused fun user hadmits => absurd hadmits (hnone user)
      split
      next user hfound =>
        split
        next => exact endsAnswered_goes
        next hinvalid =>
          refine hrefused fun other hadmits => hinvalid ?_
          cases (admits_found hkeeps hadmits).symm.trans hfound
          rw [hfound]
          exact hadmits.2.2
      next hmissing =>
        refine hrefused fun user hadmits => ?_
        cases (admits_found hkeeps hadmits).symm.trans hmissing
    | loginFindPlayer user =>
      obtain ⟨_, hcall, hadmits⟩ := h
      cases hcall
      simp only [run]
      split
      next hmissing =>
        refine endsAnswered_throws fun other heq => ?_
        cases heq
        refine .refused fun other hother hplayable => ?_
        -- the email is that of one account only
        have heq : other = user := eq_of_email (hkeeps.users other hother.1) hadmits.1
          (hother.2.1.trans hadmits.2.1.symm)
        subst heq
        obtain ⟨player, hmem, huser⟩ := hplayable
        have hfound : db.players.findUnique (·.userId) player.userId = some player :=
          db.players.findUnique_of_mem (by simp) (hkeeps.players player hmem)
        rw [huser] at hfound
        cases hfound.symm.trans hmissing
      next => exact issueTokens_answered hforeign
    | issueCreateToken userId accessToken refresh account =>
      obtain ⟨player, hsigned, user, hadmits, rfl, rfl⟩ := h
      simp only [run]
      cases hcreated : createToken db (issuedRow draw user.id refresh) with
      | error failure =>
        refine endsAnswered_throws fun _ _ => .broken ?_
        unfold createToken at hcreated
        split at hcreated
        next =>
          cases hcreated
          exact fun error heq => by cases heq
        next =>
          split at hcreated <;> cases hcreated
          exact fun error heq => by cases heq
      | ok db' =>
        have hstays : Keeps db db' := by
          obtain ⟨husers, hplayers⟩ := createToken_accounts hcreated
          exact ⟨fun _ hmem => husers ▸ hmem, fun _ hmem => hplayers ▸ hmem⟩
        intro number entry hentry other heq
        cases List.mem_singleton.mp hentry
        cases heq
        exact .welcomed (hadmits.mono hstays) (hsigned.mono hstays)
    | registerFindByEmail | registerFindByUsername | registerCreateUser | registerCreatePlayer =>
      obtain ⟨_, hcall, -⟩ := h
      cases hcall
    | refreshFindToken | refreshRevokeIfActive | refreshRevokeFamily | refreshFindPlayer
    | logoutAllRevoke =>
      obtain ⟨_, hcall⟩ := h
      cases hcall
    | logoutFindToken | logoutRevoke =>
      obtain ⟨_, _, hcall⟩ := h
      cases hcall

/-- After the log `old`, every login has ended as the accounts say. -/
structure Decided (service : TokenService) (base : AuthDb)
    (old : List (Nat × Call × Except Failure Reply)) (s : AuthState) : Prop where
  sound : Sound service s
  keeps : Keeps base s.store
  answered : ∃ new, s.ended = old ++ new ∧ ∀ entry ∈ new, ∀ input, entry.2.1 = .login input →
    Answered service base s.store input entry.2.2

/-- A rejected operation is refused by the database. -/
def RejectsForeign : AuthEvent → Prop
  | .reject _ reason => NotApp reason
  | _ => True

theorem Decided.step (hforeign : ForeignErrors service) {base : AuthDb}
    {old : List (Nat × Call × Except Failure Reply)} {s t : AuthState} {event : AuthEvent}
    (h : Decided service base old s) (hreject : RejectsForeign event)
    (hstep : Steps (program service) s event t) : Decided service base old t := by
  obtain ⟨hkeeps, -⟩ := vouched_step h.sound.vouched hstep
  obtain ⟨new, hended, hanswered⟩ := h.answered
  refine ⟨h.sound.step hstep, h.keeps.trans hkeeps, ?_⟩
  -- the log grows by a call that ends as the accounts say
  have hlog : ∃ number call next, t.ended = s.ended ++ next.log number call ∧
      EndsAnswered service base t.store call next := by
    cases hstep with
    | @called call draw =>
      refine ⟨s.started, call, (program service).opens call draw, ended_proceed _ _ _ _ _, ?_⟩
      cases call with
      | login input => exact endsAnswered_goes
      | _ => exact endsAnswered_of_ne fun _ heq => by cases heq
    | @operated number draw a store next get hrun =>
      obtain ⟨rfl, rfl⟩ := Prod.mk.inj hrun
      refine ⟨number, a.call, _, ended_proceed _ _ _ _ _, ?_⟩
      rw [store_proceed]
      exact run_answered hforeign h.keeps (h.sound.vouched number a get)
    | @rejected number reason a get =>
      exact ⟨number, a.call, .throws reason, ended_proceed _ _ _ _ _,
        endsAnswered_throws fun _ _ => .broken hreject⟩
  obtain ⟨number, call, next, hgrown, hends⟩ := hlog
  refine ⟨new ++ next.log number call, ?_, fun entry hentry => ?_⟩
  · rw [hgrown, hended, List.append_assoc]
  · rcases List.mem_append.mp hentry with hold | hnew
    · exact fun input heq => (hanswered entry hold input heq).mono hkeeps
    · exact hends number entry hnew

def drawn (id : String) : Draw := ⟨0, id, "i1", "l1", id, "salt"⟩

end RealtimeGameServer.Guarantees.AccountAccess
