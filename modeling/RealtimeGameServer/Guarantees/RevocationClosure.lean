import Mathlib.Logic.Relation
import RealtimeGameServer.Source.AuthSteps

/-!
# Revocation of a session family

`revokeAllForUser` sets `revokedAt` on the rows that exist. A `refresh` that has
revoked its old token and has not stored the successor yet is overtaken: it
stores an active token afterwards. That is the only way: after a
`revokeAllForUser`, all tokens rotated from the stored ones stay revoked along a
run if and only if no overtaken `refresh` stores its token.
-/
namespace RealtimeGameServer.Guarantees.RevocationClosure
open Lib Calls Source Source.Auth

abbrev AuthState := State AuthDb Call Place Reply Failure

abbrev AuthEvent := Calls.Event Call Draw Failure

/-- The operation is the `revokeAllForUser` of a `logoutAll` or of a `refresh`
that detected reuse. -/
def RevokesAll (s : AuthState) (event : AuthEvent) (user : String) : Prop :=
  ∃ number draw a, event = .operation number draw ∧ s.active.get number = some a ∧
    (a.place = .logoutAllRevoke user ∨ a.place = .refreshRevokeFamily user)

/-- Every token rotated, in one or more steps, from a token of the user that was
stored in `t` is revoked in `u`. -/
def FamilyRevoked (service : TokenService) (t : AuthState) (user : String) (u : AuthState) : Prop :=
  ∀ old ∈ t.store.refreshTokens.rows, old.userId = user →
    ∀ row ∈ u.store.refreshTokens.rows,
      Relation.TransGen (Rotates service u.ended) old.tokenHash row.tokenHash →
        row.revokedAt ≠ none

/-- In `t` the call is a `refresh` for the user, past its `revokeIfActive`. -/
def Overtaken (t : AuthState) (user : String) (number : Nat) : Prop :=
  ∃ a, t.active.get number = some a ∧ a.place.rotating = some user

/-- The operation at this place stores a token. -/
def Stores (place : Place) (draw : Draw) (db : AuthDb) : Prop :=
  match place with
  | .issueCreateToken userId _ refresh _ =>
    ∃ db', createToken db (issuedRow draw userId refresh) = .ok db'
  | _ => False

/-- The step is not the one at which a call overtaken in `t` stores its token. -/
def NotOvertaken (t : AuthState) (user : String) (s : AuthState) (event : AuthEvent) : Prop :=
  ∀ number draw a, event = .operation number draw → s.active.get number = some a →
    Overtaken t user number → ¬Stores a.place draw s.store

/-- What holds in the state a `revokeAllForUser` leads to. -/
structure Revoked (service : TokenService) (t : AuthState) (user : String) : Prop where
  numbered : Numbered t
  held : Held Grows (Linked service) (Knows service) t.store t
  revoked : ∀ row ∈ t.store.refreshTokens.rows, row.userId = user → row.revokedAt ≠ none

variable {service : TokenService}

theorem revoked_of_step {db : AuthDb} {before : List AuthEvent} {s t : AuthState} {user : String}
    {event : AuthEvent} (hbefore : (machine (program service)).exec (start db) before = some s)
    (hrevokes : RevokesAll s event user) (hstep : (machine (program service)).step s event = some t) :
    Revoked service t user := by
  have hexec : (machine (program service)).exec (start db) (before ++ [event]) = some t :=
    Machine.exec_append.mpr ⟨s, hbefore, Machine.exec_cons.mpr ⟨t, hstep, rfl⟩⟩
  have hheld := (along_of_rule (rule service) (linked_nil db) (before ++ [event])).last hexec
  constructor
  case numbered => exact (numbered_along db (before ++ [event])).last hexec
  case held => exact hheld.rebase (rule service)
  case revoked =>
    obtain ⟨number, draw, a, rfl, hget, hplace⟩ := hrevokes
    have hcases := step_cases hstep
    cases hcases with
    | @operated _ _ _ store next get hrun =>
      cases get.symm.trans hget
      have hstore : store = revokeAllForUser s.store user draw.now := by
        rcases hplace with hplace | hplace <;> rw [hplace] at hrun <;> cases hrun <;> rfl
      rw [store_proceed, hstore]
      exact revoked_revokeAllForUser

/-- The tokens of the user in `t` have their successors among themselves, and a
`refresh` about to rotate one of them was overtaken. -/
structure Closed (service : TokenService) (t : AuthState) (user : String) (s : AuthState) : Prop where
  held : Held Grows (Linked service) (Knows service) t.store s
  since : Since t s
  family : ∀ tokenHash successor, Rotates service s.ended tokenHash successor →
    HasToken t.store user tokenHash → HasToken t.store user successor
  overtaken : ∀ number a token userId, s.active.get number = some a → a.call = .refresh token →
    a.place.rotating = some userId → HasToken t.store user (service.hashToken token) →
    Overtaken t user number

variable {t s s' : AuthState} {user : String} {event : AuthEvent}

theorem Revoked.closed (ht : Revoked service t user) : Closed service t user t where
  held := ht.held
  since := Since.refl t
  family tokenHash successor hrotates htoken := by
    obtain ⟨userId, hold, hnew⟩ := ht.held.globally _ _ hrotates
    rwa [htoken.unique hold]
  overtaken number a token userId hget hcall hrotating htoken := by
    obtain ⟨token', hcall', htoken'⟩ := (ht.held.locally_ number a hget).rotating hrotating
    cases hcall.symm.trans hcall'
    exact ⟨a, hget, htoken.unique htoken' ▸ hrotating⟩

/-- A token of the family that is still stored is revoked. -/
theorem Closed.revoked (ht : Revoked service t user) (h : Closed service t user s)
    {row : RefreshTokenEntity} (hrow : row ∈ s.store.refreshTokens.rows)
    (htoken : HasToken t.store user row.tokenHash) : row.revokedAt ≠ none := by
  obtain ⟨old, hold, huser, hhash⟩ := htoken
  obtain ⟨row', hrow', -, -, hhash', hrevoked⟩ := h.held.reached old hold
  rw [← eq_of_tokenHash hrow' hrow (hhash'.trans hhash)]
  exact hrevoked (ht.revoked old hold huser)

theorem Closed.familyRevoked (ht : Revoked service t user) (h : Closed service t user s) :
    FamilyRevoked service t user s := by
  intro old hold huser row hrow hpath
  have hstart : HasToken t.store user old.tokenHash := ⟨old, hold, huser, rfl⟩
  have hreached : ∀ tokenHash, Relation.TransGen (Rotates service s.ended) old.tokenHash tokenHash →
      HasToken t.store user tokenHash := by
    intro tokenHash hpath
    induction hpath with
    | single hrotates => exact h.family _ _ hrotates hstart
    | tail _ hrotates ih => exact h.family _ _ hrotates ih
  exact h.revoked ht hrow (hreached _ hpath)

theorem opens_not_returns {call : Call} {draw : Draw} {answer : Reply} :
    opens service call draw ≠ .returns answer := by
  intro h
  cases call with
  | refresh refreshToken =>
    simp only [opens] at h
    split at h <;> cases h
  | _ => cases h

theorem opens_not_rotating {call : Call} {draw : Draw} {place : Place} {userId : String}
    (h : opens service call draw = .goes place) : place.rotating ≠ some userId := by
  intro hrotating
  cases call with
  | refresh refreshToken =>
    simp only [opens] at h
    split at h <;> cases h
    cases hrotating
  | _ =>
    cases h
    cases hrotating

/-- A `revokeIfActive` that answers true did not revoke a token of the family. -/
theorem Closed.not_active (ht : Revoked service t user) (h : Closed service t user s) {call : Call}
    {stored : RefreshTokenEntity} {payload : RefreshTokenPayload} {token : String} {now : Int}
    (hknows : Knows service call (.refreshRevokeIfActive stored payload) s.store)
    (hcall : call = .refresh token) (hactive : (revokeIfActive s.store stored.id now).2 = true) :
    ¬HasToken t.store user (service.hashToken token) := by
  intro htoken
  obtain ⟨-, token', hcall', row, hrow, hid, -, hhash⟩ := hknows
  cases hcall.symm.trans hcall'
  obtain ⟨found, hfound, hfoundid, hnone⟩ := revokeIfActive_true hactive
  rw [eq_of_id hfound hrow (hfoundid.trans hid.symm)] at hnone
  exact h.revoked ht hrow (hhash ▸ htoken) hnone

/-- A step that is not that of an overtaken call rotates no token of the family. -/
theorem Closed.family_step (h : Closed service t user s)
    (hstep : Steps (program service) s event s') (hguard : NotOvertaken t user s event)
    {tokenHash successor : String} (hrotates : Rotates service s'.ended tokenHash successor)
    (htoken : HasToken t.store user tokenHash) : HasToken t.store user successor := by
  cases hstep with
  | called =>
    rw [ended_proceed] at hrotates
    rcases hrotates.append with hold | ⟨_, _, -, hnext, -⟩
    · exact h.family _ _ hold htoken
    · exact absurd hnext opens_not_returns
  | @operated number draw a store next get hrun =>
    rw [ended_proceed] at hrotates
    rcases hrotates.append with hold | ⟨token, tokens, hcall, rfl, rfl, rfl⟩
    · exact h.family _ _ hold htoken
    · -- a rotation of a token of the family is the step of an overtaken call
      obtain ⟨userId, accessToken, refresh, hplace, -, hcreate⟩ :=
        run_returns_tokens (congrArg Prod.snd hrun)
      have hrotating : a.place.rotating = some userId := by
        rw [hplace]
        rfl
      have hover := h.overtaken number a token userId get hcall hrotating htoken
      have hstores : Stores a.place draw s.store := by
        rw [hplace]
        exact ⟨_, hcreate⟩
      exact absurd hstores (hguard number draw a rfl get hover)
  | rejected =>
    rw [ended_proceed] at hrotates
    rcases hrotates.append with hold | ⟨_, _, -, hnext, -⟩
    · exact h.family _ _ hold htoken
    · cases hnext

/-- A rotation of a token of the family that is under way was under way in `t`. -/
theorem Closed.overtaken_step (ht : Revoked service t user) (h : Closed service t user s)
    (hstep : Steps (program service) s event s') {number : Nat} {b : InProgress Call Place}
    {token userId : String} (hget : s'.active.get number = some b) (hcall : b.call = .refresh token)
    (hrotating : b.place.rotating = some userId)
    (htoken : HasToken t.store user (service.hashToken token)) : Overtaken t user number := by
  cases hstep with
  | called =>
    rcases get_proceed hget with ⟨-, hold⟩ | ⟨-, place, hnext, rfl⟩
    · exact h.overtaken number b token userId hold hcall hrotating htoken
    · exact absurd hrotating (opens_not_rotating hnext)
  | @operated number' draw a store next get hrun =>
    rcases get_proceed hget with ⟨-, hold⟩ | ⟨rfl, place, rfl, rfl⟩
    · exact h.overtaken number b token userId hold hcall hrotating htoken
    · rcases run_goes_rotating (congrArg Prod.snd hrun) hrotating with
        hbefore | ⟨stored, payload, hplace, -, hactive⟩
      · exact h.overtaken number a token userId get hcall hbefore htoken
      · have hknows := h.held.locally_ number a get
        rw [hplace] at hknows
        exact absurd htoken (h.not_active ht hknows hcall hactive)
  | rejected get =>
    rcases get_proceed hget with ⟨-, hold⟩ | ⟨-, place, hnext, -⟩
    · exact h.overtaken number b token userId hold hcall hrotating htoken
    · cases hnext

theorem Closed.step (ht : Revoked service t user) (h : Closed service t user s)
    (hstep : Steps (program service) s event s') (hguard : NotOvertaken t user s event) :
    Closed service t user s' where
  held := h.held.step (rule service) hstep
  since := h.since.step ht.numbered hstep
  family _ _ hrotates htoken := h.family_step hstep hguard hrotates htoken
  overtaken _ _ _ _ hget hcall hrotating htoken :=
    h.overtaken_step ht hstep hget hcall hrotating htoken

/-- An overtaken call that stores its token leaves an active token of the family. -/
theorem Closed.notOvertaken (ht : Revoked service t user) (h : Closed service t user s)
    (hstep : Steps (program service) s event s') (hfamily : FamilyRevoked service t user s') :
    NotOvertaken t user s event := by
  intro number draw a hevent hget hover hstores
  subst hevent
  obtain ⟨b, hb, hrotating⟩ := hover
  obtain ⟨token, hcall, old, hold, huser, hhash⟩ := (ht.held.locally_ number b hb).rotating hrotating
  rw [← h.since.same number b a hb hget] at hcall
  have hknows := h.held.locally_ number a hget
  cases hstep with
  | @operated _ _ a' store next get hrun =>
    cases get.symm.trans hget
    obtain ⟨call, place⟩ := a
    simp only at hcall hknows hstores hrun
    subst hcall
    cases place with
    | issueCreateToken userId accessToken refresh account =>
      obtain ⟨db', hcreate⟩ := hstores
      cases account with
      | some account => exact hknows.2 token rfl
      | none =>
        have hanswer : run service (.issueCreateToken userId accessToken refresh none) draw s.store =
            (db', .returns (.tokens ⟨accessToken, refresh.token⟩)) := by
          rw [run, hcreate]
          rfl
        cases hrun.symm.trans hanswer
        have hrow : issuedRow draw userId refresh ∈
            (s.proceed number (.refresh token) store
              (.returns (.tokens ⟨accessToken, refresh.token⟩))).store.refreshTokens.rows := by
          rw [store_proceed, createToken_ok hcreate]
          exact List.mem_append_right _ (List.mem_singleton_self _)
        have hrotates : Rotates service (s.proceed number (.refresh token) store
            (.returns (.tokens ⟨accessToken, refresh.token⟩))).ended old.tokenHash
            (issuedRow draw userId refresh).tokenHash := by
          rw [ended_proceed, hhash]
          exact ⟨number, token, _, List.mem_append_right _ (List.mem_singleton_self _), rfl, hknows.1⟩
        exact hfamily old hold huser _ hrow (.single hrotates) rfl
    | _ => exact hstores

/-- After a `revokeAllForUser`, the tokens rotated from those stored at that point
are revoked in every state of a run if and only if no `refresh` that had passed
its `revokeIfActive` at that point stores its token in the run. -/
theorem family_stays_revoked_iff (service : TokenService) (db : AuthDb) (before : List AuthEvent)
    (s t : AuthState) (user : String) (event : AuthEvent)
    (hbefore : (machine (program service)).exec (start db) before = some s)
    (hrevokes : RevokesAll s event user)
    (hstep : (machine (program service)).step s event = some t) (after : List AuthEvent) :
    (machine (program service)).Along (FamilyRevoked service t user) t after ↔
      (machine (program service)).StepsMeet (NotOvertaken t user) t after := by
  have ht := revoked_of_step hbefore hrevokes hstep
  refine Machine.along_iff_stepsMeet (I := Closed service t user) (L := fun _ => True)
    (fun _ h => h.familyRevoked ht) ?_ ?_ (fun _ _ => trivial) ht.closed
  · intro s e s' h _ hs hguard
    exact h.step ht (step_cases hs) hguard
  · intro s e s' h _ hs hfamily
    exact h.notOvertaken ht (step_cases hs) hfamily

/-- Libraries whose tokens spell out their user and `jti`. -/
def plainService : TokenService where
  jwtRefreshExpiresIn := "7d"
  signAccessToken userId _ _ _ := .ok ("access-" ++ userId)
  signRefreshJwt payload _ := .ok (payload.userId ++ "-" ++ payload.jti)
  jwtVerify token _ := ["a", "b"].findSome? fun jti =>
    if token = "u1-" ++ jti then some ⟨"u1", "u1", "refresh", jti⟩ else none
  sha256Hex token := "hash-" ++ token
  bcryptHash password salt := salt ++ password
  bcryptCompare password hash := hash.endsWith password

/-- One user with one player and one active token. -/
def oneToken : AuthDb where
  users := ⟨[⟨"u1", "a@example.com", "ace", "salt"⟩], by simp⟩
  players := ⟨[⟨"p1", "u1", "ace", 0, 100, 1⟩], by simp⟩
  inventories := .empty
  leaderboard := .empty
  refreshTokens := ⟨[⟨"t1", "u1", "hash-u1-a", 1000, none⟩], by simp⟩

def draw : Draw := ⟨0, "t2", "", "", "b", ""⟩

/-- A `refresh` has revoked its token when a `logoutAll` starts. -/
def refreshing : List AuthEvent :=
  [.call (.refresh "u1-a") draw, .operation 0 draw, .operation 0 draw,
    .call (.logoutAll "u1") draw]

/-- The `refresh` goes on. -/
def stored : List AuthEvent := [.operation 0 draw, .operation 0 draw]

/-- Not every run keeps the family revoked: the overtaken `refresh` stores an
active token. -/
theorem overtaken_refresh_stays_active :
    ¬∀ (service : TokenService) (db : AuthDb) (before : List AuthEvent) (s t u : AuthState)
      (user : String) (event : AuthEvent) (after : List AuthEvent),
      (machine (program service)).exec (start db) before = some s → RevokesAll s event user →
      (machine (program service)).step s event = some t →
      (machine (program service)).exec t after = some u → FamilyRevoked service t user u := by
  intro h
  have hfamily := h plainService oneToken refreshing _ _ _ "u1" (.operation 1 draw) stored rfl
    ⟨1, draw, _, rfl, rfl, Or.inl rfl⟩ rfl rfl
  refine hfamily ⟨"t1", "u1", "hash-u1-a", 1000, some 0⟩ (List.mem_singleton_self _) rfl
    ⟨"t2", "u1", "hash-u1-b", 604800000, none⟩ ?_ (.single ?_) rfl
  · exact List.mem_cons_of_mem _ (List.mem_singleton_self _)
  · refine ⟨0, "u1-a", ⟨"access-u1", "u1-b"⟩, ?_, rfl, rfl⟩
    exact List.mem_cons_of_mem _ (List.mem_singleton_self _)

/-- The token has been rotated. Of two `refresh` calls with its successor one has passed its
`revokeIfActive` when a `logoutAll` starts. -/
def rotated : List AuthEvent :=
  [.call (.refresh "u1-a") draw, .operation 0 draw, .operation 0 draw, .operation 0 draw,
    .operation 0 draw, .call (.refresh "u1-b") draw, .call (.logoutAll "u1") draw,
    .call (.refresh "u1-b") draw, .operation 1 draw, .operation 3 draw, .operation 3 draw]

/-- The first of the two finds its token used, and the second cannot read the player. -/
def refusedAfterwards : List AuthEvent :=
  [.operation 1 draw, .reject 3 .connectionLost, .operation 1 draw]

theorem notOvertaken_operation {t s : AuthState} {user : String} {number : Nat} {draw : Draw}
    {a : InProgress Call Place} (hget : s.active.get number = some a)
    (hplace : ∀ userId accessToken refresh account,
      a.place ≠ .issueCreateToken userId accessToken refresh account) :
    NotOvertaken t user s (.operation number draw) := by
  intro i draw' b hevent hb _ hstores
  cases hevent
  cases hget.symm.trans hb
  cases hstored : a.place with
  | issueCreateToken userId accessToken refresh account =>
    exact hplace userId accessToken refresh account hstored
  | _ =>
    rw [hstored] at hstores
    exact hstores

/-- A `logoutAll` after a rotation and with two calls in progress. -/
theorem logout_revokes_family : ∃ s t,
    (machine (program plainService)).exec (start oneToken) rotated = some s ∧
    (machine (program plainService)).step s (.operation 2 draw) = some t ∧
    t.active.keys = [1, 3] ∧ Rotates plainService t.ended "hash-u1-a" "hash-u1-b" ∧
    (machine (program plainService)).Along (FamilyRevoked plainService t "u1") t
      refusedAfterwards := by
  refine ⟨_, _, rfl, rfl, rfl, ⟨0, "u1-a", ⟨"access-u1", "u1-b"⟩, ?_, rfl, rfl⟩, ?_⟩
  · exact List.mem_cons_self
  refine (family_stays_revoked_iff plainService oneToken rotated _ _ "u1" (.operation 2 draw) rfl
    ⟨2, draw, _, rfl, rfl, Or.inl rfl⟩ rfl _).mpr ?_
  refine .cons rfl (notOvertaken_operation rfl fun _ _ _ _ h => by cases h) ?_
  refine .cons rfl (fun _ _ _ hevent => by cases hevent) ?_
  exact .cons rfl (notOvertaken_operation rfl fun _ _ _ _ h => by cases h) trivial

end RealtimeGameServer.Guarantees.RevocationClosure
