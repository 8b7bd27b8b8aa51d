import RealtimeGameServer.Guarantees.RevocationClosure
import RealtimeGameServer.Guarantees.TokenSingleUse
import RealtimeGameServer.Source.AuthOwnership

/-!
# Why sessions end

A refresh token is revoked when it is rotated, when its user logs out with it, or with all
tokens of its user. The last has a cause too: the user asked for it, or one of the user's
tokens was shown to `refresh` although another call showed it. So a user who shows each
token once and does not sign out everywhere keeps every token not shown, whatever the
others do and however the calls interleave.
-/
namespace RealtimeGameServer.Guarantees.SessionEnds
open Lib Calls Source Source.Auth
open RevocationClosure (AuthState AuthEvent plainService oneToken draw)
open TokenSingleUse (Place.reused)

/-- The calls that use up the token of the row. -/
inductive Shows (service : TokenService) (row : RefreshTokenEntity) : Call → Prop
  | refresh {token} (hash : service.hashToken token = row.tokenHash) :
      Shows service row (.refresh token)
  | logout {token} (hash : service.hashToken token = row.tokenHash) :
      Shows service row (.logout row.userId token)

/-- Why all tokens of a user may be revoked: its `logoutAll`, or a `refresh`, which does not
succeed, of a token that another call shows or that was revoked at the start. -/
inductive Breach (service : TokenService) (db0 : AuthDb) (s : AuthState) (userId : String) : Prop
  | signedOut {i} (asked : Called s i (.logoutAll userId))
  | shownAgain {row i j token call} (stored : row ∈ s.store.refreshTokens.rows)
      (owner : row.userId = userId) (again : Called s i (.refresh token))
      (hash : service.hashToken token = row.tokenHash) (refused : Lost Place.reused i s)
      (other : Called s j call) (shows : Shows service row call) (apart : j ≠ i)
  | shownLate {row i token} (stored : row ∈ db0.refreshTokens.rows) (owner : row.userId = userId)
      (revoked : row.revokedAt ≠ none) (late : Called s i (.refresh token))
      (hash : service.hashToken token = row.tokenHash) (refused : Lost Place.reused i s)

variable {service : TokenService} {db0 db db' : AuthDb} {s t : AuthState} {event : AuthEvent}

theorem Shows.of_keys {row row' : RefreshTokenEntity} {call : Call} (h : Shows service row call)
    (huser : row'.userId = row.userId) (hhash : row'.tokenHash = row.tokenHash) :
    Shows service row' call := by
  cases h with
  | refresh hash => exact .refresh (hash.trans hhash.symm)
  | logout hash =>
    rw [← huser]
    exact .logout (hash.trans hhash.symm)

theorem lost_step (hstep : Steps (program service) s event t) {number : Nat}
    (h : Lost Place.reused number s) : Lost Place.reused number t := by
  refine h.step (fun place draw db next hreused hgoes => ?_)
    (fun place draw db result hreused hreturns => ?_) hstep
  · cases place with
    | refreshRevokeFamily userId => cases hgoes
    | _ => cases hreused
  · cases place with
    | refreshRevokeFamily userId => cases hreturns
    | _ => cases hreused

theorem Breach.step {userId : String} (hnumbered : Numbered s)
    (hstep : Steps (program service) s event t) (h : Breach service db0 s userId) :
    Breach service db0 t userId := by
  have hcalled : ∀ {i : Nat} {call : Call}, Called s i call → Called t i call :=
    fun h => h.step hnumbered hstep
  cases h with
  | signedOut asked => exact .signedOut (hcalled asked)
  | shownAgain stored owner again hash refused other shows apart =>
    obtain ⟨row', hrow', -, huser, hhash, -⟩ := (rule service).moves hstep _ stored
    exact .shownAgain hrow' (huser.trans owner) (hcalled again) (hash.trans hhash.symm)
      (lost_step hstep refused) (hcalled other) (shows.of_keys huser hhash) apart
  | shownLate stored owner revoked late hash refused =>
    exact .shownLate stored owner revoked (hcalled late) hash (lost_step hstep refused)

/-- A `refresh` at this place has yet to ask whether its token is active. -/
def Waiting : Place → Prop
  | .refreshFindToken _ _ | .refreshRevokeIfActive _ _ => True
  | _ => False

theorem waiting_of_goes {place next : Place} {draw : Draw}
    (hrun : (run service place draw db).2 = .goes next) (h : Waiting next) : Waiting place := by
  have hanswers := run_answers service place draw db
  rw [hrun] at hanswers
  cases hanswers with
  | tokenFound => trivial
  | playerCreated issued | playerFound issued | ownerFound issued =>
    obtain ⟨_, _, rfl, -⟩ := issueTokens_goes issued
    exact h.elim
  | _ => exact h.elim

/-- The call with the number has asked, if it ever does. -/
structure Past (s : AuthState) (number : Nat) : Prop where
  given : number < s.started
  place : ∀ a, s.active.get number = some a → ¬Waiting a.place

theorem Past.step (hstep : Steps (program service) s event t) {number : Nat} (h : Past s number) :
    Past t number := by
  cases hstep with
  | called =>
    refine ⟨Nat.lt_succ_of_lt h.given, fun b hget => ?_⟩
    rcases get_proceed hget with ⟨-, hold⟩ | ⟨heq, -⟩
    · exact h.place b hold
    · exact absurd heq (Nat.ne_of_lt h.given)
  | @operated i draw a store next get hrun =>
    refine ⟨(started_proceed _ _ _ _ _).symm ▸ h.given, fun b hget => ?_⟩
    rcases get_proceed hget with ⟨-, hold⟩ | ⟨rfl, place, rfl, rfl⟩
    · exact h.place b hold
    · intro hwaiting
      exact h.place a get (waiting_of_goes (congrArg Prod.snd hrun) hwaiting)
  | rejected =>
    refine ⟨(started_proceed _ _ _ _ _).symm ▸ h.given, fun b hget => ?_⟩
    rcases get_proceed hget with ⟨-, hold⟩ | ⟨-, place, hgoes, -⟩
    · exact h.place b hold
    · cases hgoes

theorem Past.of_ran (hended : EndedOnce s) {number : Nat} {a : InProgress Call Place}
    (get : s.active.get number = some a) (store : AuthDb) {next : Next Place Reply Failure}
    (hasked : ∀ place, next = .goes place → ¬Waiting place) :
    Past (s.proceed number a.call store next) number := by
  refine ⟨(started_proceed _ _ _ _ _).symm ▸ hended.numbered number a get, fun b hget => ?_⟩
  rcases get_proceed hget with ⟨hne, -⟩ | ⟨-, place, hgoes, rfl⟩
  · exact absurd rfl hne
  · exact hasked place hgoes

/-- A `refresh` that is told of reuse will not succeed. -/
theorem lost_of_reused (hended : EndedOnce s) {number : Nat} {a : InProgress Call Place}
    (get : s.active.get number = some a) (store : AuthDb) (userId : String) :
    Lost Place.reused number
      (s.proceed number a.call store (.goes (.refreshRevokeFamily userId))) := by
  refine ⟨hended.proceed get _ _, hended.numbered number a get, fun b hget => ?_,
    fun call result hmem => hended.apart number a get _ hmem rfl⟩
  rcases get_proceed hget with ⟨hne, -⟩ | ⟨-, place, hgoes, rfl⟩
  · exact absurd rfl hne
  · cases hgoes
    trivial

/-- The operation at this place revokes the row. -/
def Revokes : Place → RefreshTokenEntity → Prop
  | .refreshRevokeIfActive stored _, row => row.id = stored.id
  | .refreshRevokeFamily userId, row => row.userId = userId
  | .logoutRevoke id, row => row.id = id
  | .logoutAllRevoke userId, row => row.userId = userId
  | _, _ => False

theorem revokes_or_mem_revokeWhere {place : Place} {selected : RefreshTokenEntity → Bool}
    {now : Int} (hselected : ∀ old, selected old = true → Revokes place { old with revokedAt := some now })
    {row : RefreshTokenEntity} (hrow : row ∈ (revokeWhere db selected now).refreshTokens.rows) :
    Revokes place row ∨ row ∈ db.refreshTokens.rows := by
  obtain ⟨old, hold, rfl⟩ := mem_revokeWhere.mp hrow
  split
  next h => exact Or.inl (hselected old h)
  next => exact Or.inr hold

/-- A row that is revoked after an operation was so before, or the operation revokes it. -/
theorem revokes_or_mem {place : Place} {draw : Draw} {row : RefreshTokenEntity}
    (hrow : row ∈ (run service place draw db).1.refreshTokens.rows) (hrevoked : row.revokedAt ≠ none) :
    Revokes place row ∨ row ∈ db.refreshTokens.rows := by
  have hwrite : ∀ {result : Except Failure AuthDb} {next : Next Place Reply Failure},
      row ∈ (write db result next).1.refreshTokens.rows →
      (∀ db', result = .ok db' → row ∈ db'.refreshTokens.rows →
        Revokes place row ∨ row ∈ db.refreshTokens.rows) →
      Revokes place row ∨ row ∈ db.refreshTokens.rows := by
    intro result next hmem hok
    cases result with
    | ok db' => exact hok db' rfl hmem
    | error failure => exact Or.inr hmem
  cases place with
  | registerCreateUser email username passwordHash =>
    exact hwrite hrow fun db' h hmem => Or.inr (createUser_tokens h ▸ hmem)
  | registerCreatePlayer user =>
    exact hwrite hrow fun db' h hmem => Or.inr (createPlayer_tokens h ▸ hmem)
  | issueCreateToken userId accessToken refresh account =>
    refine hwrite hrow fun db' h hmem => ?_
    rw [createToken_ok h, List.mem_append, List.mem_singleton] at hmem
    rcases hmem with hold | rfl
    · exact Or.inr hold
    · exact absurd rfl hrevoked
  | refreshRevokeIfActive stored payload =>
    refine revokes_or_mem_revokeWhere (fun old hselected => ?_) hrow
    have hold : old.id = stored.id := of_decide_eq_true (Bool.and_eq_true_iff.mp hselected).1
    exact hold
  | refreshRevokeFamily userId =>
    refine revokes_or_mem_revokeWhere (fun old hselected => ?_) hrow
    have hold : old.userId = userId := of_decide_eq_true (Bool.and_eq_true_iff.mp hselected).1
    exact hold
  | logoutRevoke id =>
    refine hwrite hrow fun db' h hmem => ?_
    unfold revoke at h
    split at h <;> cases h
    refine revokes_or_mem_revokeWhere (fun old hselected => ?_) hmem
    have hold : old.id = id := of_decide_eq_true hselected
    exact hold
  | logoutAllRevoke userId =>
    refine revokes_or_mem_revokeWhere (fun old hselected => ?_) hrow
    have hold : old.userId = userId := of_decide_eq_true (Bool.and_eq_true_iff.mp hselected).1
    exact hold
  | _ => exact Or.inr hrow

/-- A `refresh` is told of reuse when the row of its token is revoked. -/
theorem revoked_of_reused {stored : RefreshTokenEntity} {payload : RefreshTokenPayload}
    {draw : Draw} {userId : String} {row : RefreshTokenEntity}
    (hrow : row ∈ db.refreshTokens.rows) (hid : row.id = stored.id)
    (h : (run service (.refreshRevokeIfActive stored payload) draw db).2 =
      .goes (.refreshRevokeFamily userId)) : row.revokedAt ≠ none := by
  intro hactive
  have hrevokes := revokeIfActive_of_active draw.now hrow hactive
  rw [hid] at hrevokes
  simp only [run, hrevokes] at h
  cases h

/-- A call that signs out does so for the user and the token it names. -/
def Meant (service : TokenService) (call : Call) (place : Place) (db : AuthDb) : Prop :=
  match place with
  | .logoutFindToken userId refreshToken => call = .logout userId refreshToken
  | .logoutRevoke id => ∃ row ∈ db.refreshTokens.rows, row.id = id ∧ Shows service row call
  | .logoutAllRevoke userId => call = .logoutAll userId
  | _ => True

theorem Meant.mono {call : Call} {place : Place} (hgrows : Grows db db')
    (h : Meant service call place db) : Meant service call place db' := by
  cases place with
  | logoutRevoke id =>
    obtain ⟨row, hrow, hid, hshows⟩ := h
    obtain ⟨row', hrow', hid', huser, hhash, -⟩ := hgrows row hrow
    exact ⟨row', hrow', hid'.trans hid, hshows.of_keys huser hhash⟩
  | _ => exact h

theorem opens_meant {call : Call} {draw : Draw} {place : Place}
    (h : opens service call draw = .goes place) : Meant service call place db := by
  cases call with
  | refresh refreshToken =>
    simp only [opens] at h
    split at h <;> cases h
    trivial
  | logout userId refreshToken =>
    cases h
    exact rfl
  | logoutAll userId =>
    cases h
    exact rfl
  | _ =>
    cases h
    trivial

theorem Meant.ran {call : Call} {place next : Place} {draw : Draw}
    (h : Meant service call place db) (hrun : (run service place draw db).2 = .goes next) :
    Meant service call next (run service place draw db).1 := by
  have hgrows := grows_run service place draw db
  have hanswers := run_answers service place draw db
  rw [hrun] at hanswers
  apply Meant.mono hgrows
  cases hanswers with
  | playerCreated issued | playerFound issued | ownerFound issued =>
    obtain ⟨_, _, rfl, -⟩ := issueTokens_goes issued
    trivial
  | @logoutFound userId refreshToken id =>
    obtain ⟨stored, hfound, rfl, hplace⟩ := checkLogout_goes hrun
    cases hplace
    obtain ⟨hstored, hhash⟩ := UniqueTable.findUnique_eq_some _ hfound
    cases (h : call = _)
    exact ⟨stored, hstored, rfl, .logout hhash.symm⟩
  | _ => trivial

theorem meant_rule (service : TokenService) :
    Rule (program service) Grows (fun _ _ => True) (Meant service) where
  refl := Grows.refl
  trans _ _ _ := Grows.trans
  mono _ _ _ _ hgrows h := h.mono hgrows
  grows := grows_run service
  opened _ _ _ _ _ := ⟨fun _ => trivial, fun _ hgoes => opens_meant hgoes⟩
  ran _ _ _ _ _ _ h := ⟨fun _ => trivial, fun _ hgoes => h.ran hgoes⟩
  rejected _ _ _ _ _ _ := trivial

/-- Why the row is revoked. A call that showed its token is past asking. -/
inductive Cause (service : TokenService) (db0 : AuthDb) (s : AuthState)
    (row : RefreshTokenEntity) : Prop
  | before {old} (stored : old ∈ db0.refreshTokens.rows) (id : old.id = row.id)
      (revoked : old.revokedAt ≠ none)
  | shown {number call} (called : Called s number call) (shows : Shows service row call)
      (past : Past s number)
  | breach (breach : Breach service db0 s row.userId)

theorem Cause.step {row : RefreshTokenEntity} (hnumbered : Numbered s)
    (hstep : Steps (program service) s event t) (h : Cause service db0 s row) :
    Cause service db0 t row := by
  cases h with
  | before stored id revoked => exact .before stored id revoked
  | shown called shows past => exact .shown (called.step hnumbered hstep) shows (past.step hstep)
  | breach breach => exact .breach (breach.step hnumbered hstep)

/-- Every revoked row and every revocation of a family that is due has its cause. -/
structure Justified (service : TokenService) (db0 : AuthDb) (s : AuthState) : Prop where
  endedOnce : EndedOnce s
  held : Held Grows (Linked service) (Knows service) db0 s
  meant : Held Grows (fun _ _ => True) (Meant service) db0 s
  rows : ∀ row ∈ s.store.refreshTokens.rows, row.revokedAt ≠ none → Cause service db0 s row
  families : ∀ i a userId, s.active.get i = some a → a.place = .refreshRevokeFamily userId →
    Breach service db0 s userId

/-- The row as it is now has the keys and the user it had. -/
theorem same_keys (hgrows : Grows db db') {old row : RefreshTokenEntity}
    (hold : old ∈ db.refreshTokens.rows) (hrow : row ∈ db'.refreshTokens.rows)
    (hid : old.id = row.id) : row.userId = old.userId ∧ row.tokenHash = old.tokenHash := by
  obtain ⟨row', hrow', hid', huser, hhash, -⟩ := hgrows old hold
  cases eq_of_id hrow' hrow (hid'.trans hid)
  exact ⟨huser, hhash⟩

/-- A `refresh` that finds its token revoked meets the trace of an earlier use. -/
theorem Justified.breach (h : Justified service db0 s) {number : Nat} {a : InProgress Call Place}
    (get : s.active.get number = some a) {stored : RefreshTokenEntity}
    {payload : RefreshTokenPayload} (hplace : a.place = .refreshRevokeIfActive stored payload)
    {draw : Draw} {store : AuthDb} {userId : String}
    (hrun : run service a.place draw s.store = (store, .goes (.refreshRevokeFamily userId))) :
    Breach service db0 (s.proceed number a.call store (.goes (.refreshRevokeFamily userId)))
      stored.userId := by
  have hstep : Steps (program service) s (.operation number draw)
      (s.proceed number a.call store (.goes (.refreshRevokeFamily userId))) := .operated get hrun
  have hreused : (run service a.place draw s.store).2 = .goes (.refreshRevokeFamily userId) :=
    congrArg Prod.snd hrun
  have hknows := h.held.locally_ number a get
  rw [hplace] at hknows hreused
  obtain ⟨huser, token, hcall, row, hrow, hid, howner, hhash⟩ := hknows
  have hcalled : Called (s.proceed number a.call store (.goes (.refreshRevokeFamily userId)))
      number (.refresh token) :=
    hcall ▸ Called.step h.endedOnce.numbered hstep (Or.inl ⟨a.place, get⟩)
  have howned : row.userId = stored.userId := howner.trans huser.symm
  have hlost := lost_of_reused h.endedOnce get store userId
  cases h.rows row hrow (revoked_of_reused hrow hid hreused) with
  | @before old hold hsame hrevoked =>
    obtain ⟨hsameUser, hsameHash⟩ := same_keys h.held.reached hold hrow hsame
    exact .shownLate hold (hsameUser.symm.trans howned) hrevoked hcalled
      (hhash.symm.trans hsameHash) hlost
  | @shown other call hother hshows hpast =>
    obtain ⟨row', hrow', -, huser', hhash', -⟩ := (rule service).moves hstep row hrow
    refine .shownAgain hrow' (huser'.trans howned) hcalled (hhash'.trans hhash).symm hlost
      (hother.step h.endedOnce.numbered hstep) (hshows.of_keys huser' hhash') ?_
    -- this call has not asked yet, the other one has
    rintro rfl
    refine hpast.place a get ?_
    rw [hplace]
    trivial
  | breach hbreach => exact howned ▸ hbreach.step h.endedOnce.numbered hstep

/-- What an operation revokes, it revokes for a cause. -/
theorem Justified.cause (h : Justified service db0 s) {number : Nat} {a : InProgress Call Place}
    {draw : Draw} {store : AuthDb} {next : Next Place Reply Failure}
    (get : s.active.get number = some a) (hrun : run service a.place draw s.store = (store, next))
    {row : RefreshTokenEntity} (hrow : row ∈ store.refreshTokens.rows)
    (hrevokes : Revokes a.place row) :
    Cause service db0 (s.proceed number a.call store next) row := by
  have hstep : Steps (program service) s (.operation number draw)
      (s.proceed number a.call store next) := .operated get hrun
  have hgrows : Grows s.store store := by
    have hmoves := (rule service).moves hstep
    rwa [store_proceed] at hmoves
  have hcalled : Called (s.proceed number a.call store next) number a.call :=
    Called.step h.endedOnce.numbered hstep (Or.inl ⟨a.place, get⟩)
  have hnext : (run service a.place draw s.store).2 = next := congrArg Prod.snd hrun
  have hshown : Shows service row a.call → (∀ place, next = .goes place → ¬Waiting place) →
      Cause service db0 (s.proceed number a.call store next) row :=
    fun hshows hasked => .shown hcalled hshows (.of_ran h.endedOnce get store hasked)
  have hanswers := run_answers service a.place draw s.store
  rw [hnext] at hanswers
  have hknows := h.held.locally_ number a get
  have hmeant := h.meant.locally_ number a get
  obtain ⟨call, place⟩ := a
  cases place with
  | refreshRevokeIfActive stored payload =>
    obtain ⟨-, token, hcall, old, hold, hid, -, hhash⟩ := hknows
    cases (hcall : call = .refresh token)
    obtain ⟨-, hsame⟩ := same_keys hgrows hold hrow (hid.trans (hrevokes : row.id = _).symm)
    refine hshown (.refresh (hhash.symm.trans hsame.symm)) fun place hgoes => ?_
    subst hgoes
    cases hanswers with
    | reused | revoked => exact id
  | refreshRevokeFamily userId =>
    have hbreach := (h.families number _ userId get rfl).step h.endedOnce.numbered hstep
    exact .breach ((hrevokes : row.userId = userId) ▸ hbreach)
  | logoutRevoke id =>
    obtain ⟨old, hold, hid, hshows⟩ := hmeant
    obtain ⟨huser, hhash⟩ := same_keys hgrows hold hrow (hid.trans (hrevokes : row.id = _).symm)
    refine hshown (hshows.of_keys huser hhash) fun place hgoes => ?_
    subst hgoes
    cases hanswers
  | logoutAllRevoke userId =>
    cases (hmeant : call = .logoutAll userId)
    cases (hrevokes : row.userId = userId)
    exact .breach (.signedOut hcalled)
  | _ => exact hrevokes.elim

theorem Justified.step (h : Justified service db0 s)
    (hstep : Steps (program service) s event t) : Justified service db0 t where
  endedOnce := h.endedOnce.step hstep
  held := h.held.step (rule service) hstep
  meant := h.meant.step (meant_rule service) hstep
  rows := by
    intro row hrow hrevoked
    have hold : row ∈ s.store.refreshTokens.rows → Cause service db0 t row :=
      fun hmem => (h.rows row hmem hrevoked).step h.endedOnce.numbered hstep
    cases hstep with
    | called => exact hold (by simpa only [store_proceed] using hrow)
    | @operated number draw a store next get hrun =>
      rw [store_proceed] at hrow
      have hstore : (run service a.place draw s.store).1 = store := congrArg Prod.fst hrun
      rcases revokes_or_mem (hstore ▸ hrow) hrevoked with hrevokes | hmem
      · exact h.cause get hrun hrow hrevokes
      · exact hold hmem
    | rejected => exact hold (by simpa only [store_proceed] using hrow)
  families := by
    intro i b userId hget hplace
    have hold : s.active.get i = some b → Breach service db0 t userId :=
      fun hmem => (h.families i b userId hmem hplace).step h.endedOnce.numbered hstep
    cases hstep with
    | @called call draw =>
      rcases get_proceed hget with ⟨-, hmem⟩ | ⟨-, place, hgoes, rfl⟩
      · exact hold hmem
      · cases hplace
        cases call with
        | refresh refreshToken =>
          simp only [program, opens] at hgoes
          split at hgoes <;> cases hgoes
        | _ => cases hgoes
    | @operated number draw a store next get hrun =>
      rcases get_proceed hget with ⟨-, hmem⟩ | ⟨-, place, hgoes, rfl⟩
      · exact hold hmem
      · subst hgoes
        cases hplace
        have hnext : (run service a.place draw s.store).2 = _ := congrArg Prod.snd hrun
        have hanswers := run_answers service a.place draw s.store
        rw [hnext] at hanswers
        obtain ⟨call, place⟩ := a
        cases hanswers with
        | reused => exact h.breach get rfl hrun
        | playerCreated issued | playerFound issued | ownerFound issued =>
          obtain ⟨_, _, hissued, -⟩ := issueTokens_goes issued
          cases hissued
    | rejected =>
      rcases get_proceed hget with ⟨-, hmem⟩ | ⟨-, place, hgoes, -⟩
      · exact hold hmem
      · cases hgoes

theorem justified_start (service : TokenService) (db : AuthDb) :
    Justified service db (start db) where
  endedOnce := (endedOnce_along (program service) db []).head
  held := ⟨Grows.refl db, linked_nil db, fun _ _ hget => by cases hget⟩
  meant := ⟨Grows.refl db, trivial, fun _ _ hget => by cases hget⟩
  rows row hrow hrevoked := .before hrow rfl hrevoked
  families _ _ _ hget := by cases hget

/-- In every run, a token is revoked only if it was so at the start, a call of the run
showed it, or its user's sessions were breached; and a `refresh` revokes all tokens of a
user only after such a breach. -/
theorem revoked_for_cause (service : TokenService) (db : AuthDb) (events : List AuthEvent)
    {s : AuthState} (hexec : (machine (program service)).exec (start db) events = some s) :
    (∀ row ∈ s.store.refreshTokens.rows, row.revokedAt ≠ none →
      (∃ old ∈ db.refreshTokens.rows, old.id = row.id ∧ old.revokedAt ≠ none) ∨
        (∃ number call, Called s number call ∧ Shows service row call) ∨
        Breach service db s row.userId) ∧
      ∀ number a userId, s.active.get number = some a → a.place = .refreshRevokeFamily userId →
        Breach service db s userId := by
  have h : Justified service db s :=
    Machine.exec_invariant (fun _ _ _ h hstep => h.step (step_cases hstep))
      (justified_start service db) hexec
  refine ⟨fun row hrow hrevoked => ?_, h.families⟩
  cases h.rows row hrow hrevoked with
  | before stored id revoked => exact Or.inl ⟨_, stored, id, revoked⟩
  | shown called shows => exact Or.inr (Or.inl ⟨_, _, called, shows⟩)
  | breach breach => exact Or.inr (Or.inr breach)

/-- The token is rotated, and shown again. -/
def rotatedTwice : List AuthEvent :=
  [.call (.refresh "u1-a") draw, .operation 0 draw, .operation 0 draw, .operation 0 draw,
    .operation 0 draw, .call (.refresh "u1-a") draw, .operation 1 draw, .operation 1 draw,
    .operation 1 draw]

/-- The successor of the token, as the second call leaves it. -/
def successor : RefreshTokenEntity := ⟨"t2", "u1", "hash-u1-b", 604800000, some 0⟩

/-- The successor is revoked too, although nobody has shown it. -/
theorem successor_revoked_for_cause : ∃ s,
    (machine (program plainService)).exec (start oneToken) rotatedTwice = some s ∧
      successor ∈ s.store.refreshTokens.rows ∧ Breach plainService oneToken s "u1" := by
  obtain ⟨s, hexec, hrow⟩ : ∃ s,
      (machine (program plainService)).exec (start oneToken) rotatedTwice = some s ∧
        successor ∈ s.store.refreshTokens.rows :=
    ⟨_, rfl, List.mem_cons_of_mem _ (List.mem_singleton_self _)⟩
  refine ⟨s, hexec, hrow, ?_⟩
  rcases (revoked_for_cause plainService oneToken rotatedTwice hexec).1 successor hrow (by decide)
    with ⟨old, hold, hid, -⟩ | ⟨number, call, hcalled, hshows⟩ | hbreach
  · cases List.mem_singleton.mp hold
    exact absurd hid (by decide)
  · have hissued := List.mem_of_getElem? (hcalled.issued hexec)
    have hcalls : issued rotatedTwice = [.refresh "u1-a", .refresh "u1-a"] := rfl
    rw [hcalls, List.mem_pair, or_self] at hissued
    subst hissued
    cases hshows with
    | refresh hash => exact absurd hash (by decide)
  · exact hbreach

end RealtimeGameServer.Guarantees.SessionEnds
