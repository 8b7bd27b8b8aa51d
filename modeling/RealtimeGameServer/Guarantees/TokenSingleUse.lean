import RealtimeGameServer.Guarantees.RevocationClosure
import RealtimeGameServer.Lib.Grants
import RealtimeGameServer.Source.AuthOwnership

/-!
# Refresh tokens are used once and stay with their user

The conditional update of `revokeIfActive` is the only operation that grants a
rotation: it finds the row active and leaves it revoked, and rows stay revoked.
So a token is rotated at most once, whatever the order of the repository calls,
and a `refresh` whose `revokeIfActive` finds the row revoked does not succeed.
Every operation changes rows of the user its call is made as only.
-/
namespace RealtimeGameServer.Guarantees.TokenSingleUse
open Lib Calls Source Source.Auth

abbrev AuthState := State AuthDb Call Place Reply Failure

abbrev AuthEvent := Calls.Event Call Draw Failure

variable {service : TokenService}

/-- The row with the hash is revoked. -/
def RevokedHash (tokenHash : String) (db : AuthDb) : Prop :=
  ∃ row ∈ db.refreshTokens.rows, row.tokenHash = tokenHash ∧ row.revokedAt ≠ none

/-- A `refresh` past its `revokeIfActive` has a grant for its token, and spends it
by succeeding. -/
def rotations (service : TokenService) : Grants AuthDb Call Place Reply Failure String where
  granted call place := match call with
    | .refresh token => place.rotating.map fun _ => service.hashToken token
    | _ => none
  spent call result := match call, result with
    | .refresh token, .ok _ => some (service.hashToken token)
    | _, _ => none
  taken := RevokedHash

/-- The hashes of the tokens that were the basis of a successful `refresh`, in the
order in which these ended. -/
def refreshed (service : TokenService) (s : AuthState) : List String :=
  (rotations service).ledger s.ended

/-- Every token of `s` that is revoked is there and revoked in `t`. -/
def StaysRevoked (s t : AuthState) : Prop := ∀ row ∈ s.store.refreshTokens.rows,
  row.revokedAt ≠ none → ∃ row' ∈ t.store.refreshTokens.rows,
    row'.id = row.id ∧ row'.tokenHash = row.tokenHash ∧ row'.revokedAt ≠ none

/-- The event is the `revokeIfActive` of the call on a token that is revoked. -/
def RevokesLate (s : AuthState) (event : AuthEvent) (number : Nat) : Prop :=
  ∃ draw a stored payload, event = .operation number draw ∧ s.active.get number = some a ∧
    a.place = .refreshRevokeIfActive stored payload ∧
    ∃ row ∈ s.store.refreshTokens.rows, row.id = stored.id ∧ row.revokedAt ≠ none

/-- The call has succeeded. -/
def Succeeded (s : AuthState) (number : Nat) : Prop :=
  ∃ call reply, (number, call, .ok reply) ∈ s.ended

/-- The step is an operation of a call made as the user. -/
def StepMadeAs (signedFor : String → String) (s t : AuthState) (event : AuthEvent)
    (userId : String) : Prop :=
  ∃ number draw a, event = .operation number draw ∧ s.active.get number = some a ∧
    MadeAs signedFor t.store a.call userId

/-- A step changes rows of the user its call is made as, and of nobody else. -/
structure Isolated (signedFor : String → String) (s t : AuthState) (event : AuthEvent) : Prop where
  changed : ∀ userId, rowsOf t.store userId ≠ rowsOf s.store userId →
    StepMadeAs signedFor s t event userId
  others : ∀ userId other, StepMadeAs signedFor s t event userId → other ≠ userId →
    rowsOf t.store other = rowsOf s.store other

theorem RevokedHash.mono {tokenHash : String} {db db' : AuthDb} (hgrows : Grows db db')
    (h : RevokedHash tokenHash db) : RevokedHash tokenHash db' := by
  obtain ⟨row, hrow, hhash, hrevoked⟩ := h
  obtain ⟨row', hrow', -, -, hhash', hrevoked'⟩ := hgrows row hrow
  exact ⟨row', hrow', hhash'.trans hhash, hrevoked' hrevoked⟩

/-- A granted key is that of the token the call refreshes. -/
theorem granted_eq_some {call : Call} {place : Place} {key : String}
    (h : (rotations service).granted call place = some key) :
    ∃ token user, call = .refresh token ∧ place.rotating = some user ∧
      key = service.hashToken token := by
  cases call with
  | refresh token =>
    obtain ⟨user, hrotating, rfl⟩ := Option.map_eq_some_iff.mp h
    exact ⟨token, user, rfl, hrotating, rfl⟩
  | _ => cases h

/-- A `revokeIfActive` that answers true leaves the row it found active revoked. -/
theorem revokes_active {db : AuthDb} {id : String} {now : Int} {row : RefreshTokenEntity}
    (hrow : row ∈ db.refreshTokens.rows) (hid : row.id = id)
    (hactive : (revokeIfActive db id now).2 = true) :
    ¬RevokedHash row.tokenHash db ∧ RevokedHash row.tokenHash (revokeIfActive db id now).1 := by
  obtain ⟨found, hfound, hfoundid, hnone⟩ := revokeIfActive_true hactive
  have heq : found = row := eq_of_id hfound hrow (hfoundid.trans hid.symm)
  subst heq
  constructor
  · intro hrevoked
    obtain ⟨other, hother, hhash, hset⟩ := hrevoked
    rw [eq_of_tokenHash hother hfound hhash] at hset
    exact hset hnone
  · refine ⟨{ found with revokedAt := some now }, mem_revokeWhere.mpr ⟨found, hfound, ?_⟩, rfl, nofun⟩
    simp [hid, hnone]

theorem rotations_lawful (service : TokenService) :
    (rotations service).Lawful (program service) Grows (Knows service) where
  kept _ _ _ hgrows h := h.mono hgrows
  opens call draw place h := by
    cases hgranted : (rotations service).granted call place with
    | none => rfl
    | some key =>
      obtain ⟨token, user, rfl, hrotating, -⟩ := granted_eq_some hgranted
      simp only [program, Auth.opens] at h
      split at h <;> cases h
      cases hrotating
  opensSpent call draw result h := by
    cases call with
    | refresh token =>
      simp only [program, Auth.opens] at h
      split at h <;> cases h
    | _ => cases h
  throws call reason := by
    cases call <;> rfl
  goes call place draw db next key hknows hrun hgranted := by
    obtain ⟨token, user, rfl, hrotating, rfl⟩ := granted_eq_some hgranted
    rcases run_goes_rotating hrun hrotating with hbefore | ⟨stored, payload, rfl, -, hactive⟩
    · exact Or.inl (by simp [rotations, hbefore])
    · obtain ⟨-, token', hcall, row, hrow, hid, -, hhash⟩ := hknows
      cases hcall
      exact Or.inr (hhash ▸ revokes_active hrow hid hactive)
  returns call place draw db result key hknows hrun hspent := by
    cases call with
    | refresh token =>
      cases hspent
      cases place with
      | refreshFindToken refreshToken payload =>
        simp only [program, Auth.run] at hrun
        cases hfound : findByTokenHash db (service.hashToken refreshToken) with
        | none =>
          rw [hfound] at hrun
          cases hrun
        | some stored =>
          simp only [hfound, checkStored] at hrun
          split at hrun
          next => cases hrun
          next => split at hrun <;> cases hrun
      | refreshRevokeIfActive stored payload =>
        simp only [program, Auth.run] at hrun
        split at hrun <;> cases hrun
      | refreshRevokeFamily userId => cases hrun
      | refreshFindPlayer payload => rfl
      | issueCreateToken userId accessToken refresh account =>
        cases account with
        | none => rfl
        | some account => exact absurd rfl (hknows.2 token)
      | _ => exact absurd rfl (hknows token)
    | _ => cases hspent

/-- The places from which a `refresh` is told of reuse. -/
def Place.reused : Place → Prop
  | .refreshRevokeFamily _ => True
  | _ => False

/-- After its `revokeIfActive` has found the token revoked, a `refresh` only
revokes the family and throws. -/
theorem late_not_succeeded {s t u : AuthState} {event : AuthEvent} {number : Nat}
    (hended : EndedOnce s) (hlate : RevokesLate s event number)
    (hstep : (machine (program service)).step s event = some t) {after : List AuthEvent}
    (hafter : (machine (program service)).exec t after = some u) : ¬Succeeded u number := by
  obtain ⟨draw, a, stored, payload, rfl, hget, hplace, row, hrow, hid, hrevoked⟩ := hlate
  have hlost : Lost Place.reused number t := by
    have hinactive : (revokeIfActive s.store stored.id draw.now).2 ≠ true := by
      intro hactive
      obtain ⟨found, hfound, hfoundid, hnone⟩ := revokeIfActive_true hactive
      rw [eq_of_id hrow hfound (hid.trans hfoundid.symm)] at hrevoked
      exact hrevoked hnone
    have hnext : (run service a.place draw s.store).2 = .goes (.refreshRevokeFamily stored.userId) := by
      rw [hplace]
      simp [run, hinactive]
    have hcases := step_cases hstep
    cases hcases with
    | @operated _ _ b store next get hrun =>
      cases get.symm.trans hget
      cases (congrArg Prod.snd hrun).symm.trans hnext
      constructor
      case endedOnce => exact hended.proceed get _ _
      case given =>
        rw [started_proceed]
        exact hended.numbered number a get
      case active =>
        intro b hb
        rcases get_proceed hb with ⟨hne, -⟩ | ⟨-, place, hgoes, rfl⟩
        · exact absurd rfl hne
        · cases hgoes
          trivial
      case ended =>
        intro call result hmem
        rw [ended_proceed, Next.log, List.append_nil] at hmem
        exact hended.apart number a get _ hmem rfl
  have hkept : ∀ s event t, Lost Place.reused number s →
      (machine (program service)).step s event = some t → Lost Place.reused number t := by
    intro s event t h hs
    refine h.step ?_ ?_ (step_cases hs)
    · intro place draw db next hreused hgoes
      cases place with
      | refreshRevokeFamily userId => cases hgoes
      | _ => cases hreused
    · intro place draw db result hreused hreturns
      cases place with
      | refreshRevokeFamily userId => cases hreturns
      | _ => cases hreused
  intro hsucceeded
  obtain ⟨call, reply, hmem⟩ := hsucceeded
  exact (Machine.exec_invariant hkept hlost hafter).ended call reply hmem

variable {signedFor : String → String}

theorem isolated_of_step {base : AuthDb} {s t : AuthState} {event : AuthEvent}
    (h : Held Extends (fun _ _ => True) (Acts signedFor) base s)
    (hstep : (machine (program service)).step s event = some t) :
    Isolated signedFor s t event := by
  have hchanged : ∀ userId, rowsOf t.store userId ≠ rowsOf s.store userId →
      StepMadeAs signedFor s t event userId := by
    intro userId hne
    have hcases := step_cases hstep
    cases hcases with
    | called => simp [store_proceed] at hne
    | @operated number draw a store next get hrun =>
      have hstore : (run service a.place draw s.store).1 = store := congrArg Prod.fst hrun
      refine ⟨number, draw, a, rfl, get, ?_⟩
      rw [store_proceed] at hne ⊢
      by_contra hother
      exact hne (hstore ▸ rowsOf_run (h.locally_ number a get) (hstore ▸ hother))
    | rejected => simp [store_proceed] at hne
  constructor
  case changed => exact hchanged
  case others =>
    intro userId other hmade hne
    by_contra hdiffer
    obtain ⟨number, draw, a, rfl, hget, hmade⟩ := hmade
    obtain ⟨number', draw', a', hevent, hget', hmade'⟩ := hchanged other hdiffer
    cases hevent
    cases hget.symm.trans hget'
    exact hne (hmade'.unique hmade)

/-- In every state of every run each refresh token was the basis of at most one
successful `refresh`, a revoked token stays revoked, a `refresh` whose
`revokeIfActive` finds its token revoked never succeeds, and a step changes rows
of the user its call is made as only. -/
theorem refresh_single_use (service : TokenService) (signedFor : String → String)
    (hverifies : Verifies service signedFor) (db : AuthDb) (before : List AuthEvent)
    (s : AuthState) (hbefore : (machine (program service)).exec (start db) before = some s) :
    (refreshed service s).Nodup ∧
      (∀ after t, (machine (program service)).exec s after = some t → StaysRevoked s t) ∧
      ∀ event t, (machine (program service)).step s event = some t →
        Isolated signedFor s t event ∧
          ∀ number, RevokesLate s event number → ∀ after u,
            (machine (program service)).exec t after = some u → ¬Succeeded u number := by
  have honce := (Grants.along_once (rotations_lawful service) (rule service)
    (linked_nil db) before).last hbefore
  have hacts := (along_of_rule (acts_rule hverifies) trivial before).last hbefore
  have hended := (endedOnce_along (program service) db before).last hbefore
  refine ⟨honce.once, ?_, ?_⟩
  · intro after t hafter row hrow hrevoked
    have hheld : Held Grows (Linked service) (Knows service) s.store s :=
      ((along_of_rule (rule service) (linked_nil db) before).last hbefore).rebase (rule service)
    have hreached := Machine.exec_invariant
      (fun _ _ _ h hstep => h.step (rule service) (step_cases hstep)) hheld hafter
    obtain ⟨row', hrow', hid, -, hhash, hset⟩ := hreached.reached row hrow
    exact ⟨row', hrow', hid, hhash, hset hrevoked⟩
  · intro event t hstep
    constructor
    · exact isolated_of_step hacts hstep
    · intro number hlate after u hafter
      exact late_not_succeeded hended hlate hstep hafter

/-- Two refreshes of one token overlap: the first rotates it, the second is told of
reuse. -/
def overlapping : List RevocationClosure.AuthEvent :=
  let draw := RevocationClosure.draw
  [.call (.refresh "u1-a") draw, .call (.refresh "u1-a") draw, .operation 0 draw, .operation 1 draw,
    .operation 0 draw, .operation 1 draw, .operation 0 draw, .operation 0 draw]

theorem overlapping_single_use : ∃ s,
    (machine (program RevocationClosure.plainService)).exec (start RevocationClosure.oneToken)
      overlapping = some s ∧ (refreshed RevocationClosure.plainService s).Nodup := by
  have hverifies : Verifies RevocationClosure.plainService fun _ => "u1" := by
    intro token now payload h
    obtain ⟨hpayload, -⟩ := Option.filter_eq_some_iff.mp h
    obtain ⟨jti, -, hjti⟩ := List.exists_of_findSome?_eq_some hpayload
    split at hjti <;> cases hjti
    rfl
  have hrun : ∃ s, (machine (program RevocationClosure.plainService)).exec
      (start RevocationClosure.oneToken) overlapping = some s := ⟨_, rfl⟩
  obtain ⟨s, hs⟩ := hrun
  exact ⟨s, hs, (refresh_single_use RevocationClosure.plainService (fun _ => "u1") hverifies
    RevocationClosure.oneToken overlapping s hs).1⟩

end RealtimeGameServer.Guarantees.TokenSingleUse
