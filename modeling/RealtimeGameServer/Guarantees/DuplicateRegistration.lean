import RealtimeGameServer.Guarantees.RegisterAtomicity

/-!
# Registrations that compete for an address or a name

`register` looks for the email and the username before it hashes the password, and the
unique indices of `users` are checked again by the insert. In runs of `register` where
nothing fails but what finds a duplicate, there is never more than one account for an
email or a username, and every account has its player. A call that creates no account
has written nothing; it rejects with a conflict if and only if its insert, if it gets
there, still finds both free: a call that is beaten to it rejects with the error of the
database instead.
-/
namespace RealtimeGameServer.Guarantees.DuplicateRegistration
open Lib Calls Source Auth
open RevocationClosure (AuthState AuthEvent plainService)
open RegisterAtomicity (noAccounts ace drawn)

abbrev Ended := Nat × Call × Except Failure Reply

/-- The rows of all tables. -/
def tables (db : AuthDb) : List UserEntity × List PlayerProfile × List PlayerInventory ×
    List LeaderboardEntry × List RefreshTokenEntity :=
  (db.users.rows, db.players.rows, db.inventories.rows, db.leaderboard.rows, db.refreshTokens.rows)

/-- The call whose operation changes a table. -/
def writers (service : TokenService) (s : AuthState) : AuthEvent → List Nat
  | .operation number draw =>
    match s.active.get number with
    | none => []
    | some a =>
      if tables (run service a.place draw s.store).1 = tables s.store then [] else [number]
  | _ => []

/-- The service with the record of who has written. -/
def recorded (service : TokenService) : Machine (AuthState × List Nat) AuthEvent :=
  (machine (program service)).recording (writers service)

def HasPlayer (db : AuthDb) (user : UserEntity) : Prop :=
  ∃ player ∈ db.players.rows, player.userId = user.id

def IsAccountOf (input : RegisterInput) (user : UserEntity) : Prop :=
  user.email = trim (toLowerCase input.email) ∧ user.username = normalizeUsername input.username

def Taken (db : AuthDb) (email username : String) : Prop :=
  ∃ user ∈ db.users.rows, user.email = email ∨ user.username = username

/-- How a registration ends: with an account of its own, or with a conflict and nothing
written. -/
inductive Settled (db : AuthDb) (written : List Nat) : Ended → Prop
  | created {number input} {result : AuthResult} (account : IsAccountOf input result.user)
      (there : result.user ∈ db.users.rows) (wrote : number ∈ written) :
      Settled db written (number, .register input, .ok (.auth result))
  | conflict {number call message} (wroteNothing : number ∉ written) :
      Settled db written (number, call, .error (.app (.conflict message)))

structure CleanConflicts (s : AuthState × List Nat) : Prop where
  emails : ∀ input : RegisterInput, ∀ a ∈ s.1.store.users.rows, ∀ b ∈ s.1.store.users.rows,
    a.email = trim (toLowerCase input.email) → b.email = trim (toLowerCase input.email) → a = b
  usernames : ∀ input : RegisterInput, ∀ a ∈ s.1.store.users.rows, ∀ b ∈ s.1.store.users.rows,
    a.username = normalizeUsername input.username →
      b.username = normalizeUsername input.username → a = b
  players : s.1.active.keys = [] → ∀ user ∈ s.1.store.users.rows, HasPlayer s.1.store user
  settled : ∀ entry ∈ s.1.ended, Settled s.1.store s.2 entry

/-- An operation at the place may find a duplicate. -/
def FindsDuplicate (db : AuthDb) : Place → Prop
  | .registerFindByEmail _ _ _ | .registerFindByUsername _ _ _ => True
  | .registerCreateUser email username _ => Taken db email username
  | _ => False

/-- Only registrations run, and nothing fails but an operation that finds a duplicate. -/
def OnlyDuplicatesFail (service : TokenService) (s : AuthState × List Nat) : AuthEvent → Prop
  | .call call _ => ∃ input, call = .register input
  | .operation number draw => ∀ a failure, s.1.active.get number = some a →
      (run service a.place draw s.1.store).2 = .throws failure → FindsDuplicate s.1.store a.place
  | .reject _ _ => False

/-- An insert of a user finds its email and its username free. -/
def FindsFree (s : AuthState × List Nat) : AuthEvent → Prop
  | .operation number _ => ∀ call email username passwordHash,
      s.1.active.get number = some ⟨call, .registerCreateUser email username passwordHash⟩ →
        ¬Taken s.1.store email username
  | _ => True

/-- What holds of the call number `number`, a registration with this input. -/
def Knows (db : AuthDb) (written : List Nat) (number : Nat) (input : RegisterInput) :
    Place → Prop
  | .registerFindByEmail email username _ | .registerFindByUsername email username _
  | .registerCreateUser email username _ =>
    email = trim (toLowerCase input.email) ∧ username = normalizeUsername input.username ∧
      number ∉ written
  | .registerCreatePlayer user =>
    IsAccountOf input user ∧ user ∈ db.users.rows ∧ number ∈ written
  | .issueCreateToken _ _ _ account => ∃ user player, account = some (user, player) ∧
      IsAccountOf input user ∧ user ∈ db.users.rows ∧ number ∈ written
  | _ => False

structure Sound (s : AuthState × List Nat) : Prop where
  accounted : ∃ calls, Accounted calls s.1
  active : ∀ number a, s.1.active.get number = some a →
    ∃ input, a.call = .register input ∧ Knows s.1.store s.2 number input a.place
  players : ∀ user ∈ s.1.store.users.rows, HasPlayer s.1.store user ∨
    ∃ number call, s.1.active.get number = some ⟨call, .registerCreatePlayer user⟩
  settled : ∀ entry ∈ s.1.ended, Settled s.1.store s.2 entry
  given : ∀ number ∈ s.2, number < s.1.started

theorem Sound.clean {s : AuthState × List Nat} (h : Sound s) : CleanConflicts s where
  emails _ _ ha _ hb hea heb :=
    s.1.store.users.eq_of_key (·.email) (by simp) ha hb (hea.trans heb.symm)
  usernames _ _ ha _ hb hua hub :=
    s.1.store.users.eq_of_key (·.username) (by simp) ha hb (hua.trans hub.symm)
  players := by
    intro idle user huser
    rcases h.players user huser with hplayer | ⟨number, call, hget⟩
    · exact hplayer
    · have hmem : number ∈ s.1.active.keys := (JsMap.mem_keys _ _).mpr ⟨_, hget⟩
      rw [idle] at hmem
      cases hmem
  settled := h.settled

/-- The tables grow, and the only new writer may be the call number `number`. -/
structure Grown (db db' : AuthDb) (written written' : List Nat) (number : Nat) : Prop where
  users : ∀ user ∈ db.users.rows, user ∈ db'.users.rows
  players : ∀ player ∈ db.players.rows, player ∈ db'.players.rows
  wrote : ∀ i ∈ written, i ∈ written'
  others : ∀ i ∈ written', i ∈ written ∨ i = number

section
variable {db db' : AuthDb} {written written' : List Nat} {number : Nat}

theorem HasPlayer.mono (h : Grown db db' written written' number) {user : UserEntity}
    (hplayer : HasPlayer db user) : HasPlayer db' user := by
  obtain ⟨player, hmem, huser⟩ := hplayer
  exact ⟨player, h.players player hmem, huser⟩

theorem Grown.notMem (h : Grown db db' written written' number) {i : Nat} (hne : i ≠ number)
    (hi : i ∉ written) : i ∉ written' :=
  fun hmem => (h.others i hmem).elim hi hne

theorem Knows.mono (h : Grown db db' written written' number) {i : Nat} (hne : i ≠ number)
    {input : RegisterInput} {place : Place} (hknows : Knows db written i input place) :
    Knows db' written' i input place := by
  cases place with
  | registerFindByEmail | registerFindByUsername | registerCreateUser =>
    exact ⟨hknows.1, hknows.2.1, h.notMem hne hknows.2.2⟩
  | registerCreatePlayer user =>
    obtain ⟨haccount, huser, hwritten⟩ := hknows
    exact ⟨haccount, h.users user huser, h.wrote i hwritten⟩
  | issueCreateToken userId accessToken refresh account =>
    obtain ⟨user, player, haccount, hof, huser, hwritten⟩ := hknows
    exact ⟨user, player, haccount, hof, h.users user huser, h.wrote i hwritten⟩
  | _ => exact hknows

theorem Settled.mono (h : Grown db db' written written' number) {entry : Ended}
    (hne : entry.1 ≠ number) (hsettled : Settled db written entry) : Settled db' written' entry := by
  cases hsettled with
  | created account there wrote => exact .created account (h.users _ there) (h.wrote _ wrote)
  | conflict wroteNothing => exact .conflict (h.notMem hne wroteNothing)

end

/-- The call number `number`, which has not ended, gets an answer. -/
theorem Sound.proceed {s : AuthState} {t : AuthState} {written written' : List Nat} {number : Nat}
    {call : Call} {store : AuthDb} {next : Next Place Reply Failure} (h : Sound (s, written))
    (opened : ∀ entry ∈ s.ended, entry.1 ≠ number) (hgrown : Grown s.store store written written' number)
    (hknows : ∀ place, next = .goes place →
      ∃ input, call = .register input ∧ Knows store written' number input place)
    (hplayers : ∀ user ∈ store.users.rows, HasPlayer store user ∨
      next = .goes (.registerCreatePlayer user) ∨ (user ∈ s.store.users.rows ∧
        ∀ call, s.active.get number ≠ some ⟨call, .registerCreatePlayer user⟩))
    (hsettled : ∀ entry ∈ next.log number call, Settled store written' entry)
    (haccounted : ∃ calls, Accounted calls t) (hstore : t.store = store)
    (hactive : t.active = (s.proceed number call store next).active)
    (hended : t.ended = (s.proceed number call store next).ended)
    (hstarted : s.started ≤ t.started) (hnumber : number < t.started) : Sound (t, written') where
  accounted := haccounted
  active := by
    intro i b hget
    dsimp only at hget ⊢
    rw [hactive] at hget
    rw [hstore]
    rcases get_proceed hget with ⟨hne, hold⟩ | ⟨rfl, place, hnext, rfl⟩
    · obtain ⟨input, hcall, hold⟩ := h.active i b hold
      exact ⟨input, hcall, hold.mono hgrown hne⟩
    · exact hknows place hnext
  players := by
    dsimp only
    rw [hstore]
    intro user huser
    have hpending : ∀ i other, s.active.get i = some ⟨other, .registerCreatePlayer user⟩ →
        i ≠ number → ∃ i other, t.active.get i = some ⟨other, .registerCreatePlayer user⟩ := by
      intro i other hget hne
      refine ⟨i, other, ?_⟩
      rw [hactive, get_proceed_of_ne s hne]
      exact hget
    rcases hplayers user huser with hplayer | rfl | ⟨hold, hother⟩
    · exact Or.inl hplayer
    · refine Or.inr ⟨number, call, ?_⟩
      rw [hactive, get_proceed_self]
      rfl
    · rcases h.players user hold with hplayer | ⟨i, other, hget⟩
      · exact Or.inl (hplayer.mono hgrown)
      · refine Or.inr (hpending i other hget fun heq => ?_)
        rw [heq] at hget
        exact hother other hget
  settled := by
    dsimp only
    rw [hstore, hended, ended_proceed]
    intro entry hentry
    rcases List.mem_append.mp hentry with hold | hnew
    · exact (h.settled entry hold).mono hgrown (opened entry hold)
    · exact hsettled entry hnew
  given := by
    intro i hi
    rcases hgrown.others i hi with hold | rfl
    · exact Nat.lt_of_lt_of_le (h.given i hold) hstarted
    · exact hnumber

/-- What a registration does at its place, where only duplicates make it fail and an
insert of a user finds its email and username free. -/
inductive Effect (db : AuthDb) (input : RegisterInput) : Place → AuthDb →
    Next Place Reply Failure → Prop
  | emailTaken {email username password message} : Effect db input
      (.registerFindByEmail email username password) db (.throws (.app (.conflict message)))
  | usernameTaken {email username password message} : Effect db input
      (.registerFindByUsername email username password) db (.throws (.app (.conflict message)))
  | emailFree {email username password} : Effect db input
      (.registerFindByEmail email username password) db
      (.goes (.registerFindByUsername email username password))
  | usernameFree {email username password passwordHash} : Effect db input
      (.registerFindByUsername email username password) db
      (.goes (.registerCreateUser email username passwordHash))
  | userCreated {email username passwordHash user db'} (created : createUser db user = .ok db')
      (of : user.email = email ∧ user.username = username) : Effect db input
      (.registerCreateUser email username passwordHash) db' (.goes (.registerCreatePlayer user))
  | playerCreated {user player inventoryId leaderboardId accessToken refresh db'}
      (created : createPlayer db player inventoryId leaderboardId = .ok db')
      (of : player.userId = user.id) : Effect db input (.registerCreatePlayer user) db'
      (.goes (.issueCreateToken user.id accessToken refresh (some (user, player))))
  | tokenStored {userId accessToken refresh user player row tokens db'}
      (created : createToken db row = .ok db') : Effect db input
      (.issueCreateToken userId accessToken refresh (some (user, player))) db'
      (.returns (.auth ⟨user, player, tokens⟩))

theorem run_effect {service : TokenService} {db : AuthDb} {written : List Nat} {number : Nat}
    {input : RegisterInput} {place : Place} {draw : Draw}
    (hknows : Knows db written number input place)
    (honly : ∀ failure, (run service place draw db).2 = .throws failure → FindsDuplicate db place)
    (hfree : ∀ email username passwordHash,
      place = .registerCreateUser email username passwordHash → ¬Taken db email username) :
    Effect db input place (run service place draw db).1 (run service place draw db).2 := by
  cases place with
  | registerFindByEmail email username password =>
    simp only [run]
    split
    next => exact .emailTaken
    next => exact .emailFree
  | registerFindByUsername email username password =>
    simp only [run]
    split
    next => exact .usernameTaken
    next => exact .usernameFree
  | registerCreateUser email username passwordHash =>
    simp only [run] at honly ⊢
    cases hcreated : createUser db ⟨draw.id, email, username, passwordHash⟩ with
    | error failure =>
      rw [hcreated] at honly
      exact absurd (honly failure rfl) (hfree email username passwordHash rfl)
    | ok db' => exact .userCreated hcreated ⟨rfl, rfl⟩
  | registerCreatePlayer user =>
    rw [run_registerCreatePlayer] at honly ⊢
    cases hcreated : createPlayer db (newPlayer user draw) draw.inventoryId draw.leaderboardId with
    | error failure =>
      rw [hcreated] at honly
      exact (honly failure rfl).elim
    | ok db' =>
      rw [hcreated] at honly
      rcases issueTokens_cases service draw user.id (newPlayer user draw)
          (some (user, newPlayer user draw)) with
        ⟨accessToken, refresh, -, -, hgoes⟩ | ⟨⟨failure, hthrows⟩, -⟩
      · rw [hgoes]
        exact .playerCreated hcreated rfl
      · exact (honly failure hthrows).elim
  | issueCreateToken userId accessToken refresh account =>
    obtain ⟨user, player, rfl, -⟩ := hknows
    simp only [run] at honly ⊢
    cases hcreated : createToken db (issuedRow draw userId refresh) with
    | error failure =>
      rw [hcreated] at honly
      exact (honly failure rfl).elim
    | ok db' => exact .tokenStored hcreated
  | _ => exact hknows.elim

-- What an operation's effect means for what is known; `more` records whether it has
-- written.
section
variable {db db' : AuthDb} {written more : List Nat} {number : Nat} {input : RegisterInput}
  {place : Place} {next : Next Place Reply Failure}

theorem grown_append (users : ∀ user ∈ db.users.rows, user ∈ db'.users.rows)
    (players : ∀ player ∈ db.players.rows, player ∈ db'.players.rows)
    (own : ∀ i ∈ more, i = number) : Grown db db' written (written ++ more) number where
  users := users
  players := players
  wrote _ hi := List.mem_append_left _ hi
  others i hi := (List.mem_append.mp hi).imp_right (own i)

theorem Effect.grown (h : Effect db input place db' next) (own : ∀ i ∈ more, i = number) :
    Grown db db' written (written ++ more) number := by
  cases h with
  | userCreated created =>
    obtain ⟨hrows, hplayers, -⟩ := createUser_ok created
    refine grown_append (fun old hold => ?_) (fun old hold => hplayers ▸ hold) own
    rw [hrows]
    exact List.mem_append_left _ hold
  | playerCreated created =>
    obtain ⟨hrows, husers⟩ := createPlayer_ok created
    refine grown_append (fun old hold => husers ▸ hold) (fun old hold => ?_) own
    rw [hrows]
    exact List.mem_append_left _ hold
  | tokenStored created =>
    obtain ⟨husers, hplayers⟩ := createToken_accounts created
    exact grown_append (fun old hold => husers ▸ hold) (fun old hold => hplayers ▸ hold) own
  | _ => exact grown_append (fun _ huser => huser) (fun _ hplayer => hplayer) own

theorem Effect.knows (h : Effect db input place db' next) (own : ∀ i ∈ more, i = number)
    (same : db' = db → more = []) (changed : tables db' ≠ tables db → more = [number])
    (hknows : Knows db written number input place) {following : Place}
    (hnext : next = .goes following) : Knows db' (written ++ more) number input following := by
  have hgrown : Grown db db' written (written ++ more) number := h.grown own
  cases h with
  | emailTaken | usernameTaken | tokenStored => cases hnext
  | emailFree | usernameFree =>
    cases hnext
    rw [same rfl, List.append_nil]
    exact hknows
  | userCreated created of =>
    cases hnext
    obtain ⟨hemail, husername, -⟩ := hknows
    obtain ⟨hrows, -, -⟩ := createUser_ok created
    have hchanged : more = [number] := by
      refine changed fun heq => ?_
      have hlength := congrArg (fun rows => rows.1.length) heq
      simp [tables, hrows] at hlength
    refine ⟨⟨of.1.trans hemail, of.2.trans husername⟩, ?_, ?_⟩
    · rw [hrows]
      exact List.mem_append_right _ (List.mem_singleton_self _)
    · rw [hchanged]
      exact List.mem_append_right _ (List.mem_singleton_self _)
  | @playerCreated user player =>
    cases hnext
    obtain ⟨haccount, huser, hwrote⟩ := hknows
    exact ⟨user, player, rfl, haccount, hgrown.users user huser, hgrown.wrote number hwrote⟩

/-- A user without a player is one that waits for it, now or before. -/
theorem Effect.players (h : Effect db input place db' next) {user : UserEntity}
    (huser : user ∈ db'.users.rows) : HasPlayer db' user ∨
      next = .goes (.registerCreatePlayer user) ∨
      (user ∈ db.users.rows ∧ place ≠ .registerCreatePlayer user) := by
  cases h with
  | userCreated created =>
    obtain ⟨hrows, -, -⟩ := createUser_ok created
    rw [hrows] at huser
    rcases List.mem_append.mp huser with hold | hnew
    · exact Or.inr (Or.inr ⟨hold, nofun⟩)
    · rw [List.mem_singleton.mp hnew]
      exact Or.inr (Or.inl rfl)
  | @playerCreated created player _ _ _ _ _ inserted of =>
    obtain ⟨hrows, husers⟩ := createPlayer_ok inserted
    rw [husers] at huser
    by_cases heq : user = created
    · subst heq
      refine Or.inl ⟨player, ?_, of⟩
      rw [hrows]
      exact List.mem_append_right _ (List.mem_singleton_self _)
    · refine Or.inr (Or.inr ⟨huser, fun hplace => ?_⟩)
      cases hplace
      exact heq rfl
  | tokenStored created =>
    rw [(createToken_accounts created).1] at huser
    exact Or.inr (Or.inr ⟨huser, nofun⟩)
  | _ => exact Or.inr (Or.inr ⟨huser, nofun⟩)

theorem Effect.settled (h : Effect db input place db' next) (own : ∀ i ∈ more, i = number)
    (same : db' = db → more = []) (hknows : Knows db written number input place) :
    ∀ entry ∈ next.log number (.register input), Settled db' (written ++ more) entry := by
  have hgrown : Grown db db' written (written ++ more) number := h.grown own
  intro entry hentry
  cases h with
  | emailTaken | usernameTaken =>
    cases List.mem_singleton.mp hentry
    rw [same rfl, List.append_nil]
    exact .conflict hknows.2.2
  | emailFree | usernameFree | userCreated | playerCreated => cases hentry
  | tokenStored created =>
    cases List.mem_singleton.mp hentry
    obtain ⟨user', player', haccount', haccount, huser, hwrote⟩ := hknows
    cases haccount'
    exact .created haccount (hgrown.users _ huser) (hgrown.wrote number hwrote)

end

/-- Only the call whose operation it is may be recorded for it. -/
theorem mem_writers {service : TokenService} {s : AuthState} {number : Nat} {draw : Draw} {i : Nat}
    (h : i ∈ writers service s (.operation number draw)) : i = number := by
  simp only [writers] at h
  split at h
  next => cases h
  next =>
    split at h
    next => cases h
    next => exact List.mem_singleton.mp h

theorem Sound.step {service : TokenService} {s t : AuthState × List Nat} {event : AuthEvent}
    (h : Sound s) (hdomain : OnlyDuplicatesFail service s event) (hfree : FindsFree s event)
    (hstep : (recorded service).step s event = some t) : Sound t := by
  obtain ⟨s, written⟩ := s
  obtain ⟨t, written'⟩ := t
  obtain ⟨hmachine, hwritten⟩ := Machine.recording_step hstep
  dsimp only at hmachine hwritten
  subst hwritten
  obtain ⟨calls, hcalls⟩ := h.accounted
  have haccounted : ∃ calls, Accounted calls t := ⟨_, hcalls.step (step_cases hmachine)⟩
  cases step_cases hmachine with
  | @called call draw =>
    obtain ⟨input, rfl⟩ := hdomain
    have hunwritten : s.started ∉ written := fun hmem => Nat.lt_irrefl _ (h.given _ hmem)
    have hgrown : Grown s.store s.store written written s.started :=
      ⟨fun _ huser => huser, fun _ hplayer => hplayer, fun _ hi => hi, fun _ hi => Or.inl hi⟩
    have hopened : (program service).opens (.register input) draw =
        .goes (.registerFindByEmail (trim (toLowerCase input.email))
          (normalizeUsername input.username) input.password) := rfl
    have hnone : writers service s (.call (.register input) draw) = [] := rfl
    rw [hnone, List.append_nil]
    rw [hopened] at haccounted ⊢
    refine h.proceed (fun entry hentry => Nat.ne_of_lt (hcalls.lt_of_ended hentry)) hgrown
      ?_ ?_ ?_ haccounted (store_proceed _ _ _ _ _) rfl rfl (Nat.le_succ _) (Nat.lt_succ_self _)
    · intro place hplace
      cases hplace
      exact ⟨input, rfl, rfl, rfl, hunwritten⟩
    · refine fun user huser => Or.inr (Or.inr ⟨huser, fun call hget => ?_⟩)
      exact Nat.lt_irrefl _ (hcalls.lt_of_active hget)
    · intro entry hentry
      cases hentry
  | @operated number draw a store next get hrun =>
    obtain ⟨call, place⟩ := a
    obtain ⟨input, hcall, hknows⟩ := h.active number _ get
    dsimp only at hcall hknows
    subst hcall
    have hstore : (run service place draw s.store).1 = store := congrArg Prod.fst hrun
    have hnext : (run service place draw s.store).2 = next := congrArg Prod.snd hrun
    have heffect := run_effect hknows (hdomain _ · get)
      (fun email username passwordHash hplace => hfree _ email username passwordHash (hplace ▸ get))
    rw [hstore, hnext] at heffect
    have hown : ∀ i ∈ writers service s (.operation number draw), i = number := fun _ => mem_writers
    have hsame : store = s.store → writers service s (.operation number draw) = [] := by
      intro heq
      simp only [writers, get, hstore, heq, if_true]
    have hchanged : tables store ≠ tables s.store →
        writers service s (.operation number draw) = [number] := by
      intro hne
      simp only [writers, get, hstore, if_neg hne]
    refine h.proceed (hcalls.active number _ get).2 (heffect.grown hown) ?_ ?_
      (heffect.settled hown hsame hknows) haccounted (store_proceed _ _ _ _ _) rfl rfl ?_ ?_
    · intro following hgoes
      exact ⟨input, rfl, heffect.knows hown hsame hchanged hknows hgoes⟩
    · intro user huser
      refine (heffect.players huser).imp_right (Or.imp_right fun ⟨hold, hplace⟩ => ⟨hold, ?_⟩)
      intro call hget
      cases get.symm.trans hget
      exact hplace rfl
    · exact (started_proceed _ _ _ _ _).symm ▸ Nat.le_refl _
    · exact (started_proceed _ _ _ _ _).symm ▸ hcalls.lt_of_active get
  | rejected => exact hdomain.elim

/-- An insert of a user that finds its email or username taken ends its call with the
error of the database, which is no conflict. -/
theorem findsFree_of_clean {service : TokenService} {s t : AuthState × List Nat}
    {event : AuthEvent} (hstep : (recorded service).step s event = some t)
    (hclean : CleanConflicts t) : FindsFree s event := by
  obtain ⟨s, written⟩ := s
  obtain ⟨t, written'⟩ := t
  obtain ⟨hmachine, -⟩ := Machine.recording_step hstep
  cases event with
  | call | reject => trivial
  | operation number draw =>
    rintro call email username passwordHash hget ⟨user, huser, htaken⟩
    have hrefused : run service (.registerCreateUser email username passwordHash) draw s.store =
        (s.store, .throws .uniqueViolation) := by
      simp only [run]
      cases hcreated : createUser s.store ⟨draw.id, email, username, passwordHash⟩ with
      | ok db' =>
        obtain ⟨-, -, hfresh⟩ := createUser_ok hcreated
        rcases htaken with hemail | husername
        · exact absurd hemail (hfresh user huser).1
        · exact absurd husername (hfresh user huser).2
      | error failure =>
        have hunique : failure = .uniqueViolation := by
          unfold createUser at hcreated
          split at hcreated <;> cases hcreated
          rfl
        rw [hunique]
        rfl
    cases step_cases hmachine with
    | @operated _ _ a store next get hrun =>
      cases hget.symm.trans get
      cases hrefused.symm.trans hrun
      have hlast := hclean.settled (number, call, .error .uniqueViolation)
        (List.mem_append_right _ (List.mem_singleton_self _))
      cases hlast

/-- In every run of registrations in which nothing fails but what finds a duplicate, from
tables in which every account has its player: there is one account at most for an email
and for a username, every account has its player, and every call that has created no
account has rejected with a conflict and has written nothing, if and only if every insert
of a user finds its email and its username free. -/
theorem duplicate_conflicts_iff (service : TokenService) (db : AuthDb)
    (hplayers : ∀ user ∈ db.users.rows, HasPlayer db user) (events : List AuthEvent)
    (hduplicates : (recorded service).StepsMeet (OnlyDuplicatesFail service) (start db, []) events) :
    (recorded service).Along CleanConflicts (start db, []) events ↔
      (recorded service).StepsMeet FindsFree (start db, []) events := by
  have hstart : Sound ((start db, []) : AuthState × List Nat) := by
    constructor
    case accounted => exact ⟨[], accounted_start db⟩
    case active => exact fun number a hget => by cases hget
    case players => exact fun user huser => Or.inl (hplayers user huser)
    case settled => exact fun entry hentry => by cases hentry
    case given => exact fun number hmem => by cases hmem
  exact Machine.along_iff_stepsMeet_within (I := Sound) (fun _ h => h.clean)
    (fun _ _ _ h hdomain hstep hfree => h.step hdomain hfree hstep)
    (fun _ _ _ _ _ hstep hclean => findsFree_of_clean hstep hclean) hduplicates hstart

/-- Two registrations look for one address before either inserts its user. -/
def overtaken : List AuthEvent :=
  [.call (.register ace) drawn, .call (.register ace) drawn, .operation 0 drawn,
    .operation 0 drawn, .operation 1 drawn, .operation 1 drawn, .operation 0 drawn,
    .operation 1 drawn]

theorem onlyDuplicatesFail_of_goes {service : TokenService} {s : AuthState × List Nat}
    {number : Nat} {draw : Draw} {call : Call} {place next : Place}
    (get : s.1.active.get number = some ⟨call, place⟩)
    (goes : (run service place draw s.1.store).2 = .goes next) :
    OnlyDuplicatesFail service s (.operation number draw) := by
  intro a failure hget hthrows
  cases get.symm.trans hget
  cases goes.symm.trans hthrows

theorem overtaken_duplicates :
    (recorded plainService).StepsMeet (OnlyDuplicatesFail plainService) (start noAccounts, [])
      overtaken := by
  have hgoes := fun s number => @onlyDuplicatesFail_of_goes plainService s number drawn
  refine .cons rfl ⟨_, rfl⟩ (.cons rfl ⟨_, rfl⟩ (.cons rfl (hgoes _ _ rfl rfl)
    (.cons rfl (hgoes _ _ rfl rfl) (.cons rfl (hgoes _ _ rfl rfl) (.cons rfl (hgoes _ _ rfl rfl)
      (.cons rfl (hgoes _ _ rfl rfl) (.cons rfl ?_ trivial)))))))
  rintro a failure ⟨⟩ -
  exact ⟨_, List.mem_singleton_self _, Or.inl rfl⟩

/-- The second one rejects with the error of the database. -/
theorem overtaken_no_conflict : ¬∀ (service : TokenService) (db : AuthDb),
    (∀ user ∈ db.users.rows, HasPlayer db user) → ∀ events : List AuthEvent,
      (recorded service).StepsMeet (OnlyDuplicatesFail service) (start db, []) events →
        (recorded service).Along CleanConflicts (start db, []) events := by
  intro h
  have hclean := h plainService noAccounts nofun overtaken overtaken_duplicates
  have hexec : ∃ s, (recorded plainService).exec (start noAccounts, []) overtaken = some s ∧
      (1, Call.register ace, Except.error .uniqueViolation) ∈ s.1.ended :=
    ⟨_, rfl, List.mem_singleton_self _⟩
  obtain ⟨s, hs, hended⟩ := hexec
  cases (hclean.last hs).settled _ hended

/-- One registration after the other. -/
def inTurn : List AuthEvent :=
  [.call (.register ace) drawn, .operation 0 drawn, .operation 0 drawn, .operation 0 drawn,
    .operation 0 drawn, .operation 0 drawn, .call (.register ace) drawn, .operation 1 drawn]

theorem in_turn_conflict : (recorded plainService).Along CleanConflicts (start noAccounts, []) inTurn := by
  have hgoes := fun s number => @onlyDuplicatesFail_of_goes plainService s number drawn
  refine (duplicate_conflicts_iff plainService noAccounts nofun inTurn ?_).mpr ?_
  · refine .cons rfl ⟨_, rfl⟩ (.cons rfl (hgoes _ _ rfl rfl) (.cons rfl (hgoes _ _ rfl rfl)
      (.cons rfl (hgoes _ _ rfl rfl) (.cons rfl (hgoes _ _ rfl rfl) (.cons rfl ?_
        (.cons rfl ⟨_, rfl⟩ (.cons rfl ?_ trivial)))))))
    · rintro a failure ⟨⟩ hthrows
      cases hthrows
    · rintro a failure ⟨⟩ -
      trivial
  · refine .cons rfl trivial (.cons rfl ?_ (.cons rfl ?_ (.cons rfl ?_ (.cons rfl ?_ (.cons rfl ?_
      (.cons rfl trivial (.cons rfl ?_ trivial)))))))
    · rintro _ _ _ _ ⟨⟩
    · rintro _ _ _ _ ⟨⟩
    · rintro _ _ _ _ ⟨⟩ ⟨user, huser, -⟩
      cases huser
    · rintro _ _ _ _ ⟨⟩
    · rintro _ _ _ _ ⟨⟩
    · rintro _ _ _ _ ⟨⟩

end RealtimeGameServer.Guarantees.DuplicateRegistration
