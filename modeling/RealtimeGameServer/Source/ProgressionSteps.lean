import RealtimeGameServer.Source.Progression

/-!
# What a transaction on players leaves at its commit

What a call of Progression knows at each place (`Knows`): the effects it has
collected and what the locks it holds protect. From that `commit_cases` says what a
commit can do: the read of `addExperience` changes nothing, `create` adds a player
with one leaderboard row, and `addExperience` sets the progress of a player and of
its row. Everything proved about runs cites these three cases.
-/
namespace RealtimeGameServer.Source.Progression
open Lib ReadCommitted

theorem get_setProgress (db : ProgressionDb) (playerId : String) (experience level : Int)
    (id : String) : (apply db (.setProgress playerId experience level)).players.get id =
      if id = playerId then (db.players.get id).map (withProgress experience level)
      else db.players.get id := by
  simp only [apply]
  cases hget : db.players.get playerId with
  | none =>
    dsimp only
    split
    next heq => rw [heq, hget, Option.map_none]
    next => rfl
  | some player =>
    dsimp only
    rw [JsMap.get_set]
    split
    next heq => rw [heq, hget, Option.map_some]
    next => rfl

theorem entriesOf_insertEntry (db : ProgressionDb) (entry : LeaderboardEntry) (id : String) :
    entriesOf (apply db (.insertEntry entry)) id =
      entriesOf db id ++ if entry.playerId = id then [entry] else [] := by
  simp only [entriesOf, apply, List.filter_append, List.filter_cons, List.filter_nil,
    decide_eq_true_eq]

theorem entriesOf_setEntry (db : ProgressionDb) (playerId username : String)
    (experience level : Int) (id : String) :
    entriesOf (apply db (.setEntry playerId username experience level)) id =
      (entriesOf db id).map fun entry =>
        if entry.playerId = playerId then { entry with username, experience, level } else entry := by
  simp only [entriesOf, apply, List.filter_map]
  congr 1
  refine List.filter_congr fun entry _ => ?_
  dsimp only [Function.comp_apply]
  split <;> rfl

/-- The rows of other players stay. -/
theorem entriesOf_setEntry_of_ne (db : ProgressionDb) {playerId id : String} (hne : id ≠ playerId)
    (username : String) (experience level : Int) :
    entriesOf (apply db (.setEntry playerId username experience level)) id = entriesOf db id := by
  rw [entriesOf_setEntry]
  refine (List.map_congr_left fun entry hentry => ?_).trans (List.map_id _)
  have hid : entry.playerId = id := of_decide_eq_true (List.mem_filter.mp hentry).2
  exact if_neg fun heq => hne (hid.symm.trans heq)

/-- The lock an effect needs. -/
def touches : Effect → Lock
  | .insertPlayer player => .playerId player.id
  | .insertInventory inventory => .inventoryOf inventory.playerId
  | .insertEntry entry => .entryOf entry.playerId
  | .setProgress playerId _ _ => .playerId playerId
  | .setEntry playerId _ _ _ => .entryOf playerId

/-- What a lock protects: the row of a player, or the leaderboard rows of one. -/
def part : Lock → ProgressionDb → Option PlayerProfile × List LeaderboardEntry
  | .playerId id, db => (db.players.get id, [])
  | .entryOf playerId, db => (none, entriesOf db playerId)
  | _, _ => (none, [])

theorem part_apply {db : ProgressionDb} {effect : Effect} {lock : Lock}
    (hne : touches effect ≠ lock) : part lock (apply db effect) = part lock db := by
  cases lock with
  | playerId id =>
    refine Prod.ext ?_ rfl
    cases effect with
    | insertPlayer player =>
      exact JsMap.get_set_of_ne _ (fun heq => hne (congrArg Lock.playerId heq.symm)) _
    | setProgress playerId experience level =>
      exact (get_setProgress _ _ _ _ _).trans
        (if_neg fun heq => hne (congrArg Lock.playerId heq.symm))
    | _ => rfl
  | entryOf id =>
    refine Prod.ext rfl ?_
    cases effect with
    | insertEntry entry =>
      have hother : entry.playerId ≠ id := fun heq => hne (congrArg Lock.entryOf heq)
      refine (entriesOf_insertEntry _ _ _).trans ?_
      rw [if_neg hother, List.append_nil]
      rfl
    | setEntry playerId username experience level =>
      exact entriesOf_setEntry_of_ne _ (fun heq => hne (congrArg Lock.entryOf heq.symm)) _ _ _
    | _ => rfl
  | _ => rfl

theorem run_locks {pc : Pc} {db : ProgressionDb} {effects : List Effect} {next : Pc}
    (h : run pc db = .continues effects next) :
    ∀ effect ∈ effects, touches effect ∈ needs pc db := by
  intro effect heffect
  cases run_continues h with
  | found | stays => cases heffect
  | updated get =>
    rw [List.mem_singleton.mp heffect]
    simp [needs, touches, JsMap.has, get]
  | _ =>
    rw [List.mem_singleton.mp heffect]
    simp [needs, touches, newInventory, newEntry, upsertedEntry]

theorem guarded (opens : Call → Except Failure Pc) : Guarded (protocol opens) touches part where
  frame _ _ _ hne := part_apply hne
  locked _ _ _ _ hrun := run_locks hrun

def IsNew (call : Call) (player : PlayerProfile) (ids : PlayerIds) : Prop :=
  ∃ input, call = .create input ids ∧ player = newPlayer input ids

/-- The call has locked an id that no player has. -/
def NewId (a : Active Effect Lock Call Pc) (db : ProgressionDb) (id : String) : Prop :=
  .playerId id ∈ a.held ∧ db.players.get id = none

/-- The call has locked a player without a leaderboard row. -/
def Unlisted (a : Active Effect Lock Call Pc) (db : ProgressionDb) (playerId : String) : Prop :=
  .entryOf playerId ∈ a.held ∧ entriesOf db playerId = []

def progress (grant : Grant) (current : PlayerProfile) : Effect :=
  .setProgress grant.playerId (grantedExperience grant current) (grantedLevel grant current)

/-- The second write of `addExperience`. -/
inductive EntryWrite (a : Active Effect Lock Call Pc) (db : ProgressionDb) (grant : Grant)
    (current : PlayerProfile) : Effect → Prop
  | updates (username : String) : EntryWrite a db grant current
      (.setEntry grant.playerId username (grantedExperience grant current)
        (grantedLevel grant current))
  | creates (updated : PlayerProfile) (absent : Unlisted a db grant.playerId) :
      EntryWrite a db grant current (.insertEntry (upsertedEntry grant current updated))

def Knows (a : Active Effect Lock Call Pc) (db : ProgressionDb) : Prop :=
  match a.pc with
  | .insertPlayer player ids => a.pending = [] ∧ IsNew a.call player ids
  | .insertInventory player ids =>
    a.pending = [.insertPlayer player] ∧ IsNew a.call player ids ∧ NewId a db player.id
  | .insertEntry player ids =>
    a.pending = [.insertPlayer player, .insertInventory (newInventory player ids)] ∧
      IsNew a.call player ids ∧ NewId a db player.id
  | .created player => ∃ ids,
    a.pending = [.insertPlayer player, .insertInventory (newInventory player ids),
        .insertEntry (newEntry player ids)] ∧
      IsNew a.call player ids ∧ NewId a db player.id ∧ Unlisted a db player.id
  | .findUnique grant => a.pending = [] ∧ a.call = .addExperience grant
  | .found grant _ => a.pending = [] ∧ a.call = .addExperience grant
  | .updatePlayer grant _ => a.pending = [] ∧ a.call = .addExperience grant
  | .upsertEntry grant current _ =>
    a.pending = [progress grant current] ∧ a.call = .addExperience grant
  | .granted grant current _ => ∃ write,
    a.pending = [progress grant current, write] ∧ a.call = .addExperience grant ∧
      EntryWrite a db grant current write

theorem NewId.more {call call' : Call} {pc pc' : Pc} {pending pending' : List Effect}
    {held : List Lock} {db : ProgressionDb} {id : String}
    (h : NewId ⟨call, pc, pending, held⟩ db id) (more : List Lock) :
    NewId ⟨call', pc', pending', held ++ more⟩ db id :=
  ⟨List.mem_append_left _ h.1, h.2⟩

/-- A statement brings a call to its next place with what it knows there. -/
theorem Knows.ran {opens : Call → Except Failure Pc} {db : ProgressionDb}
    {a : Active Effect Lock Call Pc} {effects : List Effect} {next : Pc} (h : Knows a db)
    (hrun : run a.pc ((protocol opens).view a db) = .continues effects next) :
    Knows ⟨a.call, next, a.pending ++ effects,
      a.held ++ needs a.pc ((protocol opens).view a db)⟩ db := by
  obtain ⟨call, pc, pending, held⟩ := a
  have hcontinues := run_continues hrun
  cases pc with
  | insertPlayer player ids =>
    obtain ⟨rfl, hnew⟩ := h
    cases hcontinues with
    | insertedPlayer absent =>
      exact ⟨rfl, hnew, List.mem_append_right _ (by simp [needs]), absent⟩
    | stays hcommits => exact absurd rfl hcommits
  | insertInventory player ids =>
    obtain ⟨rfl, hnew, hid⟩ := h
    cases hcontinues with
    | insertedInventory => exact ⟨rfl, hnew, hid.more _⟩
    | stays hcommits => exact absurd rfl hcommits
  | insertEntry player ids =>
    obtain ⟨rfl, hnew, hid⟩ := h
    cases hcontinues with
    | insertedEntry absent =>
      exact ⟨ids, rfl, hnew, hid.more _, List.mem_append_right _ (by simp [needs]), absent⟩
    | stays hcommits => exact absurd rfl hcommits
  | findUnique grant =>
    obtain ⟨rfl, hcall⟩ := h
    cases hcontinues with
    | found => exact ⟨rfl, hcall⟩
    | stays hcommits => exact absurd rfl hcommits
  | updatePlayer grant current =>
    obtain ⟨rfl, hcall⟩ := h
    cases hcontinues with
    | updated => exact ⟨rfl, hcall⟩
    | stays hcommits => exact absurd rfl hcommits
  | upsertEntry grant current updated =>
    obtain ⟨rfl, hcall⟩ := h
    cases hcontinues with
    | entryUpdated => exact ⟨_, rfl, hcall, .updates _⟩
    | entryCreated absent =>
      exact ⟨_, rfl, hcall, .creates _ ⟨List.mem_append_right _ (by simp [needs]), absent⟩⟩
    | stays hcommits => exact absurd rfl hcommits
  | created player =>
    obtain ⟨ids, hpending, hnew, hid, hlisted⟩ := h
    cases hcontinues
    exact ⟨ids, (List.append_nil _).trans hpending, hnew, hid.more _,
      List.mem_append_left _ hlisted.1, hlisted.2⟩
  | found grant current =>
    obtain ⟨rfl, hcall⟩ := h
    cases hcontinues
    exact ⟨rfl, hcall⟩
  | granted grant current updated =>
    obtain ⟨write, hpending, hcall, hwrite⟩ := h
    cases hcontinues
    refine ⟨write, (List.append_nil _).trans hpending, hcall, ?_⟩
    cases hwrite with
    | updates username => exact .updates username
    | creates updated absent => exact .creates updated ⟨List.mem_append_left _ absent.1, absent.2⟩

/-- What a call knows survives the commits of others, which touch none of its locks. -/
theorem Knows.frame {a : Active Effect Lock Call Pc} {db db' : ProgressionDb}
    (hparts : ∀ lock ∈ a.held, part lock db' = part lock db) (h : Knows a db) : Knows a db' := by
  obtain ⟨call, pc, pending, held⟩ := a
  have hid : ∀ id, NewId ⟨call, pc, pending, held⟩ db id → NewId ⟨call, pc, pending, held⟩ db' id :=
    fun id hnew => ⟨hnew.1, (congrArg Prod.fst (hparts _ hnew.1)).trans hnew.2⟩
  have hlisted : ∀ id, Unlisted ⟨call, pc, pending, held⟩ db id →
      Unlisted ⟨call, pc, pending, held⟩ db' id :=
    fun id hnone => ⟨hnone.1, (congrArg Prod.snd (hparts _ hnone.1)).trans hnone.2⟩
  cases pc with
  | insertInventory player ids => exact ⟨h.1, h.2.1, hid _ h.2.2⟩
  | insertEntry player ids => exact ⟨h.1, h.2.1, hid _ h.2.2⟩
  | created player =>
    obtain ⟨ids, hpending, hnew, hfresh, hnone⟩ := h
    exact ⟨ids, hpending, hnew, hid _ hfresh, hlisted _ hnone⟩
  | granted grant current updated =>
    obtain ⟨write, hpending, hcall, hwrite⟩ := h
    refine ⟨write, hpending, hcall, ?_⟩
    cases hwrite with
    | updates username => exact .updates username
    | creates updated absent => exact .creates updated (hlisted _ absent)
  | _ => exact h

/-- The rule for either check before the first statement. -/
theorem rule {first : Call → Except Failure Pc}
    (hfirst : ∀ call pc, first call = .ok pc → opens call = .ok pc) :
    Rule (protocol first) part (fun _ _ => True) Knows fun _ _ => True where
  frame _ _ _ hparts h := h.frame hparts
  opened := by
    intro call pc db hopens
    have hplain : opens call = .ok pc := hfirst call pc hopens
    cases call with
    | create input ids =>
      cases hplain
      exact ⟨rfl, input, rfl, rfl⟩
    | addExperience grant =>
      cases hplain
      exact ⟨rfl, rfl⟩
  ran _ _ _ _ _ _ h _ hrun := h.ran hrun
  proceeded := by
    rintro ⟨call, pc, pending, held⟩ db log next - h hfollow
    cases pc <;> cases hfollow
    exact ⟨trivial, rfl, h.2⟩
  returned _ _ _ _ _ _ _ _ := trivial

/-- A new player at the start, with one leaderboard row that says so. -/
structure Created (db db' : ProgressionDb) (player : PlayerProfile) : Prop where
  absent : db.players.get player.id = none
  experience : player.experience = 0
  level : player.level = 1
  players : ∀ id, db'.players.get id = if id = player.id then some player else db.players.get id
  entries : ∀ id, id ≠ player.id → entriesOf db' id = entriesOf db id
  entry : ∃ entry, entriesOf db' player.id = [entry] ∧ entry.experience = 0 ∧ entry.level = 1

/-- The progress of a player and of its leaderboard row, if it has one, is what
`addExperience` computed from the player it had read. -/
structure Granted (db db' : ProgressionDb) (grant : Grant) (current : PlayerProfile) : Prop where
  players : ∀ id, db'.players.get id =
    if id = grant.playerId then
      (db.players.get id).map
        (withProgress (grantedExperience grant current) (grantedLevel grant current))
    else db.players.get id
  entries : ∀ id, id ≠ grant.playerId → entriesOf db' id = entriesOf db id
  entry : ∀ old, entriesOf db grant.playerId = [old] → ∃ entry,
    entriesOf db' grant.playerId = [entry] ∧
      entry.experience = grantedExperience grant current ∧ entry.level = grantedLevel grant current

theorem created_commit {a : Active Effect Lock Call Pc} {db : ProgressionDb} {ids : PlayerIds}
    {player : PlayerProfile} (hnew : IsNew a.call player ids) (hid : NewId a db player.id)
    (hlisted : Unlisted a db player.id) :
    Created db (apply (apply (apply db (.insertPlayer player))
      (.insertInventory (newInventory player ids))) (.insertEntry (newEntry player ids)))
      player := by
  have hentries : ∀ id, entriesOf (apply (apply (apply db (.insertPlayer player))
      (.insertInventory (newInventory player ids))) (.insertEntry (newEntry player ids))) id =
        entriesOf db id ++ if player.id = id then [newEntry player ids] else [] :=
    fun id => entriesOf_insertEntry _ _ _
  obtain ⟨input, -, hplayer⟩ := hnew
  constructor
  case absent => exact hid.2
  case experience => exact hplayer ▸ rfl
  case level => exact hplayer ▸ rfl
  case players => exact fun id => JsMap.get_set _ _ _ _
  case entries =>
    intro id hne
    rw [hentries, if_neg hne.symm, List.append_nil]
  case entry =>
    refine ⟨newEntry player ids, ?_, rfl, rfl⟩
    rw [hentries, hlisted.2, if_pos rfl, List.nil_append]

theorem granted_commit {a : Active Effect Lock Call Pc} {db : ProgressionDb} {grant : Grant}
    {current : PlayerProfile} {write : Effect} (hwrite : EntryWrite a db grant current write) :
    Granted db (apply (apply db (progress grant current)) write) grant current := by
  cases hwrite with
  | updates username =>
    constructor
    case players => exact get_setProgress _ _ _ _
    case entries => exact fun id hne => entriesOf_setEntry_of_ne _ hne _ _ _
    case entry =>
      intro old hold
      have hmem : old ∈ entriesOf db grant.playerId := hold ▸ List.mem_singleton_self old
      have hid : old.playerId = grant.playerId := of_decide_eq_true (List.mem_filter.mp hmem).2
      have hsame : entriesOf (apply db (progress grant current)) grant.playerId = [old] := hold
      refine ⟨_, (entriesOf_setEntry _ _ _ _ _ _).trans (congrArg _ hsame), ?_, ?_⟩ <;>
        simp [hid]
  | creates updated absent =>
    constructor
    case players => exact get_setProgress _ _ _ _
    case entries =>
      intro id hne
      have hother : (upsertedEntry grant current updated).playerId ≠ id := hne.symm
      refine (entriesOf_insertEntry _ _ _).trans ?_
      rw [if_neg hother, List.append_nil]
      rfl
    case entry =>
      intro old hold
      cases absent.2.symm.trans hold

/-- Everything a commit can do. -/
theorem commit_cases (opens : Call → Except Failure Pc) {a : Active Effect Lock Call Pc}
    {db : ProgressionDb} (h : Knows a db) (hfollow : follow a.pc ≠ .statement) :
    (∃ grant current, a.pc = .found grant current ∧ (protocol opens).view a db = db) ∨
    (∃ player, a.pc = .created player ∧ (∃ input ids, a.call = .create input ids) ∧
      Created db ((protocol opens).view a db) player) ∨
    (∃ grant current updated, a.pc = .granted grant current updated ∧
      a.call = .addExperience grant ∧ Granted db ((protocol opens).view a db) grant current) := by
  obtain ⟨call, pc, pending, held⟩ := a
  cases pc with
  | found grant current =>
    obtain ⟨rfl, -⟩ := h
    exact Or.inl ⟨grant, current, rfl, rfl⟩
  | created player =>
    obtain ⟨ids, rfl, hnew, hid, hlisted⟩ := h
    refine Or.inr (Or.inl ⟨player, rfl, ?_, created_commit hnew hid hlisted⟩)
    obtain ⟨input, hcall, -⟩ := hnew
    exact ⟨input, ids, hcall⟩
  | granted grant current updated =>
    obtain ⟨write, rfl, hcall, hwrite⟩ := h
    exact Or.inr (Or.inr ⟨grant, current, updated, rfl, hcall, granted_commit hwrite⟩)
  | _ => exact absurd rfl hfollow

end RealtimeGameServer.Source.Progression
