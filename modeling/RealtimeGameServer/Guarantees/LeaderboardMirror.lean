import RealtimeGameServer.Source.ProgressionSteps

/-!
# The leaderboard mirrors the players

Experience and level are computed outside the transaction that writes them, from a
read that may be stale. Both rows are written from the same numbers and stay locked
until the commit, so whatever was read, every committed state has for each player
one leaderboard row with its experience and its level, and the level is the one of
the experience.
-/
namespace RealtimeGameServer.Guarantees.LeaderboardMirror
open Lib ReadCommitted Source Source.Progression

/-- The leaderboard rows of a player are one row that says the same. -/
structure Mirrored (player : PlayerProfile) (entries : List LeaderboardEntry) : Prop where
  level : player.level = levelFromExperience player.experience
  entry : ∃ entry, entries = [entry] ∧
    entry.experience = player.experience ∧ entry.level = player.level

def Mirrors (db : ProgressionDb) : Prop :=
  ∀ id player, db.players.get id = some player → Mirrored player (entriesOf db id)

theorem Mirrors.created {db db' : ProgressionDb} {player : PlayerProfile} (h : Mirrors db)
    (hcreated : Created db db' player) : Mirrors db' := by
  intro id other hget
  rw [hcreated.players] at hget
  split at hget
  next heq =>
    cases hget
    obtain ⟨entry, hentry, hexperience, hlevel⟩ := hcreated.entry
    rw [heq]
    constructor
    case level =>
      rw [hcreated.level, hcreated.experience]
      rfl
    case entry =>
      exact ⟨entry, hentry, hexperience.trans hcreated.experience.symm,
        hlevel.trans hcreated.level.symm⟩
  next hne =>
    rw [hcreated.entries id hne]
    exact h id other hget

theorem Mirrors.granted {db db' : ProgressionDb} {grant : Grant} {current : PlayerProfile}
    (h : Mirrors db) (hgranted : Granted db db' grant current) : Mirrors db' := by
  intro id player hget
  rw [hgranted.players] at hget
  split at hget
  next heq =>
    subst heq
    obtain ⟨before, hbefore, rfl⟩ := Option.map_eq_some_iff.mp hget
    -- the player had one row, which the same transaction has set
    obtain ⟨old, hold, -⟩ := (h _ before hbefore).entry
    obtain ⟨entry, hentry, hexperience, hlevel⟩ := hgranted.entry old hold
    exact ⟨rfl, entry, hentry, hexperience, hlevel⟩
  next hne =>
    rw [hgranted.entries id hne]
    exact h id player hget

theorem Mirrors.commit {a : Active Effect Lock Call Pc} {db : ProgressionDb} (h : Mirrors db)
    (hknows : Knows a db) (hfollow : follow a.pc ≠ .statement) :
    Mirrors (repository.view a db) := by
  rcases commit_cases opens hknows hfollow with ⟨_, _, -, hsame⟩ |
    ⟨player, -, -, hcreated⟩ | ⟨grant, current, _, -, -, hgranted⟩
  · rw [show repository.view a db = db from hsame]
    exact h
  · exact h.created hcreated
  · exact h.granted hgranted

/-- In every interleaving of `create` and `addExperience` calls on any players, every
committed state has for each player exactly one leaderboard row, with the
experience and the level of the player, and the level is
`max 1 (experience / 1000 + 1)`. -/
theorem leaderboard_mirrors (db : ProgressionDb) (hdb : Mirrors db)
    (events : List (ReadCommitted.Event Call Failure)) :
    (machine repository).Along (fun s => Mirrors s.committed) (start db) events := by
  refine along_of_commits (guarded opens) (rule fun _ _ h => h) (G := fun _ _ => True)
    (fun a db' hknows h hfollow _ => h.commit hknows hfollow) hdb events ?_
  apply Machine.StepsMeet.of_labels
  intro event _ s
  cases event <;> simp [CommitOk]

/-- One user, nobody has a player yet. -/
def oneUser : ProgressionDb where
  users := ["u1"]
  players := JsMap.empty
  inventories := JsMap.empty
  leaderboard := []

/-- A player is created, and two grants of which both have read 0 are committed. -/
def createAndGrant : List (ReadCommitted.Event Call Failure) :=
  [.call (.create ⟨"u1", "nova", none⟩ ⟨"p1", "i1", "l1"⟩),
    .statement 0, .statement 0, .statement 0, .commit 0,
    .call (.addExperience ⟨"p1", 1500, "l2"⟩), .call (.addExperience ⟨"p1", 400, "l3"⟩),
    .statement 1, .commit 1, .statement 2, .commit 2,
    .statement 1, .statement 1, .commit 1, .statement 2, .statement 2, .commit 2]

theorem leaderboard_mirrors_stale_grant :
    ∃ s, (machine repository).exec (start oneUser) createAndGrant = some s ∧
      s.succeeded.length = 3 ∧ Mirrors s.committed := by
  refine ⟨_, rfl, rfl, ?_⟩
  exact (leaderboard_mirrors oneUser nofun createAndGrant).last rfl

end RealtimeGameServer.Guarantees.LeaderboardMirror
