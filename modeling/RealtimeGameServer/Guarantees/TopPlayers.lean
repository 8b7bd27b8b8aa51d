import RealtimeGameServer.Guarantees.LeaderboardMirror
import RealtimeGameServer.Source.Leaderboard

/-!
# Who is on the leaderboard

A row of the leaderboard is written with the player's, so in every committed state the rows
are those of the players, one each. What a request for the leaderboard reads is therefore the
players with the most experience, as many as it asks for, each with the experience and the
level it has.
-/
namespace RealtimeGameServer.Guarantees.TopPlayers
open Lib ReadCommitted Source Source.Progression Leaderboard LeaderboardMirror

/-- The board of the best players of a committed state. -/
structure Best (db : ProgressionDb) (limit : Nat) (board : List RankedEntry) : Prop where
  length : board.length = min limit db.players.size
  ranks : ∀ (i : Nat) entry, board[i]? = some entry → entry.rank = i + 1
  distinct : (board.map (·.playerId)).Nodup
  current : ∀ entry ∈ board, ∃ player, db.players.get entry.playerId = some player ∧
    entry.experience = player.experience ∧ entry.level = player.level ∧
      player.level = levelFromExperience player.experience
  ordered : board.Pairwise fun a b => b.experience ≤ a.experience
  best : ∀ entry ∈ board, ∀ id player, db.players.get id = some player →
    id ∉ board.map (·.playerId) → player.experience ≤ entry.experience

/-- Only players have leaderboard rows. -/
def Listed (db : ProgressionDb) : Prop :=
  ∀ id, db.players.get id = none → entriesOf db id = []

/-- The player that a grant has updated is locked and there. -/
def Found (a : Active Effect Lock Call Pc) (db : ProgressionDb) : Prop :=
  match a.pc with
  | .upsertEntry grant _ _ | .granted grant _ _ =>
    .playerId grant.playerId ∈ a.held ∧ db.players.get grant.playerId ≠ none
  | _ => True

theorem Found.frame {a : Active Effect Lock Call Pc} {db db' : ProgressionDb}
    (hparts : ∀ lock ∈ a.held, part lock db' = part lock db) (h : Found a db) : Found a db' := by
  obtain ⟨call, pc, pending, held⟩ := a
  have hget : ∀ id, .playerId id ∈ held → db'.players.get id = db.players.get id :=
    fun id hheld => congrArg Prod.fst (hparts (.playerId id) hheld)
  cases pc with
  | upsertEntry grant current updated => exact ⟨h.1, (hget _ h.1).symm ▸ h.2⟩
  | granted grant current updated => exact ⟨h.1, (hget _ h.1).symm ▸ h.2⟩
  | _ => trivial

theorem Found.ran {db : ProgressionDb} {a : Active Effect Lock Call Pc} {effects : List Effect}
    {next : Pc} (hknows : Knows a db) (h : Found a db)
    (hrun : run a.pc (repository.view a db) = .continues effects next) :
    Found ⟨a.call, next, a.pending ++ effects,
      a.held ++ needs a.pc (repository.view a db)⟩ db := by
  obtain ⟨call, pc, pending, held⟩ := a
  have hcontinues := run_continues hrun
  cases hcontinues with
  | @updated grant current player get =>
    -- the update has found the player, and locked it
    obtain ⟨rfl, -⟩ := hknows
    have hthere : db.players.get grant.playerId = some player := get
    have hhas : db.players.has grant.playerId = true := by rw [JsMap.has, hthere, Option.isSome_some]
    refine ⟨List.mem_append_right held ?_, Option.ne_none_iff_exists'.mpr ⟨player, hthere⟩⟩
    have hneeds : needs (.updatePlayer grant current) db = [.playerId grant.playerId] := if_pos hhas
    exact hneeds ▸ List.mem_singleton_self _
  | entryUpdated | entryCreated => exact ⟨List.mem_append_left _ h.1, h.2⟩
  | stays =>
    cases pc with
    | upsertEntry | granted => exact ⟨List.mem_append_left _ h.1, h.2⟩
    | _ => trivial
  | _ => trivial

theorem found_rule : Rule repository part (fun _ _ => True) (fun a db => Knows a db ∧ Found a db)
    fun _ _ => True where
  frame a db db' hparts h := ⟨h.1.frame hparts, h.2.frame hparts⟩
  opened call pc db hopens := by
    refine ⟨(rule fun _ _ h => h).opened call pc db hopens, ?_⟩
    cases call <;> cases hopens <;> trivial
  ran _ _ _ _ _ _ h _ hrun := ⟨h.1.ran hrun, h.2.ran h.1 hrun⟩
  proceeded a db log next hglobal h hfollow := by
    refine ⟨trivial, ((rule fun _ _ h => h).proceeded a db log next hglobal h.1 hfollow).2, ?_⟩
    obtain ⟨call, pc, pending, held⟩ := a
    cases pc <;> cases hfollow
    trivial
  returned _ _ _ _ _ _ _ _ := trivial

theorem Listed.commit {a : Active Effect Lock Call Pc} {db : ProgressionDb} (h : Listed db)
    (hknows : Knows a db) (hfound : Found a db) (hfollow : follow a.pc ≠ .statement) :
    Listed (repository.view a db) := by
  rcases commit_cases opens hknows hfollow with ⟨_, _, -, hsame⟩ |
    ⟨player, -, -, hcreated⟩ | ⟨grant, current, updated, hpc, -, hgranted⟩
  · rw [show repository.view a db = db from hsame]
    exact h
  · intro id hget
    have hnew : (repository.view a db).players.get id = _ := hcreated.players id
    rw [hnew] at hget
    split at hget
    next => cases hget
    next hne => exact (hcreated.entries id hne).trans (h id hget)
  · intro id hget
    have hold : (repository.view a db).players.get id = _ := hgranted.players id
    rw [hold] at hget
    split at hget
    next heq =>
      rw [Found, hpc] at hfound
      exact absurd (heq ▸ Option.map_eq_none_iff.mp hget) hfound.2
    next hne => exact (hgranted.entries id hne).trans (h id hget)

/-- Every player has its row, and every row its player. -/
structure Reflects (db : ProgressionDb) : Prop where
  mirrors : Mirrors db
  listed : Listed db

theorem Reflects.commit {a : Active Effect Lock Call Pc} {db : ProgressionDb} (h : Reflects db)
    (hknows : Knows a db) (hfound : Found a db) (hfollow : follow a.pc ≠ .statement) :
    Reflects (repository.view a db) :=
  ⟨h.mirrors.commit hknows hfollow, h.listed.commit hknows hfound hfollow⟩

theorem count_playerId (db : ProgressionDb) (id : String) :
    (db.leaderboard.map (·.playerId)).count id = (entriesOf db id).length := by
  rw [List.count, List.countP_map, List.countP_eq_length_filter, entriesOf]
  congr 1

theorem rows_perm_keys {db : ProgressionDb} (hmirrors : Mirrors db) (hlisted : Listed db) :
    (db.leaderboard.map (·.playerId)).Perm db.players.keys := by
  refine List.perm_iff_count.mpr fun id => ?_
  rw [count_playerId]
  cases hget : db.players.get id with
  | none =>
    rw [hlisted id hget, List.length_nil, List.count_eq_zero_of_not_mem]
    exact (JsMap.get_eq_none _ _).mp hget
  | some player =>
    obtain ⟨entry, hentry, -⟩ := (hmirrors id player hget).entry
    have hmem : id ∈ db.players.keys := (JsMap.mem_keys _ _).mpr ⟨player, hget⟩
    rw [hentry, List.length_singleton]
    exact (List.count_eq_one_of_mem db.players.unique hmem).symm

/-- The row of a player says what the player has. -/
theorem row_current {db : ProgressionDb} (hmirrors : Mirrors db) {row : LeaderboardEntry}
    {player : PlayerProfile} (hrow : row ∈ db.leaderboard)
    (hget : db.players.get row.playerId = some player) :
    row.experience = player.experience ∧ row.level = player.level ∧
      player.level = levelFromExperience player.experience := by
  obtain ⟨hlevel, entry, hentry, hexperience, hsame⟩ := hmirrors row.playerId player hget
  have hmem : row ∈ entriesOf db row.playerId := List.mem_filter.mpr ⟨hrow, decide_eq_true rfl⟩
  rw [hentry] at hmem
  cases List.mem_singleton.mp hmem
  exact ⟨hexperience, hsame, hlevel⟩

/-- What is read of a state in which the rows are those of the players. -/
theorem best_of_mirrors {db : ProgressionDb} (hmirrors : Mirrors db) (hlisted : Listed db)
    {rows : List LeaderboardEntry} (hrows : rows.Perm db.leaderboard) (limit : Nat) :
    Best db limit (getTopByExperience rows limit) := by
  have hsorted : (rows.insertionSort Before).Perm db.leaderboard :=
    (List.perm_insertionSort _ _).trans hrows
  have hkeys := (hsorted.map (·.playerId)).trans (rows_perm_keys hmirrors hlisted)
  have hids := map_getTopByExperience (g := fun entry => entry.playerId)
    (fun _ _ => rfl) rows limit
  have htaken : ∀ entry ∈ getTopByExperience rows limit, ∃ row ∈ (rows.insertionSort Before).take limit,
      entry.playerId = row.playerId ∧ entry.experience = row.experience ∧
        entry.level = row.level := by
    intro entry hentry
    obtain ⟨i, hi⟩ := List.mem_iff_getElem?.mp hentry
    rw [getElem?_getTopByExperience] at hi
    obtain ⟨row, hrow, rfl⟩ := Option.map_eq_some_iff.mp hi
    exact ⟨row, List.mem_of_getElem? hrow, rfl, rfl, rfl⟩
  constructor
  case length =>
    have hsize : (rows.insertionSort Before).length = db.players.size := by
      rw [← List.length_map (·.playerId), hkeys.length_eq, JsMap.keys, List.length_map, JsMap.size]
    rw [getTopByExperience, List.length_mapIdx, List.length_take, hsize]
  case ranks =>
    intro i entry hi
    rw [getElem?_getTopByExperience] at hi
    obtain ⟨row, -, rfl⟩ := Option.map_eq_some_iff.mp hi
    rfl
  case distinct =>
    rw [hids]
    exact (hkeys.nodup_iff.mpr db.players.unique).sublist ((List.take_sublist _ _).map _)
  case current =>
    intro entry hentry
    obtain ⟨row, hrow, hid, hexperience, hlevel⟩ := htaken entry hentry
    have hmem : row ∈ db.leaderboard := hsorted.mem_iff.mp (List.mem_of_mem_take hrow)
    have hkey : row.playerId ∈ db.players.keys :=
      (rows_perm_keys hmirrors hlisted).mem_iff.mp (List.mem_map_of_mem hmem)
    obtain ⟨player, hget⟩ := (JsMap.mem_keys _ _).mp hkey
    obtain ⟨hsame, hsameLevel, hcomputed⟩ := row_current hmirrors hmem hget
    exact ⟨player, hid ▸ hget, hexperience.trans hsame, hlevel.trans hsameLevel, hcomputed⟩
  case ordered =>
    rw [← List.pairwise_map (R := fun x y => y ≤ x) (f := fun entry : RankedEntry => entry.experience),
      map_getTopByExperience (f := fun row => row.experience) (fun _ _ => rfl), List.pairwise_map]
    have hordered := (List.pairwise_insertionSort Before rows).sublist (List.take_sublist limit _)
    exact hordered.imp experience_le_of_before
  case best =>
    intro entry hentry id player hget habsent
    obtain ⟨row, hrow, -, hexperience, -⟩ := htaken entry hentry
    obtain ⟨other, hother, hsame, -⟩ := (hmirrors id player hget).entry
    obtain ⟨hmem, hid⟩ := List.mem_filter.mp (hother ▸ List.mem_singleton_self other)
    rw [hexperience, ← hsame]
    have hsplit : other ∈ (rows.insertionSort Before).take limit ++
        (rows.insertionSort Before).drop limit := by
      rw [List.take_append_drop]
      exact hsorted.mem_iff.mpr hmem
    rcases List.mem_append.mp hsplit with htake | hdrop
    · rw [hids, ← of_decide_eq_true hid] at habsent
      exact absurd (List.mem_map_of_mem htake) habsent
    · exact experience_le_of_before (before_of_taken rows limit row hrow other hdrop)

/-- In every committed state of every interleaving of `create` and `addExperience` calls, a
request for the leaderboard with a limit that the schema lets through is answered with the
best players of the state, as many as the limit says. -/
theorem top_players_best (db : ProgressionDb) (hmirrors : Mirrors db) (hlisted : Listed db)
    (events : List (ReadCommitted.Event Call Failure)) :
    (machine repository).Along (fun s => ∀ rows, rows.Perm s.committed.leaderboard →
      ∀ number query limit, leaderboardQuerySchema number query = some limit →
        Best s.committed limit.toNat (getTopPlayers rows limit)) (start db) events := by
  have halong := along_of_commits (guarded opens) found_rule (G := fun _ _ => True)
    (fun a db' hknows h hfollow _ => h.commit hknows.1 hknows.2 hfollow)
    (⟨hmirrors, hlisted⟩ : Reflects db) events ?_
  · refine halong.mono fun s h rows hrows number query limit hquery => ?_
    have hrange : 1 ≤ limit ∧ limit ≤ 100 := by
      cases query with
      | none =>
        cases hquery
        decide
      | some text => exact intIn_some hquery
    have hcapped : min (max limit 1) 100 = limit := by omega
    rw [getTopPlayers, hcapped]
    exact best_of_mirrors h.mirrors h.listed hrows _
  · apply Machine.StepsMeet.of_labels
    intro event _ s
    cases event <;> simp [CommitOk]

def twoUsers : ProgressionDb where
  users := ["u1", "u2"]
  players := JsMap.empty
  inventories := JsMap.empty
  leaderboard := []

/-- Two players are created, and the second one is granted experience. -/
def createTwo : List (ReadCommitted.Event Call Failure) :=
  [.call (.create ⟨"u1", "nova", none⟩ ⟨"p1", "i1", "l1"⟩),
    .call (.create ⟨"u2", "zed", none⟩ ⟨"p2", "i2", "l2"⟩),
    .statement 0, .statement 1, .statement 0, .statement 1, .statement 0, .statement 1,
    .commit 1, .commit 0, .call (.addExperience ⟨"p2", 1500, "l3"⟩),
    .statement 2, .commit 2, .statement 2, .statement 2, .commit 2]

theorem zed_on_top : ∃ s, (machine repository).exec (start twoUsers) createTwo = some s ∧
    getTopPlayers s.committed.leaderboard 1 = [⟨"p2", "zed", 1500, 2, 0, 1⟩] ∧
      Best s.committed 1 [⟨"p2", "zed", 1500, 2, 0, 1⟩] := by
  have hrun : ((machine repository).exec (start twoUsers) createTwo).map (fun s =>
      getTopPlayers s.committed.leaderboard 1) = some [⟨"p2", "zed", 1500, 2, 0, 1⟩] := by
    decide +kernel
  obtain ⟨s, hexec, hboard⟩ := Option.map_eq_some_iff.mp hrun
  have hbest := (top_players_best twoUsers (fun _ _ h => by cases h) (fun _ _ => rfl) createTwo).last
    hexec _ (.refl _) (fun _ => 1) (some "1") 1 (by decide +kernel)
  exact ⟨s, hexec, hboard, hboard ▸ hbest⟩

end RealtimeGameServer.Guarantees.TopPlayers
