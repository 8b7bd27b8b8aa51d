import Mathlib.Data.List.Sort
import RealtimeGameServer.Source.HttpSchemas

/-!
# Reading the leaderboard

Source: infrastructure/database/prisma-leaderboard-repository.ts:32-46,
application/services/leaderboard-service.ts. `rows` is the table in the order in which the
database scans it: it decides between rows that the query orders alike. The other methods of
the repository have no callers.
-/
namespace RealtimeGameServer.Source

/-- An entry of the board: a row with its rank. -/
structure RankedEntry where
  playerId : String
  username : String
  experience : Int
  level : Int
  wins : Int
  rank : Nat
  deriving DecidableEq, Repr

namespace Leaderboard

/-- `orderBy: [{ experience: 'desc' }, { wins: 'desc' }]`. -/
def Before (a b : LeaderboardEntry) : Prop :=
  b.experience < a.experience ∨ a.experience = b.experience ∧ b.wins ≤ a.wins

instance : DecidableRel Before := fun a b =>
  inferInstanceAs (Decidable (b.experience < a.experience ∨
    a.experience = b.experience ∧ b.wins ≤ a.wins))

def rankedEntry (index : Nat) (row : LeaderboardEntry) : RankedEntry where
  playerId := row.playerId
  username := row.username
  experience := row.experience
  level := row.level
  wins := row.wins
  rank := index + 1

def getTopByExperience (rows : List LeaderboardEntry) (limit : Nat) : List RankedEntry :=
  ((rows.insertionSort Before).take limit).mapIdx rankedEntry

/-- The service, `limit` being 10 where it is not given. -/
def getTopPlayers (rows : List LeaderboardEntry) (limit : Int) : List RankedEntry :=
  let capped := min (max limit 1) 100
  getTopByExperience rows capped.toNat

theorem experience_le_of_before {a b : LeaderboardEntry} (h : Before a b) :
    b.experience ≤ a.experience := by
  rcases h with hlt | ⟨heq, -⟩
  · exact hlt.le
  · exact heq.ge

instance : Std.Total Before where
  total a b := by
    rcases lt_trichotomy a.experience b.experience with hlt | heq | hgt
    · exact Or.inr (Or.inl hlt)
    · rcases le_total b.wins a.wins with hle | hle
      · exact Or.inl (Or.inr ⟨heq, hle⟩)
      · exact Or.inr (Or.inr ⟨heq.symm, hle⟩)
    · exact Or.inl (Or.inl hgt)

instance : IsTrans LeaderboardEntry Before where
  trans a b c hab hbc := by
    rcases hab with hab | ⟨hab, hwins⟩ <;> rcases hbc with hbc | ⟨hbc, hwins'⟩
    · exact Or.inl (hbc.trans hab)
    · exact Or.inl (hbc ▸ hab)
    · exact Or.inl (hab ▸ hbc)
    · exact Or.inr ⟨hab.trans hbc, hwins'.trans hwins⟩

/-- What is taken comes before what is left. -/
theorem before_of_taken (rows : List LeaderboardEntry) (limit : Nat) :
    ∀ a ∈ (rows.insertionSort Before).take limit, ∀ b ∈ (rows.insertionSort Before).drop limit,
      Before a b := by
  have hsorted : ((rows.insertionSort Before).take limit ++
      (rows.insertionSort Before).drop limit).Pairwise Before := by
    rw [List.take_append_drop]
    exact List.pairwise_insertionSort _ _
  exact (List.pairwise_append.mp hsorted).2.2

theorem getElem?_getTopByExperience (rows : List LeaderboardEntry) (limit i : Nat) :
    (getTopByExperience rows limit)[i]? =
      (((rows.insertionSort Before).take limit)[i]?).map (rankedEntry i) :=
  List.getElem?_mapIdx

/-- What the board shows of the rows it is made of. -/
theorem map_getTopByExperience {β : Type*} {g : RankedEntry → β} {f : LeaderboardEntry → β}
    (h : ∀ i row, g (rankedEntry i row) = f row) (rows : List LeaderboardEntry) (limit : Nat) :
    (getTopByExperience rows limit).map g = ((rows.insertionSort Before).take limit).map f := by
  apply List.ext_getElem?
  intro i
  rw [List.getElem?_map, getElem?_getTopByExperience, Option.map_map, List.getElem?_map]
  exact congrArg (Option.map · _) (funext (h i))

end Leaderboard
end RealtimeGameServer.Source
