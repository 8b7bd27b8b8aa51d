import Mathlib.Algebra.BigOperators.Group.List.Basic
import Mathlib.Algebra.Ring.Int.Defs
import RealtimeGameServer.Source.Economy

/-!
# The coin ledger

Every interleaving of `credit` and `debit` calls keeps each balance in the range
of its column and not negative, equal to the starting coins plus the credited
and minus the debited amounts, and the ledger rows of a player form a chain from
the starting coins to the balance, in commit order. The rows are those of the
calls that returned, one each; a call that throws leaves nothing behind. What
makes it work is that a call knows the committed balance from its
`SELECT ... FOR UPDATE` to its commit.
-/
namespace RealtimeGameServer.Guarantees.CoinLedger
open Lib ReadCommitted Source Source.Economy

/-- Balances to start from: not negative and within the column's range. -/
structure Opening where
  players : JsMap String Int
  range : ∀ id coins, players.get id = some coins → 0 ≤ coins ∧ coins ≤ int4Max

def Opening.db (opening : Opening) : EconomyDb := ⟨opening.players, []⟩

/-- The amounts of a player's rows of one type. -/
def amounts (type : CoinTransactionType) (rows : List CoinTransactionRow) : List Int :=
  (rows.filter fun row => row.type = type).map (·.amount)

/-- The balance after a row, given the one before. -/
def balance (before : Int) (row : CoinTransactionRow) : Int :=
  match row.type with
  | .credit => before + row.amount
  | .debit => before - row.amount

/-- Each row's `balanceAfter` is the balance before it plus or minus its amount,
and the last one is `coins`. -/
def Chained (before : Int) (rows : List CoinTransactionRow) (coins : Int) : Prop :=
  match rows with
  | [] => coins = before
  | row :: rest => row.balanceAfter = balance before row ∧ Chained row.balanceAfter rest coins

def rowsOf (db : EconomyDb) (playerId : String) : List CoinTransactionRow :=
  db.ledger.filter fun row => row.playerId = playerId

/-- One player's balance and rows. -/
structure Account (before coins : Int) (rows : List CoinTransactionRow) : Prop where
  nonneg : 0 ≤ coins
  le_max : coins ≤ int4Max
  sums : coins = before + (amounts .credit rows).sum - (amounts .debit rows).sum
  chained : Chained before rows coins

/-- Every player's account, and one ledger row for each call that returned. -/
structure Balanced (opening : Opening) (db : EconomyDb)
    (log : List (Nat × Call × Int × CoinTransactionRow)) : Prop where
  keys : ∀ id, db.players.get id = none ↔ opening.players.get id = none
  accounts : ∀ id before coins, opening.players.get id = some before →
    db.players.get id = some coins → Account before coins (rowsOf db id)
  rows : db.ledger = log.map fun entry => entry.2.2.2

/-- What the claim says of a state: the committed state is balanced, and a call
that threw is none of those with a row. -/
structure LedgerHolds (opening : Opening)
    (s : State EconomyDb Effect String Call Pc (Int × CoinTransactionRow) Failure) : Prop where
  balanced : Balanced opening s.committed s.succeeded
  failed : ∀ entry ∈ s.failed, ∀ returned ∈ s.succeeded, returned.1 ≠ entry.1

theorem Chained.concat {before coins : Int} {rows : List CoinTransactionRow}
    (h : Chained before rows coins) (row : CoinTransactionRow) :
    Chained before (rows ++ [row]) row.balanceAfter ↔ row.balanceAfter = balance coins row := by
  induction rows generalizing before with
  | nil =>
    cases h
    simp [Chained]
  | cons first rest ih =>
    simp only [List.cons_append, Chained, h.1, true_and]
    exact ih (h.1 ▸ h.2)

theorem amounts_concat (type : CoinTransactionType) (rows : List CoinTransactionRow)
    (row : CoinTransactionRow) :
    (amounts type (rows ++ [row])).sum =
      (amounts type rows).sum + if row.type = type then row.amount else 0 := by
  simp only [amounts, List.filter_append, List.map_append, List.sum_append]
  split
  next h => simp [h]
  next h => simp [h]

/-- A row that records the next balance extends an account. -/
theorem Account.concat {before coins : Int} {rows : List CoinTransactionRow}
    (h : Account before coins rows) (row : CoinTransactionRow)
    (hrow : row.balanceAfter = balance coins row) (hnonneg : 0 ≤ row.balanceAfter)
    (hmax : row.balanceAfter ≤ int4Max) : Account before row.balanceAfter (rows ++ [row]) where
  nonneg := hnonneg
  le_max := hmax
  sums := by
    have hsums := h.sums
    rw [amounts_concat, amounts_concat, hrow, balance]
    cases row.type <;> simp <;> omega
  chained := (h.chained.concat row).mpr hrow

theorem Balanced.nonneg {opening : Opening} {db : EconomyDb}
    {log : List (Nat × Call × Int × CoinTransactionRow)} (h : Balanced opening db log) {id : String}
    {coins : Int} (hget : db.players.get id = some coins) : 0 ≤ coins := by
  cases hopen : opening.players.get id with
  | none =>
    rw [(h.keys id).mpr hopen] at hget
    cases hget
  | some before => exact (h.accounts id before coins hopen hget).nonneg

theorem rowsOf_concat (players : JsMap String Int) (ledger : List CoinTransactionRow)
    (row : CoinTransactionRow) (id : String) :
    rowsOf ⟨players, ledger ++ [row]⟩ id =
      rowsOf ⟨players, ledger⟩ id ++ if row.playerId = id then [row] else [] := by
  simp only [rowsOf, List.filter_append]
  split
  next h => simp [h]
  next h => simp [h]

/-- A committed row that records its player's next balance keeps the accounts. -/
theorem Balanced.concat {opening : Opening} {db : EconomyDb}
    {log : List (Nat × Call × Int × CoinTransactionRow)} (h : Balanced opening db log)
    (row : CoinTransactionRow) {found : Int} (hget : db.players.get row.playerId = some found)
    (hrow : row.balanceAfter = balance found row) (hnonneg : 0 ≤ row.balanceAfter)
    (hmax : row.balanceAfter ≤ int4Max) (number : Nat) (call : Call) :
    Balanced opening ⟨db.players.set row.playerId row.balanceAfter, db.ledger ++ [row]⟩
      (log ++ [(number, call, row.balanceAfter, row)]) where
  keys := by
    intro id
    rw [← h.keys id, JsMap.get_set]
    split
    next heq => simp [heq, hget]
    next => rfl
  accounts := by
    intro id before coins hopen hcoins
    rw [rowsOf_concat]
    rw [JsMap.get_set] at hcoins
    by_cases heq : id = row.playerId
    · subst heq
      rw [if_pos rfl] at hcoins ⊢
      cases hcoins
      have haccount := h.accounts _ _ _ hopen hget
      exact haccount.concat row hrow hnonneg hmax
    · rw [if_neg heq] at hcoins
      rw [if_neg (Ne.symm heq), List.append_nil]
      exact h.accounts _ _ _ hopen hcoins
  rows := by
    rw [List.map_append, h.rows]
    rfl

/-- The call has locked its player, whose coins make `coins` the next balance. -/
def Locked (a : Active Effect String Call Pc) (db : EconomyDb) (coins : Int) : Prop :=
  a.call.playerId ∈ a.held ∧
    ∃ found, db.players.get a.call.playerId = some found ∧ coins = target a.call found ∧ 0 ≤ coins

def Knows (a : Active Effect String Call Pc) (db : EconomyDb) : Prop :=
  match a.pc with
  | .selectForUpdate call => a.pending = [] ∧ call = a.call ∧ 0 < a.call.amount
  | .updatePlayer call coins => a.pending = [] ∧ call = a.call ∧ Locked a db coins
  | .createTransaction call coins => a.pending = [.setCoins a.call.playerId coins] ∧
      call = a.call ∧ Locked a db coins ∧ inInt4 coins = true
  | .finish coins row => a.pending = [.setCoins a.call.playerId coins, .insertRow row] ∧
      row = rowFor a.call coins ∧ Locked a db coins ∧ inInt4 coins = true

/-- The lock an effect needs. -/
def touches : Effect → String
  | .setCoins playerId _ => playerId
  | .insertRow row => row.playerId

/-- What a player's lock protects. -/
def part (playerId : String) (db : EconomyDb) : Option Int := db.players.get playerId

theorem guarded : Guarded protocol touches part where
  frame := by
    intro db effect k hne
    cases effect with
    | setCoins playerId coins => exact JsMap.get_set_of_ne _ (Ne.symm hne) _
    | insertRow row => rfl
  locked := by
    intro pc db effects next hrun effect heffect
    cases run_continues hrun with
    | updated present range =>
      rw [List.mem_singleton.mp heffect]
      simp [protocol, needs, touches, present]
    | inserted =>
      rw [List.mem_singleton.mp heffect]
      simp [protocol, needs, touches, rowFor]
    | _ => cases heffect

theorem Knows.ran {opening : Opening} {db : EconomyDb}
    {log : List (Nat × Call × Int × CoinTransactionRow)} {a : Active Effect String Call Pc}
    {effects : List Effect} {next : Pc} (hdb : Balanced opening db log) (h : Knows a db)
    (hrun : run a.pc (protocol.view a db) = .continues effects next) :
    Knows ⟨a.call, next, a.pending ++ effects,
      a.held ++ protocol.needs a.pc (protocol.view a db)⟩ db := by
  obtain ⟨call, pc, pending, held⟩ := a
  have hcontinues := run_continues hrun
  cases pc with
  | selectForUpdate call' =>
    obtain ⟨rfl, rfl, hpos⟩ := h
    cases hcontinues with
    | @found _ coins get enough =>
      change db.players.get call'.playerId = some coins at get
      have hlock : call'.playerId ∈ held ++ protocol.needs (.selectForUpdate call') db :=
        List.mem_append_right _ (by simp [protocol, needs, JsMap.has, get])
      have hcoins : 0 ≤ coins := hdb.nonneg get
      have htarget : 0 ≤ target call' coins := by
        simp only [target]
        simp only at hpos
        split
        next => omega
        next htype =>
          have hamount := enough htype
          omega
      exact ⟨rfl, rfl, hlock, coins, get, rfl, htarget⟩
  | updatePlayer call' coins =>
    obtain ⟨rfl, rfl, hlock, hfound⟩ := h
    cases hcontinues with
    | updated present range =>
      exact ⟨rfl, rfl, ⟨List.mem_append_left _ hlock, hfound⟩, range⟩
  | createTransaction call' coins =>
    obtain ⟨hpending, hcall, ⟨hlock, hfound⟩, hrange⟩ := h
    simp only at hpending hcall
    subst hpending hcall
    cases hcontinues
    exact ⟨rfl, rfl, ⟨List.mem_append_left _ hlock, hfound⟩, hrange⟩
  | finish coins row =>
    obtain ⟨hpending, hrow, ⟨hlock, hfound⟩, hrange⟩ := h
    cases hcontinues
    exact ⟨(List.append_nil _).trans hpending, hrow, ⟨List.mem_append_left _ hlock, hfound⟩, hrange⟩

/-- The commit of a call extends its player's account and leaves the others. -/
theorem Knows.returned {opening : Opening} {db : EconomyDb}
    {log : List (Nat × Call × Int × CoinTransactionRow)} {a : Active Effect String Call Pc}
    {result : Int × CoinTransactionRow} (hdb : Balanced opening db log) (h : Knows a db)
    (number : Nat) (hfollow : follow a.pc = .commitReturn result) :
    Balanced opening (protocol.view a db) (log ++ [(number, a.call, result)]) := by
  obtain ⟨call, pc, pending, held⟩ := a
  cases pc with
  | finish coins row =>
    cases hfollow
    obtain ⟨hpending, hrow, ⟨-, found, hget, hcoins, hnonneg⟩, hrange⟩ := h
    simp only at hpending hrow hget hcoins
    subst hpending hrow
    have hmax : coins ≤ int4Max := by
      simp only [inInt4, Bool.and_eq_true, decide_eq_true_eq] at hrange
      exact hrange.2
    have hbalance : coins = balance found (rowFor call coins) := by
      rw [hcoins]
      cases htype : call.type <;> simp only [rowFor, target, balance, htype]
    exact hdb.concat (rowFor call coins) hget hbalance hnonneg hmax number call
  | _ => cases hfollow

theorem rule (opening : Opening) :
    Rule protocol part (Balanced opening) Knows fun _ _ => True where
  frame := by
    rintro ⟨call, pc, pending, held⟩ db db' hparts h
    have hlocked : ∀ coins, Locked ⟨call, pc, pending, held⟩ db coins →
        Locked ⟨call, pc, pending, held⟩ db' coins := by
      intro coins hlocked
      obtain ⟨hheld, found, hget, hrest⟩ := hlocked
      exact ⟨hheld, found, (hparts _ hheld).trans hget, hrest⟩
    cases pc with
    | selectForUpdate call' => exact h
    | updatePlayer call' coins => exact ⟨h.1, h.2.1, hlocked coins h.2.2⟩
    | createTransaction call' coins => exact ⟨h.1, h.2.1, hlocked coins h.2.2.1, h.2.2.2⟩
    | finish coins row => exact ⟨h.1, h.2.1, hlocked coins h.2.2.1, h.2.2.2⟩
  opened := by
    intro call pc db hopens
    change opens call = _ at hopens
    unfold opens at hopens
    split at hopens <;> cases hopens
    next hpos => exact ⟨rfl, rfl, not_le.mp hpos⟩
  ran _ _ _ _ _ hdb h _ hrun := h.ran hdb hrun
  proceeded := by
    rintro ⟨call, pc, pending, held⟩ db log next - - hfollow
    cases pc <;> cases hfollow
  returned _ _ _ number _ hdb h hfollow := h.returned hdb number hfollow

theorem Opening.balanced (opening : Opening) : Balanced opening opening.db [] where
  keys _ := Iff.rfl
  accounts := by
    intro id before coins hopen hget
    cases hopen.symm.trans hget
    obtain ⟨hnonneg, hmax⟩ := opening.range id before hopen
    exact ⟨hnonneg, hmax, by simp [rowsOf, Opening.db, amounts], rfl⟩
  rows := rfl

/-- In every run of credits and debits the ledger holds in every state, and the
step at which a call throws changes nothing that is committed. -/
theorem coin_ledger_holds (opening : Opening)
    (events : List (ReadCommitted.Event Call Failure)) :
    (machine protocol).Along (LedgerHolds opening) (start opening.db) events ∧
    ∀ s event t, (machine protocol).step s event = some t → t.failed ≠ s.failed →
      t.committed = s.committed := by
  constructor
  · -- every statement may run: the rule asks nothing of the rows it reads
    have hok : (machine protocol).StepsMeet (StatementOk fun _ _ => True) (start opening.db)
        events := by
      apply Machine.StepsMeet.of_labels
      intro event _ s
      cases event <;> simp [StatementOk]
    have hheld := along_of_rule guarded (rule opening) opening.balanced events hok
    have hnumbered := numbered_along (T := protocol) opening.db events
    apply (hheld.and hnumbered).mono
    intro s h
    obtain ⟨hrule, hnumbers⟩ := h
    refine ⟨hrule.globally, ?_⟩
    intro entry hentry returned hreturned
    exact hnumbers.apart returned hreturned entry hentry
  · intro s event t hstep hfailed
    cases step_cases hstep with
    | refused => rfl
    | opened => rfl
    | ran => rfl
    | threw => rfl
    | proceeded => exact absurd rfl hfailed
    | returned => exact absurd rfl hfailed

/-- One player with fifty coins. -/
def fifty : Opening where
  players := JsMap.empty.set "p1" 50
  range := by
    intro id coins hget
    rcases JsMap.get_set_cases hget with ⟨-, rfl⟩ | ⟨-, hnone⟩
    · decide
    · cases hnone

/-- A credit and two debits of the same player are in progress together; the second debit finds
too little when the others have committed. -/
def creditAndDebits : List (ReadCommitted.Event Call Failure) :=
  [.call ⟨.credit, "p1", 30, "bonus", "r1"⟩, .call ⟨.debit, "p1", 60, "hat", "r2"⟩,
    .call ⟨.debit, "p1", 100, "cape", "r3"⟩, .statement 0, .statement 0, .statement 0, .commit 0,
    .statement 1, .statement 1, .statement 1, .commit 1, .statement 2]

theorem creditAndDebits_hold :
    ∃ s, (machine protocol).exec (start fifty.db) creditAndDebits = some s ∧
      s.committed.players.get "p1" = some 20 ∧ s.succeeded.map Prod.fst = [0, 1] ∧
      s.failed.map Prod.fst = [2] ∧ LedgerHolds fifty s := by
  have hrun : ((machine protocol).exec (start fifty.db) creditAndDebits).map (fun s =>
      (s.committed.players.get "p1", s.succeeded.map Prod.fst, s.failed.map Prod.fst)) =
        some (some 20, [0, 1], [2]) := by
    decide +kernel
  obtain ⟨s, hexec, hends⟩ := Option.map_eq_some_iff.mp hrun
  simp only [Prod.mk.injEq] at hends
  have hholds := (coin_ledger_holds fifty creditAndDebits).1
  exact ⟨s, hexec, hends.1, hends.2.1, hends.2.2, hholds.last hexec⟩

end RealtimeGameServer.Guarantees.CoinLedger
