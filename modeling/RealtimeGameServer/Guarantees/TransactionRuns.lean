import RealtimeGameServer.Guarantees.StartAtomicity
import RealtimeGameServer.Source.LobbyStretches

/-!
# The two descriptions of the lobby

The lobby is described twice: with repository calls that are atomic, and with their
statements, locks and commits. Every run of the first is a run of the second in which the
statements of each repository call stand together. So what goes wrong where repository calls
are atomic goes wrong in the database too, and what the transactions guarantee holds of the
atomic calls.
-/
namespace RealtimeGameServer.Guarantees.TransactionRuns
open Lib Source
open Calls (returned thrown)
open LobbyService (program)
open LobbyStatements (DrawnCall protocol)

abbrev AtomicState :=
  Calls.State LobbyDb LobbyService.Call LobbyService.Place LobbyService.Reply Failure

abbrev AtomicEvent := Calls.Event LobbyService.Call LobbyDraw Failure

/-- A call that has ended, without its draws. -/
def undrawn {α : Type} (e : Nat × DrawnCall × α) : Nat × LobbyService.Call × α :=
  (e.1, e.2.1.call, e.2.2)

/-- Every run of the lobby with atomic repository calls is a run of its transactions in which
the statements and commits of each repository call stand together: the same tables are
committed, and the same calls return and throw, all in the same order. -/
theorem atomic_run_is_transaction_run (maxPlayersPerRoom : Nat) (db : LobbyDb)
    (events : List AtomicEvent) {s : AtomicState}
    (hexec : (Calls.machine (program maxPlayersPerRoom)).exec (Calls.start db) events = some s) :
    ∃ transactions t log, Expands DrawnCall.call 0 events transactions ∧
      (ReadCommitted.logged (protocol maxPlayersPerRoom)).exec (ReadCommitted.start db, [])
        transactions = some (t, log) ∧
      t.committed = s.store ∧ t.started = s.started ∧ log.map undrawn = s.ended ∧
      t.succeeded.map undrawn = s.ended.filterMap returned ∧
      t.failed.map undrawn = s.ended.filterMap thrown := by
  have himplements := LobbyStatements.implements maxPlayersPerRoom
  have hnumbered := Calls.numbered_along (T := program maxPlayersPerRoom) db events
  obtain ⟨transactions, t, log, hexpands, hrun, hagrees⟩ := himplements.exec_of_atomic
    (fun _ _ => rfl) (agrees_start DrawnCall.call LobbyStatements.enter events db) hnumbered.head
    hexec
  exact ⟨transactions, t, log, hexpands, hrun, hagrees.committed, hagrees.started, hagrees.ended,
    hagrees.succeeded, hagrees.failed⟩

/-- The guest leaves while the host starts the game; the host's session is refused, and the
guest's is inserted after that. -/
def startingAndLeaving : List AtomicEvent :=
  [.call (.startGame "p1") default, .call (.leaveRoom "p2") default,
    .operation 0 (StartAtomicity.answered "" none), .operation 1 (StartAtomicity.answered "" none),
    .operation 0 (StartAtomicity.answered "" none), .operation 1 (StartAtomicity.answered "" none),
    .operation 0 (StartAtomicity.answered "s1" (some .connectionLost)),
    .operation 0 (StartAtomicity.answered "s2" none)]

theorem startingAndLeaving_transactions : ∃ transactions t log,
    Expands DrawnCall.call 0 startingAndLeaving transactions ∧
    (ReadCommitted.logged (protocol 8)).exec (ReadCommitted.start StartAtomicity.duo, [])
      transactions = some (t, log) ∧
    t.committed.sessions = [⟨"s2", "r1", "p2", .active, "orion"⟩] ∧
    (log.map undrawn).map (fun e => (e.2.1, e.2.2.toOption.isSome)) =
      [(.leaveRoom "p2", true), (.startGame "p1", false)] := by
  obtain ⟨s, hexec, hsessions, hended⟩ : ∃ s,
      (Calls.machine (program 8)).exec (Calls.start StartAtomicity.duo) startingAndLeaving =
        some s ∧ s.store.sessions = [⟨"s2", "r1", "p2", .active, "orion"⟩] ∧
      s.ended.map (fun e => (e.2.1, e.2.2.toOption.isSome)) =
        [(.leaveRoom "p2", true), (.startGame "p1", false)] :=
    ⟨_, rfl, rfl, rfl⟩
  obtain ⟨transactions, t, log, hexpands, hrun, hcommitted, -, hlog, -⟩ :=
    atomic_run_is_transaction_run 8 StartAtomicity.duo startingAndLeaving hexec
  exact ⟨transactions, t, log, hexpands, hrun, hcommitted ▸ hsessions, hlog ▸ hended⟩

end RealtimeGameServer.Guarantees.TransactionRuns
