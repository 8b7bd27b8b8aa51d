import RealtimeGameServer.Guarantees.AccountAccess
import RealtimeGameServer.Guarantees.ActiveRooms
import RealtimeGameServer.Guarantees.AntiReplay
import RealtimeGameServer.Guarantees.CoinLedger
import RealtimeGameServer.Guarantees.ConnectBucket
import RealtimeGameServer.Guarantees.ConnectedPresence
import RealtimeGameServer.Guarantees.ConnectionTracking
import RealtimeGameServer.Guarantees.DeadSockets
import RealtimeGameServer.Guarantees.DeltaEncoding
import RealtimeGameServer.Guarantees.DuplicateRegistration
import RealtimeGameServer.Guarantees.EquipmentUpdates
import RealtimeGameServer.Guarantees.EquippedOwned
import RealtimeGameServer.Guarantees.ExperienceGrants
import RealtimeGameServer.Guarantees.FrameBudget
import RealtimeGameServer.Guarantees.FrameErrors
import RealtimeGameServer.Guarantees.HostSuccession
import RealtimeGameServer.Guarantees.InventoryCapacity
import RealtimeGameServer.Guarantees.JoinHandshake
import RealtimeGameServer.Guarantees.LegalInputs
import RealtimeGameServer.Guarantees.Movement
import RealtimeGameServer.Guarantees.OneConnection
import RealtimeGameServer.Guarantees.OrphanedRooms
import RealtimeGameServer.Guarantees.PlayerIsolation
import RealtimeGameServer.Guarantees.ReconnectChecks
import RealtimeGameServer.Guarantees.RoomCodes
import RealtimeGameServer.Guarantees.RoomTeardown
import RealtimeGameServer.Guarantees.SelfHealing
import RealtimeGameServer.Guarantees.SessionEnds
import RealtimeGameServer.Guarantees.SessionRepresentation
import RealtimeGameServer.Guarantees.SessionTimers
import RealtimeGameServer.Guarantees.StartConsistency
import RealtimeGameServer.Guarantees.TickFold
import RealtimeGameServer.Guarantees.TokenLifetime
import RealtimeGameServer.Guarantees.TopPlayers
import RealtimeGameServer.Guarantees.TransactionRuns
import RealtimeGameServer.Guarantees.UntouchedPlayers
import RealtimeGameServer.Guarantees.WireNumbers
