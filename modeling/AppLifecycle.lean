import AppLifecycle.Main
import AppLifecycle.Proofs.Client
import AppLifecycle.Proofs.Config.Catalog
import AppLifecycle.Proofs.Config.Validation
import AppLifecycle.Proofs.Daemon.Ownership
import AppLifecycle.Proofs.Daemon.Sessions
import AppLifecycle.Proofs.Daemon.Sockets
import AppLifecycle.Proofs.Process.Launches
import AppLifecycle.Proofs.Process.Termination
import AppLifecycle.Proofs.Protocol.Lines
import AppLifecycle.Proofs.RateLimiter
import AppLifecycle.Proofs.Registry.Admission
import AppLifecycle.Proofs.Registry.Arguments
import AppLifecycle.Proofs.Registry.Attachment
import AppLifecycle.Proofs.Registry.Attendance
import AppLifecycle.Proofs.Registry.CloseTimer
import AppLifecycle.Proofs.Registry.Comeback
import AppLifecycle.Proofs.Registry.Commutation
import AppLifecycle.Proofs.Registry.Compatible
import AppLifecycle.Proofs.Registry.Exemptions
import AppLifecycle.Proofs.Registry.Expiry
import AppLifecycle.Proofs.Registry.FieldChanges
import AppLifecycle.Proofs.Registry.Frozen
import AppLifecycle.Proofs.Registry.Misuse
import AppLifecycle.Proofs.Registry.Neighbours
import AppLifecycle.Proofs.Registry.Refusals
import AppLifecycle.Proofs.Registry.Relaunch
import AppLifecycle.Proofs.Registry.Replay
import AppLifecycle.Proofs.Registry.Revival
import AppLifecycle.Proofs.Registry.ShortIds
import AppLifecycle.Proofs.Registry.Stages
import AppLifecycle.Proofs.Registry.Vacancy
import AppLifecycle.Proofs.Registry.Waking
import AppLifecycle.Proofs.Scene.Stopped
import AppLifecycle.Proofs.Server.Answers
import AppLifecycle.Proofs.Server.Broadcasts
import AppLifecycle.Proofs.Server.Departure
import AppLifecycle.Proofs.Server.Observers
import AppLifecycle.Proofs.Server.Subscriptions
import AppLifecycle.Proofs.WakelockHandles
import AppLifecycle.Registry.Diagnostic
import AppLifecycle.Rehearsal.Network
import AppLifecycle.Rehearsal.Performance
