import SessionGateway.Main
import SessionGateway.Settings.Duration
import SessionGateway.WebSocket.Hub
import SessionGateway.Proofs.PathGrammar
import SessionGateway.Proofs.Delegation
import SessionGateway.Proofs.UpgradeGate
import SessionGateway.Proofs.SnapshotIsolation
import SessionGateway.Proofs.CrossOrigin
import SessionGateway.Proofs.UniformRefusal
import SessionGateway.Proofs.Session.Protocol
import SessionGateway.Proofs.Settings.Watcher
import SessionGateway.Settings.Upkeep
import SessionGateway.Proofs.Settings.Upkeep
import SessionGateway.Proofs.Server.Updates
import SessionGateway.Proofs.Takeover
import SessionGateway.Proofs.MountPoint
import SessionGateway.Mount.Course
import SessionGateway.Proofs.RequestCounts
import SessionGateway.Proofs.Session.Farewell
import SessionGateway.Proofs.SameOrigin
import SessionGateway.Proofs.Session.Transparency
import SessionGateway.Proofs.ConditionalPage
import SessionGateway.Proofs.ExplicitPort
import SessionGateway.Proofs.PageFraming
import SessionGateway.Proofs.ReadableOrigin
import SessionGateway.Proofs.Settings.OriginEntry
import SessionGateway.Proofs.Settings.Rules
import SessionGateway.Proofs.Idempotence
import SessionGateway.Proofs.Server.RestartWarning
import SessionGateway.Proofs.Session.Beginning
import SessionGateway.Proofs.HeaderWriting
import SessionGateway.Proofs.LogThreshold
import SessionGateway.Shutdown.Course
import SessionGateway.Proofs.ShutdownFlag
import SessionGateway.Scheduler.Course
import SessionGateway.Proofs.ScheduledRuns
import SessionGateway.Proofs.Session.HeartbeatPeriod
import SessionGateway.Proofs.MethodList
