import ServiceDaemon.Proofs.DispatchOwnership
import ServiceDaemon.Proofs.DrainAccounting
import ServiceDaemon.Proofs.SignalDelivery
import ServiceDaemon.Proofs.GuardPublication
import ServiceDaemon.Proofs.DependencyWakeup
import ServiceDaemon.Proofs.DependencyBaseline
import ServiceDaemon.Proofs.ReloadExit
import ServiceDaemon.Proofs.BackoffInterruption
import ServiceDaemon.Proofs.WaveTermination
import ServiceDaemon.Proofs.RestartControllers
import ServiceDaemon.Proofs.RetryLoop
import ServiceDaemon.Proofs.BackoffSchedule
import ServiceDaemon.Proofs.HealthyUptime
import ServiceDaemon.Proofs.ShutdownDescent
import ServiceDaemon.Proofs.LimitOwnership
import ServiceDaemon.Proofs.AcceptedDurations
import ServiceDaemon.Proofs.GenerationBindings
import ServiceDaemon.Proofs.OverlayFencing
import ServiceDaemon.Proofs.LazyPolicy
import ServiceDaemon.Proofs.CausalOrigin
import ServiceDaemon.Proofs.ShelfMap
import ServiceDaemon.Proofs.CronJobs
import ServiceDaemon.Proofs.ManagedAgreement
import ServiceDaemon.Proofs.FactsAgreement
import ServiceDaemon.Proofs.EagerInitDeterminism
import ServiceDaemon.Proofs.PressureBound
import ServiceDaemon.Proofs.SocketUnlink
import ServiceDaemon.Proofs.ElasticLimit
import ServiceDaemon.Proofs.IdentifierText
import ServiceDaemon.Proofs.ServiceSelection
import ServiceDaemon.Proofs.GenerationEviction
import ServiceDaemon.Proofs.ObservationHistory
import ServiceDaemon.Proofs.WindowDeltas
import ServiceDaemon.Proofs.SchedulingAdvice
import ServiceDaemon.Proofs.LogConservation
