import ProofOfExistence.Clock
import ProofOfExistence.Event.Bus
import ProofOfExistence.Main
import ProofOfExistence.Store.Files
import ProofOfExistence.Store.Undo
import ProofOfExistence.Wire.Dispatcher
import ProofOfExistence.Proofs.RunRelations
import ProofOfExistence.Proofs.ServiceParts
import ProofOfExistence.Proofs.TableLookup
import ProofOfExistence.Proofs.UndoStoreCorrect
import ProofOfExistence.Proofs.StoreTransactions
import ProofOfExistence.Proofs.Lifecycle
import ProofOfExistence.Proofs.LifecycleCorrect
import ProofOfExistence.Proofs.TransactionalStore
import ProofOfExistence.Proofs.FaithfulStores
import ProofOfExistence.Proofs.CallSteps
import ProofOfExistence.Proofs.RegistryRuns
import ProofOfExistence.Proofs.ServiceRuns
import ProofOfExistence.Proofs.FailedCalls
import ProofOfExistence.Proofs.InterchangeableStores
import ProofOfExistence.Proofs.NonceOrder
import ProofOfExistence.Proofs.OwnershipSteps
import ProofOfExistence.Proofs.Ownership
import ProofOfExistence.Proofs.RecordedEvents
import ProofOfExistence.Proofs.EventReplay
import ProofOfExistence.Proofs.MemberOrder
import ProofOfExistence.Proofs.EnvelopeReading
import ProofOfExistence.Proofs.JsonTokens
import ProofOfExistence.Proofs.JsonText
import ProofOfExistence.Proofs.SignedPayload
import ProofOfExistence.Proofs.Admission
import ProofOfExistence.Proofs.HonestEnvelopes
import ProofOfExistence.Proofs.Base64Text
import ProofOfExistence.Proofs.KeyIds
import ProofOfExistence.Proofs.CanonicalIds
import ProofOfExistence.Proofs.UsableNonces
import ProofOfExistence.Proofs.AuditTrail
import ProofOfExistence.Proofs.BusRuns
import ProofOfExistence.Proofs.CallCourses
import ProofOfExistence.Proofs.BusDeliveries
import ProofOfExistence.Proofs.BusOrder
import ProofOfExistence.Proofs.MonotonicStamps
import ProofOfExistence.Proofs.BalancedBooks
import ProofOfExistence.Proofs.WellFormedRegistry
import ProofOfExistence.Proofs.DispatchOutcome
import ProofOfExistence.Proofs.IndependentRequests
import ProofOfExistence.Proofs.ClosedFiles
import ProofOfExistence.Proofs.EnvelopeGrammar
import ProofOfExistence.Proofs.TagKeys
import ProofOfExistence.Proofs.TagCounters
import ProofOfExistence.Proofs.ClockReadings
import ProofOfExistence.Proofs.BusPrograms
import ProofOfExistence.Proofs.SnapshotDelivery
import ProofOfExistence.Proofs.ConfigurationMerge
import ProofOfExistence.Proofs.EnvironmentBlanks
import ProofOfExistence.Proofs.UsableConfiguration
import ProofOfExistence.Proofs.HexSpellings
import ProofOfExistence.Proofs.DispatcherParts
import ProofOfExistence.Proofs.LoggedRegistry
import ProofOfExistence.Proofs.LevelFilter
import ProofOfExistence.Proofs.AlikeEnvelopes
import ProofOfExistence.Proofs.RejectionLogs
import ProofOfExistence.Proofs.StoreFrames
import ProofOfExistence.Proofs.FileFrames
import ProofOfExistence.Proofs.KeptApart
