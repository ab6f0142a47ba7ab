import UniverEscrow.Admin.HealFaults
import UniverEscrow.Admin.HealRace
import UniverEscrow.Admin.HealRestores
import UniverEscrow.Bootstrap.LedgerFreeze
import UniverEscrow.Consensus.AnchorFingerprint
import UniverEscrow.Consensus.CommitCalls
import UniverEscrow.Consensus.OverlappingCommits
import UniverEscrow.Ledger.FreezeWindow
import UniverEscrow.Ledger.SaveCoherence
import UniverEscrow.Ledger.SaveFaults
import UniverEscrow.Merkle.EnclaveMerkleAccumulator
import UniverEscrow.Router.EnclaveReadiness
import UniverEscrow.Router.LeaderFencing
import UniverEscrow.Router.LockSignature
import UniverEscrow.Router.RecoveryReplay
import UniverEscrow.Consensus.MedianAnchor
import UniverEscrow.Consensus.AnchorOrder
import UniverEscrow.Consensus.RestartCatchUp
import UniverEscrow.Consensus.SnapshotAuthentic
import UniverEscrow.Consensus.EvictionQuorum
import UniverEscrow.Cryptography.DeprecatedKeys
import UniverEscrow.Consensus.UnattestedNode
import UniverEscrow.Consensus.PartitionedViews
import UniverEscrow.Router.PeerAdmission
import UniverEscrow.Cryptography.SecretShares
import UniverEscrow.Infrastructure.MigrationPreserves
import UniverEscrow.Router.UpgradeStateEnclave
import UniverEscrow.Cryptography.SealingPolicies
import UniverEscrow.Backend.EscrowService
import UniverEscrow.Backend.EscrowPayment
import UniverEscrow.Backend.EscrowIntegrity
import UniverEscrow.Backend.EscrowOverlap
import UniverEscrow.Backend.ConfidenceBar
import UniverEscrow.Backend.OtpAttempts
import UniverEscrow.Backend.PayoutOverlap
import UniverEscrow.Backend.TenantIsolation
import UniverEscrow.Merkle.StableJson
import UniverEscrow.Merkle.CompactedProof
import UniverEscrow.Enclave.CanonicalEncodings
import UniverEscrow.Bootstrap.BootstrapOrder
import UniverEscrow.Middleware.AntiDosMiddleware
import UniverEscrow.Ledger.NotaryCache
import UniverEscrow.Backend.WebhookController
import UniverEscrow.Frontend.LocalTransactionCache
import UniverEscrow.Security.EnclaveLogShield
import UniverEscrow.Consensus.AssertionWindow
import UniverEscrow.Consensus.SnapshotHistory
import UniverEscrow.Consensus.BftCommitFrame
import UniverEscrow.Merkle.CompactorBounds
import UniverEscrow.Security.RateLimit
import UniverEscrow.Middleware.OwnPuzzles
import UniverEscrow.Cryptography.TamperEvidence
import UniverEscrow.Backend.AmountPaths
import UniverEscrow.Backend.MpesaHandler
import UniverEscrow.Backend.ExpectedItem
import UniverEscrow.Backend.WebhookService
import UniverEscrow.Infrastructure.VsockBridgeAdapter
import UniverEscrow.Frontend.CachedMetadata
import UniverEscrow.Middleware.IntegrityMiddleware
import UniverEscrow.Middleware.SignedBodies
import UniverEscrow.Security.RedactionByForm
import UniverEscrow.Merkle.KeyTokenShape
import UniverEscrow.Security.ConfidentialIdentityEngine
import UniverEscrow.Bootstrap.KeptRecords
import UniverEscrow.Router.ProofRoutes
import UniverEscrow.Router.ReconciliationRoutes
import UniverEscrow.Cryptography.ForwardedSecrets
import UniverEscrow.Enclave.HybridSignatures
import UniverEscrow.Ledger.AuditLogger
import UniverEscrow.Backend.SignedOperations
import UniverEscrow.Adapters.TokenCaches
import UniverEscrow.Infrastructure.ConnectionLifecycle
import UniverEscrow.Infrastructure.EnclaveProvisioner
import UniverEscrow.Bootstrap.VotingRounds
