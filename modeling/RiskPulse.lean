import RiskPulse.AbIsolation
import RiskPulse.AlertDeduplication
import RiskPulse.AlertStatistics
import RiskPulse.AlertStorm
import RiskPulse.AlertSuppression
import RiskPulse.ArtifactHash
import RiskPulse.AtLeastOnce
import RiskPulse.AuditTrail
import RiskPulse.BatchPrediction
import RiskPulse.BatchStorage
import RiskPulse.BatchSubmission
import RiskPulse.BufferConservation
import RiskPulse.BulkUpsert
import RiskPulse.BurstSilence
import RiskPulse.CacheLifetimes
import RiskPulse.CacheTransparency
import RiskPulse.CanonicalFields
import RiskPulse.CircuitBreaker
import RiskPulse.CleaningIdempotence
import RiskPulse.CloudWatchFormatter
import RiskPulse.CloudWatchShipping
import RiskPulse.CodecAgreement
import RiskPulse.ConditionOrder
import RiskPulse.CustomerInvalidation
import RiskPulse.DataQuality
import RiskPulse.DeadLetterFidelity
import RiskPulse.DecimalEncoding
import RiskPulse.DedupKeys
import RiskPulse.DegradedScores
import RiskPulse.DeliveryProgress
import RiskPulse.DetectorAgreement
import RiskPulse.DeviceIndex
import RiskPulse.DriftDetection
import RiskPulse.EnsembleScore
import RiskPulse.EscalatingAmounts
import RiskPulse.EscalationProgress
import RiskPulse.ExactlyOnce
import RiskPulse.FraudEvaluation
import RiskPulse.HotReload
import RiskPulse.IncrementalAggregation
import RiskPulse.IngestionCompleteness
import RiskPulse.InputSanitization
import RiskPulse.LaterTransactions
import RiskPulse.LiveEscalation
import RiskPulse.LocalDashboardStore
import RiskPulse.LocalWarehouse
import RiskPulse.MarkupIsolation
import RiskPulse.PiiMasking
import RiskPulse.PredictionAvailability
import RiskPulse.QuarantineAccounting
import RiskPulse.RateLimitIdentity
import RiskPulse.RateLimits
import RiskPulse.RegistryDurability
import RiskPulse.RegistryRollback
import RiskPulse.ReplayAfterFailure
import RiskPulse.RiskScores
import RiskPulse.SchemaSoundness
import RiskPulse.ScorerRoundTrip
import RiskPulse.SingleVersion
import RiskPulse.SqlSecurity
import RiskPulse.StageAccounting
import RiskPulse.TimeWindows
import RiskPulse.TimeoutDegradation
import RiskPulse.TokenBuckets
import RiskPulse.TransactionTable
import RiskPulse.TravelDeterminism
import RiskPulse.UploadPaths
import RiskPulse.VelocityEviction
import RiskPulse.VelocityThresholds
import RiskPulse.VelocityTracking
import RiskPulse.VelocityWindows
import RiskPulse.WeightUpdates
import RiskPulse.WriteAhead
