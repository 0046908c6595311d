import WebGuard.Properties.Recovery
import WebGuard.Properties.Permits
import WebGuard.Properties.Idempotency
import WebGuard.Properties.Worker
import WebGuard.Properties.PgPermits
import WebGuard.Properties.PgCancellation
import WebGuard.Properties.PgSubmit
import WebGuard.Properties.PgScanRecords
import WebGuard.Properties.PgReadable
import WebGuard.Properties.Reexecution
import WebGuard.Properties.Pagination
import WebGuard.Properties.PermitChecks
import WebGuard.Properties.Deactivated
import WebGuard.Properties.Callbacks
import WebGuard.Properties.SafetyAccounting
import WebGuard.Properties.TerminalWrites
import WebGuard.Properties.ScheduleSlots
import WebGuard.Properties.DestructiveLinks
import WebGuard.Properties.SendableLinks
import WebGuard.Properties.RateWindows
import WebGuard.Properties.CookieScope
import WebGuard.Properties.ParameterRoundTrip
import WebGuard.Properties.RetryAccounting
import WebGuard.Properties.AnalyzerCoverage
import WebGuard.Properties.CursorSize
import WebGuard.Properties.TargetProjection
import WebGuard.Properties.JobPolicies
import WebGuard.Properties.ScheduleKeys
import WebGuard.Properties.DetectorShares
import WebGuard.Properties.ComparisonTotality
import WebGuard.Properties.FixedFindings
import WebGuard.Properties.LogBoundary
import WebGuard.Properties.Registrations
import WebGuard.Properties.AssetCounts
import WebGuard.Properties.StateChangingProbes
import WebGuard.Crawler.ErrorTaxonomy
import WebGuard.Properties.DetectorEvidence
import WebGuard.Properties.TimestampTexts
import WebGuard.Properties.ComparisonPairs
import WebGuard.Properties.CandidateIdentity
import WebGuard.Properties.LeafPaths
import WebGuard.Properties.StoreHistories
import WebGuard.Properties.CrawlResumption
