import Vigiscam.Js.Text
import Vigiscam.Js.Number
import Vigiscam.Js.Value
import Vigiscam.Js.Date
import Vigiscam.EvidenceVault.Hash
import Vigiscam.Concurrency.Pool
import Vigiscam.EvidenceVault.Event
import Vigiscam.EvidenceVault.Runs
import Vigiscam.EvidenceVault.Integrity
import Vigiscam.EvidenceVault.Tamper
import Vigiscam.Concurrency.Prog
import Vigiscam.Protection.Enums
import Vigiscam.Http
import Vigiscam.Protection.Store
import Vigiscam.Protection.Reviews
import Vigiscam.Protection.Enforcement
import Vigiscam.Protection.Modules
import Vigiscam.Protection.Outcomes
import Vigiscam.Concurrency.History
import Vigiscam.Protection.Gate
import Vigiscam.Protection.Approvals
import Vigiscam.Protection.Escalation
import Vigiscam.Protection.Races
import Vigiscam.Protection.Tokens
import Vigiscam.Billing.Service
import Vigiscam.Billing.Authenticity
import Vigiscam.AgencyFeeds.Service
import Vigiscam.AgencyFeeds.Completeness
import Vigiscam.Concurrency.Table
import Vigiscam.Families.Guardianship
import Vigiscam.Families.Consent
import Vigiscam.Billing.Order
import Vigiscam.Concurrency.Once
import Vigiscam.Billing.Idempotence
import Vigiscam.EvidenceVault.Json
import Vigiscam.EvidenceVault.Files
import Vigiscam.EvidenceVault.Isolation
import Vigiscam.Concurrency.Rely
import Vigiscam.EvidenceVault.Blobs
import Vigiscam.PartnerIntelligence.Checksums
import Vigiscam.Concurrency.Noted
import Vigiscam.ScamSignals.Intake
import Vigiscam.ScamSignals.Review
import Vigiscam.ScamSignals.Verdicts
import Vigiscam.Common.Cache
import Vigiscam.Registry.Search
import Vigiscam.Registry.CacheKeys
import Vigiscam.Concurrency.Contract
import Vigiscam.Registry.Service
import Vigiscam.Registry.Staleness
import Vigiscam.Concurrency.Sure
import Vigiscam.Protection.ReviewRaces
import Vigiscam.Identity.Auth
import Vigiscam.Identity.Rotation
import Vigiscam.Identity.InternalAdmin
import Vigiscam.Identity.SuperAdmins
import Vigiscam.Identity.ApiKeys
import Vigiscam.Identity.Suspension
import Vigiscam.Registry.Lifecycle
import Vigiscam.ScamSignals.Counting
import Vigiscam.Concurrency.Part
import Vigiscam.Clustering.Service
import Vigiscam.Clustering.Races
import Vigiscam.Billing.Manual
import Vigiscam.Concurrency.Failures
import Vigiscam.RiskFusion.Service
import Vigiscam.RiskFusion.Faults
import Vigiscam.Checks.Addresses
import Vigiscam.Checks.ClaimIndicators
import Vigiscam.Checks.Scoring
import Vigiscam.FraudGraph.Nodes
import Vigiscam.Checks.Modules
import Vigiscam.Checks.Faults
import Vigiscam.Concurrency.Calls
import Vigiscam.DetectionRules.Retest
import Vigiscam.Sessions.Service
import Vigiscam.Sessions.Status
import Vigiscam.Concurrency.Triple
import Vigiscam.FraudGraph.Campaigns
import Vigiscam.Js.Parts
import Vigiscam.Registry.NonInterference
import Vigiscam.ScamCheck.Privacy
import Vigiscam.EvidenceVault.Custody
import Vigiscam.Protection.Elder
import Vigiscam.Js.Regex
import Vigiscam.ScamMirror.Sanitizer
import Vigiscam.ScamMirror.Accepted
import Vigiscam.ScamMirror.Service
import Vigiscam.ScamMirror.Credentials
import Vigiscam.ScamMirror.Transcripts
import Vigiscam.IdentityGraph.Masking
import Vigiscam.IdentityGraph.Rows
import Vigiscam.IdentityGraph.Recording
import Vigiscam.IdentityGraph.Redaction
import Vigiscam.InvestigatorPortal.Cases
import Vigiscam.ModelGovernance.Registry
import Vigiscam.Checks.Monotone
import Vigiscam.BankPortal.TellerAssist
import Vigiscam.PlatformPortal.Grooming
import Vigiscam.RiskFusion.Fusion
import Vigiscam.Scores.Explainable
import Vigiscam.Js.LowerCase
import Vigiscam.RiskFusion.Signals
import Vigiscam.ScamCheck.Padding
import Vigiscam.Concurrency.Issued
import Vigiscam.PublicAlerts.Service
import Vigiscam.PublicAlerts.Freshness
import Vigiscam.ScamCheck.Statuses
import Vigiscam.ScamSignals.Hosts
import Vigiscam.ScamSignals.Idempotence
import Vigiscam.Clustering.HostKeys
import Vigiscam.ScamSignals.Addresses
import Vigiscam.ScamSignals.Corroboration
import Vigiscam.Checks.Sentinel
import Vigiscam.Common.CacheRuns
import Vigiscam.Common.Invalidation
import Vigiscam.Common.Cors
import Vigiscam.Graphs.Layers
import Vigiscam.IdentityGraph.Neighbourhood
import Vigiscam.Concurrency.Tally
import Vigiscam.FraudGraph.Counting
import Vigiscam.FraudGraph.Aggregates
import Vigiscam.FraudGraph.Clusters
import Vigiscam.ReviewQueue.Runs
import Vigiscam.PublicAlerts.PublicTexts
import Vigiscam.EnterprisePortal.Policies
import Vigiscam.Js.Gather
import Vigiscam.ModelGovernance.Feedback
import Vigiscam.Lists.Pages
import Vigiscam.Registry.Pagination
import Vigiscam.DetectionRules.Suggestions
import Vigiscam.DetectionRules.SuggestionRuns
import Vigiscam.DetectionRules.PhraseRules
import Vigiscam.Lists.Keyed
import Vigiscam.Lists.Ranking
import Vigiscam.Ai.Embeddings
import Vigiscam.Js.Replace
import Vigiscam.Takedown.Templates
import Vigiscam.Js.RegexLanguage
import Vigiscam.Ai.NlpStub
import Vigiscam.DetectionRules.TacticPhrases
import Vigiscam.Checks.SiteHosts
import Vigiscam.Js.RegexSearch
import Vigiscam.ScamMirror.CardNumbers
import Vigiscam.EvidenceVault.Canonical
import Vigiscam.Lists.CheckDigits
import Vigiscam.ScamMirror.Luhn
import Vigiscam.BankPortal.Service
import Vigiscam.Events.Gateway
import Vigiscam.Notifications.Retries
import Vigiscam.PartnerKeys.Authority
import Vigiscam.PartnerKeys.Quota
import Vigiscam.PlatformPortal.Service
import Vigiscam.Registry.AppealRuns
import Vigiscam.RiskFusionV2.Runs
import Vigiscam.RiskFusionV2.Wording
import Vigiscam.Takedown.Runs
import Vigiscam.Webhooks.Partners
