import EntitySearch.Entity.Basic
import EntitySearch.Entity.Descriptor
import EntitySearch.Index.Highlight
import EntitySearch.Index.Memory
import EntitySearch.Index.Pool
import EntitySearch.Index.Relational
import EntitySearch.Index.Scripted
import EntitySearch.Index.Sql
import EntitySearch.Index.Store
import EntitySearch.Json.Convert
import EntitySearch.Json.Document
import EntitySearch.Json.Reader
import EntitySearch.Json.Value
import EntitySearch.Json.Writer
import EntitySearch.Ledger
import EntitySearch.Number.Binary64
import EntitySearch.Number.Notation
import EntitySearch.Number.Reading
import EntitySearch.Number.Rounding
import EntitySearch.Number.Scalar
import EntitySearch.Proofs.Fallible
import EntitySearch.Proofs.Index.Checks
import EntitySearch.Proofs.Index.EntryOrder
import EntitySearch.Proofs.Index.Evidence
import EntitySearch.Proofs.Index.FilterConditions
import EntitySearch.Proofs.Index.FullTextQuery
import EntitySearch.Proofs.Index.History
import EntitySearch.Proofs.Index.Hits
import EntitySearch.Proofs.Index.Holdings
import EntitySearch.Proofs.Index.MergedFilters
import EntitySearch.Proofs.Index.Placeholders
import EntitySearch.Proofs.Index.PoolHistory
import EntitySearch.Proofs.Index.PrefixMatching
import EntitySearch.Proofs.Index.Restriction
import EntitySearch.Proofs.Index.Scores
import EntitySearch.Proofs.Index.SearchOrder
import EntitySearch.Proofs.Index.SharedPool
import EntitySearch.Proofs.Index.Snippets
import EntitySearch.Proofs.Index.StoreFailures
import EntitySearch.Proofs.Index.TagHistory
import EntitySearch.Proofs.Ledger
import EntitySearch.Proofs.Number.Codes
import EntitySearch.Proofs.Number.Comparison
import EntitySearch.Proofs.Number.Doubling
import EntitySearch.Proofs.Number.Exact
import EntitySearch.Proofs.Number.Finite
import EntitySearch.Proofs.Number.Nearest
import EntitySearch.Proofs.Number.Operations
import EntitySearch.Proofs.Number.Plain
import EntitySearch.Proofs.Number.Range
import EntitySearch.Proofs.Number.Real
import EntitySearch.Proofs.Number.Reciprocal
import EntitySearch.Proofs.Query.Lexical
import EntitySearch.Proofs.Query.Parser
import EntitySearch.Proofs.Ranking.Boost
import EntitySearch.Proofs.Ranking.Dominance
import EntitySearch.Proofs.Ranking.EarlyCuts
import EntitySearch.Proofs.Ranking.FusedAlone
import EntitySearch.Proofs.Ranking.FusedEntities
import EntitySearch.Proofs.Ranking.FusedOrder
import EntitySearch.Proofs.Ranking.FusionRange
import EntitySearch.Proofs.Ranking.Rearrangement
import EntitySearch.Proofs.Ranking.Selection
import EntitySearch.Proofs.Ranking.Stability
import EntitySearch.Proofs.Ranking.Trend
import EntitySearch.Proofs.Schedule.Agenda
import EntitySearch.Proofs.Schedule.Clock
import EntitySearch.Proofs.Schedule.Heap
import EntitySearch.Proofs.Schedule.Timers
import EntitySearch.Proofs.Search.Confirmation
import EntitySearch.Proofs.Search.CountedFailures
import EntitySearch.Proofs.Search.Deadlines
import EntitySearch.Proofs.Search.Degradation
import EntitySearch.Proofs.Search.Failures
import EntitySearch.Proofs.Search.IndexResults
import EntitySearch.Proofs.Search.Places
import EntitySearch.Proofs.Search.Provenance
import EntitySearch.Proofs.Search.Punctuality
import EntitySearch.Proofs.Search.Quotas
import EntitySearch.Proofs.Search.RaceClock
import EntitySearch.Proofs.Search.RaceEnds
import EntitySearch.Proofs.Search.RaceJobs
import EntitySearch.Proofs.Search.RacePhases
import EntitySearch.Proofs.Search.RaceStages
import EntitySearch.Proofs.Search.RaceTimes
import EntitySearch.Proofs.Search.RaceTurns
import EntitySearch.Proofs.Search.RaceViews
import EntitySearch.Proofs.Search.Rankings
import EntitySearch.Proofs.Search.RecordedTags
import EntitySearch.Proofs.Search.Records
import EntitySearch.Proofs.Search.Shares
import EntitySearch.Proofs.Search.SignalFailures
import EntitySearch.Proofs.Search.Soundness
import EntitySearch.Proofs.Search.SourceEndings
import EntitySearch.Proofs.Search.SourceTimes
import EntitySearch.Proofs.Search.SourcesOnTime
import EntitySearch.Proofs.Search.Termless
import EntitySearch.Proofs.Search.TimeLimits
import EntitySearch.Proofs.Search.TopResults
import EntitySearch.Proofs.Search.TypeResults
import EntitySearch.Proofs.Search.UnifiedSearch
import EntitySearch.Proofs.Search.UnifiedShares
import EntitySearch.Proofs.Search.Untimed
import EntitySearch.Proofs.Semantic.Answers
import EntitySearch.Proofs.Semantic.Attempts
import EntitySearch.Proofs.Semantic.BreakerHistory
import EntitySearch.Proofs.Semantic.ClientClock
import EntitySearch.Proofs.Semantic.Items
import EntitySearch.Proofs.Semantic.Readmission
import EntitySearch.Proofs.Semantic.Reports
import EntitySearch.Proofs.Semantic.RetryProtocol
import EntitySearch.Proofs.Service.FailureCounts
import EntitySearch.Proofs.Service.Presentation
import EntitySearch.Proofs.Service.SearchPage
import EntitySearch.Proofs.Text.Blank
import EntitySearch.Proofs.Text.Lowercase
import EntitySearch.Proofs.Text.Parts
import EntitySearch.Proofs.Text.Span
import EntitySearch.Proofs.Text.Word
import EntitySearch.Query.Basic
import EntitySearch.Query.Lexical
import EntitySearch.Query.Parser
import EntitySearch.Ranking.Fusion
import EntitySearch.Ranking.Gallop
import EntitySearch.Ranking.Merge
import EntitySearch.Ranking.Order
import EntitySearch.Ranking.Relevance
import EntitySearch.Ranking.RunSort
import EntitySearch.Ranking.Runs
import EntitySearch.Schedule.Activity
import EntitySearch.Schedule.Agenda
import EntitySearch.Schedule.Timers
import EntitySearch.Search.Adjust
import EntitySearch.Search.AnySource
import EntitySearch.Search.Fanout
import EntitySearch.Search.Hybrid
import EntitySearch.Search.IndexPlan
import EntitySearch.Search.Measurement
import EntitySearch.Search.Race
import EntitySearch.Search.ScriptedSource
import EntitySearch.Search.Secondary
import EntitySearch.Search.Source
import EntitySearch.Search.Strategy
import EntitySearch.Search.TypeSearch
import EntitySearch.Semantic.Breaker
import EntitySearch.Semantic.Client
import EntitySearch.Semantic.Response
import EntitySearch.Semantic.Traffic
import EntitySearch.Service.App
import EntitySearch.Service.Assembly
import EntitySearch.Service.Environment
import EntitySearch.Service.Exposition
import EntitySearch.Service.Log
import EntitySearch.Service.Metrics
import EntitySearch.Service.Place
import EntitySearch.Service.Request
import EntitySearch.Service.SearchRequest
import EntitySearch.Service.SettingFile
import EntitySearch.Service.Settings
import EntitySearch.Service.Validation
import EntitySearch.Text.Basic
import EntitySearch.Text.Blank
import EntitySearch.Text.Digit
import EntitySearch.Text.Encoding
import EntitySearch.Text.Lowercase
import EntitySearch.Text.Printable
import EntitySearch.Text.Ranges
import EntitySearch.Text.Units
import EntitySearch.Text.Uppercase
import EntitySearch.Text.Word
import EntitySearch.Url.Address
import EntitySearch.Url.Escape
import EntitySearch.Url.Host
import EntitySearch.Url.Label.Basic
import EntitySearch.Url.Label.Composition
import EntitySearch.Url.Label.Context
import EntitySearch.Url.Label.Direction
import EntitySearch.Url.Label.Marks
import EntitySearch.Url.Label.Permitted
import EntitySearch.Url.Punycode
import EntitySearch.Url.Target
