import HttpRouting.Deployment
import HttpRouting.Description
import HttpRouting.Middleware.Adjustments
import HttpRouting.Middleware.Options
import HttpRouting.Middleware.Tracing
import HttpRouting.Route.ServingTable
import HttpRouting.Proofs.TrieGrowth
import HttpRouting.Proofs.Lookup
import HttpRouting.Proofs.CandidateOrder
import HttpRouting.Proofs.Ranking
import HttpRouting.Proofs.Parameters
import HttpRouting.Proofs.Choice
import HttpRouting.Proofs.Outcomes
import HttpRouting.Proofs.Registry
import HttpRouting.Proofs.Lists
import HttpRouting.Proofs.Reachable
import HttpRouting.Proofs.Resolution
import HttpRouting.Proofs.TrieTransport
import HttpRouting.Proofs.PathText
import HttpRouting.Proofs.LetterCase
import HttpRouting.Proofs.PatternSegments
import HttpRouting.Proofs.JoinedPatterns
import HttpRouting.Proofs.JoinedTexts
import HttpRouting.Proofs.Mounting
import HttpRouting.Proofs.OrderIndependence
import HttpRouting.Proofs.HeadRequests
import HttpRouting.Proofs.PercentText
import HttpRouting.Proofs.PathRoundTrip
import HttpRouting.Proofs.Contracts
import HttpRouting.Proofs.Registering
import HttpRouting.Proofs.ShapeKeys
import HttpRouting.Proofs.ShapeIdentity
import HttpRouting.Proofs.Conflicts
import HttpRouting.Proofs.Upkeep
import HttpRouting.Proofs.Sessions
import HttpRouting.Proofs.Runs
import HttpRouting.Proofs.RefusedHosts
import HttpRouting.Proofs.Refusals
import HttpRouting.Proofs.AllowedMethods
import HttpRouting.Proofs.HeadAsGet
import HttpRouting.Proofs.TableRuns
import HttpRouting.Proofs.NamedPaths
import HttpRouting.Proofs.FrozenRouters
import HttpRouting.Proofs.Freezing
import HttpRouting.Proofs.Composition
import HttpRouting.Proofs.Pipelines
import HttpRouting.Proofs.Bindings
import HttpRouting.Proofs.Containment
import HttpRouting.Proofs.Nesting
import HttpRouting.Proofs.NestedMounts
import HttpRouting.Proofs.MethodGuards
import HttpRouting.Proofs.PathGuards
import HttpRouting.Proofs.StrippedPrefixes
import HttpRouting.Proofs.HiddenPrefixes
import HttpRouting.Proofs.HostDispatch
import HttpRouting.Proofs.ReachableHosts
import HttpRouting.Proofs.HeaderFields
import HttpRouting.Proofs.CrossOrigin
import HttpRouting.Proofs.OriginCaching
import HttpRouting.Proofs.HeaderFolds
import HttpRouting.Proofs.BuiltHeaders
import HttpRouting.Proofs.JsonObjects
import HttpRouting.Proofs.SettingsSources
import HttpRouting.Proofs.SettingsLayers
import HttpRouting.Proofs.SettingsChanges
import HttpRouting.Proofs.SpanNesting
import HttpRouting.Proofs.LivePatterns
import HttpRouting.Proofs.RegexFrames
import HttpRouting.Proofs.RegexReaders
import HttpRouting.Proofs.RegexSpans
import HttpRouting.Proofs.PathFaults
import HttpRouting.Proofs.RewrittenPaths
import HttpRouting.Proofs.AnchoredConstraints
import HttpRouting.Proofs.RankedPatterns
import HttpRouting.Proofs.Credentials
import HttpRouting.Proofs.LogLines
import HttpRouting.Proofs.SettingsKeys
