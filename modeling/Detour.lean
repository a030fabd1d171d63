import Detour.Agent.Profiler
import Detour.InMemory.Files
import Detour.InMemory.Host
import Detour.Proofs.Body.Instructions
import Detour.Proofs.Body.Headers
import Detour.Proofs.Body.RoundTrip
import Detour.Proofs.Body.Redirection
import Detour.Proofs.Body.Incremental
import Detour.Proofs.Body.CodeGrammar
import Detour.Proofs.Body.Grammar
import Detour.Proofs.Body.Truncation
import Detour.Proofs.CallSite.Purity
import Detour.Proofs.CallSite.Passes
import Detour.Proofs.Agent.Commits
import Detour.Proofs.Agent.Afresh
import Detour.Proofs.Agent.Effects
import Detour.Proofs.Agent.Writes
import Detour.Proofs.Agent.ConstrainedCalls
import Detour.Proofs.Module.Emission
import Detour.Proofs.Host.Account
import Detour.Proofs.Agent.Loading
import Detour.Proofs.Assembly.DisplayNames
import Detour.Proofs.Rule.WrapperKeys
import Detour.Proofs.Module.Stages
import Detour.Proofs.Module.Requests
import Detour.Proofs.Module.GrantedRows
import Detour.Proofs.Module.Provenance
import Detour.Proofs.Agent.Targets
import Detour.Proofs.Agent.Callbacks
import Detour.Proofs.CallSite.FullResolution
import Detour.Proofs.CallSite.Sites
import Detour.Proofs.Agent.Events
import Detour.Proofs.Agent.ReadyRecords
import Detour.Proofs.Module.TwoEmissions
import Detour.Proofs.Agent.TwoSessions
import Detour.Proofs.Agent.Handles
import Detour.Proofs.Agent.ProcessEvents
import Detour.Proofs.Agent.Isolation
import Detour.Proofs.Module.Attempts
import Detour.Proofs.Module.Acceptance
import Detour.Proofs.Agent.LoadedRules
import Detour.Proofs.Agent.RuleIsolation
import Detour.Proofs.Text.Trimmed
import Detour.Proofs.CallSite.SecondPass
import Detour.Proofs.Host.Growth
import Detour.Proofs.CallSite.GrownScans
import Detour.Proofs.Agent.InFlight
import Detour.Proofs.InMemory.AppendedRows
import Detour.Proofs.Agent.ListedSettings
import Detour.Proofs.Rule.FilesInOrder
import Detour.Proofs.Text.LetterCase
import Detour.Proofs.Assembly.Spellings
import Detour.Proofs.Agent.CompilationLog
import Detour.Proofs.Body.Lengths
import Detour.Proofs.CallSite.ReadCost
import Detour.Proofs.Json.Strings
import Detour.Proofs.Json.Numbers
import Detour.Proofs.Json.Documents
import Detour.Proofs.Rule.Records
import Detour.Proofs.Rule.RecordFields
import Detour.Proofs.Rule.ValidWrappers
import Detour.Proofs.Rule.Layouts
import Detour.Proofs.Body.Relocation
import Detour.Proofs.Body.Tiling
