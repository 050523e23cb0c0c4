import Muldex.Acceptance
import Muldex.AdapterFidelity
import Muldex.AdapterKernel
import Muldex.Agently
import Muldex.AntiSpin
import Muldex.Cadence
import Muldex.Checkpoints
import Muldex.Cli
import Muldex.Coherence
import Muldex.CommandOutput
import Muldex.Commands
import Muldex.Compact
import Muldex.DecisionFlags
import Muldex.DecisionRange
import Muldex.DocumentForms
import Muldex.Documents
import Muldex.Interleaving
import Muldex.Json
import Muldex.LoopGuard
import Muldex.ModelRouting
import Muldex.Monotone
import Muldex.NonInterference
import Muldex.Orchestrator
import Muldex.Policy
import Muldex.Protocol
import Muldex.ProtocolWire
import Muldex.ReasoningHarness
import Muldex.Record
import Muldex.Reorder
import Muldex.Resets
import Muldex.Sessions
import Muldex.SidecarWire
import Muldex.Text
import Muldex.TwoPaths
import Muldex.UpstreamAdapter
import Muldex.ViolatedRules
import Muldex.WireFormat
import Muldex.Workspace
