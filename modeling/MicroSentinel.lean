import MicroSentinel.Types
import MicroSentinel.PerfRing
import MicroSentinel.Config
import MicroSentinel.SkewAdjuster
import MicroSentinel.Symbolizer
import MicroSentinel.SymbolOverrides
import MicroSentinel.ProcMaps
import MicroSentinel.Aggregator
import MicroSentinel.ModeController
import MicroSentinel.AnomalyMonitor
import MicroSentinel.BpfOrchestrator
import MicroSentinel.Cookies
import MicroSentinel.TokenBucket
import MicroSentinel.FlowContext
import MicroSentinel.FlowTuple
import MicroSentinel.SkbFlow
import MicroSentinel.PmuRotator
import MicroSentinel.Components
import MicroSentinel.Runtime
import MicroSentinel.RuntimeData
import MicroSentinel.Sink
import MicroSentinel.SinkThreads
import MicroSentinel.ControlPlane
import MicroSentinel.Json
import MicroSentinel.JsonCursor
import MicroSentinel.Requests
import MicroSentinel.JsonRequests
import MicroSentinel.ControlServer
import MicroSentinel.FlowGauges
import MicroSentinel.Analyzers.Table
import MicroSentinel.Analyzers.RemoteDram
import MicroSentinel.Analyzers.FalseSharing
