import MsgPerf.Library.ByteMemory
import MsgPerf.Maestro.Msgpack
import MsgPerf.Maestro.MsgpackFormat
import MsgPerf.Maestro.Note
import MsgPerf.Maestro.Serialize
import MsgPerf.Maestro.Deserialize
import MsgPerf.Maestro.Acceptance
import MsgPerf.Maestro.RoundTrip
import MsgPerf.Maestro.Player
import MsgPerf.Maestro.WellKinded
import MsgPerf.Daemon.Consumers
import MsgPerf.Library.Channel
import MsgPerf.Worker.Queue
import MsgPerf.Worker.Lifecycle
import MsgPerf.Daemon.Verdict
import MsgPerf.Daemon.MainLoop
import MsgPerf.Worker.Drain
import MsgPerf.Worker.Writers
import MsgPerf.Library.Process
import MsgPerf.Worker.Clone
import MsgPerf.Common.MessageBuffer
import MsgPerf.Daemon.Inspector
import MsgPerf.Maestro.Propagation
import MsgPerf.Maestro.Publishing
import MsgPerf.Worker.RateReport
import MsgPerf.Daemon.BrokerUrl
import MsgPerf.Api.ProtonReceive
import MsgPerf.Daemon.Settings
import MsgPerf.Library.Table
import MsgPerf.Daemon.InspectorTable
import MsgPerf.Worker.Pacing
import MsgPerf.Worker.Loops
import MsgPerf.Daemon.Statistics
import MsgPerf.Maestro.Forward
import MsgPerf.Library.OrderedMap
import MsgPerf.Common.Handlers
import MsgPerf.Api.PahoParameters
import MsgPerf.Library.FormattedText
import MsgPerf.Api.PahoLatency
import MsgPerf.Common.PayloadSize
import MsgPerf.Worker.RateFormat
import MsgPerf.Worker.TestProperties
import MsgPerf.Library.LinkedList
import MsgPerf.Worker.WorkerList
import MsgPerf.Worker.WatchdogPass
import MsgPerf.Worker.StopWorkers
import MsgPerf.Worker.ListMutex
import MsgPerf.Library.LineReader
import MsgPerf.Maestro.Script
import MsgPerf.Library.PubSub
import MsgPerf.Daemon.Announcing
import MsgPerf.Daemon.Network
import MsgPerf.Daemon.Traffic
import MsgPerf.Maestro.Requests
import MsgPerf.Daemon.Remote
import MsgPerf.Daemon.Exchange
import MsgPerf.Maestro.Cleanup
import MsgPerf.Worker.Throttle
import MsgPerf.Worker.LogDirectory
import MsgPerf.Library.Handles
import MsgPerf.Api.Wrappers
import MsgPerf.Api.Protocols
import MsgPerf.Worker.Sessions
import MsgPerf.Daemon.TestRun
import MsgPerf.Api.ProtonParameters
import MsgPerf.Api.ProtonSessions
import MsgPerf.Maestro.ToolSession
import MsgPerf.Daemon.Inspections
import MsgPerf.Library.Interleaving
import MsgPerf.Daemon.Conversation
import MsgPerf.Maestro.PlayerSession
