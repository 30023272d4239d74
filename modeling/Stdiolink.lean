import Stdiolink.Server.RestartTimers
import Stdiolink.Server.StartAndStop
import Stdiolink.Modbus.TcpBuffer
import Stdiolink.Modbus.LateAnswers
import Stdiolink.Modbus.MalformedAnswers
import Stdiolink.Modbus.RtuMemory
import Stdiolink.Server.ValidateConfig
import Stdiolink.Server.ServiceChanges
import Stdiolink.Server.ConcurrencyCaps
import Stdiolink.Server.DaemonRestarts
import Stdiolink.Server.InstanceLife
import Stdiolink.Driver.StdioMode
import Stdiolink.Host.InFlight
import Stdiolink.Js.CommandResults
import Stdiolink.ScanRobot.ScanData
import Stdiolink.LaserRadar.Segments
import Stdiolink.TempScanner.ThermalSession
import Stdiolink.Server.RefusedRequests
import Stdiolink.Server.CpuSamples
import Stdiolink.Server.DriverLab
import Stdiolink.Server.EventLog
import Stdiolink.Server.FileAccess
import Stdiolink.Server.InstanceLogWriter
import Stdiolink.Server.MetaRefresh
import Stdiolink.Webui.CliArgs
import Stdiolink.Webui.SchemaPath
import Stdiolink.OpcUa.ValueRoundTrips
import Stdiolink.OpcUa.ToldWrites
import Stdiolink.Modbus.BatchCommands
import Stdiolink.Modbus.SameInterface
import Stdiolink.CraneSim.SimHandler
import Stdiolink.Modbus.FailedRuns
import Stdiolink.Vision.WebSocketClient
import Stdiolink.Webui.EventStreamStore
import Stdiolink.Js.Spawn
import Stdiolink.Modbus.CrcCopies
import Stdiolink.Server.ScheduleFields
import Stdiolink.LaserRadar.WordCrc
import Stdiolink.Js.DriverResolve
import Stdiolink.Meta.ExampleAutoFill
import Stdiolink.Host.ConfigInjector
