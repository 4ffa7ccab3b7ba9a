import SmartBusAccess.Semantics.Runs
import SmartBusAccess.Semantics.Scanning
import SmartBusAccess.Semantics.Looping
import SmartBusAccess.Semantics.StopAndWait
import SmartBusAccess.Semantics.Holding
import SmartBusAccess.Semantics.Outstanding
import SmartBusAccess.Semantics.Rotation
import SmartBusAccess.Semantics.Emitting
import SmartBusAccess.Semantics.Deadline
import SmartBusAccess.Semantics.Thinning
import SmartBusAccess.Semantics.Toggling
import SmartBusAccess.Semantics.BitPolynomial
import SmartBusAccess.Semantics.ShiftRegister
import SmartBusAccess.Semantics.Synchronising
import SmartBusAccess.Semantics.LossyLine
import SmartBusAccess.Semantics.Causation
import SmartBusAccess.Semantics.Polling
import SmartBusAccess.Uart.Frame
import SmartBusAccess.Uart.ParserStream
import SmartBusAccess.Uart.Crc8
import SmartBusAccess.Uart.Arq
import SmartBusAccess.Uart.SenderLife
import SmartBusAccess.Uart.Link
import SmartBusAccess.Uart.Delivery
import SmartBusAccess.Uart.Restart
import SmartBusAccess.Uart.Losses
import SmartBusAccess.Uart.SlopeGlue
import SmartBusAccess.Uart.SlopeLink
import SmartBusAccess.Uart.RetryTiming
import SmartBusAccess.Uart.BleGlue
import SmartBusAccess.Uart.Mailbox
import SmartBusAccess.Uart.BleModule
import SmartBusAccess.Uart.BleSystem
import SmartBusAccess.Can.Types
import SmartBusAccess.Can.Core
import SmartBusAccess.Can.SendLog
import SmartBusAccess.Can.Operation
import SmartBusAccess.Can.Bench
import SmartBusAccess.Can.Resuming
import SmartBusAccess.Can.Executor
import SmartBusAccess.Can.Submission
import SmartBusAccess.Can.Completion
import SmartBusAccess.Can.Conservation
import SmartBusAccess.Can.Fairness
import SmartBusAccess.Can.Reopening
import SmartBusAccess.Can.Match
import SmartBusAccess.Can.Infinite
import SmartBusAccess.Can.Expiry
import SmartBusAccess.Can.FirstMatch
import SmartBusAccess.Can.Service
import SmartBusAccess.Can.Board
import SmartBusAccess.Can.Tc3xx
import SmartBusAccess.Can.RoundTrip
import SmartBusAccess.Can.Platform
import SmartBusAccess.Can.Socket
import SmartBusAccess.Can.Mirror
import SmartBusAccess.Can.Ledger
import SmartBusAccess.Can.DoorEcuCan
import SmartBusAccess.Can.DriverEcuCan
import SmartBusAccess.Can.AliveToggle
import SmartBusAccess.Can.Endpoint
import SmartBusAccess.Can.Protocol
import SmartBusAccess.Door.Servo
import SmartBusAccess.Door.Control
import SmartBusAccess.Door.Poll
import SmartBusAccess.Door.Actuation
import SmartBusAccess.Door.Interlock
import SmartBusAccess.Door.Response
import SmartBusAccess.Door.RampCommand
import SmartBusAccess.Door.RampEstimate
import SmartBusAccess.Door.ManualRamp
import SmartBusAccess.Door.RampSafety
import SmartBusAccess.Door.Travel
import SmartBusAccess.Door.RampOpening
import SmartBusAccess.Door.RampLink
import SmartBusAccess.Door.ObstacleDetect
import SmartBusAccess.Door.FirstEcho
import SmartBusAccess.Door.AutoRamp
import SmartBusAccess.Driver.MainLoop
import SmartBusAccess.Driver.Requests
import SmartBusAccess.Driver.Pinch
import SmartBusAccess.Driver.LoopRule
import SmartBusAccess.Driver.Monitor
import SmartBusAccess.Driver.BlePort
import SmartBusAccess.Driver.Informed
import SmartBusAccess.Driver.Lcd
import SmartBusAccess.Driver.Bell
import SmartBusAccess.Driver.FireDetect
import SmartBusAccess.Driver.FireAlarm
import SmartBusAccess.Slope.SlopeControl
import SmartBusAccess.System.Bus
import SmartBusAccess.System.Causes
import SmartBusAccess.System.Wanted
import SmartBusAccess.System.Openings
import SmartBusAccess.System.Access
