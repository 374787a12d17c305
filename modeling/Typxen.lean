import Typxen.Foundation.Interaction
import Typxen.Foundation.Transition
import Typxen.Foundation.Monitor
import Typxen.Foundation.ByteString
import Typxen.Foundation.NorFlash
import Typxen.Foundation.Layout
import Typxen.Foundation.Exclusion
import Typxen.Foundation.KeyValue
import Typxen.Foundation.CyclicRedundancy
import Typxen.Foundation.CNumber
import Typxen.Foundation.Numeral
import Typxen.Foundation.CString
import Typxen.Callbacks
import Typxen.Protocol.Verifier
import Typxen.Protocol.Decoding
import Typxen.Protocol.Format
import Typxen.Protocol.Denotation
import Typxen.Protocol.Acceptance
import Typxen.Protocol.Encoding
import Typxen.Protocol.Canonical
import Typxen.Protocol.Limits
import Typxen.Protocol.Arithmetic
import Typxen.Executor.Executor
import Typxen.Executor.KeySafety
import Typxen.Executor.StopBoundary
import Typxen.Executor.Polling
import Typxen.Executor.Outcome
import Typxen.LocalSchedule.LocalSchedule
import Typxen.LocalSchedule.Typing
import Typxen.Foundation.Fips180
import Typxen.Sha256.Portable
import Typxen.Sha256.Correctness
import Typxen.WifiUpload.WifiUpload
import Typxen.WifiUpload.Operations
import Typxen.WifiUpload.Storage
import Typxen.WifiUpload.Chunks
import Typxen.WifiUpload.Finalize
import Typxen.WifiUpload.Assembly
import Typxen.WifiUpload.Sending
import Typxen.WifiUpload.Reassembly
import Typxen.WifiUpload.History
import Typxen.WifiUpload.Bookkeeping
import Typxen.WifiUpload.Promotion
import Typxen.WifiUpload.Locked
import Typxen.WifiUpload.Failures
import Typxen.WifiUpload.Retry
import Typxen.WifiUpload.Crc32
import Typxen.WifiUpload.AtMostOnce
import Typxen.WifiService.Runner
import Typxen.WifiService.TaskPhase
import Typxen.WifiService.TaskOutcome
import Typxen.WifiService.WifiService
import Typxen.WifiService.OneRun
import Typxen.WifiService.Stop
import Typxen.WifiService.Progress
import Typxen.WifiService.Terminal
import Typxen.ExecutionSafety.ExecutionSafety
import Typxen.ExecutionSafety.SafetyRelease
import Typxen.ExecutionSafety.Confirmation
import Typxen.ExecutionSafety.Carried
import Typxen.ExecutionSafety.Correlations
import Typxen.WifiService.Link
import Typxen.WifiService.SafeKeys
import Typxen.WifiService.Marker
import Typxen.WifiService.CrashSafety
import Typxen.HidRuntime.HidRuntime
import Typxen.HidRuntime.Exclusive
import Typxen.HidRuntime.ExecutionTask
import Typxen.HidRuntime.Host
import Typxen.HidRuntime.CalibrationMonitor
import Typxen.HidRuntime.CalibrationFlags
import Typxen.HidRuntime.LastReport
import Typxen.HidRuntime.Calibration
import Typxen.HidRuntime.Console
import Typxen.StateMachine.StateMachine
import Typxen.StateMachine.Authorisation
import Typxen.BleIdentity.BleIdentity
import Typxen.IdentityService.IdentityService
import Typxen.BleIdentity.ValidConfig
import Typxen.BleIdentity.Effective
import Typxen.BleIdentity.Battery
import Typxen.IdentityService.Namespace
import Typxen.IdentityService.Overrides
import Typxen.IdentityService.Stored
import Typxen.IdentityService.RoundTrip
import Typxen.IdentityService.Failures
import Typxen.IdentityService.RestartRequired
import Typxen.WifiService.Hex
import Typxen.WifiService.JobRequests
import Typxen.WifiService.Delivery
import Typxen.Foundation.Python
import Typxen.Foundation.Tiling
import Typxen.Foundation.CommandLine
import Typxen.BoardSetup.StationCommand
import Typxen.BoardSetup.FirmwareVerifier
import Typxen.BoardSetup.EveryByte
import Typxen.Foundation.Threads
import Typxen.Foundation.Cooperation
import Typxen.Foundation.Ownership
import Typxen.Foundation.Supervision
import Typxen.Foundation.Json
import Typxen.Foundation.CJson
import Typxen.WifiLink.WifiLink
import Typxen.WifiLink.Board
import Typxen.WifiLink.Flags
import Typxen.WifiLink.Footprints
import Typxen.WifiLink.Retries
import Typxen.WifiLink.Settled
import Typxen.WifiLink.StartMode
import Typxen.WifiLink.ConsoleCommands
import Typxen.WifiLink.Reconnecting
import Typxen.WifiLink.Operations
import Typxen.WifiLink.Attended
import Typxen.WifiLink.Job
import Typxen.WifiLink.Credentials
import Typxen.WifiLink.Restored
import Typxen.IdentityHttp.IdentityHttp
import Typxen.IdentityHttp.Resubmitted
import Typxen.IdentityHttp.Handlers
import Typxen.IdentityHttp.Answered
import Typxen.IdentityHttp.Unprocessable
import Typxen.IdentityHttp.Trees
