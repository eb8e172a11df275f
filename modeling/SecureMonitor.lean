import SecureMonitor.Bits
import SecureMonitor.Hex
import SecureMonitor.Bytes
import SecureMonitor.LittleEndian
import SecureMonitor.Level
import SecureMonitor.Platform
import SecureMonitor.Trap.Vector
import SecureMonitor.Trap.Syndrome
import SecureMonitor.Trap.Fault
import SecureMonitor.Frame
import SecureMonitor.Frame.SavedState
import SecureMonitor.Frame.SecureConfig
import SecureMonitor.Frame.Image
import SecureMonitor.Service
import SecureMonitor.Call.Refusal
import SecureMonitor.Call.Identifier
import SecureMonitor.Call.Event
import SecureMonitor.Call.Reply
import SecureMonitor.Call.Function
import SecureMonitor.Service.Power
import SecureMonitor.Service.Tsp
import SecureMonitor.Service.OpTee
import SecureMonitor.Service.Applets
import SecureMonitor.Services
import SecureMonitor.Trap.Report
import SecureMonitor.Journal.Record
import SecureMonitor.Journal.Notice
import SecureMonitor.Interrupt.Controller
import SecureMonitor.Interrupt.Queue
import SecureMonitor.Interrupt.CpuInterface
import SecureMonitor.Interrupt.Accounted
import SecureMonitor.Core
import SecureMonitor.Core.Step
import SecureMonitor.Core.InFlight
import SecureMonitor.Core.Handle
import SecureMonitor.Machine
import SecureMonitor.Machine.Deliver
import SecureMonitor.Journal
import SecureMonitor.Journal.Buffer
import SecureMonitor.Journal.Logger
import SecureMonitor.Machine.Operation
import SecureMonitor.Proofs.Frame
import SecureMonitor.Proofs.Serving
import SecureMonitor.Proofs.Handling
import SecureMonitor.Proofs.Run
import SecureMonitor.Proofs.WorldSwitch
import SecureMonitor.Proofs.Atomicity
import SecureMonitor.Proofs.Halting
import SecureMonitor.Proofs.Pairing
import SecureMonitor.Proofs.Interrupts
import SecureMonitor.Proofs.Nesting
import SecureMonitor.Proofs.Lifecycle
import SecureMonitor.Proofs.PerCore
import SecureMonitor.Proofs.Identifier
import SecureMonitor.Proofs.Separation
import SecureMonitor.Proofs.Isolation
import SecureMonitor.Proofs.Levels
import SecureMonitor.Proofs.Numbering
import SecureMonitor.Proofs.Answers
import SecureMonitor.Proofs.FrameEffect
import SecureMonitor.Proofs.Context
import SecureMonitor.Proofs.Hint
import SecureMonitor.Proofs.Precedence
import SecureMonitor.Proofs.Fallback
import SecureMonitor.Proofs.Topology
import SecureMonitor.Proofs.Width
import SecureMonitor.Proofs.AppletEntry
import SecureMonitor.Proofs.Arithmetic
import SecureMonitor.Proofs.Messages
import SecureMonitor.Proofs.FrameImage
import SecureMonitor.Proofs.WholeRecords
import SecureMonitor.Proofs.ByteBuffers
