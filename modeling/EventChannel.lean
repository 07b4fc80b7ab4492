import EventChannel.HostName
import EventChannel.Proofs.Boolean
import EventChannel.Proofs.Connect.Custody
import EventChannel.Proofs.Copy.Completion
import EventChannel.Proofs.Copy.Exclusion
import EventChannel.Proofs.Copy.Loss
import EventChannel.Proofs.Copy.Reach
import EventChannel.Proofs.Copy.Rejection
import EventChannel.Proofs.Copy.Restoration
import EventChannel.Proofs.Copy.Waiting
import EventChannel.Proofs.Listen.Custody
import EventChannel.Proofs.Listen.FixedPort
import EventChannel.Proofs.Option
import EventChannel.Proofs.Program.Accept
import EventChannel.Proofs.Program.Alert
import EventChannel.Proofs.Program.Backlog
import EventChannel.Proofs.Program.Capture
import EventChannel.Proofs.Program.Closure
import EventChannel.Proofs.Program.Coherence
import EventChannel.Proofs.Program.Deletion
import EventChannel.Proofs.Program.Dispatch
import EventChannel.Proofs.Program.HalfClose
import EventChannel.Proofs.Program.Names
import EventChannel.Proofs.Program.Watch
import EventChannel.Proofs.Request
import EventChannel.Proofs.Resolver
import EventChannel.Proofs.Stream.Barrier
import EventChannel.Proofs.Stream.Ending
import EventChannel.Proofs.Stream.Position
import EventChannel.Proofs.Tcp.Connecting
import EventChannel.Proofs.Tcp.Failure
import EventChannel.Proofs.Tcp.Mode
import EventChannel.Session.Run
import EventChannel.Socket.Scripted
