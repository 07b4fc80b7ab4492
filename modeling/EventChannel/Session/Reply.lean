import EventChannel.EventLoop
import EventChannel.Option
import EventChannel.Report

/-! What a session answers, and what it logs. -/

namespace EventChannel.Session

/-- Something that a name of the session was expected to stand for. -/
inductive Missing
  | channel | handler | descriptor | socket | rawSocket | interp | record | loop | transport
  deriving DecidableEq

namespace Missing

def message : Missing → String
  | channel => "no channel"
  | handler => "no handler"
  | descriptor => "no descriptor"
  | socket => "no socket"
  | rawSocket => "no raw socket"
  | interp => "no interp"
  | record => "no record"
  | loop => "no loop"
  | transport => "no transport"

end Missing

/-- The answer to a command. -/
inductive Reply
  | done
  | nothing
  | truth (b : Bool)
  | number (n : Int)
  /-- A position or a count of bytes, which may be large. -/
  | size (n : Nat)
  | counts (ns : List Nat)
  | text (s : String)
  | names (ns : List String)
  | bytes (b : Bytes)
  /-- The bytes that a channel gave. -/
  | taken (b : Bytes)
  | option (value : OptionValue)
  | opened (name type : String)
  | stream
  | interp (deleted : Bool) (liveRecords channels : Nat)
  | loop (registrations : Nat)
  | record (attached : Bool)
  | report (r : Report)
  | reports (rs : List Report)
  | failure (e : SystemError)
  | missing (m : Missing)

namespace Reply

/-- The answer of an operation that may fail. -/
def ofResult {α : Type} (f : α → Reply) : Except Report α → Reply
  | .ok a => f a
  | .error r => report r

def ofOption {α : Type} (f : α → Reply) : Option α → Reply
  | some a => f a
  | none => nothing

end Reply

/-- An entry of the log. -/
inductive LogEntry
  | line (text : String)
  /-- A descriptor registered with an event loop. A new one has no name yet, so that it goes by the
  name that it has in the end. -/
  | registered (loop : LoopId) (descriptor : Descriptor) (mask : Interest)
  /-- The end of a copy in the background. -/
  | completed (label : String) (total : Nat) (error? : Option Report)
  /-- A command carried out by a routine. -/
  | act (word : String) (reply : Reply)

end EventChannel.Session
