import EventChannel.SystemError

/-! A `Misuse` is decided before any call to the system; a `DriverFailure` comes from a driver. Both
become a `Report`: a stable code, a text, a category, the error number and the cause. -/

namespace EventChannel

/-- What a caller may do about a failure. -/
inductive Category
  | retryable | nonRetryable | invalidInput | timeout | cancelled
  deriving DecidableEq

/-- The category of a failure of the system. -/
def SystemError.category (e : SystemError) : Category :=
  match e.kind with
  | .timedOut => .timeout
  | .wouldBlock | .interrupted | .connectionRefused | .connectionReset | .connectionAborted
  | .notConnected | .addressInUse | .addressNotAvailable | .brokenPipe => .retryable
  | .invalidInput => .invalidInput
  | _ => .nonRetryable

/-- Errors in the use of channels that are decided before any call to the system. -/
inductive Misuse
  | halfCloseNotOpened (side : String)
  | badOption (name : String) (valid : List String)
  | unsupportedOption (text : String)
  | notOpenedFor (channel direction : String)
  | unknownChannel (name : String)
  | busy (name : String)
  | closed (name : String)
  | invalidBoolean (text : String)
  | invalidInteger (text : String)
  deriving DecidableEq

namespace Misuse

/-- Option names as `-a, -b, or -c`. -/
def nameChoice : List String → String
  | [] => ""
  | [only] => "-" ++ only
  | name :: rest =>
    let all := name :: rest
    ", ".intercalate (all.dropLast.map ("-" ++ ·)) ++ ", or -" ++ all.getLastD ""

def message : Misuse → String
  | halfCloseNotOpened side =>
    "Half-close of " ++ side ++ "-side not possible, side not opened or already closed"
  | badOption name valid => "bad option \"" ++ name ++ "\": should be one of " ++ nameChoice valid
  | unsupportedOption text => text
  | notOpenedFor channel direction =>
    "channel \"" ++ channel ++ "\" wasn't opened for " ++ direction
  | unknownChannel name => "can not find channel named \"" ++ name ++ "\""
  | busy name => "channel \"" ++ name ++ "\" is busy"
  | closed name => "channel \"" ++ name ++ "\" is closed"
  | invalidBoolean text => "expected boolean value but got \"" ++ text ++ "\""
  | invalidInteger text => "expected integer but got \"" ++ text ++ "\""

def code : Misuse → String
  | halfCloseNotOpened _ => "conduit.channel.half_close"
  | badOption _ _ => "conduit.channel.bad_option"
  | unsupportedOption _ => "conduit.channel.unsupported_option"
  | notOpenedFor _ _ => "conduit.channel.not_opened"
  | unknownChannel _ => "conduit.channel.unknown"
  | busy _ => "conduit.channel.busy"
  | closed _ => "conduit.channel.closed"
  | invalidBoolean _ => "conduit.value.boolean"
  | invalidInteger _ => "conduit.value.integer"

/-- The valid names that an unknown option is answered with. -/
def validNames? : Misuse → Option (List String)
  | badOption _ valid => some valid
  | _ => none

end Misuse

/-- What a report goes back to. -/
inductive Cause
  | system (e : SystemError)
  | misuse (m : Misuse)
  | stated (text : String)
  deriving DecidableEq

/-- An error as a caller sees it. -/
structure Report where
  code : String
  message : String
  cause : Option Cause := none
  category? : Option Category := none
  errno? : Option Errno := none
  deriving DecidableEq

namespace Report

/-- The category, non-retryable unless one was given. -/
def category (r : Report) : Category := r.category?.getD .nonRetryable

/-- The report of a system failure met while doing what `context` says. -/
def ofSystem (code context : String) (e : SystemError) : Report where
  code := code
  message := context ++ ": " ++ e.message
  cause := some (.system e)
  category? := some e.category
  errno? := e.errno?

def ofMisuse (m : Misuse) : Report where
  code := m.code
  message := m.message
  cause := some (.misuse m)
  category? := some .invalidInput

/-- The words by which scripts tell errors apart: those of the error number where there is one,
else the parts of the code in capitals. -/
def tokens (r : Report) : List String :=
  match r.errno? with
  | some n => ["POSIX", n.symbol, (SystemError.number n).message]
  | none => (r.code.splitOn ".").map fun part => part.map Char.toUpper

end Report

/-- A failure that a driver answers with: the system's error and, where the driver knows more than
that, a report of its own. -/
structure DriverFailure where
  error : SystemError
  detail : Option Report := none
  deriving DecidableEq

namespace DriverFailure

def wouldBlock : DriverFailure := ⟨.wouldBlock, none⟩

def isWouldBlock (f : DriverFailure) : Bool := f.error.isWouldBlock

def message (f : DriverFailure) : String :=
  match f.detail with
  | some report => report.message
  | none => f.error.message

/-- The driver's own report, or the general one where it gave none. -/
def report (f : DriverFailure) (code context : String) : Report :=
  f.detail.getD (.ofSystem code context f.error)

end DriverFailure

end EventChannel
