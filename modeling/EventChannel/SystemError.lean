import EventChannel.Errno
import EventChannel.Text.SmallLetter

/-! A failure of a call to the operating system or to a stand-in for it: a number, a bare kind, or a
kind with a text of its own. -/

namespace EventChannel

/-- What sort of failure it is, as far as anything depends on it. The kind `unlisted` is that of
all error numbers on which nothing depends. -/
inductive ErrorKind
  | notFound | permissionDenied | connectionRefused | connectionReset | connectionAborted
  | notConnected | addressInUse | addressNotAvailable | brokenPipe | alreadyExists | wouldBlock
  | invalidInput | invalidData | timedOut | writeZero | interrupted | unsupported | unexpectedEnd
  | outOfMemory | other | unlisted
  deriving DecidableEq

namespace ErrorKind

/-- The wording of a failure of which nothing but its kind is known. -/
def wording : ErrorKind → String
  | notFound => "entity not found"
  | permissionDenied => "permission denied"
  | connectionRefused => "connection refused"
  | connectionReset => "connection reset"
  | connectionAborted => "connection aborted"
  | notConnected => "not connected"
  | addressInUse => "address in use"
  | addressNotAvailable => "address not available"
  | brokenPipe => "broken pipe"
  | alreadyExists => "entity already exists"
  | wouldBlock => "operation would block"
  | invalidInput => "invalid input parameter"
  | invalidData => "invalid data"
  | timedOut => "timed out"
  | writeZero => "write zero"
  | interrupted => "operation interrupted"
  | unsupported => "unsupported"
  | unexpectedEnd => "unexpected end of file"
  | outOfMemory => "out of memory"
  | other => "other error"
  | unlisted => "uncategorized error"

/-- The kind that an error number belongs to. -/
def ofErrno (n : Errno) : ErrorKind :=
  match n with
  | 4 => interrupted
  | 11 => wouldBlock
  | 22 => invalidInput
  | 32 => brokenPipe
  | 38 => unsupported
  | 95 => unsupported
  | 98 => addressInUse
  | 99 => addressNotAvailable
  | 103 => connectionAborted
  | 104 => connectionReset
  | 107 => notConnected
  | 110 => timedOut
  | 111 => connectionRefused
  | _ => unlisted

end ErrorKind

/-- A failure as the system, or a stand-in for it, gives it. -/
inductive SystemError
  | number (n : Errno)
  | bare (kind : ErrorKind)
  | stated (kind : ErrorKind) (text : String)
  deriving DecidableEq

namespace SystemError

def wouldBlock : SystemError := .bare .wouldBlock

def errno? : SystemError → Option Errno
  | number n => some n
  | _ => none

def kind : SystemError → ErrorKind
  | number n => .ofErrno n
  | bare kind => kind
  | stated kind _ => kind

def isWouldBlock (e : SystemError) : Bool := e.kind == .wouldBlock

/-- The system's own text of a failure, with the number at the end where there is one. -/
def fullText : SystemError → String
  | number n => n.systemWording ++ " (os error " ++ toString n ++ ")"
  | bare kind => kind.wording
  | stated _ text => text

/-- What is handed on of a failure that is kept: its number, or its kind with the text. -/
def copy : SystemError → SystemError
  | number n => .number n
  | e => .stated e.kind e.fullText

@[simp] theorem errno?_copy (e : SystemError) : e.copy.errno? = e.errno? := by cases e <;> rfl

@[simp] theorem kind_copy (e : SystemError) : e.copy.kind = e.kind := by cases e <;> rfl

@[simp] theorem fullText_copy (e : SystemError) : e.copy.fullText = e.fullText := by
  cases e <;> rfl

/-- The part of a text before the first occurrence of a mark. -/
def before (mark : List Char) : List Char → List Char
  | [] => []
  | c :: rest => if mark.isPrefixOf (c :: rest) then [] else c :: before mark rest

/-- The text of a failure as scripts see it: the wording of a number in common use, else the
system's text without the number, beginning small. -/
def message (e : SystemError) : String :=
  match e.errno?.bind Errno.listed? with
  | some entry => entry.wording
  | none => String.ofList (Text.beginSmall (before " (os error".toList e.fullText.toList))

@[simp] theorem message_copy (e : SystemError) : e.copy.message = e.message := by
  rw [message, message, errno?_copy, fullText_copy]

end SystemError

end EventChannel
