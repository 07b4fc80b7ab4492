import EventChannel.Identifier
import EventChannel.Report

/-! A copy moves bytes from one channel to another, up to a limit or to the end of the file. It
moves at most one chunk at a time; a copy in the background waits for events in between. -/

namespace EventChannel

/-- How far a copy is. -/
inductive CopyPhase
  /-- The channels are taken and their modes are being switched; a copy that its caller waits for
  stays so to its end. -/
  | begun
  /-- Nothing is done until an event comes. -/
  | resting
  | moving
  /-- Handlers and modes are being put back. -/
  | ending
  | done
  deriving DecidableEq

/-- A copy. -/
structure Copy where
  source : ChannelId
  target : ChannelId
  limit? : Option Nat
  /-- The blocking modes of the two channels before the copy. -/
  savedModes : Bool × Bool
  /-- What to call at the end of a copy in the background. -/
  onDone? : Option RoutineId := none
  /-- The most bytes that are moved at a time. -/
  chunk : Nat := 1
  total : Nat := 0
  sourceHandler? : Option HandlerId := none
  targetHandler? : Option HandlerId := none
  phase : CopyPhase := .begun
  deriving DecidableEq

/-- The limit that a size stands for; a negative size sets none. -/
def limitOfSize (size : Int) : Option Nat := if size < 0 then none else some size.toNat

namespace Copy

/-- How many bytes to move next. -/
def want (c : Copy) : Nat :=
  match c.limit? with
  | none => c.chunk
  | some limit => min (limit - c.total) c.chunk

def involves (c : Copy) (channel : ChannelId) : Bool :=
  c.source == channel || c.target == channel

def unfinished (c : Copy) : Bool := c.phase != .done

/-- What is moved next stays within the limit. -/
theorem want_le_limit {c : Copy} {limit : Nat} (h : c.limit? = some limit) :
    c.want ≤ limit - c.total := by
  rw [want, h]
  exact Nat.min_le_left _ _

end Copy

end EventChannel
