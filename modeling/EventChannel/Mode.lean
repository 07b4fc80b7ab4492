/-! The two directions of a channel, and which of them are open. -/

namespace EventChannel

/-- One of the two directions of a channel. -/
inductive Direction
  | read | write
  deriving DecidableEq

namespace Direction

def name : Direction → String
  | read => "read"
  | write => "write"

end Direction

/-- The directions in which a channel is open. -/
@[ext] structure Mode where
  readable : Bool := false
  writable : Bool := false
  deriving DecidableEq

namespace Mode

def none : Mode := {}

def readOnly : Mode := { readable := true }

def writeOnly : Mode := { writable := true }

def both : Mode := { readable := true, writable := true }

def has (m : Mode) : Direction → Bool
  | .read => m.readable
  | .write => m.writable

def without (m : Mode) : Direction → Mode
  | .read => { m with readable := false }
  | .write => { m with writable := false }

@[simp] theorem has_without_self (m : Mode) (d : Direction) : (m.without d).has d = false := by
  cases d <;> rfl

/-- Closing one direction leaves the other as it is. -/
theorem has_without_of_ne (m : Mode) {d other : Direction} (h : other ≠ d) :
    (m.without d).has other = m.has other := by
  cases d <;> cases other <;> simp_all [has, without]

end Mode

end EventChannel
