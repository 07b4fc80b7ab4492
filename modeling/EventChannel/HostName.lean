/-! A cell that holds the name of the host once it has been found out or set. -/

namespace EventChannel

/-- The name of the host, if it is known already. -/
structure HostName where
  known? : Option String := none
  deriving DecidableEq

namespace HostName

def unknown : HostName := {}

def ofName (name : String) : HostName := ⟨some name⟩

def isKnown (cell : HostName) : Bool := cell.known?.isSome

/-- The name to take for a node: the canonical name, if the node's own has no dot and that one
has. -/
def choose (node : String) (canonical? : Option String) : String :=
  if node.contains '.' then node
  else match canonical? with
    | some canonical => if canonical.contains '.' then canonical else node
    | none => node

/-- The name, found out with `find` if it is not known, and the cell that knows it. -/
def get (cell : HostName) (find : Unit → String) : String × HostName :=
  match cell.known? with
  | some name => (name, cell)
  | none =>
    let name := find ()
    (name, ofName name)

end HostName

end EventChannel
