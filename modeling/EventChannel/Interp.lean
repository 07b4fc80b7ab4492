import EventChannel.Identifier
import EventChannel.Report
import EventChannel.Text.Glob

/-! What channels need of an interpreter: its table of channels by name, its variables, the errors
that no caller was there to receive, and the records that tie listening channels to it. -/

namespace EventChannel

/-- The tie between a listening channel and the interpreter that runs its script. -/
structure AcceptRecord where
  interp? : Option InterpId
  script : RoutineId
  deriving DecidableEq

/-- An interpreter. -/
structure Interp where
  /-- The channels registered, in the order of their registration. -/
  channels : List (String × ChannelId) := []
  /-- The variables that are set, with their values. -/
  values : List (String × String) := []
  backgroundErrors : List Report := []
  records : List RecordId := []
  deleted : Bool := false
  deriving DecidableEq

namespace Interp

/-- A variable that, when it is set, keeps addresses from being turned into names. -/
def noReverseDnsVariable : String := "::tcl::unsupported::noReverseDNS"

def lookup? (i : Interp) (name : String) : Option ChannelId := i.channels.lookup name

def contains (i : Interp) (name : String) : Bool := (i.lookup? name).isSome

/-- Enters a channel under a name that is not taken. -/
def enter (i : Interp) (name : String) (channel : ChannelId) : Interp :=
  { i with channels := i.channels ++ [(name, channel)] }

def remove (i : Interp) (name : String) : Interp :=
  { i with channels := i.channels.filter (·.1 != name) }

/-- The names that a pattern stands for, or all, in ascending order. -/
def names (i : Interp) (pattern? : Option String) : List String :=
  let wanted := fun (name : String) => match pattern? with
    | some pattern => Text.globMatches pattern.toList name.toList
    | none => true
  ((i.channels.map (·.1)).filter wanted).mergeSort (fun a b => decide (a ≤ b))

def valueOf? (i : Interp) (name : String) : Option String := i.values.lookup name

/-- Sets a variable, or unsets it. -/
def setVariable (i : Interp) (name : String) (value? : Option String) : Interp :=
  { i with values :=
      value?.toList.map (name, ·) ++ i.values.filter (·.1 != name) }

/-- Whether addresses are turned into names. -/
def reverseDns (i : Interp) : Bool := (i.valueOf? noReverseDnsVariable).isNone

end Interp

end EventChannel
