/-! The numbers by which the parts of a world refer to each other. Those of one kind are given out
in the order in which the things they stand for come into being. -/

namespace EventChannel

abbrev ChannelId := Nat

/-- A callback of the program that uses the library. -/
abbrev RoutineId := Nat

abbrev HandlerId := Nat

abbrev CopyId := Nat

abbrev InterpId := Nat

abbrev RecordId := Nat

abbrev LoopId := Nat

/-- A file descriptor. A negative one is never open. -/
abbrev Descriptor := Int

abbrev Bytes := List UInt8

/-- Something that lasts only as long as somebody refers to it. -/
inductive Entity
  | channel (id : ChannelId)
  | copy (id : CopyId)
  | interp (id : InterpId)
  | record (id : RecordId)
  deriving DecidableEq

end EventChannel
