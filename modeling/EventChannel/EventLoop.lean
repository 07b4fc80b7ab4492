import EventChannel.Identifier
import EventChannel.Interest

/-! A loop holds at most one registration per descriptor. Each registration has a generation of its
own, by which a pass over the loop tells whether it is still the one that the pass began with. While
a handler runs it is out of the table, and it is put back only if its registration is still
there. -/

namespace EventChannel

/-- What a loop calls when a descriptor is ready: a routine of the user, or the part of a socket
driver that waits for a connection to be made, for traffic, or for connections to accept. What
belongs to a driver acts only in the epoch in which it was made. -/
inductive FileHandler
  | routine (id : RoutineId)
  | connecting (channel : ChannelId) (epoch : Nat)
  | traffic (channel : ChannelId) (epoch : Nat)
  | accepting (channel : ChannelId) (epoch index : Nat)
  deriving DecidableEq

/-- The registration of a descriptor; without a handler while that handler runs. -/
structure Registration where
  descriptor : Descriptor
  mask : Interest
  generation : Nat
  handler? : Option FileHandler
  deriving DecidableEq

/-- The table of a loop. -/
structure EventLoop where
  entries : List Registration := []
  generations : Nat := 0
  deriving DecidableEq

namespace EventLoop

def find? (l : EventLoop) (fd : Descriptor) : Option Registration :=
  l.entries.find? (·.descriptor == fd)

/-- The mask that a descriptor is registered with. -/
def registered? (l : EventLoop) (fd : Descriptor) : Option Interest := (l.find? fd).map (·.mask)

def delete (l : EventLoop) (fd : Descriptor) : EventLoop :=
  { l with entries := l.entries.filter (·.descriptor != fd) }

/-- Registers a descriptor in the place of an earlier registration of it. -/
def create (l : EventLoop) (fd : Descriptor) (mask : Interest) (handler : FileHandler) :
    EventLoop :=
  { entries := (l.delete fd).entries ++ [⟨fd, mask, l.generations + 1, some handler⟩]
    generations := l.generations + 1 }

/-- The registrations that wait for something. -/
def waiting (l : EventLoop) : List Registration := l.entries.filter (!·.mask.isEmpty)

/-- The registration of a descriptor, if it is still that of a generation. -/
def current? (l : EventLoop) (fd : Descriptor) (generation : Nat) : Option Registration :=
  (l.find? fd).filter (·.generation == generation)

def setHandler (l : EventLoop) (fd : Descriptor) (handler? : Option FileHandler) : EventLoop :=
  { l with entries := l.entries.map fun r =>
      if r.descriptor == fd then { r with handler? } else r }

/-- Takes out the handler of a registration that is still current. -/
def take (l : EventLoop) (fd : Descriptor) (generation : Nat) : Option FileHandler × EventLoop :=
  match (l.current? fd generation).bind (·.handler?) with
  | some handler => (some handler, l.setHandler fd none)
  | none => (none, l)

/-- Puts a handler back into its registration, if that is still current and without one. -/
def putBack (l : EventLoop) (fd : Descriptor) (generation : Nat) (handler : FileHandler) :
    EventLoop :=
  match l.current? fd generation with
  | some r => if r.handler?.isNone then l.setHandler fd (some handler) else l
  | none => l

end EventLoop

/-- What a driver does to a loop. -/
inductive LoopCommand
  | create (loop : LoopId) (descriptor : Descriptor) (mask : Interest) (handler : FileHandler)
  | delete (loop : LoopId) (descriptor : Descriptor)
  deriving DecidableEq

/-- All loops, by their identifiers. -/
abbrev EventLoops := List EventLoop

namespace EventLoops

/-- A loop; one that was never made has no registrations. -/
def get (ls : EventLoops) (id : LoopId) : EventLoop := ls[id]?.getD {}

def apply (ls : EventLoops) : LoopCommand → EventLoops
  | .create loop fd mask handler => ls.modify loop (·.create fd mask handler)
  | .delete loop fd => ls.modify loop (·.delete fd)

def applyAll (ls : EventLoops) (commands : List LoopCommand) : EventLoops :=
  commands.foldl apply ls

@[simp] theorem applyAll_nil (ls : EventLoops) : ls.applyAll [] = ls := rfl

end EventLoops

end EventChannel
