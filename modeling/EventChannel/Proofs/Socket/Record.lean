import EventChannel.Socket.System

/-! What a traced system notes: each call with its answer, in order. Noting changes nothing about
the answers. -/

namespace EventChannel

namespace SocketEvent

/-- The address that a socket is asked for. -/
def opened? : SocketEvent → Option SocketAddress
  | ⟨.create address, _⟩ => some address
  | _ => none

/-- The socket that a call makes use of. Opening and closing are no use of it. -/
def used? : SocketEvent → Option Socket
  | ⟨.create _, _⟩ | ⟨.close _, _⟩ => none
  | ⟨.minimumBuffers socket _, _⟩ | ⟨.setNonblocking socket _, _⟩ => some socket
  | ⟨.setReuseAddress socket _, _⟩ | ⟨.setReusePort socket _, _⟩ => some socket
  | ⟨.setV6Only socket _, _⟩ | ⟨.bind socket _, _⟩ | ⟨.connect socket _, _⟩ => some socket
  | ⟨.takeError socket, _⟩ | ⟨.listen socket _, _⟩ | ⟨.localAddress socket, _⟩ => some socket

/-- The socket that comes into being. -/
def created? : SocketEvent → Option Socket
  | ⟨.create _, .ok socket⟩ => some socket
  | _ => none

/-- The socket that is closed. -/
def closed? : SocketEvent → Option Socket
  | ⟨.close socket, _⟩ => some socket
  | _ => none

/-- The record of sockets that are closed one after the other. -/
def closings (sockets : List Socket) : List SocketEvent :=
  sockets.map fun socket => ⟨.close socket, ()⟩

end SocketEvent

/-- The addresses that sockets are asked for, in order. -/
def openings (events : List SocketEvent) : List SocketAddress := events.filterMap (·.opened?)

/-- The sockets that come into being, in order. -/
def created (events : List SocketEvent) : List Socket := events.filterMap (·.created?)

/-- The sockets that are closed, in order. -/
def closed (events : List SocketEvent) : List Socket := events.filterMap (·.closed?)

@[simp] theorem created_append (first second : List SocketEvent) :
    created (first ++ second) = created first ++ created second :=
  List.filterMap_append

@[simp] theorem closed_append (first second : List SocketEvent) :
    closed (first ++ second) = closed first ++ closed second :=
  List.filterMap_append

@[simp] theorem openings_append (first second : List SocketEvent) :
    openings (first ++ second) = openings first ++ openings second :=
  List.filterMap_append

/-- Closing opens nothing. -/
@[simp] theorem openings_closings (sockets : List Socket) :
    openings (SocketEvent.closings sockets) = [] := by
  simp [openings, SocketEvent.closings, SocketEvent.opened?]

namespace SocketSystem

variable {σ : Type} (system : SocketSystem σ) (s : σ) (events : List SocketEvent)

theorem traced_answer (call : SocketCall) :
    system.traced.answer call (s, events) =
      ((system.answer call s).1, (system.answer call s).2,
        events ++ [⟨call, (system.answer call s).1⟩]) := rfl

theorem traced_of {system : SocketSystem σ} {s s' : σ} {call : SocketCall} {answer : call.Answer}
    (hAnswer : system.answer call s = (answer, s')) (events : List SocketEvent) :
    system.traced.answer call (s, events) = (answer, s', events ++ [⟨call, answer⟩]) := by
  rw [traced_answer, hAnswer]

theorem traced_after (call : SocketCall) :
    system.traced.after call (s, events) =
      ((system.answer call s).2, events ++ [⟨call, (system.answer call s).1⟩]) := rfl

theorem traced_closeAll (sockets : List Socket) :
    system.traced.closeAll sockets (s, events) =
      (system.closeAll sockets s, events ++ SocketEvent.closings sockets) := by
  induction sockets generalizing s events with
  | nil => simp [SocketEvent.closings]
  | cons socket rest ih =>
    rw [closeAll_cons, traced_after, ih, closeAll_cons, List.append_assoc]
    rfl

end SocketSystem

end EventChannel
