import Mathlib.Data.List.Induction
import EventChannel.Proofs.Connect.Suspension

/-! An attempt has at most one socket at a time. It opens another one only when that has been closed
or handed over, and each of its sockets is closed once, or handed over once, or still held. An
attempt that nobody took a socket from holds the one of its last try, if that could be opened and
made ready. -/

namespace EventChannel

namespace SocketEvent

/-- The call has failed to keep a socket from blocking. -/
def isUnready : SocketEvent → Bool
  | ⟨.setNonblocking _ _, .error _⟩ => true
  | _ => false

/-- The socket of the latest try, if it could be opened and made ready: what a call makes of it. -/
def ready? (before? : Option Socket) : SocketEvent → Option Socket
  | ⟨.create _, .ok socket⟩ => some socket
  | ⟨.create _, .error _⟩ => none
  | e => if e.isUnready then none else before?

/-- A socket stays ready unless another one is asked for or it cannot be kept from blocking. -/
theorem ready?_of_unopened {e : SocketEvent} (hUnopened : e.opened? = none)
    (hReady : e.isUnready = false) (before? : Option Socket) : e.ready? before? = before? := by
  obtain ⟨call, answer⟩ := e
  cases call with
  | create address => cases hUnopened
  | _ => simp [ready?, hReady]

theorem ready?_of_unready {e : SocketEvent} (hUnready : e.isUnready = true)
    (before? : Option Socket) : e.ready? before? = none := by
  obtain ⟨call, answer⟩ := e
  cases call with
  | create address => cases hUnready
  | _ => simp [ready?, hUnready]

theorem eq_create_of_opened {e : SocketEvent} {address : SocketAddress}
    (hOpened : e.opened? = some address) : ∃ answer, e = ⟨.create address, answer⟩ := by
  obtain ⟨call, answer⟩ := e
  cases call with
  | create asked =>
    obtain rfl : asked = address := Option.some.inj hOpened
    exact ⟨answer, rfl⟩
  | _ => cases hOpened

theorem opened?_of_used {e : SocketEvent} {socket : Socket} (hUsed : e.used? = some socket) :
    e.opened? = none := by
  obtain ⟨call, answer⟩ := e
  cases call with
  | create address => cases hUsed
  | _ => rfl

/-- The socket of the latest try is the one opened last, if it could then be made ready. -/
theorem ready?_iff (events : List SocketEvent) (socket : Socket) :
    events.foldl ready? none = some socket ↔
      ∃ before address later, events = before ++ ⟨.create address, .ok socket⟩ :: later ∧
        ∀ e ∈ later, e.opened? = none ∧ e.isUnready = false := by
  induction events using List.reverseRecOn with
  | nil => simp
  | append_singleton events e ih =>
    rw [List.foldl_append, List.foldl_cons, List.foldl_nil]
    constructor
    · intro hReady
      by_cases hUnopened : e.opened? = none ∧ e.isUnready = false
      · rw [ready?_of_unopened hUnopened.1 hUnopened.2, ih] at hReady
        obtain ⟨before, address, later, rfl, hLater⟩ := hReady
        refine ⟨before, address, later ++ [e], by simp, fun e' hMem => ?_⟩
        rcases List.mem_append.1 hMem with hMem | hMem
        · exact hLater e' hMem
        · rwa [List.mem_singleton.1 hMem]
      · cases hUnready : e.isUnready with
        | true =>
          rw [ready?_of_unready hUnready] at hReady
          cases hReady
        | false =>
          obtain ⟨address, hOpened⟩ :=
            Option.ne_none_iff_exists'.1 fun hNone => hUnopened ⟨hNone, hUnready⟩
          obtain ⟨answer, rfl⟩ := eq_create_of_opened hOpened
          cases answer with
          | error e => cases hReady
          | ok opened =>
            obtain rfl : opened = socket := Option.some.inj hReady
            exact ⟨events, address, [], rfl, by simp⟩
    · rintro ⟨before, address, later, hEvents, hLater⟩
      rcases List.eq_nil_or_concat later with rfl | ⟨rest, last, rfl⟩
      · obtain rfl : e = ⟨.create address, .ok socket⟩ := by
          simpa using (List.append_inj' hEvents rfl).2
        rfl
      · rw [List.concat_eq_append, ← List.cons_append, ← List.append_assoc] at hEvents
        obtain ⟨hRest, hLast⟩ := List.append_inj' hEvents rfl
        obtain rfl : e = last := by simpa using hLast
        obtain ⟨hUnopened, hReady⟩ := hLater e (by simp)
        rw [ready?_of_unopened hUnopened hReady, ih]
        exact ⟨before, address, rest, hRest, fun e' hMem => hLater e' (by simp [hMem])⟩

end SocketEvent

namespace ConnectAttempt

/-- What the owner of an attempt can ask of it. -/
inductive Request
  | start
  | resume
  | take
  deriving DecidableEq

/-- What happens to the sockets of an attempt: a call is made, or the owner takes one. -/
inductive CustodyEvent
  | call (e : SocketEvent)
  | taken (socket : Socket)

/-- The socket that comes into being. -/
def CustodyEvent.opened? : CustodyEvent → Option Socket
  | .call ⟨.create _, .ok socket⟩ => some socket
  | _ => none

/-- The socket that is closed or taken. -/
def CustodyEvent.released? : CustodyEvent → Option Socket
  | .call ⟨.close socket, _⟩ | .taken socket => some socket
  | _ => none

/-- The sockets opened, in order. -/
def opened (events : List CustodyEvent) : List Socket := events.filterMap (·.opened?)

/-- The sockets closed or taken, in order. -/
def released (events : List CustodyEvent) : List Socket := events.filterMap (·.released?)

@[simp] theorem opened_append (first second : List CustodyEvent) :
    opened (first ++ second) = opened first ++ opened second :=
  List.filterMap_append

@[simp] theorem released_append (first second : List CustodyEvent) :
    released (first ++ second) = released first ++ released second :=
  List.filterMap_append

/-- From the socket held, or none, to the one held after an event. A socket is opened only when none
is held, and only the one held is used, closed or taken. -/
inductive Passes : Option Socket → CustodyEvent → Option Socket → Prop
  | refused (address : SocketAddress) (e : SystemError) :
      Passes none (.call ⟨.create address, .error e⟩) none
  | opened (address : SocketAddress) (socket : Socket) :
      Passes none (.call ⟨.create address, .ok socket⟩) (some socket)
  | used {e : SocketEvent} {socket : Socket} (hUsed : e.used? = some socket) :
      Passes (some socket) (.call e) (some socket)
  | closed (socket : Socket) : Passes (some socket) (.call ⟨.close socket, ()⟩) none
  | taken (socket : Socket) : Passes (some socket) (.taken socket) none

/-- From the socket held first to the one held after some events. -/
inductive Custody (first? : Option Socket) : List CustodyEvent → Option Socket → Prop
  | refl : Custody first? [] first?
  | snoc {events : List CustodyEvent} {held? next? : Option Socket} {e : CustodyEvent}
      (prior : Custody first? events held?) (passes : Passes held? e next?) :
      Custody first? (events ++ [e]) next?

/-- What is opened in an event, together with what was held, is released in it or held then. -/
theorem Passes.balance {held? next? : Option Socket} {e : CustodyEvent}
    (passes : Passes held? e next?) :
    held?.toList ++ e.opened?.toList = e.released?.toList ++ next?.toList := by
  cases passes with
  | refused | opened | closed | taken => rfl
  | @used e socket hUsed =>
    obtain ⟨call, answer⟩ := e
    cases call with
    | create address | close socket => cases hUsed
    | _ => rfl

namespace Custody

variable {first? held? last? : Option Socket} {events later : List CustodyEvent}

theorem append (left : Custody first? events held?) (right : Custody held? later last?) :
    Custody first? (events ++ later) last? := by
  induction right with
  | refl => rwa [List.append_nil]
  | snoc prior passes ih =>
    rw [← List.append_assoc]
    exact .snoc ih passes

theorem single {e : CustodyEvent} (passes : Passes held? e last?) : Custody held? [e] last? := by
  rw [← List.nil_append [e]]
  exact .snoc .refl passes

/-- What was opened has been released in the same order, or is the one that is held. -/
theorem balance (custody : Custody first? events last?) :
    first?.toList ++ opened events = released events ++ last?.toList := by
  induction custody with
  | refl => simp [opened, released]
  | @snoc events held? next? e prior passes ih =>
    have hOpened : opened [e] = e.opened?.toList := by
      rw [opened, List.filterMap_cons]
      cases e.opened? <;> rfl
    have hReleased : released [e] = e.released?.toList := by
      rw [released, List.filterMap_cons]
      cases e.released? <;> rfl
    calc first?.toList ++ opened (events ++ [e])
        = released events ++ (held?.toList ++ e.opened?.toList) := by
          rw [opened_append, ← List.append_assoc, ih, hOpened, List.append_assoc]
      _ = released (events ++ [e]) ++ next?.toList := by
          rw [passes.balance, released_append, hReleased, List.append_assoc]

/-- The custody holds up to each event. -/
theorem up_to {before after : List CustodyEvent} {e : CustodyEvent}
    (custody : Custody first? (before ++ e :: after) last?) :
    ∃ held? next?, Custody first? before held? ∧ Passes held? e next? := by
  generalize hEvents : before ++ e :: after = events at custody
  induction custody generalizing after with
  | refl => simp at hEvents
  | @snoc events held? next? last prior passes ih =>
    rcases List.eq_nil_or_concat after with rfl | ⟨rest, e', rfl⟩
    · obtain ⟨rfl, hLast⟩ := List.append_inj' hEvents rfl
      obtain rfl : e = last := by simpa using hLast
      exact ⟨_, _, prior, passes⟩
    · rw [List.concat_eq_append, ← List.cons_append, ← List.append_assoc] at hEvents
      obtain ⟨hRest, -⟩ := List.append_inj' hEvents rfl
      exact ih hRest

/-- At every moment at most one of the sockets opened has not been released. -/
theorem at_most_one {before after : List CustodyEvent}
    (custody : Custody first? (before ++ after) last?) :
    ∃ held? : Option Socket, first?.toList ++ opened before = released before ++ held?.toList := by
  cases after with
  | nil => exact ⟨last?, (List.append_nil before ▸ custody).balance⟩
  | cons e after =>
    obtain ⟨held?, next?, prior, -⟩ := custody.up_to
    exact ⟨held?, prior.balance⟩

/-- When a socket is asked for, all that were opened before have been released. -/
theorem vacant {before after : List CustodyEvent} {address : SocketAddress}
    {answer : (SocketCall.create address).Answer}
    (custody : Custody first? (before ++ .call ⟨.create address, answer⟩ :: after) last?) :
    first?.toList ++ opened before = released before := by
  obtain ⟨held?, next?, prior, passes⟩ := custody.up_to
  cases passes with
  | refused | opened => simpa using prior.balance
  | used hUsed => cases hUsed

theorem closings (held? : Option Socket) :
    Custody held? ((SocketEvent.closings held?.toList).map .call) none := by
  cases held? with
  | none => exact .refl
  | some socket => exact .single (.closed socket)

theorem uses {socket : Socket} {events : List SocketEvent}
    (hUses : ∀ e ∈ events, e.used? = some socket) :
    Custody (some socket) (events.map .call) (some socket) := by
  induction events with
  | nil => exact .refl
  | cons e rest ih =>
    obtain ⟨hUsed, hRest⟩ := List.forall_mem_cons.1 hUses
    exact (single (.used hUsed)).append (ih hRest)

end Custody

/-- The calls of one try for the remote address of its pair, from the socket held before to the one
held after: it could not be opened, or not be made ready and was closed at once, or it is held. -/
inductive Attempted (held? : Option Socket) (address : SocketAddress) :
    List SocketEvent → Option Socket → Prop
  | unopened (e : SystemError) :
      Attempted held? address
        (SocketEvent.closings held?.toList ++ [⟨.create address, .error e⟩]) none
  | unready (socket : Socket) (e : SystemError) :
      Attempted held? address
        (SocketEvent.closings held?.toList ++
          [⟨.create address, .ok socket⟩, ⟨.minimumBuffers socket minimumBufferSize, ()⟩,
            ⟨.setNonblocking socket true, .error e⟩, ⟨.close socket, ()⟩]) none
  | ready (socket : Socket) (uses : List SocketEvent)
      (hUses : ∀ e ∈ uses, e.used? = some socket ∧ e.isUnready = false) :
      Attempted held? address
        (SocketEvent.closings held?.toList ++ ⟨.create address, .ok socket⟩ :: uses) (some socket)

namespace Attempted

variable {held? socket? : Option Socket} {address : SocketAddress} {events : List SocketEvent}

theorem custody (attempted : Attempted held? address events socket?) :
    Custody held? (events.map .call) socket? := by
  cases attempted with
  | unopened e =>
    rw [List.map_append]
    exact (Custody.closings held?).append (.single (.refused address e))
  | unready socket e =>
    rw [List.map_append]
    have opened : Custody none [.call ⟨.create address, .ok socket⟩] (some socket) :=
      .single (.opened address socket)
    have used : Custody (some socket) ([⟨.minimumBuffers socket minimumBufferSize, ()⟩,
        ⟨.setNonblocking socket true, .error e⟩].map .call) (some socket) :=
      .uses (by simp [SocketEvent.used?])
    exact (Custody.closings held?).append ((opened.append used).snoc (.closed socket))
  | ready socket uses hUses =>
    rw [List.map_append]
    have opened : Custody none [.call ⟨.create address, .ok socket⟩] (some socket) :=
      .single (.opened address socket)
    exact (Custody.closings held?).append
      (opened.append (.uses fun e hMem => (hUses e hMem).1))

/-- A try asks for one socket. -/
theorem openings (attempted : Attempted held? address events socket?) :
    EventChannel.openings events = [address] := by
  cases attempted <;> rw [openings_append, openings_closings, List.nil_append]
  · rfl
  · rfl
  · next socket uses hUses =>
    have hNone : EventChannel.openings uses = [] := by
      rw [EventChannel.openings, List.filterMap_eq_nil_iff]
      exact fun e hMem => SocketEvent.opened?_of_used (hUses e hMem).1
    exact congrArg (List.cons address) hNone

/-- The socket held after a try is the one that was opened and made ready for it. -/
theorem latest (attempted : Attempted held? address events socket?) (before? : Option Socket) :
    events.foldl SocketEvent.ready? before? = socket? := by
  have hClosings (after : List SocketEvent) :
      (SocketEvent.closings held?.toList ++ after).foldl SocketEvent.ready? before? =
        after.foldl SocketEvent.ready? before? := by
    cases held? <;> rfl
  cases attempted with
  | unopened e =>
    rw [hClosings]
    rfl
  | unready socket e =>
    rw [hClosings]
    rfl
  | ready socket uses hUses =>
    rw [hClosings, List.foldl_cons]
    induction uses with
    | nil => rfl
    | cons e rest ih =>
      obtain ⟨⟨hUsed, hReady⟩, hRest⟩ := List.forall_mem_cons.1 hUses
      rw [List.foldl_cons,
        SocketEvent.ready?_of_unopened (SocketEvent.opened?_of_used hUsed) hReady]
      exact ih hRest

end Attempted

variable {σ : Type} (system : SocketSystem σ) {a b : ConnectAttempt}
  {first more events : List SocketEvent}

/-- What a try does, whatever the system answers. -/
theorem tryPair_attempted (a : ConnectAttempt) (pair : SocketAddress × SocketAddress) (s : σ)
    (past : List SocketEvent) :
    ∃ answer socket? s' more,
      tryPair system.traced a pair (s, past) = (answer, a.holding socket?, s', past ++ more) ∧
        Attempted a.socket? pair.1 more socket? ∧ (answer = .ok () → socket?.isSome) := by
  unfold tryPair dropSocket
  rw [system.traced_closeAll]
  rcases hCreate : system.answer (.create pair.1) (system.closeAll a.socket?.toList s)
    with ⟨e | socket, s₁⟩
  · exact ⟨.error e, none, s₁, _, by simp [SocketSystem.traced_of hCreate, holding], .unopened e,
      nofun⟩
  simp only [SocketSystem.traced_of hCreate, system.traced_after]
  generalize system.answer (.minimumBuffers socket minimumBufferSize) s₁ = buffers
  rcases unblocking_cases system a.async socket buffers.2 _ with
    ⟨e, s₃, -, -, hBlocks⟩ | ⟨s₃, hReady⟩
  · rw [hBlocks]
    exact ⟨.error e, none, _, _, by simp [holding]; rfl, .unready socket e, nofun⟩
  rw [hReady]
  simp only
  generalize system.answer (.setReuseAddress socket true) s₃ = reused
  rcases hBind : system.answer (.bind socket pair.2) reused.2 with ⟨e | done, s₄⟩
  · refine ⟨.error e, some socket, s₄, _,
      by simp [holding, SocketSystem.traced_of hBind], .ready socket
        (⟨.minimumBuffers socket minimumBufferSize, ()⟩ :: (unblocked a.async socket ++
          [⟨.setReuseAddress socket true, reused.1⟩, ⟨.bind socket pair.2, .error e⟩])) ?_, nofun⟩
    cases a.async <;> simp [unblocked, SocketEvent.used?, SocketEvent.isUnready]
  · rcases hConnect : system.answer (.connect socket pair.1) s₄ with ⟨answer, s₅⟩
    refine ⟨answer, some socket, s₅, _,
      by simp [holding, SocketSystem.traced_of hBind, SocketSystem.traced_of hConnect],
      .ready socket (⟨.minimumBuffers socket minimumBufferSize, ()⟩ ::
        (unblocked a.async socket ++ [⟨.setReuseAddress socket true, reused.1⟩,
          ⟨.bind socket pair.2, .ok ()⟩, ⟨.connect socket pair.1, answer⟩])) ?_, fun _ => rfl⟩
    cases a.async <;> simp [unblocked, SocketEvent.used?, SocketEvent.isUnready]

/-- The calls that lead from one attempt to another, with what they say about the socket held and
about the remote address of the latest try. -/
structure Handles (a : ConnectAttempt) (more : List SocketEvent) (b : ConnectAttempt) : Prop where
  custody : Custody a.socket? (more.map .call) b.socket?
  latest : b.socket? = more.foldl SocketEvent.ready? a.socket?
  current : b.current? = (openings more).getLast?.or a.current?

theorem Handles.refl (a : ConnectAttempt) : Handles a [] a where
  custody := .refl
  latest := rfl
  current := rfl

theorem Handles.trans {c : ConnectAttempt} (left : Handles a first b) (right : Handles b more c) :
    Handles a (first ++ more) c where
  custody := by
    rw [List.map_append]
    exact left.custody.append right.custody
  latest := by rw [List.foldl_append, ← left.latest, right.latest]
  current := by
    rw [right.current, left.current, openings_append, List.getLast?_append, Option.or_assoc]

theorem Attempted.handles {held? : Option Socket} {address : SocketAddress}
    (attempted : Attempted a.socket? address more held?) (hSocket : b.socket? = held?)
    (hCurrent : b.current? = some address) : Handles a more b where
  custody := hSocket ▸ attempted.custody
  latest := hSocket.trans (attempted.latest a.socket?).symm
  current := by rw [hCurrent, attempted.openings]; rfl

/-- Telling what became of a try involves no other socket. -/
theorem Handles.told {socket : Socket} (hSocket : a.socket? = some socket)
    (answer : Except SystemError (Option SystemError)) (phase : ConnectPhase) (e : SystemError) :
    Handles a [⟨.takeError socket, answer⟩] { a with phase, lastError := e } where
  custody := by
    rw [hSocket]
    exact .single (.used rfl)
  latest := rfl
  current := rfl

/-- Having connected, the attempt has a socket. -/
def Equipped (a : ConnectAttempt) : Prop := a.phase = .connected → a.socket?.isSome

/-- An attempt goes on from a failed try with the socket of that try, and comes to rest with the one
of its latest try. -/
theorem proceed_handles (a : ConnectAttempt) (s : σ) (past : List SocketEvent) :
    ∃ b s' more, proceed system.traced a (s, past) = (b, s', past ++ more) ∧ Handles a more b ∧
      Equipped b := by
  induction hUntried : a.untried generalizing a s past with
  | nil =>
    obtain ⟨i, j, -, hProceed⟩ := proceed_nil hUntried
    have handles : Handles a [] { a.movedTo i j with phase := .failed } := { Handles.refl a with }
    exact ⟨_, s, [], by rw [hProceed, List.append_nil], handles, fun hPhase => by cases hPhase⟩
  | cons pair rest ih =>
    obtain ⟨i, j, hRest, hProceed⟩ := proceed_cons hUntried
    obtain ⟨answer, socket?, s', first, hTried, attempted, hConnects⟩ :=
      tryPair_attempted system ((a.movedTo i j).trying pair) pair s past
    rw [hProceed, hTried]
    have hTry (phase : ConnectPhase) (e : SystemError) : Handles a first
        { ((a.movedTo i j).trying pair).holding socket? with phase, lastError := e } :=
      Attempted.handles (a := a) attempted rfl rfl
    cases answer with
    | ok done =>
      exact ⟨_, s', first, rfl, hTry .connected _, fun _ => hConnects rfl⟩
    | error e =>
      rw [afterTry]
      split
      · exact ⟨_, s', first, rfl, hTry .waitingWritable _, fun hPhase => by cases hPhase⟩
      · obtain ⟨b, s'', more, hOn, handles, hEquipped⟩ :=
          ih { ((a.movedTo i j).trying pair).holding socket? with lastError := e } s'
            (past ++ first) hRest
        rw [List.append_assoc] at hOn
        exact ⟨b, s'', first ++ more, hOn, (hTry a.phase e).trans handles, hEquipped⟩

theorem start_handles (a : ConnectAttempt) (s : σ) (past : List SocketEvent) :
    ∃ b s' more, start system.traced a (s, past) = (b, s', past ++ more) ∧ Handles a more b ∧
      Equipped b := by
  obtain ⟨b, s', more, hStart, handles, hEquipped⟩ :=
    proceed_handles system (a.movedTo 0 0) s past
  exact ⟨b, s', more, hStart, { handles with }, hEquipped⟩

theorem resume_handles (a : ConnectAttempt) (s : σ) (past : List SocketEvent) :
    ∃ b s' more, resume system.traced a (s, past) = (b, s', past ++ more) ∧ Handles a more b ∧
      (Equipped a → Equipped b) := by
  by_cases hWaits : a.phase = .waitingWritable
  · cases hSocket : a.socket? with
    | none =>
      obtain ⟨b, s', more, hOn, handles, hEquipped⟩ := proceed_handles system
        { a with lastError := .number Errno.notConnected } s past
      refine ⟨b, s', more, ?_, { handles with }, fun _ => hEquipped⟩
      simpa [resume, suspendedResult, hWaits, hSocket] using hOn
    | some socket =>
      rw [resume_waiting _ hWaits hSocket]
      rcases hTells : system.answer (.takeError socket) s with ⟨answer, s'⟩
      rw [SocketSystem.traced_of hTells]
      have hTold := Handles.told hSocket answer
      have hFails (e : SystemError) : ∃ b s'' more,
          proceed system.traced { a with lastError := e }
            (s', past ++ [⟨.takeError socket, answer⟩]) = (b, s'', past ++ more) ∧
          Handles a more b ∧ (Equipped a → Equipped b) := by
        obtain ⟨b, s'', more, hOn, handles, hEquipped⟩ :=
          proceed_handles system { a with lastError := e } s'
            (past ++ [⟨.takeError socket, answer⟩])
        rw [List.append_assoc] at hOn
        exact ⟨b, s'', _, hOn, (hTold a.phase e).trans handles, fun _ => hEquipped⟩
      rcases answer with e | _ | e
      · exact hFails e
      · exact ⟨_, s', _, rfl, hTold .connected a.lastError, fun _ _ => by simp [hSocket]⟩
      · exact hFails e
  · rw [resume_of_ended _ _ hWaits]
    exact ⟨a, s, [], by rw [List.append_nil], .refl a, id⟩

theorem resumed_handles (n : Nat) (hEquipped : Equipped a) (s : σ) (past : List SocketEvent) :
    ∃ b s' more, resumed system.traced n (a, s, past) = (b, s', past ++ more) ∧ Handles a more b ∧
      Equipped b := by
  induction n generalizing a s past with
  | zero => exact ⟨a, s, [], by rw [resumed, List.append_nil], .refl a, hEquipped⟩
  | succ n ih =>
    obtain ⟨a₁, s₁, first, hResume, handles, hStays⟩ := resume_handles system a s past
    obtain ⟨b, s', more, hResumed, handles', hEnd⟩ := ih (hStays hEquipped) s₁ (past ++ first)
    rw [List.append_assoc] at hResumed
    exact ⟨b, s', first ++ more, by rw [resumed, hResume, hResumed], handles.trans handles', hEnd⟩

/-- Does what the owner asks for and notes what happens to sockets. -/
def perform (p : ConnectAttempt × σ × List CustodyEvent) :
    Request → ConnectAttempt × σ × List CustodyEvent
  | .start =>
    let (a, s, calls) := start system.traced p.1 (p.2.1, [])
    (a, s, p.2.2 ++ calls.map .call)
  | .resume =>
    let (a, s, calls) := resume system.traced p.1 (p.2.1, [])
    (a, s, p.2.2 ++ calls.map .call)
  | .take =>
    let (socket?, a) := p.1.takeSocket
    (a, p.2.1, p.2.2 ++ socket?.toList.map .taken)

/-- One request after the other. -/
def conduct (requests : List Request) (p : ConnectAttempt × σ × List CustodyEvent) :
    ConnectAttempt × σ × List CustodyEvent :=
  requests.foldl (perform system) p

/-- Each request keeps the custody. -/
theorem perform_custody (request : Request) {p : ConnectAttempt × σ × List CustodyEvent}
    (custody : Custody none p.2.2 p.1.socket?) :
    Custody none (perform system p request).2.2 (perform system p request).1.socket? := by
  cases request with
  | start =>
    obtain ⟨b, s', more, hStart, handles, -⟩ := start_handles system p.1 p.2.1 []
    simp only [perform, hStart]
    exact custody.append handles.custody
  | resume =>
    obtain ⟨b, s', more, hResume, handles, -⟩ := resume_handles system p.1 p.2.1 []
    simp only [perform, hResume]
    exact custody.append handles.custody
  | take =>
    refine custody.append ?_
    cases p.1.socket? with
    | none => exact .refl
    | some socket => exact .single (.taken socket)

theorem conduct_custody (requests : List Request) (p : ConnectAttempt × σ × List CustodyEvent)
    (custody : Custody none p.2.2 p.1.socket?) :
    Custody none (conduct system requests p).2.2 (conduct system requests p).1.socket? := by
  induction requests generalizing p with
  | nil => exact custody
  | cons request rest ih => exact ih _ (perform_custody system request custody)

/-- The calls by which a try has connected: its socket was connected at once, or later. -/
inductive Connects (socket : Socket) : List SocketEvent → Prop
  | atOnce (address : SocketAddress) : Connects socket [⟨.connect socket address, .ok ()⟩]
  | later (address : SocketAddress) (e : SystemError) (hProgress : e.isInProgress = true) :
      Connects socket [⟨.connect socket address, .error e⟩, ⟨.takeError socket, .ok none⟩]

variable {async : Bool} {tried : List (SocketAddress × SocketAddress)} {socket? : Option Socket}

/-- Only an answer to connecting lets a try connect, or be suspended. -/
theorem Trial.ends_asked {pair : SocketAddress × SocketAddress}
    {answer : Except SystemError Unit} {held? : Option Socket}
    (trial : Trial async held? pair events answer socket?)
    (hGoes : answer = .ok () ∨ ∃ e, answer = .error e ∧ e.isInProgress = true) :
    ∃ socket before, socket? = some socket ∧
      events = before ++ [⟨.connect socket pair.1, answer⟩] := by
  cases trial with
  | unopened e hOther | blocking _ e hOther | unbound _ _ e hOther => simp [hOther] at hGoes
  | asked socket reused => exact ⟨socket, SocketEvent.closings held?.toList ++
      (preparation async pair socket reused ++ [⟨.bind socket pair.2, .ok ()⟩]), rfl, by simp⟩

theorem TryEnd.of_eq_connected {answer : Except SystemError Unit}
    (hEnd : TryEnd.of async answer = .connected) : answer = .ok () := by
  cases answer with
  | ok done => rfl
  | error e =>
    rw [TryEnd.of] at hEnd
    split at hEnd <;> cases hEnd

theorem TryEnd.of_eq_suspended {answer : Except SystemError Unit}
    (hEnd : TryEnd.of async answer = .suspended) :
    ∃ e, answer = .error e ∧ e.isInProgress = true := by
  cases answer with
  | ok done => cases hEnd
  | error e =>
    by_cases hWaits : async && e.isInProgress
    · exact ⟨e, rfl, (Bool.and_eq_true_iff.1 hWaits).2⟩
    · simp [TryEnd.of, hWaits] at hEnd

/-- A suspended try was asked to connect last. -/
theorem Course.suspended (course : Course async tried events (some .suspended) socket?) :
    ∃ socket address e before, socket? = some socket ∧ e.isInProgress = true ∧
      events = before ++ [⟨.connect socket address, .error e⟩] := by
  generalize hLast : some TryEnd.suspended = last? at course
  cases course with
  | idle => cases hLast
  | @tried _ past more _ _ _ pair answer _ _ _ trial =>
    obtain ⟨e, rfl, hProgress⟩ := TryEnd.of_eq_suspended (Option.some.inj hLast).symm
    obtain ⟨socket, before, hSocket, rfl⟩ := trial.ends_asked (.inr ⟨e, rfl, hProgress⟩)
    exact ⟨socket, pair.1, e, past ++ before, hSocket, hProgress, by rw [List.append_assoc]⟩
  | told _ answer =>
    match answer with
    | .ok none | .ok (some e) | .error e => cases hLast

theorem Course.connects (course : Course async tried events (some .connected) socket?) :
    ∃ socket before calls, socket? = some socket ∧ events = before ++ calls ∧
      Connects socket calls := by
  generalize hLast : some TryEnd.connected = last? at course
  cases course with
  | idle => cases hLast
  | @tried _ past more _ _ _ pair answer _ _ _ trial =>
    obtain rfl := TryEnd.of_eq_connected (Option.some.inj hLast).symm
    obtain ⟨socket, before, hSocket, rfl⟩ := trial.ends_asked (.inl rfl)
    exact ⟨socket, past ++ before, _, hSocket, by rw [List.append_assoc], .atOnce pair.1⟩
  | @told _ past socket course answer =>
    match answer with
    | .ok none =>
      obtain ⟨socket, address, e, before, hSocket, hProgress, rfl⟩ := course.suspended
      obtain rfl := Option.some.inj hSocket
      exact ⟨_, before, _, rfl, by rw [List.append_assoc]; rfl, .later address e hProgress⟩
    | .ok (some e) | .error e => cases hLast

/-- Whatever the owner of an attempt asks for, the sockets opened are at every moment those released
so far, in the same order, with at most one more; when another one is asked for, there is none more;
and in the end it is the one held. An attempt that was started, resumed and not asked for its socket
holds, if it has failed, the socket of its latest try where that could be opened and made ready. If
it has connected it holds a socket, and where only connecting is answered as being under way, that
was the last to be connected, at once or as it told later. -/
theorem sockets_in_custody (remote locals : List SocketAddress) (async : Bool) (s : σ) :
    (∀ requests, ∃ a s' events,
      conduct system requests ({ remote, locals, async }, s, []) = (a, s', events) ∧
      opened events = released events ++ a.socket?.toList ∧
      (∀ before after, events = before ++ after →
        ∃ held? : Option Socket, opened before = released before ++ held?.toList) ∧
      ∀ before address answer after,
        events = before ++ .call ⟨.create address, answer⟩ :: after →
          opened before = released before) ∧
    ∀ n, ∃ a s' events,
      resumed system.traced n (start system.traced { remote, locals, async } (s, [])) =
        (a, s', events) ∧
      (a.phase = .failed → a.current? = (openings events).getLast? ∧
        ∀ socket, a.socket? = some socket ↔
          ∃ before address later, events = before ++ ⟨.create address, .ok socket⟩ :: later ∧
            ∀ e ∈ later, e.opened? = none ∧ e.isUnready = false) ∧
      (a.phase = .connected → a.socket?.isSome ∧
        (system.ReservesInProgress → ∃ socket before calls, a.socket? = some socket ∧
          events = before ++ calls ∧ Connects socket calls)) := by
  constructor
  · intro requests
    have custody := conduct_custody system requests ({ remote, locals, async }, s, []) .refl
    exact ⟨_, _, _, rfl, custody.balance, fun before after hEvents =>
      (hEvents ▸ custody).at_most_one, fun before address answer after hEvents =>
      (hEvents ▸ custody).vacant⟩
  · intro n
    obtain ⟨a₁, s₁, first, hStart, handles₁, hEquipped₁⟩ :=
      start_handles system { remote, locals, async } s []
    obtain ⟨a, s', more, hResumed, handles₂, hEquipped⟩ :=
      resumed_handles system n hEquipped₁ s₁ first
    rw [← List.nil_append first, ← hStart] at hResumed
    have handles := handles₁.trans handles₂
    refine ⟨a, s', _, hResumed, fun _ => ⟨?_, fun socket => ?_⟩,
      fun hConnected => ⟨hEquipped hConnected, fun reserved => ?_⟩⟩
    · simpa using handles.current
    · rw [handles.latest]
      exact SocketEvent.ready?_iff _ _
    · obtain ⟨a', s'', tried, events, last?, hRun, progress, rests⟩ :=
        begun_rests reserved remote locals async s n
      obtain ⟨rfl, -, rfl⟩ := Prod.mk.injEq .. ▸ Prod.mk.injEq .. ▸ hRun.symm.trans hResumed
      simp only [Rests, hConnected] at rests
      exact (rests ▸ progress.course).connects

/-- Two tries, of which the first is suspended and refused. The socket of the second one is taken,
and the attempt is started again. -/
theorem sockets_in_custody_playing :
    let host : SocketAddress := { host := .v4 203 0 113 1, port := 80 }
    let here : SocketAddress := { host := .anyV4, port := 0 }
    let there : SocketAddress := { host := .v4 127 0 0 1, port := 0 }
    let fresh : ConnectAttempt := { remote := [host], locals := [here, there], async := true }
    let system := playing refusedOnce (· == 0)
    let rest := conduct system [.start, .resume, .take, .start] (fresh, 0, [])
    let once := resumed system.traced 1 (start system.traced fresh (0, []))
    opened rest.2.2 = released rest.2.2 ++ [2] ∧ once.1.phase = .connected ∧
      system.ReservesInProgress ∧
      ∃ before calls, once.2.2 = before ++ calls ∧ Connects 1 calls := by
  intro host here there fresh system rest once
  have reserved := (playing_plays refusedOnce (· == 0)).reserves
  have hPhase : once.1.phase = .connected := rfl
  obtain ⟨hAccounted, hHeld⟩ := sockets_in_custody system [host] [here, there] true 0
  obtain ⟨a, s', events, hRest, hBalance, -⟩ := hAccounted [.start, .resume, .take, .start]
  obtain ⟨b, s'', calls, hOnce, -, hConnected⟩ := hHeld 1
  have hSocket : a.socket? = some 2 := (congrArg (·.1.socket?) hRest).symm
  have hOnceSocket : b.socket? = some 1 := (congrArg (·.1.socket?) hOnce).symm
  have hOnceEvents : once.2.2 = calls := congrArg (·.2.2) hOnce
  obtain ⟨-, hLast⟩ := hConnected ((congrArg (·.1.phase) hOnce).symm.trans hPhase)
  obtain ⟨socket, before, last, hSame, hEvents, connects⟩ := hLast reserved
  obtain rfl : 1 = socket := Option.some.inj (hOnceSocket.symm.trans hSame)
  refine ⟨?_, hPhase, reserved, before, last, hOnceEvents.trans hEvents, connects⟩
  rw [show rest = (a, s', events) from hRest, hBalance, hSocket]
  rfl

end ConnectAttempt

end EventChannel
