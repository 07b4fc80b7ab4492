import EventChannel.Proofs.Channel.Watch
import EventChannel.Proofs.Tcp.Opening

/-! A client that stays in its event loop is either connecting or not, and all that it notes agrees
on which. It has one descriptor registered at most: while it is connecting that of its attempt,
which may change from one try to the next, and after that the one it is connected by, as long as it
waits for something. -/

namespace EventChannel

variable {σ ν : Type}

/-- A call by which a channel leaves its event loop or joins another one. -/
def DriverCall.isHandOff : DriverCall → Bool
  | cut | splice _ => true
  | _ => false

/-- The descriptor that a client is to have registered if it waits for some conditions, with those
of the registration. -/
def TcpState.awaited? (t : TcpState) (mask : Interest) : Option (Descriptor × Interest) :=
  if t.connecting then t.clientSocket?.map fun s => (Socket.descriptor s, .writing ∪ .trouble)
  else if mask.isEmpty then none
  else t.clientSocket?.map fun s => (Socket.descriptor s, mask ∪ .reading)

/-- What a channel has asked of its driver so far: the conditions that it waits for, and whether to
close. -/
structure Asked where
  mask : Interest := .none
  shut : Bool := false

namespace Asked

def next (x : Asked) (e : DriverEvent) : Asked where
  mask := e.call.mask?.getD x.mask
  shut := x.shut || e.call = .close

theorem foldl_next (x : Asked) (calls : List DriverEvent) :
    calls.foldl next x = ⟨lastMask x.mask calls, x.shut || closesDriver calls⟩ := by
  induction calls generalizing x with
  | nil => simp [closesDriver]
  | cons e rest ih => simp [ih, next, lastMask_cons, closesDriver, Bool.or_assoc]

theorem next_of_plain (x : Asked) {e : DriverEvent} (hPlain : e.call.isPlain = true) :
    x.next e = x := by
  obtain ⟨call, answer⟩ := e
  cases call with
  | close | setBlocking | watch | cut | splice => cases hPlain
  | _ => simp [next, DriverCall.mask?]

end Asked

namespace TcpHeld

variable {system : StreamSystem ν} {id : ChannelId} {n : Nat} {b : Books} {h : TcpHeld ν}

/-- What a client notes agrees. If it had failed at some moment (`marked`), it has failed as long as
it is not closed. -/
structure Coherent (n : Nat) (b : Books) (loop : LoopId) (marked : Bool) (x : Asked)
    (h : TcpHeld ν) : Prop where
  client : h.state.server = false
  pending : h.state.connectPending = h.state.connecting
  lists : h.Lists n b loop (h.state.awaited? x.mask)
  waits : h.state.connecting = true → ∃ a socket, h.state.attempt? = some a ∧
    a.phase = .waitingWritable ∧ a.socket? = some socket ∧ h.state.cachedWatch = x.mask ∧
    h.state.sockets = [] ∧ h.state.connectFailed = false
  rests : h.state.connecting = false → h.state.attempt? = none
  closed : x.shut = true →
    h.state.connecting = false ∧ h.state.sockets = [] ∧ h.state.connectFailed = false
  failed : marked = true → x.shut = false → h.state.connectFailed = true

variable {loop : LoopId} {marked : Bool} {x : Asked}

/-- A client that is not connecting has registered what it is told to wait for. -/
theorem Lists.watch {listed? : Option (Descriptor × Interest)} (lists : h.Lists n b loop listed?)
    (hClient : h.state.server = false) (hPending : h.state.connectPending = false)
    (hRests : h.state.connecting = false)
    (hSame : ∀ e, listed? = some e → ∃ s, h.state.clientSocket? = some s ∧
      e.1 = Socket.descriptor s) (mask : Interest) :
    (h.watch id mask).Lists n b loop (h.state.awaited? mask) := by
  rw [TcpHeld.watch, if_neg (by simp [hClient]), if_neg (by simp [hPending]), TcpState.awaited?,
    if_neg (by simp [hRests])]
  cases hSocket : h.state.clientSocket? with
  | none =>
    obtain _ | e := listed?
    · simpa using lists
    · obtain ⟨s, hSome, -⟩ := hSame e rfl
      rw [hSocket] at hSome
      cases hSome
  | some socket =>
    have hFd (e) (hEntry : listed? = some e) : e.1 = Socket.descriptor socket := by
      obtain ⟨s, hSome, hFd⟩ := hSame e hEntry
      rw [hSocket] at hSome
      rw [hFd, Option.some.inj hSome]
    have lists : (h.update ({ · with interest := mask })).Lists n b loop listed? :=
      lists.of_kept rfl rfl rfl
    dsimp only
    split
    · exact lists.unregister hFd
    · exact lists.register hFd _ _

namespace Coherent

theorem of_net (coherent : h.Coherent n b loop marked x) (net : ν) :
    Coherent n b loop marked x { h with net } :=
  { coherent with lists := coherent.lists.of_kept rfl rfl rfl }

/-- What is registered is the socket that the client has. -/
theorem own_socket (e : Descriptor × Interest) (hEntry : h.state.awaited? x.mask = some e) :
    ∃ s, h.state.clientSocket? = some s ∧ e.1 = Socket.descriptor s := by
  unfold TcpState.awaited? at hEntry
  split at hEntry
  · obtain ⟨s, hSocket, rfl⟩ := Option.map_eq_some_iff.1 hEntry
    exact ⟨s, hSocket, rfl⟩
  · split at hEntry
    · cases hEntry
    · obtain ⟨s, hSocket, rfl⟩ := Option.map_eq_some_iff.1 hEntry
      exact ⟨s, hSocket, rfl⟩

/-- A client that is not connecting is told what to wait for. -/
theorem of_rest {listed? : Option (Descriptor × Interest)} (lists : h.Lists n b loop listed?)
    (hSame : ∀ e, listed? = some e → ∃ s, h.state.clientSocket? = some s ∧
      e.1 = Socket.descriptor s)
    (hClient : h.state.server = false) (hPending : h.state.connectPending = false)
    (hRests : h.state.connecting = false) (hAttempt : h.state.attempt? = none)
    (hClosed : x.shut = true → h.state.sockets = [] ∧ h.state.connectFailed = false)
    (hFailed : marked = true → x.shut = false → h.state.connectFailed = true) (mask : Interest) :
    (h.watch id mask).Coherent n b loop marked { x with mask } := by
  obtain ⟨-, hState⟩ := watch_frame id mask h
  have hAwaited : (h.watch id mask).state.awaited? mask = h.state.awaited? mask := by
    rw [hState]
    rfl
  have hStill : (h.watch id mask).state.connecting = false := by
    rw [hState]
    exact hRests
  refine ⟨?_, ?_, ?_, fun hConnecting => ?_, fun _ => ?_, fun hShut => ⟨hStill, ?_⟩,
    fun hMarked hOpen => ?_⟩
  · rw [hState]
    exact hClient
  · rw [hState]
    exact hPending.trans hRests.symm
  · rw [hAwaited]
    exact lists.watch hClient hPending hRests hSame mask
  · cases hConnecting.symm.trans hStill
  · rw [hState]
    exact hAttempt
  · rw [hState]
    exact hClosed hShut
  · rw [hState]
    exact hFailed hMarked hOpen

/-- A client that has to wait for its connection is registered for that. -/
theorem of_wait {a : ConnectAttempt} {socket : Socket} (lists : h.Lists n b loop none)
    (hClient : h.state.server = false) (hConnecting : h.state.connecting = true)
    (hAttempt : h.state.attempt? = some a) (hPhase : a.phase = .waitingWritable)
    (hSocket : a.socket? = some socket) (hWatch : h.state.cachedWatch = x.mask)
    (hSockets : h.state.sockets = []) (hFailed : h.state.connectFailed = false)
    (hOpen : x.shut = false) :
    (h.registerConnect id).Coherent n b loop false x := by
  have hClientSocket : h.state.clientSocket? = some socket := by
    simp [TcpState.clientSocket?, hAttempt, hSocket]
  rw [TcpHeld.registerConnect, hClientSocket]
  exact {
    client := hClient
    pending := hConnecting.symm
    lists := by
      have hAwaited : h.state.awaited? x.mask =
          some (Socket.descriptor socket, .writing ∪ .trouble) := by
        simp [TcpState.awaited?, hConnecting, hClientSocket]
      show Lists n b loop (h.state.awaited? x.mask) _
      rw [hAwaited]
      exact (lists.register nofun _ _).of_kept rfl rfl rfl
    waits := fun _ => ⟨a, socket, hAttempt, hPhase, hSocket, hWatch, hSockets, hFailed⟩
    rests := fun hNot => by cases hConnecting.symm.trans hNot
    closed := fun hShut => by cases hOpen.symm.trans hShut
    failed := nofun }

/-- How the connection has come out is noted, and told by conditions. -/
theorem told {g : TcpHeld ν} (coherent : h.Coherent n b loop false x)
    (hRests : h.state.connecting = false) (hOpen : x.shut = false)
    (hCommands : g.commands = h.commands)
    (hState : g.state = { h.state with
      connectFailed := g.state.connectFailed, connectError? := g.state.connectError?
      forward := g.state.forward }) : g.Coherent n b loop false x := by
  have hStill : g.state.connecting = false := by
    rw [hState]
    exact hRests
  refine ⟨?_, ?_, ?_, fun hConnecting => ?_, fun _ => ?_, fun hShut => ?_, nofun⟩
  · rw [hState]
    exact coherent.client
  · rw [hState]
    exact coherent.pending
  · have hAwaited : g.state.awaited? x.mask = h.state.awaited? x.mask := by
      rw [hState]
      rfl
    rw [hAwaited]
    exact coherent.lists.of_kept hCommands (by rw [hState]) (by rw [hState])
  · cases hConnecting.symm.trans hStill
  · rw [hState]
    exact coherent.rests hRests
  · cases hOpen.symm.trans hShut

/-- The wishes kept meanwhile are carried out. -/
theorem of_end (lists : h.Lists n b loop none) (hClient : h.state.server = false)
    (hPending : h.state.connectPending = false) (hWatch : h.state.cachedWatch = x.mask)
    (hOpen : x.shut = false) (error? : Option SystemError) :
    (h.finishConnect system id error?).Coherent n b loop false x := by
  have hUnmarked : false = true → x.shut = false → h.ended.state.connectFailed = true := nofun
  have hWatched : (h.ended.watch id x.mask).Coherent n b loop false x :=
    of_rest (h := h.ended) (lists.of_kept rfl rfl rfl) (fun _ hEntry => nomatch hEntry) hClient
      hPending rfl rfl (fun hShut => nomatch hOpen.symm.trans hShut) hUnmarked x.mask
  have hRests : (h.ended.watch id x.mask).state.connecting = false := by
    rw [(watch_frame id x.mask h.ended).2]
    rfl
  obtain ⟨hCommands, hState⟩ := (h.ended.watch id x.mask).switched_keeps system
  rw [finishConnect_eq, hWatch]
  refine hWatched.told hRests hOpen hCommands ?_
  rw [state_update, hState]

/-- However its connection goes on, what a client notes agrees. -/
theorem continueConnect (reserved : system.ReservesInProgress)
    (coherent : h.Coherent n b loop marked x) :
    (h.continueConnect system id).Coherent n b loop marked x := by
  by_cases hPending : h.state.connectPending = true
  · have hConnecting : h.state.connecting = true := coherent.pending.symm.trans hPending
    obtain ⟨a, socket, hAttempt, hPhase, hSocket, hWatch, hSockets, hFailed⟩ :=
      coherent.waits hConnecting
    have hOpen : x.shut = false := by
      refine Bool.eq_false_iff.2 fun hShut => ?_
      cases hConnecting.symm.trans (coherent.closed hShut).1
    obtain rfl : marked = false := by
      refine Bool.eq_false_iff.2 fun hMarked => ?_
      cases hFailed.symm.trans (coherent.failed hMarked hOpen)
    rcases hResume : a.resume system.toSocketSystem h.net with ⟨a', net⟩
    have poised : a'.Poised := by
      have hResumed := ConnectAttempt.resume_poised reserved h.net
        (show a.Poised by simp [ConnectAttempt.Poised, hPhase, hSocket])
      rwa [hResume] at hResumed
    have lists : (h.released.resumed a' net).Lists n b loop none :=
      (coherent.lists.released own_socket).of_kept rfl rfl rfl
    rw [continueConnect_resumed hPending hAttempt hResume]
    split
    · next hOutcome =>
      obtain ⟨hWaits, socket', hHeld⟩ := poised.waits hOutcome
      refine of_wait (a := a') lists ?_ ?_ ?_ hWaits hHeld ?_ ?_ ?_ hOpen <;> rw [resumed_frame]
      · exact coherent.client
      · exact hConnecting
      · exact hWatch
      · exact hSockets
      · exact hFailed
    · refine of_end lists ?_ ?_ ?_ hOpen none <;> rw [resumed_frame]
      · exact coherent.client
      · exact hWatch
    · next e hOutcome =>
      refine of_end lists ?_ ?_ ?_ hOpen (some e) <;> rw [resumed_frame]
      · exact coherent.client
      · exact hWatch
  · rw [continueConnect_idle (Bool.eq_false_iff.2 hPending)]
    exact coherent

theorem attempted (coherent : h.Coherent n b loop marked x) :
    h.state.connecting = h.state.attempt?.isSome := by
  cases hConnecting : h.state.connecting with
  | true =>
    obtain ⟨a, -, hAttempt, -⟩ := coherent.waits hConnecting
    rw [hAttempt]
    rfl
  | false =>
    rw [coherent.rests hConnecting]
    rfl

theorem attempt_waits (coherent : h.Coherent n b loop marked x) {a : ConnectAttempt}
    (hAttempt : h.state.attempt? = some a) :
    a.phase = .waitingWritable ∧ a.socket?.isSome := by
  have hConnecting : h.state.connecting = true := by
    rw [coherent.attempted, hAttempt]
    rfl
  obtain ⟨a', socket, hSame, hPhase, hSocket, -⟩ := coherent.waits hConnecting
  obtain rfl : a = a' := Option.some.inj (hAttempt.symm.trans hSame)
  exact ⟨hPhase, by simp [hSocket]⟩

theorem failed_rests (coherent : h.Coherent n b loop marked x)
    (hFailed : h.state.connectFailed = true) : h.state.connecting = false := by
  refine Bool.eq_false_iff.2 fun hConnecting => ?_
  obtain ⟨-, -, -, -, -, -, -, hNot⟩ := coherent.waits hConnecting
  cases hFailed.symm.trans hNot

theorem closed_awaits (coherent : h.Coherent n b loop marked x) (hShut : x.shut = true) :
    h.state.awaited? x.mask = none := by
  obtain ⟨hRests, hSockets, -⟩ := coherent.closed hShut
  simp [TcpState.awaited?, TcpState.clientSocket?, hRests, hSockets, coherent.rests hRests]

theorem entered (coherent : h.Coherent n b loop marked x) :
    Coherent n (h.books n b) loop marked x { state := h.state, net := h.net } :=
  { coherent with lists := coherent.lists.entered }

theorem stays (reserved : system.ReservesInProgress) :
    Stays system id (Coherent n b loop marked x) where
  call _ _ coherent := coherent.of_net _
  ask _ _ coherent := coherent.of_net _
  told coherent := { coherent with lists := coherent.lists.of_kept rfl rfl rfl }
  goesOn coherent := coherent.continueConnect reserved

theorem setBlocking (coherent : h.Coherent n b loop marked x) (on : Bool) :
    (h.setBlocking system on).2.Coherent n b loop marked x := by
  have hNoted : (h.update ({ · with nonblocking := !on })).Coherent n b loop marked x :=
    { coherent with lists := coherent.lists.of_kept rfl rfl rfl }
  unfold TcpHeld.setBlocking
  dsimp only
  split
  · exact { hNoted with lists := hNoted.lists.of_kept rfl rfl rfl }
  split
  · exact hNoted
  split
  · exact hNoted
  · exact hNoted.of_net _

theorem watch (coherent : h.Coherent n b loop marked x) (mask : Interest) :
    (h.watch id mask).Coherent n b loop marked { x with mask } := by
  by_cases hConnecting : h.state.connecting = true
  · have hAwaited : h.state.awaited? mask = h.state.awaited? x.mask := by
      simp [TcpState.awaited?, hConnecting]
    rw [TcpHeld.watch, if_neg (by simp [coherent.client]),
      if_pos (coherent.pending.trans hConnecting)]
    obtain ⟨a, socket, hAttempt, hPhase, hSocket, -, hSockets, hFailed⟩ :=
      coherent.waits hConnecting
    exact {
      client := coherent.client
      pending := coherent.pending
      lists := by
        show Lists n b loop (h.state.awaited? mask) _
        rw [hAwaited]
        exact coherent.lists.of_kept rfl rfl rfl
      waits := fun _ => ⟨a, socket, hAttempt, hPhase, hSocket, rfl, hSockets, hFailed⟩
      rests := coherent.rests
      closed := coherent.closed
      failed := coherent.failed }
  · have hRests := Bool.eq_false_iff.2 hConnecting
    exact of_rest (h := h) coherent.lists own_socket coherent.client
      (coherent.pending.trans hRests) hRests (coherent.rests hRests)
      (fun hShut => (coherent.closed hShut).2) coherent.failed mask

/-- A client that is closed notes nothing any more. -/
theorem close (coherent : h.Coherent n b loop marked x) :
    (h.close system).Coherent n b loop marked { x with shut := true } where
  client := coherent.client
  pending := rfl
  lists := by
    have hAwaited : (h.close system).state.awaited? x.mask = none := by
      simp [TcpState.awaited?, TcpHeld.close, TcpState.clientSocket?]
    rw [hAwaited]
    exact coherent.lists.unregisterAll.of_kept rfl rfl rfl
  waits := nofun
  rests _ := rfl
  closed _ := ⟨rfl, rfl, rfl⟩
  failed _ := nofun

theorem perform (reserved : system.ReservesInProgress) (coherent : h.Coherent n b loop marked x)
    (call : DriverCall) (hStays : call.isHandOff = false) (answer : call.Answer) :
    (TcpHeld.perform system id call h).2.Coherent n b loop marked (x.next ⟨call, answer⟩) := by
  cases call with
  | close =>
    rw [show x.next ⟨.close, answer⟩ = { x with shut := true } by
      simp [Asked.next, DriverCall.mask?]]
    exact coherent.close
  | setBlocking on =>
    rw [show x.next ⟨.setBlocking on, answer⟩ = x by simp [Asked.next, DriverCall.mask?]]
    exact coherent.setBlocking on
  | watch mask =>
    rw [show x.next ⟨.watch mask, answer⟩ = { x with mask } by simp [Asked.next, DriverCall.mask?]]
    exact coherent.watch mask
  | cut | splice => cases hStays
  | _ =>
    rw [x.next_of_plain rfl]
    exact (stays reserved).perform _ rfl coherent

end Coherent

end TcpHeld

/-- What a client notes agrees, as long as it stays in its event loop. -/
def coherence (ν : Type) (loop : LoopId) (marked : Bool) : Regime ν Asked where
  holds x n t net b := TcpHeld.Coherent n b loop marked x { state := t, net }
  next := Asked.next
  admits _ _ call := call.isHandOff = false
  calm _ _ _ := True

theorem coherence_upheld {system : StreamSystem ν} (reserved : system.ReservesInProgress)
    (id : ChannelId) (loop : LoopId) (marked : Bool) :
    (coherence ν loop marked).Upheld system id where
  passedOn coherent := { coherent with lists := coherent.lists.of_kept rfl rfl rfl }
  around hMore _ coherent :=
    { coherent with
      lists := { coherent.lists.of_kept rfl rfl rfl with
        made := Nat.lt_of_lt_of_le coherent.lists.made hMore
        booked := coherent.lists.booked } }
  performed call hStays coherent := (coherent.perform reserved call hStays _).entered
  fired _ ready hOwn suits coherent :=
    ((TcpHeld.Coherent.stays reserved).fire ready hOwn (suits.not_accepting coherent.client id)
      coherent).entered

/-- A client begins with what agrees. -/
theorem coherence_begins {system : StreamSystem ν} (reserved : system.ReservesInProgress)
    {id : ChannelId} {n : Nat} {net : ν} {transport : Transport} {a : ConnectAttempt}
    (hLoop : transport.loop < n) {h : TcpHeld ν}
    (yields : Origin.Yields system id net (.attempt transport a) h) :
    (coherence ν transport.loop false).holds {} n h.state h.net (h.books n .empty) := by
  cases yields with
  | @pending _ _ b net' hStart hOutcome =>
    have poised : b.Poised := by
      have hPoised := ConnectAttempt.start_poised reserved a net
      rwa [hStart] at hPoised
    obtain ⟨hPhase, socket, hSocket⟩ := poised.waits hOutcome
    exact (TcpHeld.Coherent.of_wait (TcpHeld.Lists.new hLoop rfl net') rfl rfl rfl hPhase hSocket
      rfl rfl rfl rfl).entered
  | @connected _ _ b net' socket hStart hSocket hMode =>
    let t : TcpState :=
      { loop := transport.loop, testMode := transport.testMode, sockets := [socket] }
    exact {
      client := rfl
      pending := rfl
      lists := TcpHeld.Lists.new (t := t) hLoop rfl _
      waits := nofun
      rests := fun _ => rfl
      closed := nofun
      failed := nofun }

/-- However a client that was opened to connect is used and called back, as long as it stays in its
event loop: it waits in its event loop for the connection exactly if it is connecting and exactly if
it keeps an attempt, which then waits with a socket; it has not failed while it is connecting, and
once it has failed that stays until it is closed. While it is connecting exactly the socket of its
attempt is registered, after that exactly its socket, for the conditions that were asked for last,
before or after, and reading, or nothing if none was; and nothing once it is closed. -/
theorem connection_coherent {site : TcpSite σ ν} {s : Surroundings σ} {w w₀ w₁ : World σ}
    {id : ChannelId} {callee : (c : Call) → World σ → Option (c.Answer × World σ)}
    {transport : Transport} {a : ConnectAttempt} {own : Tenure} {events : List (StreamEvent σ)}
    (lawful : site.Lawful) (hDriver : s.driver id = site.driver id)
    (reserved : site.system.ReservesInProgress) (sound : ∀ loop, (w.loops.get loop).Sound)
    (hLoop : transport.loop < w.loops.length)
    (hOpened : (site.openAttempt transport a).run s callee w = some (.ok id, w₀))
    (life : site.Life s id w₀ (Tenure.none.since w.loops w₀.loops) events own w₁)
    (hStays : ∀ e ∈ driverCalls s id events, e.call.isHandOff = false) :
    ∃ t, site.state? id w₁.env = some t ∧
      t.connectPending = t.connecting ∧ t.connecting = t.attempt?.isSome ∧
      (∀ attempt, t.attempt? = some attempt →
        attempt.phase = .waitingWritable ∧ attempt.socket?.isSome) ∧
      (t.connectFailed = true → t.connecting = false) ∧
      (∀ loop fd mask, w₁.loops.Registers own loop fd mask ↔ loop = transport.loop ∧
        t.awaited? (lastMask .none (driverCalls s id events)) = some (fd, mask)) ∧
      ((w₁.channel id).isOpen = false → ∀ loop fd mask, ¬w₁.loops.Registers own loop fd mask) ∧
      ∀ later own' w₂, site.Life s id w₁ own later own' w₂ →
        (∀ e ∈ driverCalls s id later, e.call.isHandOff = false) →
        t.connectFailed = true → (w₂.channel id).isOpen = true →
        ∃ t', site.state? id w₂.env = some t' ∧ t'.connectFailed = true := by
  have permits {marked : Bool} {x : Asked} {events : List (StreamEvent σ)}
      (hStays : ∀ e ∈ driverCalls s id events, e.call.isHandOff = false) :
      (coherence ν transport.loop marked).Permits site s id x events :=
    .of_calls fun first e rest hCalls _ => hStays e (by simp [hCalls])
  obtain ⟨h₀, -, born⟩ := Origin.born lawful hDriver (.attempt transport a) hOpened
  have upheld := coherence_upheld reserved id transport.loop false
  obtain ⟨t, b, hState, tracks, coherent⟩ := upheld.lives (.attempt transport a) lawful hDriver
    sound hOpened (fun h yields => coherence_begins reserved hLoop yields) life (permits hStays)
    fun _ _ _ _ _ => trivial
  obtain ⟨-, hOpen⟩ := life.agrees born.made
  rw [born.isOpen, Bool.true_and] at hOpen
  let x := (coherence ν transport.loop false).after {} (driverCalls s id events)
  have hAsked : x = ⟨lastMask .none (driverCalls s id events),
      closesDriver (driverCalls s id events)⟩ :=
    (Asked.foldl_next {} _).trans (by rw [Bool.false_or])
  have hShut : (w₁.channel id).isOpen = !x.shut := by rw [hAsked, hOpen]
  have hRegisters (loop fd mask) : w₁.loops.Registers own loop fd mask ↔
      loop = transport.loop ∧ t.awaited? x.mask = some (fd, mask) := by
    rw [tracks.registers, ← Books.only_eq_some, ← coherent.lists.booked]
    rfl
  refine ⟨t, hState, coherent.pending, coherent.attempted, fun attempt => coherent.attempt_waits,
    coherent.failed_rests, ?_, ?_, ?_⟩
  · rw [hAsked] at hRegisters
    exact hRegisters
  · intro hClosed loop fd mask hRegistered
    rw [hShut, Bool.not_eq_false'] at hClosed
    have hNone : t.awaited? x.mask = none := coherent.closed_awaits hClosed
    cases hNone.symm.trans ((hRegisters loop fd mask).1 hRegistered).2
  · intro later own' w₂ lives hLater hFailed hStillOpen
    obtain ⟨-, hOpen'⟩ := lives.agrees (Nat.lt_of_lt_of_le born.made life.length)
    have hCurrent : (coherence ν transport.loop true).Current site id x own (w₁.loops, w₁.env) :=
      ⟨t, b, hState, tracks, { coherent with failed := fun _ _ => hFailed }⟩
    obtain ⟨t', b', hState', -, coherent'⟩ :=
      (coherence_upheld reserved id transport.loop true).life lawful hDriver lives hCurrent
        (permits hLater) fun _ _ _ _ _ => trivial
    refine ⟨t', hState', coherent'.failed rfl ?_⟩
    rw [hOpen', hShut, Bool.and_eq_true, Bool.not_eq_true', Bool.not_eq_true'] at hStillOpen
    show (((driverCalls s id later).foldl Asked.next x)).shut = false
    rw [Asked.foldl_next, hStillOpen.1, hStillOpen.2]
    rfl

/-- A handler for reading is made while the channel connects; when the connection stands its socket
is registered for that. -/
theorem connection_coherent_made :
    let site := TcpSite.alone (.patient none)
    let made := Step.hold 0 (.createHandler .reading (.routine 0))
    let w₀ := World.started none 1
    let w₁ := (made.run site.surroundings w₀).2
    let w₂ := site.worked 0 (·.fire site.system .writing (.connecting 0 0)) w₁
    ∃ own, site.Life site.surroundings 0 w₀ (Tenure.none.since (World.blank 1).loops w₀.loops)
        [.made made w₀, .fired (.connecting 0 0) .writing w₁] own w₂ ∧
      (site.state? 0 w₂.env).map (·.connecting) = some false ∧
      w₂.loops.Registers own 0 1 .reading := by
  intro site made w₀ w₁ w₂
  have hClient : (site.state? 0 w₁.env).map (·.server) = some false := by decide +kernel
  have life₀ : site.Life site.surroundings 0 w₀
    (Tenure.none.since (World.blank 1).loops w₀.loops) [] _ w₀ := .refl
  have life := (life₀.made made (.inl rfl)).fired (.connecting 0 0) .writing rfl
    (TcpSite.suits_connecting hClient 0)
  obtain ⟨t, hState, -, -, -, -, hRegisters, -⟩ :=
    connection_coherent (TcpSite.alone_lawful _) rfl (patient_reserves none) (blank_sound 1)
      (by decide) (run_started none 1) life (by decide)
  have hAwaited : (site.state? 0 w₂.env).bind (·.awaited? .reading) = some (1, .reading) := by
    decide +kernel
  have hMask : lastMask .none (driverCalls site.surroundings 0
      [.made made w₀, .fired (.connecting 0 0) .writing w₁]) = .reading := by
    decide +kernel
  refine ⟨_, life, by decide +kernel, (hRegisters 0 1 .reading).2 ⟨rfl, ?_⟩⟩
  rw [show site.state? 0 w₂.env = some t from hState] at hAwaited
  exact (congrArg t.awaited? hMask).trans hAwaited

end EventChannel
