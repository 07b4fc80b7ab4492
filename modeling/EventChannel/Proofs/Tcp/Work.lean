import EventChannel.Proofs.Tcp.Books
import EventChannel.Tcp.Transport

/-! Whatever a stream channel is asked, it does three things: it makes calls on the system, tells an
error it has kept, or lets a connection go on. Only five of the calls to its driver do more: those
that choose the conditions, the mode or the event loop, and the one that closes it. What the three
things keep is kept by every other call. -/

namespace EventChannel

/-- A call that takes a new connection. -/
def StreamCall.accepts : StreamCall → Bool
  | accept _ => true
  | _ => false

/-- A call that only asks something of a socket. -/
def SocketCall.isQuestion : SocketCall → Bool
  | .takeError _ | .localAddress _ => true
  | _ => false

/-- A call that chooses neither conditions nor the mode nor the event loop, nor closes the
driver. -/
def DriverCall.isPlain : DriverCall → Bool
  | close | setBlocking _ | watch _ | cut | splice _ => false
  | _ => true

/-- A call that asks why no connection was made. -/
def DriverCall.asksError : DriverCall → Bool
  | getOption _ (some name) => matchOption name readableTcpOptions = some "error"
  | _ => false

/-- The channel whose driver a handler belongs to. -/
def FileHandler.channel? : FileHandler → Option ChannelId
  | routine _ => none
  | connecting channel _ | traffic channel _ | accepting channel _ _ => some channel

/-- Servers have their handlers accept, all others have them wait. -/
def TcpState.Suits (t : TcpState) : FileHandler → Prop
  | .routine _ => False
  | .connecting _ _ | .traffic _ _ => t.server = false
  | .accepting _ _ _ => t.server = true

theorem TcpState.Suits.not_accepting {t : TcpState} {handler : FileHandler}
    (suits : t.Suits handler) (hClient : t.server = false) (id : ChannelId) (epoch index : Nat) :
    handler ≠ .accepting id epoch index := by
  rintro rfl
  cases hClient.symm.trans suits

namespace TcpHeld

variable {ν : Type}

/-- What a handler does to the state. -/
def fire (system : StreamSystem ν) (ready : Interest) (h : TcpHeld ν) : FileHandler → TcpHeld ν
  | .routine _ => h
  | .connecting self epoch =>
    if h.state.epoch = epoch then h.continueConnect system self else h
  | .traffic _ epoch => (TcpSite.trafficMask system epoch ready h).2
  | .accepting _ epoch index => (TcpSite.takeConnection system epoch index h).2

/-- Calls on the system keep what holds of a state at work. -/
structure Asks (system : StreamSystem ν) (I : TcpHeld ν → Prop) : Prop where
  call : ∀ {h} (c : StreamCall), c.accepts = false → I h → I (h.call system c).2
  ask : ∀ {h} (c : SocketCall), c.isQuestion = true → I h → I (h.socketCall system c).2

/-- A connection that goes on keeps it as well. -/
structure Proceeds (system : StreamSystem ν) (id : ChannelId) (I : TcpHeld ν → Prop) : Prop
    extends Asks system I where
  goesOn : ∀ {h}, I h → I (h.continueConnect system id)

/-- And so does a kept error that is told. -/
structure Stays (system : StreamSystem ν) (id : ChannelId) (I : TcpHeld ν → Prop) : Prop
    extends Proceeds system id I where
  told : ∀ {h}, I h → I (h.update ({ · with connectError? := none }))

variable {system : StreamSystem ν} {id : ChannelId} {I : TcpHeld ν → Prop} {h : TcpHeld ν}

/-- Getting ready for a transfer is waiting for the connection. -/
theorem transferSocket_leaves :
    (h.transferSocket system id).2 = (h.waitForConnect system id true).2 := by
  unfold TcpHeld.transferSocket
  generalize h.waitForConnect system id true = r
  obtain ⟨e | done, h₁⟩ := r
  · rfl
  · dsimp only
    split <;> rfl

namespace Asks

theorem closeHalf (asks : Asks system I) (d : Direction) (start : I h) :
    I (h.closeHalf system d).2 := by
  unfold TcpHeld.closeHalf
  split
  · exact start
  · exact asks.call _ rfl start

theorem addressTriple (asks : Asks system I) (reverseDns : Bool) (address : SocketAddress)
    (start : I h) : I (h.addressTriple system reverseDns address).2 := by
  unfold TcpHeld.addressTriple
  dsimp only
  split
  · exact start
  · exact asks.call (.hostName address) rfl start

theorem peerTriple (asks : Asks system I) (reverseDns : Bool) (start : I h) :
    I (h.peerTriple system reverseDns).2 := by
  unfold TcpHeld.peerTriple
  split
  · exact start
  · next socket _ =>
    have hAsked := asks.call (.peerAddress socket) rfl start
    generalize h.call system _ = r at hAsked ⊢
    obtain ⟨e | peer, h₁⟩ := r
    · exact hAsked
    · exact asks.addressTriple reverseDns peer hAsked

theorem sockTriples (asks : Asks system I) (reverseDns : Bool) (sockets : List Socket)
    (values : List String) (error? : Option SystemError) (start : I h) :
    I (h.sockTriples system reverseDns sockets values error?).2.2 := by
  induction sockets generalizing h values error? with
  | nil => exact start
  | cons socket rest ih =>
    unfold TcpHeld.sockTriples
    have hAsked := asks.ask (.localAddress socket) rfl start
    generalize h.socketCall system _ = r at hAsked ⊢
    obtain ⟨e | address, h₁⟩ := r
    · exact ih values (some e) hAsked
    · exact ih _ error? (asks.addressTriple reverseDns address hAsked)

theorem sockName (asks : Asks system I) (reverseDns : Bool) (start : I h) :
    I (h.sockName system reverseDns).2 := by
  unfold TcpHeld.sockName
  split
  · exact start
  dsimp only
  have hAsked := asks.sockTriples reverseDns
    (if h.state.server then h.state.sockets else h.state.clientSocket?.toList) [] none start
  generalize TcpHeld.sockTriples system reverseDns _ [] none h = r at hAsked ⊢
  split
  · exact hAsked
  · exact hAsked

theorem keepAlive (asks : Asks system I) (start : I h) : I (h.keepAlive system).2 := by
  unfold TcpHeld.keepAlive TcpHeld.switch
  split
  · exact start
  · exact asks.call (.keepAlive _) rfl start

theorem noDelay (asks : Asks system I) (start : I h) : I (h.noDelay system).2 := by
  unfold TcpHeld.noDelay TcpHeld.switch
  split
  · exact start
  · exact asks.call (.noDelay _) rfl start

theorem allOptions (asks : Asks system I) (reverseDns : Bool) (start : I h) :
    I (h.allOptions system reverseDns).2 := by
  unfold TcpHeld.allOptions
  have hPeer : I (if h.state.connecting then ((.ok .empty : Except Report OptionValue), h)
      else h.peerTriple system reverseDns).2 := by
    split
    · exact start
    · exact asks.peerTriple reverseDns start
  generalize (if h.state.connecting then ((.ok .empty : Except Report OptionValue), h)
    else h.peerTriple system reverseDns) = r at hPeer ⊢
  obtain ⟨peer, h₁⟩ := r
  have hName := asks.sockName reverseDns hPeer
  dsimp only at hName ⊢
  generalize h₁.sockName system reverseDns = r at hName ⊢
  obtain ⟨e | value, h₂⟩ := r
  · exact hName
  · exact asks.noDelay (asks.keepAlive hName)

/-- Only why no connection was made is told. -/
theorem optionValue (asks : Asks system I) (reverseDns : Bool) (option : String)
    (hTold : option = "error" → I (h.errorValue system).2) (start : I h) :
    I (h.optionValue system reverseDns option).2 := by
  unfold TcpHeld.optionValue
  split
  · exact hTold rfl
  · exact start
  · split
    · exact start
    · exact asks.peerTriple reverseDns start
  · exact asks.sockName reverseDns start
  · exact asks.keepAlive start
  · exact asks.noDelay start

theorem setOption (asks : Asks system I) (name value : String) (start : I h) :
    I (h.setOption system name value).2 := by
  unfold TcpHeld.setOption
  split
  · exact start
  split
  · exact start
  split
  · exact start
  dsimp only
  split
  · exact asks.call (.setKeepAlive _ _) rfl start
  · exact asks.call (.setNoDelay _ _) rfl start

theorem trafficMask (asks : Asks system I) (epoch : Nat) (ready : Interest) (start : I h) :
    I (TcpSite.trafficMask system epoch ready h).2 := by
  unfold TcpSite.trafficMask
  split
  · exact start
  split
  · exact start
  split
  · exact start
  · next socket _ =>
    have hLooked := asks.call (.peek socket) rfl start
    generalize h.call system _ = r at hLooked ⊢
    obtain ⟨e | _ | _, h₁⟩ := r
    · exact hLooked
    · exact hLooked
    · exact hLooked

theorem input (asks : Asks system I) (room : Nat)
    (hWaited : I (h.waitForConnect system id true).2) : I (h.input system id room).2 := by
  rw [← transferSocket_leaves] at hWaited
  unfold TcpHeld.input
  generalize h.transferSocket system id = r at hWaited ⊢
  obtain ⟨e | socket, h₁⟩ := r
  · exact hWaited
  · have hReceived := asks.call (.receive socket room) rfl hWaited
    dsimp only at hReceived ⊢
    generalize h₁.call system _ = r at hReceived ⊢
    obtain ⟨e | bytes, h₂⟩ := r
    · dsimp only
      split
      · exact hReceived
      · exact hReceived
    · exact hReceived

theorem output (asks : Asks system I) (bytes : Bytes)
    (hWaited : I (h.waitForConnect system id true).2) : I (h.output system id bytes).2 := by
  rw [← transferSocket_leaves] at hWaited
  unfold TcpHeld.output
  generalize h.transferSocket system id = r at hWaited ⊢
  obtain ⟨e | socket, h₁⟩ := r
  · exact hWaited
  · have hSent := asks.call (.send socket bytes) rfl hWaited
    dsimp only at hSent ⊢
    generalize h₁.call system _ = r at hSent ⊢
    obtain ⟨e | n, h₂⟩ := r
    · exact hSent
    · exact hSent

theorem getOption (asks : Asks system I) (reverseDns : Bool) (name? : Option String)
    (hLooked : I (h.waitForConnect system id false).2)
    (hTold : (DriverCall.getOption reverseDns name?).asksError = true →
      ∀ {h}, I h → I (h.errorValue system).2) (start : I h) :
    I (h.getOption system id reverseDns name?).2 := by
  unfold TcpHeld.getOption
  split
  · exact asks.allOptions reverseDns hLooked
  · next name =>
    split
    · exact start
    · next option hMatch =>
      have hValue := asks.optionValue reverseDns option
        (fun hError => hTold (by simp [DriverCall.asksError, hMatch, hError]) hLooked) hLooked
      generalize TcpHeld.optionValue system reverseDns option _ = r at hValue ⊢
      obtain ⟨e | value, h₁⟩ := r
      · exact hValue
      · exact hValue

/-- All calls but five keep what waiting for a connection keeps, except that an error is told. -/
theorem perform (asks : Asks system I) (call : DriverCall) (hPlain : call.isPlain = true)
    (hWaits : ∀ report, I (h.waitForConnect system id report).2)
    (hTold : call.asksError = true → ∀ {h}, I h → I (h.errorValue system).2) (start : I h) :
    I (TcpHeld.perform system id call h).2 := by
  cases call with
  | attach | seek | handle => exact start
  | input room => exact asks.input room (hWaits true)
  | output bytes => exact asks.output bytes (hWaits true)
  | closeHalf d => exact asks.closeHalf d start
  | setOption name value => exact asks.setOption name value start
  | getOption reverseDns name? =>
    exact asks.getOption reverseDns name? (hWaits false) hTold start
  | _ => cases hPlain

end Asks

namespace Proceeds

theorem awaitConnect (proceeds : Proceeds system id I) (tries : Nat) (start : I h) :
    I (h.awaitConnect system id tries) := by
  induction tries generalizing h with
  | zero => exact start
  | succ tries ih =>
    unfold TcpHeld.awaitConnect
    split
    · exact start
    · next socket _ =>
      have hWaited := proceeds.call (.await socket (.writing ∪ .trouble)) rfl start
      generalize h.call system _ = r at hWaited ⊢
      obtain ⟨e | ready, h₁⟩ := r
      · exact hWaited
      · have hOn := proceeds.goesOn hWaited
        dsimp only
        split
        · exact ih hOn
        · exact hOn

theorem probeConnect (proceeds : Proceeds system id I) (start : I h) :
    I (h.probeConnect system id) := by
  unfold TcpHeld.probeConnect
  split
  · exact start
  · next socket _ =>
    have hLooked := proceeds.call (.poll socket (.writing ∪ .trouble)) rfl start
    generalize h.call system _ = r at hLooked ⊢
    obtain ⟨e | ready, h₁⟩ := r
    · exact hLooked
    · dsimp only
      split
      · exact hLooked
      · exact proceeds.goesOn hLooked

theorem waitForConnect (proceeds : Proceeds system id I) (report : Bool) (start : I h) :
    I (h.waitForConnect system id report).2 := by
  unfold TcpHeld.waitForConnect
  split
  · exact start
  split
  · exact start
  dsimp only
  split
  · exact start
  have hWent : I (if report && !h.state.nonblocking then h.awaitConnect system id h.triesLeft
      else h.probeConnect system id) := by
    split
    · exact proceeds.awaitConnect _ start
    · exact proceeds.probeConnect start
  generalize (if report && !h.state.nonblocking then h.awaitConnect system id h.triesLeft
    else h.probeConnect system id) = h₁ at hWent ⊢
  split
  · exact hWent
  split
  · exact hWent
  · exact hWent

/-- All calls but five keep what proceeds, except that an error is told. -/
theorem perform (proceeds : Proceeds system id I) (call : DriverCall)
    (hPlain : call.isPlain = true)
    (hTold : call.asksError = true → ∀ {h}, I h → I (h.errorValue system).2) (start : I h) :
    I (TcpHeld.perform system id call h).2 :=
  proceeds.toAsks.perform call hPlain (fun report => proceeds.waitForConnect report start)
    hTold start

/-- The handlers of a client keep what proceeds. -/
theorem fire (proceeds : Proceeds system id I) (ready : Interest) {handler : FileHandler}
    (hOwn : handler.channel? = some id) (hWaits : ∀ epoch index,
      handler ≠ .accepting id epoch index) (start : I h) : I (h.fire system ready handler) := by
  cases handler with
  | routine r => cases hOwn
  | connecting other epoch =>
    obtain rfl : other = id := Option.some.inj hOwn
    rw [TcpHeld.fire]
    split
    · exact proceeds.goesOn start
    · exact start
  | traffic other epoch => exact proceeds.trafficMask epoch ready start
  | accepting other epoch index =>
    obtain rfl : other = id := Option.some.inj hOwn
    exact absurd rfl (hWaits epoch index)

end Proceeds

namespace Stays

theorem errorValue (stays : Stays system id I) (start : I h) : I (h.errorValue system).2 := by
  unfold TcpHeld.errorValue
  split
  · exact start
  split
  · exact stays.told start
  split
  · exact start
  · next socket _ =>
    have hAsked := stays.ask (.takeError socket) rfl start
    generalize h.socketCall system _ = r at hAsked ⊢
    obtain ⟨e | e | _, h₁⟩ := r
    · exact hAsked
    · exact hAsked
    · exact hAsked

/-- All calls but five keep what stays. -/
theorem perform (stays : Stays system id I) (call : DriverCall) (hPlain : call.isPlain = true)
    (start : I h) : I (TcpHeld.perform system id call h).2 :=
  stays.toProceeds.perform call hPlain (fun _ _ => stays.errorValue) start

end Stays

end TcpHeld

end EventChannel
