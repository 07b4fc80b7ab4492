import EventChannel.Proofs.Tcp.HandOff

/-! A channel that does not block has a socket that does not block. While it is connecting the mode
may change too; the wish is kept and carried out when the connection is made or has failed. The wish
is kept only as long as the event loop is asked about the connection: a mode that is chosen while a
connecting channel belongs to no event loop is lost. -/

namespace EventChannel

variable {σ ν : Type}

/-- Sockets are always put into the mode that is asked for, and all that a channel does to them
otherwise leaves them in it. -/
structure StreamSystem.KeepsModes (system : StreamSystem ν) (nonblocking : ν → Socket → Bool) :
    Prop where
  agreed : ∀ socket on net, (system.answer (.setNonblocking socket on) net).1 = .ok ()
  chosen : ∀ socket on net,
    nonblocking (system.after (.setNonblocking socket on) net) socket = on
  buffers : ∀ socket size net s,
    nonblocking (system.after (.minimumBuffers socket size) net) s = nonblocking net s
  asked : ∀ (c : SocketCall) net s, c.isQuestion = true →
    nonblocking (system.after c net) s = nonblocking net s
  used : ∀ (c : StreamCall) net s, c.accepts = false →
    nonblocking (system.stream c net).2 s = nonblocking net s

theorem StreamSystem.KeepsModes.switched {system : StreamSystem ν} {nonblocking : ν → Socket → Bool}
    (keeps : system.KeepsModes nonblocking) {h : TcpHeld ν} {s : Socket}
    (hHead : h.state.sockets.head? = some s) :
    nonblocking (h.switched system).net s = !h.state.cachedBlocking := by
  rw [TcpHeld.switched, hHead]
  exact keeps.chosen s _ h.net

/-- The mode that was chosen last, and the event loop that the channel is in. -/
structure Manner where
  blocking : Bool := true
  place : Option LoopId

namespace Manner

def next (x : Manner) (e : DriverEvent) : Manner where
  blocking := e.mode?.getD x.blocking
  place := e.call.place?.getD x.place

theorem foldl_next (x : Manner) (calls : List DriverEvent) :
    calls.foldl next x = ⟨lastMode x.blocking calls, lastPlace x.place calls⟩ := by
  induction calls generalizing x with
  | nil => rfl
  | cons e rest ih => simp [ih, next, lastPlace, lastMode]

theorem next_of_plain (x : Manner) {e : DriverEvent} (hPlain : e.call.isPlain = true) :
    x.next e = x := by
  obtain ⟨call, answer⟩ := e
  cases call with
  | close | setBlocking | watch | cut | splice => cases hPlain
  | _ => rfl

end Manner

namespace TcpHeld

variable {system : StreamSystem ν} {nonblocking : ν → Socket → Bool} {id : ChannelId}
  {h : TcpHeld ν} {x : Manner}

/-- The socket of a client agrees with its mode, or the wish is kept as long as it is connecting. An
attempt without a socket never comes to an end. -/
structure Minded (nonblocking : ν → Socket → Bool) (x : Manner) (h : TcpHeld ν) : Prop where
  client : h.state.server = false
  pending : h.state.connectPending = true → h.state.connecting = true
  attempt : h.state.attempt?.isSome = h.state.connecting
  lone : h.state.connecting = true → h.state.sockets = []
  waits : h.state.connecting = true → x.place ≠ none →
    h.state.connectPending = true ∨ h.state.clientSocket? = none
  kept : h.state.connecting = true → h.state.cachedBlocking = x.blocking ∨
    h.state.connectPending = false ∧ h.state.clientSocket? = none
  agrees : h.state.connecting = false → ∀ s, h.state.sockets.head? = some s →
    nonblocking h.net s = !x.blocking

namespace Minded

theorem of_net (minded : h.Minded nonblocking x) {net : ν}
    (hSame : ∀ s, nonblocking net s = nonblocking h.net s) :
    Minded nonblocking x { h with net } :=
  { minded with agrees := fun hRests s hSocket => (hSame s).trans (minded.agrees hRests s hSocket) }

/-- A client that is not connecting has no other socket than its own. -/
theorem no_attempt (minded : h.Minded nonblocking x) (hRests : h.state.connecting = false) :
    h.state.clientSocket? = h.state.sockets.head? := by
  have hNone : h.state.attempt? = none := by
    simpa [hRests] using minded.attempt
  simp [TcpState.clientSocket?, hNone]

/-- A client that is connecting waits for that if it has a socket. -/
theorem of_wait (hClient : h.state.server = false) (hConnecting : h.state.connecting = true)
    (hAttempt : h.state.attempt?.isSome) (hSockets : h.state.sockets = [])
    (hKept : h.state.cachedBlocking = x.blocking ∨
      h.state.connectPending = false ∧ h.state.clientSocket? = none) :
    (h.registerConnect id).Minded nonblocking x := by
  unfold TcpHeld.registerConnect
  split
  · next hNone =>
    exact {
      client := hClient
      pending := fun _ => hConnecting
      attempt := hAttempt.trans hConnecting.symm
      lone := fun _ => hSockets
      waits := fun _ _ => .inr hNone
      kept := fun _ => hKept
      agrees := fun hRests => by cases hConnecting.symm.trans hRests }
  · next socket hSocket =>
    exact {
      client := hClient
      pending := fun _ => hConnecting
      attempt := hAttempt.trans hConnecting.symm
      lone := fun _ => hSockets
      waits := fun _ _ => .inl rfl
      kept := fun _ => .inl <| hKept.resolve_right fun hStuck => by
        cases hSocket.symm.trans hStuck.2
      agrees := fun hRests => by cases hConnecting.symm.trans hRests }

/-- The wish is carried out when the connection is made or has failed. -/
theorem of_end (keeps : system.KeepsModes nonblocking) (hClient : h.state.server = false)
    (hPending : h.state.connectPending = false) (hKept : h.state.cachedBlocking = x.blocking)
    (error? : Option SystemError) :
    (h.finishConnect system id error?).Minded nonblocking x := by
  have hState : (h.finishConnect system id error?).state = _ := finishConnect_frame id error? h
  have hRests : (h.finishConnect system id error?).state.connecting = false := by
    rw [hState]
    rfl
  refine ⟨?_, fun hStill => ?_, ?_, fun hNot => ?_, fun hNot => ?_, fun hNot => ?_,
    fun _ s hSocket => ?_⟩
  · rw [hState]
    exact hClient
  · rw [hState] at hStill
    cases hPending.symm.trans hStill
  · rw [hState]
    rfl
  · cases hNot.symm.trans hRests
  · cases hNot.symm.trans hRests
  · cases hNot.symm.trans hRests
  · let watched := h.ended.watch id h.state.cachedWatch
    have hWatched : watched.state.cachedBlocking = x.blocking := by
      rw [show watched.state = _ from (watch_frame id h.state.cachedWatch h.ended).2]
      exact hKept
    have hHead : watched.state.sockets.head? = some s := by
      rwa [finishConnect_eq, state_update, (watched.switched_keeps system).2] at hSocket
    rw [finishConnect_eq, net_update, keeps.switched hHead, hWatched]

/-- However its connection goes on, the mode of a client is not lost. -/
theorem continueConnect (keeps : system.KeepsModes nonblocking)
    (minded : h.Minded nonblocking x) : (h.continueConnect system id).Minded nonblocking x := by
  by_cases hPending : h.state.connectPending = true
  · have hConnecting := minded.pending hPending
    obtain ⟨a, hAttempt⟩ := Option.isSome_iff_exists.1 (minded.attempt.trans hConnecting)
    have hKept : h.state.cachedBlocking = x.blocking :=
      (minded.kept hConnecting).resolve_right fun hStuck => by cases hPending.symm.trans hStuck.1
    rcases hResume : a.resume system.toSocketSystem h.net with ⟨a', net⟩
    rw [continueConnect_resumed hPending hAttempt hResume]
    split
    · refine of_wait ?_ ?_ ?_ ?_ (.inl ?_) <;> rw [resumed_frame]
      · exact minded.client
      · exact hConnecting
      · rfl
      · exact minded.lone hConnecting
      · exact hKept
    · refine of_end keeps ?_ ?_ ?_ none <;> rw [resumed_frame]
      · exact minded.client
      · exact hKept
    · next e _ =>
      refine of_end keeps ?_ ?_ ?_ (some e) <;> rw [resumed_frame]
      · exact minded.client
      · exact hKept
  · rw [continueConnect_idle (Bool.eq_false_iff.2 hPending)]
    exact minded

theorem stays (keeps : system.KeepsModes nonblocking) :
    Stays system id (Minded nonblocking x) where
  call c hTakes minded := minded.of_net fun s => keeps.used c _ s hTakes
  ask c hAsks minded := minded.of_net fun s => keeps.asked c _ s hAsks
  told minded := { minded with }
  goesOn minded := minded.continueConnect keeps

/-- A mode is noted for a socket that is there or one that is to come. -/
theorem setBlocking (keeps : system.KeepsModes nonblocking) (minded : h.Minded nonblocking x)
    (on : Bool) (hTimely : x.place ≠ none ∨ h.state.connecting = false) :
    (h.setBlocking system on).1 = .ok () ∧
      (h.setBlocking system on).2.Minded nonblocking { x with blocking := on } := by
  unfold TcpHeld.setBlocking
  dsimp only
  split
  · next hPending =>
    have hConnecting := minded.pending hPending
    exact ⟨rfl, { minded with
      kept := fun _ => .inl rfl
      agrees := fun hRests => by cases hConnecting.symm.trans hRests }⟩
  next hIdle =>
  split
  · next hServer => cases minded.client.symm.trans hServer
  split
  · next hNone =>
    exact ⟨rfl, { minded with
      kept := fun _ => .inr ⟨Bool.eq_false_iff.2 hIdle, hNone⟩
      agrees := fun hRests s hSocket => by
        cases (hSocket.symm.trans (minded.no_attempt hRests).symm).trans hNone }⟩
  · next socket hSocket =>
    have hRests : h.state.connecting = false := by
      obtain hPlaced | hRests := hTimely
      · refine Bool.eq_false_iff.2 fun hConnecting => ?_
        obtain hPending | hNone := minded.waits hConnecting hPlaced
        · exact hIdle hPending
        · cases hNone.symm.trans hSocket
      · exact hRests
    refine ⟨keeps.agreed socket (!on) h.net, { minded with
      kept := fun hConnecting => by cases hConnecting.symm.trans hRests
      agrees := fun _ s hHead => ?_ }⟩
    obtain rfl : socket = s := Option.some.inj
      ((hSocket.symm.trans (minded.no_attempt hRests)).trans hHead)
    exact keeps.chosen socket (!on) h.net

theorem watch (minded : h.Minded nonblocking x) (mask : Interest) :
    (h.watch id mask).Minded nonblocking x := by
  obtain ⟨hNet, hState⟩ := watch_frame id mask h
  have hSocket : (h.watch id mask).state.clientSocket? = h.state.clientSocket? := by
    rw [hState]
    rfl
  refine ⟨?_, ?_, ?_, ?_, ?_, ?_, ?_⟩ <;> rw [hState]
  · exact minded.client
  · exact minded.pending
  · exact minded.attempt
  · exact minded.lone
  · exact minded.waits
  · exact minded.kept
  · rw [hNet]
    exact minded.agrees

theorem cut (minded : h.Minded nonblocking x) :
    h.cut.Minded nonblocking { x with place := none } where
  client := minded.client
  pending hPending := by
    have hStill : (if h.state.connecting then false else h.state.connectPending) = true := hPending
    split at hStill
    · cases hStill
    · exact minded.pending hStill
  attempt := minded.attempt
  lone := minded.lone
  waits _ hPlaced := absurd rfl hPlaced
  kept hConnecting := by
    obtain hKept | ⟨-, hNone⟩ := minded.kept hConnecting
    · exact .inl hKept
    · exact .inr ⟨if_pos hConnecting, hNone⟩
  agrees := minded.agrees

theorem splice (minded : h.Minded nonblocking x) (loop : LoopId) :
    (h.splice id loop).Minded nonblocking { x with place := some loop } := by
  unfold TcpHeld.splice
  dsimp only
  split
  · next hServer => cases minded.client.symm.trans hServer
  split
  · next hConnecting =>
    exact of_wait minded.client hConnecting (minded.attempt.trans hConnecting)
      (minded.lone hConnecting) (minded.kept hConnecting)
  · next hRests =>
    exact { minded with waits := fun hConnecting => absurd hConnecting hRests }

theorem close (minded : h.Minded nonblocking x) : (h.close system).Minded nonblocking x where
  client := minded.client
  pending := nofun
  attempt := rfl
  lone := nofun
  waits := nofun
  kept := nofun
  agrees _ _ hSocket := nomatch hSocket

end Minded

end TcpHeld

/-- A mode is chosen in time unless the channel is connecting and belongs to no event loop. -/
def DriverCall.IsTimely (place : Option LoopId) (t : TcpState) : DriverCall → Prop
  | setBlocking _ => place ≠ none ∨ t.connecting = false
  | _ => True

namespace TcpHeld.Minded

variable {system : StreamSystem ν} {nonblocking : ν → Socket → Bool} {id : ChannelId}
  {h : TcpHeld ν} {x : Manner}

theorem perform (keeps : system.KeepsModes nonblocking) (minded : h.Minded nonblocking x)
    (call : DriverCall) (hTimely : call.IsTimely x.place h.state) :
    (TcpHeld.perform system id call h).2.Minded nonblocking
      (x.next ⟨call, (TcpHeld.perform system id call h).1⟩) := by
  cases call with
  | close => exact minded.close
  | setBlocking on =>
    obtain ⟨hAgreed, hNext⟩ := minded.setBlocking keeps on hTimely
    have hMode : x.next ⟨.setBlocking on, (h.setBlocking system on).1⟩ =
        { x with blocking := on } := by
      rw [hAgreed]
      rfl
    show (h.setBlocking system on).2.Minded nonblocking _
    rw [show x.next ⟨.setBlocking on, (TcpHeld.perform system id (.setBlocking on) h).1⟩ = _
      from hMode]
    exact hNext
  | watch mask => exact minded.watch mask
  | cut => exact minded.cut
  | splice loop => exact minded.splice loop
  | _ =>
    rw [x.next_of_plain rfl]
    exact (stays keeps).perform _ rfl minded

end TcpHeld.Minded

/-- The socket of a client agrees with its mode. -/
def mindedness (nonblocking : ν → Socket → Bool) : Regime ν Manner where
  holds x _ t net _ := TcpHeld.Minded nonblocking x { state := t, net }
  next := Manner.next
  admits x t call := call.IsTimely x.place t
  calm t net net' := ∀ s ∈ t.sockets, nonblocking net' s = nonblocking net s

theorem mindedness_upheld {system : StreamSystem ν} {nonblocking : ν → Socket → Bool}
    (keeps : system.KeepsModes nonblocking) (id : ChannelId) :
    (mindedness nonblocking).Upheld system id where
  passedOn minded := { minded with }
  around _ hCalm minded :=
    { minded with
      agrees := fun hRests s hSocket =>
        (hCalm s (List.mem_of_head? hSocket)).trans (minded.agrees hRests s hSocket) }
  performed call hTimely minded := { minded.perform keeps call hTimely with }
  fired _ ready hOwn suits minded :=
    { (TcpHeld.Minded.stays keeps).fire ready hOwn (suits.not_accepting minded.client id)
        minded with }

theorem mindedness_begins {system : StreamSystem ν} {nonblocking : ν → Socket → Bool}
    (keeps : system.KeepsModes nonblocking) {id : ChannelId} {n : Nat} {net : ν} {origin : Origin}
    {h : TcpHeld ν} (hConnection : origin.isConnection = true)
    (yields : origin.Yields system id net h) :
    (mindedness nonblocking).holds ⟨true, some origin.loop⟩ n h.state h.net (h.books n .empty) := by
  have hSettled (loop : LoopId) (testMode : Bool) (socket : Socket) {net : ν}
      (hMode : nonblocking net socket = false) :
      TcpHeld.Minded nonblocking ⟨true, some loop⟩
        { state := { loop, testMode, sockets := [socket] }, net } :=
    { client := rfl
      pending := nofun
      attempt := rfl
      lone := nofun
      waits := nofun
      kept := nofun
      agrees := fun _ s hSocket => by
        obtain rfl : socket = s := Option.some.inj hSocket
        exact hMode }
  cases yields with
  | @pending transport _ b net' =>
    let waiting : TcpHeld ν :=
      { state := { loop := transport.loop, testMode := transport.testMode, connecting := true
                   attempt? := some b }
        net := net' }
    have minded : (waiting.registerConnect id).Minded nonblocking ⟨true, some transport.loop⟩ :=
      .of_wait rfl rfl rfl rfl (.inl rfl)
    exact { minded with }
  | connected => exact hSettled _ _ _ (keeps.chosen ..)
  | accepted a => exact hSettled a.loop false a.socket ((keeps.buffers ..).trans (keeps.chosen ..))
  | socket | listening => cases hConnection

/-- However a channel that connects or was accepted is used, handed over and called back, as long as
its mode is not chosen while it is connecting and belongs to no event loop: when it is not
connecting any more and has a socket, the socket blocks exactly if the channel does. -/
theorem socket_in_mode {site : TcpSite σ ν} {s : Surroundings σ} {w w₀ w₁ : World σ}
    {id : ChannelId} {callee : (c : Call) → World σ → Option (c.Answer × World σ)}
    {origin : Origin} {own : Tenure} {events : List (StreamEvent σ)}
    {nonblocking : ν → Socket → Bool} (lawful : site.Lawful)
    (hDriver : s.driver id = site.driver id) (keeps : site.system.KeepsModes nonblocking)
    (sound : ∀ loop, (w.loops.get loop).Sound) (hConnection : origin.isConnection = true)
    (hOpened : (origin.opening site).run s callee w = some (.ok id, w₀))
    (life : site.Life s id w₀ (Tenure.none.since w.loops w₀.loops) events own w₁)
    (timely : (mindedness nonblocking).Permits site s id ⟨true, some origin.loop⟩ events)
    (calm : (mindedness nonblocking).Calm site id events) :
    ∃ t, site.state? id w₁.env = some t ∧ (t.connecting = false →
      ∀ socket, t.clientSocket? = some socket →
        nonblocking (site.net w₁.env) socket = !(w₁.channel id).blocking) := by
  obtain ⟨h₀, -, born⟩ := Origin.born lawful hDriver origin hOpened
  obtain ⟨t, b, hState, -, minded⟩ := (mindedness_upheld keeps id).lives origin lawful hDriver sound
    hOpened (fun h yields => mindedness_begins keeps hConnection yields) life timely calm
  obtain ⟨hMode, -⟩ := life.agrees born.made
  refine ⟨t, hState, fun hRests socket hSocket => ?_⟩
  have hHead : t.sockets.head? = some socket := (minded.no_attempt hRests).symm.trans hSocket
  have hAfter := Manner.foldl_next ⟨true, some origin.loop⟩ (driverCalls s id events)
  rw [hMode, born.blocking]
  exact (minded.agrees hRests socket hHead).trans (congrArg (!·.blocking) hAfter)

theorem patient_keeps (told? : Option SystemError) :
    (StreamSystem.patient told?).KeepsModes fun flags => flags where
  agreed _ _ _ := rfl
  chosen _ _ _ := if_pos rfl
  buffers _ _ _ _ := rfl
  asked c _ _ hAsks := by
    cases c with
    | takeError | localAddress => rfl
    | _ => cases hAsks
  used c _ _ _ := by cases c <;> rfl

/-- The mode is chosen while the channel connects, and is that of the socket when the connection
stands. -/
theorem socket_in_mode_chosen :
    let site := TcpSite.alone (.patient none)
    let s := site.surroundings
    let chosen := ChannelOp.setBlocking false
    let w₀ := World.started none 1
    let w₁ := ((Step.hold 0 chosen).run s w₀).2
    let w₂ := site.worked 0 (·.fire site.system .writing (.connecting 0 0)) w₁
    ∃ own t, site.Life s 0 w₀ (Tenure.none.since (World.blank 1).loops w₀.loops)
        [.made (.hold 0 chosen) w₀, .fired (.connecting 0 0) .writing w₁] own w₂ ∧
      site.state? 0 w₂.env = some t ∧ t.connecting = false ∧ t.clientSocket? = some 1 ∧
      (w₂.channel 0).blocking = false ∧ site.net w₂.env 1 = true := by
  intro site s chosen w₀ w₁ w₂
  let events : List (StreamEvent _) :=
    [.made (.hold 0 chosen) w₀, .fired (.connecting 0 0) .writing w₁]
  have hClient : (site.state? 0 w₁.env).map (·.server) = some false := by decide +kernel
  have life₀ : site.Life s 0 w₀ (Tenure.none.since (World.blank 1).loops w₀.loops) [] _ w₀ := .refl
  have life : site.Life s 0 w₀ _ events _ w₂ :=
    (life₀.made (.hold 0 chosen) (.inl rfl)).fired (.connecting 0 0) .writing rfl
      (TcpSite.suits_connecting hClient 0)
  have hOpened : ((Origin.attempt { loop := 0 } .single).opening site).run s (fun _ _ => none)
      (.blank 1) = some (.ok 0, w₀) := run_started none 1
  have timely : (mindedness fun flags : Socket → Bool => flags).Permits site s 0
      ⟨true, some 0⟩ events := by
    refine .of_calls fun first e rest hCalls t => ?_
    have hSingle : [⟨.setBlocking false, .ok ()⟩] = first ++ e :: rest := hCalls
    obtain ⟨rfl, rfl, -⟩ : first = [] ∧ e = ⟨.setBlocking false, .ok ()⟩ ∧ rest = [] := by
      rcases first with _ | ⟨_, _ | _⟩ <;> simp_all
    exact .inl nofun
  obtain ⟨t, hState, hMode⟩ := socket_in_mode (TcpSite.alone_lawful _) rfl (patient_keeps none)
    (blank_sound 1) rfl hOpened life timely fun w w' hMem => by simp [events] at hMem
  obtain ⟨t', hState', hKnown⟩ := Option.map_eq_some_iff.1 (show (site.state? 0 w₂.env).map
    (fun t => (t.connecting, t.clientSocket?)) = some (false, some 1) by decide +kernel)
  obtain rfl : t = t' := Option.some.inj (hState.symm.trans hState')
  obtain ⟨hRests, hSocket⟩ := Prod.mk.inj hKnown
  have hBlocking : (w₂.channel 0).blocking = false := by decide +kernel
  have hSame := hMode hRests 1 hSocket
  rw [hBlocking] at hSame
  exact ⟨_, t, life, hState, hRests, hSocket, hBlocking, hSame⟩

/-- A mode that is chosen while a connecting channel belongs to no event loop is not that of the
socket when the connection stands. -/
theorem mode_lost :
    let site := TcpSite.alone (.patient none)
    let s := site.surroundings
    let w₀ := World.started none 2
    let w₁ := ((Step.hold 0 .cut).run s w₀).2
    let w₂ := ((Step.hold 0 (.setBlocking false)).run s w₁).2
    let w₃ := ((Step.hold 0 (.splice 1)).run s w₂).2
    let w₄ := site.worked 0 (·.fire site.system .writing (.connecting 0 1)) w₃
    ∃ own t, site.Life s 0 w₀ (Tenure.none.since (World.blank 2).loops w₀.loops)
        [.made (.hold 0 .cut) w₀, .made (.hold 0 (.setBlocking false)) w₁,
          .made (.hold 0 (.splice 1)) w₂, .fired (.connecting 0 1) .writing w₃] own w₄ ∧
      site.state? 0 w₄.env = some t ∧ t.connecting = false ∧ t.clientSocket? = some 1 ∧
      (w₄.channel 0).blocking = false ∧ site.net w₄.env 1 = false := by
  intro site s w₀ w₁ w₂ w₃ w₄
  have hClient : (site.state? 0 w₃.env).map (·.server) = some false := by decide +kernel
  have life₀ : site.Life s 0 w₀ (Tenure.none.since (World.blank 2).loops w₀.loops) [] _ w₀ := .refl
  have life₁ := life₀.made (.hold 0 .cut) (.inl rfl)
  have life₂ := life₁.made (.hold 0 (.setBlocking false)) (.inl rfl)
  have life₃ := life₂.made (.hold 0 (.splice 1)) (.inl rfl)
  have life₄ := life₃.fired (.connecting 0 1) .writing rfl (TcpSite.suits_connecting hClient 1)
  obtain ⟨t, hState, hKnown⟩ := Option.map_eq_some_iff.1 (show (site.state? 0 w₄.env).map
    (fun t => (t.connecting, t.clientSocket?)) = some (false, some 1) by decide +kernel)
  obtain ⟨hRests, hSocket⟩ := Prod.mk.inj hKnown
  exact ⟨_, t, life₄, hState, hRests, hSocket, by decide +kernel, by decide +kernel⟩

end EventChannel
