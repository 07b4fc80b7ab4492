import EventChannel.Proofs.Connect.Course
import EventChannel.Proofs.Tcp.Life

/-! A stream channel comes into being with a state and the first registrations: for an attempt to
connect, for a connection that a server has accepted, for a socket that is there already, or for
sockets that listen. What holds then is what its life begins with. -/

namespace EventChannel

variable {σ ν α : Type}

namespace TcpSite

/-- Starts an attempt and makes a channel of it, unless it fails at once. -/
def openAttempt (site : TcpSite σ ν) (transport : Transport) (attempt : ConnectAttempt) :
    Program σ (Except Report ChannelId) := do
  let attempt ← site.onNet (attempt.start site.system.toSocketSystem)
  site.channelOfAttempt transport attempt

/-- Connecting to a host is an attempt, once its addresses are known. -/
theorem openClient_attempt (site : TcpSite σ ν) (transport : Transport) (plan : ClientPlan)
    {attempt : ConnectAttempt}
    (hResolved : (ConnectAttempt.resolve (NameService.ofTable transport.names) plan ()).1 =
      .ok attempt) :
    site.openClient transport plan = site.openAttempt transport attempt := by
  rw [openClient, hResolved]
  rfl

/-- Makes a channel of a new connection. -/
def openAccepted (site : TcpSite σ ν) (a : Accepted) : Program σ ChannelId := do
  let _ ← site.onNet (site.system.answer (.setNonblocking a.socket false))
  site.adopt a.loop a.socket .both

/-- A connection is welcomed by making a channel of it and handing that on. -/
theorem welcome_opens (site : TcpSite σ ν) (a : Accepted) :
    site.welcome a = (do
      let channel ← site.openAccepted a
      match a.target? with
      | none =>
        let _ ← Program.close channel
      | some (.routine r) =>
        Program.referring (.channel channel)
          (Program.invoke (.user (.arrival r channel a.peer.host.text a.peer.port)))
      | some (.record record) =>
        Program.referring (.record record)
          (Program.accept record channel a.peer.host.text a.peer.port)) := rfl

end TcpSite

/-- What a stream channel is made of. -/
inductive Origin
  | attempt (transport : Transport) (attempt : ConnectAttempt)
  | accepted (a : TcpSite.Accepted)
  | socket (loop : LoopId) (socket : Socket) (mode : Mode)
  | listening (transport : Transport) (plan : ServerPlan) (target : AcceptTarget)

namespace Origin

/-- Makes the channel. -/
def opening (site : TcpSite σ ν) : Origin → Program σ (Except Report ChannelId)
  | attempt transport a => site.openAttempt transport a
  | accepted a => do return .ok (← site.openAccepted a)
  | socket loop s mode => do return .ok (← site.adopt loop s mode)
  | listening transport plan target => site.openServer transport plan target

/-- The event loop that the channel begins in. -/
def loop : Origin → LoopId
  | attempt transport _ | listening transport _ _ => transport.loop
  | accepted a => a.loop
  | socket loop _ _ => loop

/-- The channel belongs to a connection that is made or has been accepted. -/
def isConnection : Origin → Bool
  | attempt _ _ | accepted _ => true
  | socket _ _ _ | listening _ _ _ => false

/-- What a channel may begin with. -/
inductive Yields (system : StreamSystem ν) (id : ChannelId) (net : ν) : Origin → TcpHeld ν → Prop
  | pending {transport : Transport} {a b : ConnectAttempt} {net' : ν}
      (hStart : a.start system.toSocketSystem net = (b, net')) (hOutcome : b.outcome = .pending) :
      Yields system id net (attempt transport a)
        (TcpHeld.registerConnect id
          { state := { loop := transport.loop, testMode := transport.testMode, connecting := true
                       attempt? := some b }
            net := net' })
  | connected {transport : Transport} {a b : ConnectAttempt} {net' : ν} {s : Socket}
      (hStart : a.start system.toSocketSystem net = (b, net')) (hSocket : b.socket? = some s)
      (hMode : (system.answer (.setNonblocking s false) net').1 = .ok ()) :
      Yields system id net (attempt transport a)
        { state := { loop := transport.loop, testMode := transport.testMode, sockets := [s] }
          net := system.after (.setNonblocking s false) net' }
  | accepted (a : TcpSite.Accepted) :
      Yields system id net (accepted a)
        { state := { loop := a.loop, sockets := [a.socket] }
          net := system.after (.minimumBuffers a.socket minimumBufferSize)
            (system.after (.setNonblocking a.socket false) net) }
  | socket (loop : LoopId) (s : Socket) (mode : Mode) :
      Yields system id net (socket loop s mode)
        { state := { loop, sockets := [s] }
          net := system.after (.minimumBuffers s minimumBufferSize) net }
  | listening {transport : Transport} {plan : ServerPlan} {target : AcceptTarget}
      {sockets : List Socket} {net' : ν} :
      Yields system id net (listening transport plan target)
        (TcpHeld.registerAccept id
          { state := { loop := transport.loop, server := true, sockets, accept? := some target }
            net := net' })

end Origin

namespace TcpSite

variable {site : TcpSite σ ν} {s : Surroundings σ} {w w' : World σ} {id : ChannelId}
  {callee : (c : Call) → World σ → Option (c.Answer × World σ)}

/-- A channel that has been made of a state at work, beside the event loops that there were. -/
structure Born (site : TcpSite σ ν) (ls : EventLoops) (id : ChannelId) (h : TcpHeld ν)
    (w' : World σ) : Prop where
  state : site.state? id w'.env = some { h.state with forward := .none }
  net : site.net w'.env = h.net
  loops : w'.loops = ls.applyAll h.commands
  made : id < w'.channels.length
  isOpen : (w'.channel id).isOpen = true
  blocking : (w'.channel id).blocking = true

/-- A new driver does nothing on being told of its channel. -/
theorem driver_attach (lawful : site.Lawful) (id : ChannelId) (env : σ) :
    (site.driver id .attach env).commands = [] ∧
      site.net (site.driver id .attach env).env = site.net env := by
  rw [driver, tcpDriver]
  dsimp only
  split
  · exact ⟨rfl, by rw [net, lawful.get_noteAll, lawful.get_set]; rfl⟩
  · exact ⟨rfl, by rw [net, lawful.get_noteAll, lawful.get_set]; rfl⟩

theorem Lawful.net_set (lawful : site.Lawful) (tcp : TcpEnv ν) (env : σ) :
    site.net (site.set tcp env) = tcp.net := by
  rw [net, lawful.get_set]

/-- A new channel begins with what its state was prepared to. -/
theorem born_newChannel (lawful : site.Lawful) (hDriver : s.driver id = site.driver id)
    {mode : Mode} {t : TcpState} {prepare : ChannelId → TcpHeld ν → TcpHeld ν}
    (hQuiet : (prepare id { state := t, net := site.net w.env }).state.forward = .none)
    (hMade : (site.newChannel mode t prepare).run s callee w = some (id, w')) :
    site.Born w.loops id (prepare id { state := t, net := site.net w.env }) w' := by
  let c : Channel := { name := streamName (site.get w.env).made, type := "tcp", mode }
  let new := w.channels.length
  let opened := (w.openChannel s c).2
  let placed : World σ := { opened with
    env := site.set { (site.get opened.env).setState new t with made := (site.get w.env).made + 1 }
      opened.env }
  let f : TcpHeld ν → Unit × TcpHeld ν := fun h => ((), prepare new h)
  have hRun : (site.newChannel mode t prepare).run s callee w =
      ((site.work new f).run s callee placed).bind fun (_, w) => some (new, w) := by
    show (Program.bind (site.work new f) fun _ => .done new).run s callee placed = _
    rw [Program.run_bind]
    rfl
  obtain rfl : new = id := by
    rw [hRun] at hMade
    obtain ⟨_, -, hSame⟩ := Option.bind_eq_some_iff.1 hMade
    exact congrArg Prod.fst (Option.some.inj hSame)
  obtain ⟨hCommands, hNet⟩ := driver_attach lawful new w.env
  have hOpenedNet : site.net opened.env = site.net w.env := by
    show site.net (s.driver new .attach w.env).env = _
    rw [hDriver]
    exact hNet
  have hOpenedLoops : opened.loops = w.loops := by
    show w.loops.applyAll (s.driver new .attach w.env).commands = _
    rw [hDriver, hCommands]
    rfl
  have hState : site.state? new placed.env = some t := by
    show (site.get (site.set _ _)).state? new = some t
    rw [lawful.get_set]
    exact TcpEnv.state?_setState ..
  have hPlacedNet : site.net placed.env = site.net w.env := by
    rw [← hOpenedNet]
    exact lawful.net_set ..
  let h := prepare new { state := t, net := site.net w.env }
  have hSilent : (passOn new h.state.forward : Program σ Unit) = .done () := by
    rw [show h.state.forward = .none from hQuiet, passOn_none]
  have hWorld : w' = { placed with
      loops := (site.settle new h (placed.loops, placed.env)).1
      env := (site.settle new h (placed.loops, placed.env)).2 } := by
    rw [hRun, run_work site s callee f hState, hPlacedNet, hSilent, worked, hState,
      hPlacedNet] at hMade
    exact (congrArg Prod.snd (Option.some.inj hMade)).symm
  obtain ⟨deferred, hChannel⟩ := World.channel_openChannel s w c
  have hExists : new < opened.channels.length := by
    simp [opened, new, World.openChannel]
  rw [hWorld]
  exact {
    state := lawful.state?_settle new h _
    net := lawful.net_settle new h _
    loops := congrArg (·.applyAll h.commands) hOpenedLoops
    made := hExists
    isOpen := congrArg Channel.isOpen hChannel
    blocking := congrArg Channel.blocking hChannel }

end TcpSite

namespace Origin

variable {site : TcpSite σ ν} {s : Surroundings σ} {w w' : World σ} {id : ChannelId}
  {callee : (c : Call) → World σ → Option (c.Answer × World σ)}

/-- What a program does that works with the system first. -/
theorem run_onNet_bind {β : Type} (f : ν → α × ν) (next : α → Program σ β) (w : World σ) :
    (site.onNet f >>= next).run s callee w = (next (f (site.net w.env)).1).run s callee
      { w with env := site.set { site.get w.env with net := (f (site.net w.env)).2 } w.env } := rfl

/-- A program that answers with the channel that another one makes. -/
theorem run_made {p : Program σ ChannelId}
    (hRun : (do return (Except.ok (← p) : Except Report ChannelId)).run s callee w =
      some (.ok id, w')) : p.run s callee w = some (id, w') := by
  have hMap : (p.run s callee w).bind (fun (id, w) => some (Except.ok id, w)) =
      some ((.ok id : Except Report ChannelId), w') := (Program.run_bind ..).symm.trans hRun
  obtain ⟨⟨made, w''⟩, hMade, hSame⟩ := Option.bind_eq_some_iff.1 hMap
  obtain ⟨hId, rfl⟩ := Prod.mk.inj (Option.some.inj hSame)
  rw [hMade, Except.ok.inj hId]

variable (lawful : site.Lawful) (hDriver : s.driver id = site.driver id)

include lawful hDriver

theorem born_attempt {transport : Transport} {a : ConnectAttempt}
    (hOpened : (site.openAttempt transport a).run s callee w = some (.ok id, w')) :
    ∃ h, Yields site.system id (site.net w.env) (.attempt transport a) h ∧
      site.Born w.loops id h w' := by
  rw [TcpSite.openAttempt, run_onNet_bind] at hOpened
  rcases hStart : a.start site.system.toSocketSystem (site.net w.env) with ⟨b, net⟩
  rw [hStart, TcpSite.channelOfAttempt] at hOpened
  split at hOpened
  · cases hOpened
  · next hOutcome =>
    have hBorn := TcpSite.born_newChannel lawful hDriver
      (by rw [(TcpHeld.registerConnect_frame ..).2]) (run_made hOpened)
    rw [lawful.net_set] at hBorn
    exact ⟨_, .pending hStart hOutcome, hBorn⟩
  · split at hOpened
    · cases hOpened
    · next socket hSocket =>
      rw [run_onNet_bind, lawful.net_set] at hOpened
      dsimp only at hOpened
      split at hOpened
      · cases hOpened
      · next hMode =>
        have hBorn := TcpSite.born_newChannel lawful hDriver rfl (run_made hOpened)
        rw [lawful.net_set] at hBorn
        exact ⟨_, .connected hStart hSocket hMode, hBorn⟩

/-- A stream channel begins with what its origin yields. -/
theorem born (origin : Origin)
    (hOpened : (origin.opening site).run s callee w = some (.ok id, w')) :
    ∃ h, origin.Yields site.system id (site.net w.env) h ∧ site.Born w.loops id h w' := by
  cases origin with
  | attempt transport a => exact born_attempt lawful hDriver hOpened
  | accepted a =>
    have hMade := run_made hOpened
    rw [TcpSite.openAccepted, run_onNet_bind, TcpSite.adopt, run_onNet_bind,
      lawful.net_set] at hMade
    have hBorn := TcpSite.born_newChannel lawful hDriver rfl hMade
    rw [lawful.net_set] at hBorn
    exact ⟨_, .accepted a, hBorn⟩
  | socket loop sock mode =>
    have hMade := run_made hOpened
    rw [TcpSite.adopt, run_onNet_bind] at hMade
    have hBorn := TcpSite.born_newChannel lawful hDriver rfl hMade
    rw [lawful.net_set] at hBorn
    exact ⟨_, .socket loop sock mode, hBorn⟩
  | listening transport plan target =>
    rw [opening, TcpSite.openServer] at hOpened
    split at hOpened
    · cases hOpened
    · rw [run_onNet_bind] at hOpened
      split at hOpened
      · cases hOpened
      · have hBorn := TcpSite.born_newChannel lawful hDriver
          (by rw [(TcpHeld.registerAccept_frame ..).2]) (run_made hOpened)
        rw [lawful.net_set] at hBorn
        exact ⟨_, .listening, hBorn⟩

end Origin

/-- What a channel begins with is a fact about it, if the fact holds of what its origin yields; and
it stays one. -/
theorem Regime.Upheld.lives {ξ : Type} {r : Regime ν ξ} {site : TcpSite σ ν} {s : Surroundings σ}
    {w w₀ w' : World σ} {id : ChannelId} {x : ξ} {own : Tenure}
    {callee : (c : Call) → World σ → Option (c.Answer × World σ)} {events : List (StreamEvent σ)}
    (upheld : r.Upheld site.system id) (origin : Origin) (lawful : site.Lawful)
    (hDriver : s.driver id = site.driver id)
    (sound : ∀ loop, (w.loops.get loop).Sound)
    (hOpened : (origin.opening site).run s callee w = some (.ok id, w₀))
    (hBegins : ∀ h, origin.Yields site.system id (site.net w.env) h →
      r.holds x w.loops.length h.state h.net (h.books w.loops.length .empty))
    (life : site.Life s id w₀ (Tenure.none.since w.loops w₀.loops) events own w')
    (permits : r.Permits site s id x events) (calm : r.Calm site id events) :
    r.Current site id (r.after x (driverCalls s id events)) own (w'.loops, w'.env) := by
  obtain ⟨h, yields, born⟩ := origin.born lawful hDriver hOpened
  refine upheld.life lawful hDriver life ⟨_, h.books w.loops.length .empty, born.state, ?_, ?_⟩
    permits calm
  · show EventLoops.Tracks _ w₀.loops _
    rw [born.loops]
    exact (EventLoops.tracks_empty sound).applyAll h.commands
  · show r.holds x w₀.loops.length _ (site.net w₀.env) _
    rw [born.loops, EventLoops.length_applyAll, born.net]
    exact upheld.passedOn (hBegins h yields)

theorem writing_ne_none : Interest.writing ≠ .none := by decide

/-- A network with one socket, on which connecting takes its time and then comes out as it is told.
It keeps which sockets do not block. -/
def StreamSystem.patient (told? : Option SystemError) : StreamSystem (Socket → Bool) where
  answer
    | .create _, flags => (.ok 1, fun s => s != 1 && flags s)
    | .setNonblocking socket on, flags => (.ok (), fun s => if s = socket then on else flags s)
    | .connect _ _, flags => (.error (.number Errno.inProgress), flags)
    | .takeError _, flags => (.ok told?, flags)
    | .localAddress _, flags => (.ok { host := .anyV4, port := 1 }, flags)
    | .minimumBuffers _ _, flags | .close _, flags => ((), flags)
    | .setReuseAddress _ _, flags | .setReusePort _ _, flags | .setV6Only _ _, flags
    | .bind _ _, flags | .listen _ _, flags => (.ok (), flags)
  stream
    | .accept _, flags | .receive _ _, flags | .send _ _, flags =>
      (.error (.number Errno.again), flags)
    | .peek _, flags | .keepAlive _, flags | .noDelay _, flags => (.ok false, flags)
    | .shutdown _ _, flags | .setKeepAlive _ _, flags | .setNoDelay _ _, flags => (.ok (), flags)
    | .peerAddress _, flags => (.ok { host := .anyV4, port := 1 }, flags)
    | .poll _ mask, flags => (.ok mask, flags)
    | .await _ _, flags => (.ok ⟨.writing, writing_ne_none⟩, flags)
    | .hostName _, flags => (none, flags)

theorem patient_reserves (told? : Option SystemError) :
    (StreamSystem.patient told?).toSocketSystem.ReservesInProgress where
  create _ _ _ h := nomatch h
  setNonblocking _ _ _ h := nomatch h
  bind _ _ _ _ h := nomatch h

namespace TcpSite

/-- Stream channels alone. -/
def alone (system : StreamSystem ν) : TcpSite (TcpEnv ν) ν where
  system
  get tcp := tcp
  set tcp _ := tcp
  note _ tcp := tcp

theorem alone_lawful (system : StreamSystem ν) : (alone system).Lawful :=
  ⟨fun _ _ => rfl, fun _ _ => rfl⟩

/-- The handler that waits for a connection suits a client. -/
theorem suits_connecting {site : TcpSite σ ν} {id : ChannelId} {env : σ}
    (hClient : (site.state? id env).map (·.server) = some false) (epoch : Nat) (t : TcpState)
    (hState : site.state? id env = some t) : t.Suits (.connecting id epoch) := by
  rw [hState] at hClient
  exact Option.some.inj hClient

/-- All channels are stream channels. -/
def surroundings (site : TcpSite σ ν) : Surroundings σ where
  driver := site.driver
  ready _ _ := .none
  users _ _ := true

end TcpSite

/-- A world with so many event loops, and sockets that all block. -/
def World.blank (loops : Nat) : World (TcpEnv (Socket → Bool)) where
  loops := List.replicate loops {}
  env := { net := fun _ => false }

theorem blank_sound (loops : Nat) (loop : LoopId) :
    ((World.blank loops).loops.get loop).Sound := by
  have hEmpty : (World.blank loops).loops.get loop = {} := by
    simp only [World.blank, EventLoops.get, List.getElem?_replicate]
    split <;> rfl
  rw [hEmpty]
  exact .empty

/-- One address from one address, in the background. -/
def ConnectAttempt.single : ConnectAttempt where
  remote := [{ host := .v4 203 0 113 1, port := 80 }]
  locals := [{ host := .anyV4, port := 0 }]
  async := true

/-- That world when a channel has begun to connect. -/
def World.started (told? : Option SystemError) (loops : Nat) : World (TcpEnv (Socket → Bool)) :=
  let site := TcpSite.alone (.patient told?)
  ((site.openAttempt { loop := 0 } .single).run site.surroundings (fun _ _ => none)
    (.blank loops)).elim (.blank loops) (·.2)

theorem run_started (told? : Option SystemError) (loops : Nat) :
    ((TcpSite.alone (.patient told?)).openAttempt { loop := 0 } .single).run
      (TcpSite.alone (.patient told?)).surroundings (fun _ _ => none) (.blank loops) =
      some (.ok 0, .started told? loops) := rfl

end EventChannel
