import EventChannel.Proofs.Tcp.Opening

/-! A stream channel leaves its event loop and joins another one. In between it belongs to none, and
then nothing of it is registered, as long as its driver is not told of conditions to wait for: those
are registered with the loop that it has left, where they stay. -/

namespace EventChannel

variable {σ ν : Type}

/-- Where a call leaves the channel, if it moves it. -/
def DriverCall.place? : DriverCall → Option (Option LoopId)
  | cut => some none
  | splice loop => some (some loop)
  | _ => none

/-- The event loop that a channel is in after some calls, if it is in one. -/
def lastPlace (earlier : Option LoopId) (calls : List DriverEvent) : Option LoopId :=
  calls.foldl (fun place e => e.call.place?.getD place) earlier

/-- What may be asked of a driver that is in an event loop, or in none. It joins one only when it is
in none, and then it is not told of conditions to wait for, unless it is that of a server. -/
def DriverCall.Befits (server : Bool) (place : Option LoopId) : DriverCall → Prop
  | splice _ => place = none
  | watch mask => mask.isEmpty = true ∨ place ≠ none ∨ server = true
  | _ => True

/-- All calls are such as befit the driver where it is. -/
def HandsOver (server : Bool) : Option LoopId → List DriverEvent → Prop
  | _, [] => True
  | place, e :: rest =>
    e.call.Befits server place ∧ HandsOver server (e.call.place?.getD place) rest

theorem HandsOver.befits {server : Bool} {place : Option LoopId} {first rest : List DriverEvent}
    {e : DriverEvent} (handsOver : HandsOver server place (first ++ e :: rest)) :
    e.call.Befits server (lastPlace place first) := by
  induction first generalizing place with
  | nil => exact handsOver.1
  | cons d first ih => exact ih handsOver.2

/-- Where a channel is, and whether it has been closed. -/
structure Whereabouts where
  place : Option LoopId
  shut : Bool := false

namespace Whereabouts

def next (x : Whereabouts) (e : DriverEvent) : Whereabouts where
  place := e.call.place?.getD x.place
  shut := x.shut || e.call = .close

theorem foldl_next (x : Whereabouts) (calls : List DriverEvent) :
    calls.foldl next x = ⟨lastPlace x.place calls, x.shut || closesDriver calls⟩ := by
  induction calls generalizing x with
  | nil => simp [lastPlace, closesDriver]
  | cons e rest ih => simp [ih, next, lastPlace, closesDriver, Bool.or_assoc]

theorem next_of_plain (x : Whereabouts) {e : DriverEvent} (hPlain : e.call.isPlain = true) :
    x.next e = x := by
  obtain ⟨call, answer⟩ := e
  cases call with
  | close | setBlocking | watch | cut | splice => cases hPlain
  | _ => simp [next, DriverCall.place?]

end Whereabouts

namespace TcpHeld

variable {system : StreamSystem ν} {id : ChannelId} {n : Nat} {b : Books} {h : TcpHeld ν}

/-- Nothing is registered that is not noted, and nothing where the channel is in no event loop or
closed. -/
structure Placed (n : Nat) (b : Books) (server : Bool) (x : Whereabouts) (h : TcpHeld ν) :
    Prop where
  kind : h.state.server = server
  accounts : h.Accounts n b
  pending : h.state.connectPending = true → h.state.connecting = true
  away : x.place = none → h.state.registered = [] ∧ h.state.connectPending = false
  home : ∀ loop, x.place = some loop → h.state.loop = loop
  closed : x.shut = true → h.state.registered = [] ∧ h.state.connecting = false ∧
    h.state.attempt? = none ∧ h.state.sockets = []

variable {server : Bool} {x : Whereabouts}

namespace Placed

theorem of_net (placed : h.Placed n b server x) (net : ν) :
    Placed n b server x { h with net } :=
  { placed with accounts := placed.accounts.of_kept rfl rfl rfl }

/-- The books are brought up to date. -/
theorem entered (placed : h.Placed n b server x) :
    Placed n (h.books n b) server x { state := h.state, net := h.net } :=
  { placed with accounts := placed.accounts }

theorem idle (placed : h.Placed n b server x) (hRests : h.state.connecting = false) :
    h.state.connectPending = false := by
  refine Bool.eq_false_iff.2 fun hPending => ?_
  cases hRests.symm.trans (placed.pending hPending)

/-- A closed channel has no socket. -/
theorem socketless (placed : h.Placed n b server x) (hShut : x.shut = true) :
    h.state.clientSocket? = none := by
  obtain ⟨-, -, hAttempt, hSockets⟩ := placed.closed hShut
  simp [TcpState.clientSocket?, hAttempt, hSockets]

/-- A channel that is told to wait for conditions is in an event loop, or a server. -/
theorem watch (placed : h.Placed n b server x) (mask : Interest)
    (hQuiet : mask.isEmpty = true ∨ x.place ≠ none ∨ server = true) :
    (h.watch id mask).Placed n b server x := by
  obtain ⟨-, hState⟩ := watch_frame id mask h
  refine ⟨?_, placed.accounts.watch id mask, fun hPending => ?_, fun hAway => ⟨?_, ?_⟩,
    fun loop hHome => ?_, fun hShut => ?_⟩
  · rw [hState]
    exact placed.kind
  · rw [hState] at hPending ⊢
    exact placed.pending hPending
  · refine watch_registered (placed.away hAway).1 ?_
    obtain hEmpty | hPlaced | hServer := hQuiet
    · exact .inl hEmpty
    · exact absurd hAway hPlaced
    · exact .inr (.inr (placed.kind.trans hServer))
  · rw [hState]
    exact (placed.away hAway).2
  · rw [hState]
    exact placed.home loop hHome
  · refine ⟨watch_registered (placed.closed hShut).1 (.inr (.inl (placed.socketless hShut))), ?_⟩
    rw [hState]
    exact (placed.closed hShut).2

/-- What is done to a channel that waits for its connection in an event loop, and that stays
there. -/
theorem of_pending {g : TcpHeld ν} (placed : h.Placed n b server x)
    (hPending : h.state.connectPending = true) (accounts : g.Accounts n b)
    (hServer : g.state.server = h.state.server) (hLoop : g.state.loop = h.state.loop)
    (pending : g.state.connectPending = true → g.state.connecting = true) :
    g.Placed n b server x where
  kind := hServer.trans placed.kind
  accounts := accounts
  pending := pending
  away hAway := by cases hPending.symm.trans (placed.away hAway).2
  home loop hHome := hLoop.trans (placed.home loop hHome)
  closed hShut := by
    cases (placed.pending hPending).symm.trans (placed.closed hShut).2.1

/-- A connection that goes on stays in its event loop. -/
theorem continueConnect (placed : h.Placed n b server x) :
    (h.continueConnect system id).Placed n b server x := by
  by_cases hPending : h.state.connectPending = true
  · obtain ⟨-, hState⟩ := h.released_keeps
    have hConnecting := placed.pending hPending
    have hReleased := placed.accounts.released
    cases hAttempt : h.state.attempt? with
    | none =>
      rw [continueConnect_lone hPending hAttempt]
      refine placed.of_pending hPending hReleased ?_ ?_ fun hStill => ?_
      · rw [hState]
      · rw [hState]
      · rw [hState]
        exact hConnecting
    | some a =>
      rcases hResume : a.resume system.toSocketSystem h.net with ⟨a', net⟩
      have accounts : (h.released.resumed a' net).Accounts n b := hReleased.of_kept rfl rfl rfl
      have hResumed := h.resumed_frame a' net
      have hEnds (error? : Option SystemError) :
          ((h.released.resumed a' net).finishConnect system id error?).Placed n b server x := by
        have hFrame : ((h.released.resumed a' net).finishConnect system id error?).state = _ :=
          finishConnect_frame id error? (h.released.resumed a' net)
        refine placed.of_pending hPending (accounts.finishConnect id error?) ?_ ?_ fun hStill => ?_
        · rw [hFrame]
          exact (congrArg TcpState.server hResumed).trans rfl
        · rw [hFrame]
          exact (congrArg TcpState.loop hResumed).trans rfl
        · rw [hFrame] at hStill
          cases hStill.symm.trans ((congrArg TcpState.connectPending hResumed).trans rfl)
      rw [continueConnect_resumed hPending hAttempt hResume]
      split
      · have hFrame := (registerConnect_frame id (h.released.resumed a' net)).2
        refine placed.of_pending hPending (accounts.registerConnect id) ?_ ?_ fun _ => ?_ <;>
          rw [hFrame, hResumed]
        exact hConnecting
      · exact hEnds none
      · exact hEnds _
  · rw [continueConnect_idle (Bool.eq_false_iff.2 hPending)]
    exact placed

theorem stays : Stays system id (Placed n b server x) where
  call _ _ placed := placed.of_net _
  ask _ _ placed := placed.of_net _
  told placed := { placed with accounts := placed.accounts.of_kept rfl rfl rfl }
  goesOn placed := placed.continueConnect

theorem setBlocking (placed : h.Placed n b server x) (on : Bool) :
    (h.setBlocking system on).2.Placed n b server x := by
  have hNoted : (h.update ({ · with nonblocking := !on })).Placed n b server x :=
    { placed with accounts := placed.accounts.of_kept rfl rfl rfl }
  unfold TcpHeld.setBlocking
  dsimp only
  split
  · exact { hNoted with accounts := hNoted.accounts.of_kept rfl rfl rfl }
  split
  · exact hNoted
  split
  · exact hNoted
  · exact hNoted.of_net _

/-- Leaving the event loop takes out all that is registered. -/
theorem cut (placed : h.Placed n b server x) :
    h.cut.Placed n b server { x with place := none } where
  kind := placed.kind
  accounts := .of_empty placed.accounts.unregisterAll
  pending hPending := by
    have hStill : (if h.state.connecting then false else h.state.connectPending) = true := hPending
    split at hStill
    · cases hStill
    · exact placed.pending hStill
  away _ := by
    refine ⟨rfl, ?_⟩
    show (if h.state.connecting then false else h.state.connectPending) = false
    split
    · rfl
    · next hRests => exact placed.idle (Bool.eq_false_iff.2 hRests)
  home _ hHome := nomatch hHome
  closed hShut := ⟨rfl, (placed.closed hShut).2⟩

/-- A channel in an event loop waits there for its connection. -/
theorem registerConnect (placed : h.Placed n b server x) (hPlaced : x.place ≠ none)
    (hConnecting : h.state.connecting = true) : (h.registerConnect id).Placed n b server x := by
  obtain ⟨-, hState⟩ := registerConnect_frame id h
  refine ⟨?_, placed.accounts.registerConnect id, fun _ => ?_, fun hAway => absurd hAway hPlaced,
    fun loop hHome => ?_, fun hShut => ?_⟩
  · rw [hState]
    exact placed.kind
  · rw [hState]
    exact hConnecting
  · rw [hState]
    exact placed.home loop hHome
  · cases hConnecting.symm.trans (placed.closed hShut).2.1

/-- A channel in an event loop waits there for connections to accept. -/
theorem registerAccept (placed : h.Placed n b server x) (hPlaced : x.place ≠ none) :
    (h.registerAccept id).Placed n b server x := by
  obtain ⟨-, hState⟩ := registerAccept_frame id h
  refine ⟨?_, placed.accounts.registerAccept id, fun hPending => ?_,
    fun hAway => absurd hAway hPlaced, fun loop hHome => ?_, fun hShut => ?_⟩
  · rw [hState]
    exact placed.kind
  · rw [hState] at hPending ⊢
    exact placed.pending hPending
  · rw [hState]
    exact placed.home loop hHome
  · obtain ⟨hNone, hRests, hAttempt, hSockets⟩ := placed.closed hShut
    refine ⟨?_, ?_⟩
    · simp [TcpHeld.registerAccept, hSockets, hNone]
    · rw [hState]
      exact ⟨hRests, hAttempt, hSockets⟩

/-- A channel that belongs to no event loop joins one. -/
theorem splice (placed : h.Placed n b server x) (hAway : x.place = none) (loop : LoopId) :
    (h.splice id loop).Placed n b server { x with place := some loop } := by
  have joined : (h.update ({ · with loop })).Placed n b server { x with place := some loop } :=
    { placed with
      accounts := .of_empty (placed.accounts.empty (placed.away hAway).1)
      away := nofun
      home := fun l hHome => Option.some.inj hHome }
  unfold TcpHeld.splice
  dsimp only
  split
  · exact joined.registerAccept nofun
  split
  · next hConnecting => exact joined.registerConnect nofun hConnecting
  · exact joined

/-- Closing takes out all that is registered. -/
theorem close (placed : h.Placed n b server x) :
    (h.close system).Placed n b server { x with shut := true } where
  kind := placed.kind
  accounts := .of_empty placed.accounts.unregisterAll
  pending := nofun
  away _ := ⟨rfl, rfl⟩
  home loop hHome := placed.home loop hHome
  closed _ := ⟨rfl, rfl, rfl, rfl⟩

theorem perform (placed : h.Placed n b server x) (call : DriverCall)
    (befits : call.Befits server x.place) (answer : call.Answer) :
    (TcpHeld.perform system id call h).2.Placed n b server (x.next ⟨call, answer⟩) := by
  cases call with
  | close =>
    rw [show x.next ⟨.close, answer⟩ = { x with shut := true } by
      simp [Whereabouts.next, DriverCall.place?]]
    exact placed.close
  | setBlocking on =>
    rw [show x.next ⟨.setBlocking on, answer⟩ = x by simp [Whereabouts.next, DriverCall.place?]]
    exact placed.setBlocking on
  | watch mask =>
    rw [show x.next ⟨.watch mask, answer⟩ = x by simp [Whereabouts.next, DriverCall.place?]]
    exact placed.watch mask befits
  | cut =>
    rw [show x.next ⟨.cut, answer⟩ = { x with place := none } by
      simp [Whereabouts.next, DriverCall.place?]]
    exact placed.cut
  | splice loop =>
    rw [show x.next ⟨.splice loop, answer⟩ = { x with place := some loop } by
      simp [Whereabouts.next, DriverCall.place?]]
    exact placed.splice befits loop
  | _ =>
    rw [x.next_of_plain rfl]
    exact stays.perform _ rfl placed

theorem fire (placed : h.Placed n b server x) (ready : Interest) {handler : FileHandler}
    (hOwn : handler.channel? = some id) : (h.fire system ready handler).Placed n b server x := by
  by_cases hAccepts : ∃ epoch index, handler = .accepting id epoch index
  · obtain ⟨epoch, index, rfl⟩ := hAccepts
    show (TcpSite.takeConnection system epoch index h).2.Placed n b server x
    unfold TcpSite.takeConnection
    split
    · exact placed
    split
    · exact placed
    · next listener _ =>
      have hTaken := placed.of_net (system.stream (.accept listener) h.net).2
      rw [TcpHeld.call]
      generalize system.stream (.accept listener) h.net = r at hTaken ⊢
      obtain ⟨e | ⟨socket, peer⟩, net⟩ := r
      · exact hTaken
      · exact hTaken
  · exact stays.fire ready hOwn (fun epoch index hSame => hAccepts ⟨epoch, index, hSame⟩) placed

end Placed

end TcpHeld

/-- Nothing of a channel is registered but where it is. -/
def placement (ν : Type) (server : Bool) : Regime ν Whereabouts where
  holds x n t net b := TcpHeld.Placed n b server x { state := t, net }
  next := Whereabouts.next
  admits x _ call := call.Befits server x.place
  calm _ _ _ := True

theorem placement_upheld (system : StreamSystem ν) (id : ChannelId) (server : Bool) :
    (placement ν server).Upheld system id where
  passedOn placed := { placed with accounts := placed.accounts.of_kept rfl rfl rfl }
  around _ _ placed := { placed with accounts := placed.accounts.of_kept rfl rfl rfl }
  performed call befits placed := (placed.perform call befits _).entered
  fired _ ready hOwn _ placed := (placed.fire ready hOwn).entered

/-- Servers are those that listen. -/
def Origin.isServer : Origin → Bool
  | listening _ _ _ => true
  | attempt _ _ | accepted _ | socket _ _ _ => false

theorem placement_begins {system : StreamSystem ν} {id : ChannelId} {n : Nat} {net : ν}
    {origin : Origin} {h : TcpHeld ν} (yields : origin.Yields system id net h) :
    (placement ν origin.isServer).holds ⟨some origin.loop, false⟩ n h.state h.net
      (h.books n .empty) := by
  have hFresh (t : TcpState) (hNone : t.registered = []) (hIdle : t.connectPending = false)
      (net : ν) : TcpHeld.Placed n .empty t.server ⟨some t.loop, false⟩ { state := t, net } :=
    { kind := rfl
      accounts := .of_empty rfl
      pending := fun hPending => by cases hIdle.symm.trans hPending
      away := nofun
      home := fun loop hHome => Option.some.inj hHome
      closed := nofun }
  cases yields with
  | pending => exact ((hFresh _ rfl rfl _).registerConnect nofun rfl).entered
  | @connected transport _ _ _ socket =>
    exact hFresh { loop := transport.loop, testMode := transport.testMode, sockets := [socket] }
      rfl rfl _
  | accepted a => exact hFresh { loop := a.loop, sockets := [a.socket] } rfl rfl _
  | socket loop socket => exact hFresh { loop, sockets := [socket] } rfl rfl _
  | listening => exact ((hFresh _ rfl rfl _).registerAccept nofun).entered

/-- However a channel is used and called back, as long as it joins an event loop only after it has
left the one before, and its driver is not told of conditions to wait for in between (that of a
server may be): what is registered of it is registered where it is, so nothing in between; and
nothing once it is closed. -/
theorem registered_in_place {site : TcpSite σ ν} {s : Surroundings σ} {w w₀ w₁ : World σ}
    {id : ChannelId} {callee : (c : Call) → World σ → Option (c.Answer × World σ)}
    {origin : Origin} {own : Tenure} {events : List (StreamEvent σ)} (lawful : site.Lawful)
    (hDriver : s.driver id = site.driver id) (sound : ∀ loop, (w.loops.get loop).Sound)
    (hOpened : (origin.opening site).run s callee w = some (.ok id, w₀))
    (life : site.Life s id w₀ (Tenure.none.since w.loops w₀.loops) events own w₁)
    (handsOver : HandsOver origin.isServer (some origin.loop) (driverCalls s id events)) :
    (∀ loop fd mask, w₁.loops.Registers own loop fd mask →
      lastPlace (some origin.loop) (driverCalls s id events) = some loop) ∧
    ((w₁.channel id).isOpen = false → ∀ loop fd mask, ¬w₁.loops.Registers own loop fd mask) := by
  let r := placement ν origin.isServer
  have hAfter (calls : List DriverEvent) : r.after ⟨some origin.loop, false⟩ calls =
      ⟨lastPlace (some origin.loop) calls, closesDriver calls⟩ :=
    (Whereabouts.foldl_next _ calls).trans (by rw [Bool.false_or])
  have permits : r.Permits site s id ⟨some origin.loop, false⟩ events := by
    refine .of_calls fun before e after hCalls t => ?_
    rw [hAfter]
    exact (hCalls ▸ handsOver).befits
  obtain ⟨h₀, -, born⟩ := Origin.born lawful hDriver origin hOpened
  obtain ⟨t, b, hState, tracks, placed⟩ := (placement_upheld site.system id origin.isServer).lives
    origin lawful hDriver sound hOpened (fun h yields => placement_begins yields) life permits
    fun _ _ _ _ _ => trivial
  rw [show (placement ν origin.isServer).after ⟨some origin.loop, false⟩ _ = _ from hAfter _]
    at placed
  have hNoted (loop fd mask) (hRegistered : w₁.loops.Registers own loop fd mask) :
      loop = t.loop ∧ t.registered ≠ [] := by
    obtain ⟨hLoop, hMem⟩ := placed.accounts loop fd fun hNone => by
      cases hNone.symm.trans ((tracks.registers loop fd mask).1 hRegistered)
    exact ⟨hLoop, List.ne_nil_of_mem hMem⟩
  constructor
  · intro loop fd mask hRegistered
    obtain ⟨rfl, hSome⟩ := hNoted loop fd mask hRegistered
    cases hPlace : lastPlace (some origin.loop) (driverCalls s id events) with
    | none => exact absurd (placed.away hPlace).1 hSome
    | some home => rw [show t.loop = home from placed.home home hPlace]
  · intro hClosed loop fd mask hRegistered
    obtain ⟨-, hOpen⟩ := life.agrees born.made
    rw [born.isOpen, Bool.true_and] at hOpen
    have hShut : closesDriver (driverCalls s id events) = true := by
      rw [hOpen, Bool.not_eq_false'] at hClosed
      exact hClosed
    exact (hNoted loop fd mask hRegistered).2 (placed.closed hShut).1

/-- A channel that connects is handed over. -/
theorem registered_in_place_moved :
    let site := TcpSite.alone (.patient none)
    let s := site.surroundings
    let w₀ := World.started none 2
    let w₁ := ((Step.hold 0 .cut).run s w₀).2
    let w₂ := ((Step.hold 0 (.splice 1)).run s w₁).2
    ∃ own, site.Life s 0 w₀ (Tenure.none.since (World.blank 2).loops w₀.loops)
        [.made (.hold 0 .cut) w₀, .made (.hold 0 (.splice 1)) w₁] own w₂ ∧
      w₂.loops.Registers own 1 1 (.writing ∪ .trouble) ∧
      ∀ loop fd mask, w₂.loops.Registers own loop fd mask → loop = 1 := by
  intro site s w₀ w₁ w₂
  let events : List (StreamEvent _) :=
    [.made (.hold 0 .cut) w₀, .made (.hold 0 (.splice 1)) w₁]
  have life₀ : site.Life s 0 w₀ (Tenure.none.since (World.blank 2).loops w₀.loops) [] _ w₀ := .refl
  have life : site.Life s 0 w₀ _ events _ w₂ :=
    (life₀.made (.hold 0 .cut) (.inl rfl)).made (.hold 0 (.splice 1)) (.inl rfl)
  have hOpened : ((Origin.attempt { loop := 0 } .single).opening site).run s (fun _ _ => none)
      (.blank 2) = some (.ok 0, w₀) := run_started none 2
  have handsOver : HandsOver false (some 0)
      [⟨.cut, ()⟩, ⟨.splice 1, ()⟩, ⟨.watch .none, ()⟩] := ⟨trivial, rfl, .inl rfl, trivial⟩
  obtain ⟨hPlace, -⟩ :=
    registered_in_place (TcpSite.alone_lawful _) rfl (blank_sound 2) hOpened life handsOver
  refine ⟨_, life, ⟨⟨1, .writing ∪ .trouble, 1, some (.connecting 0 1)⟩, by decide +kernel,
    .inr ⟨by decide +kernel, by decide +kernel⟩, rfl, rfl⟩, fun loop fd mask hRegistered => ?_⟩
  have hHere : lastPlace (some 0) (driverCalls s 0 events) = some 1 := by decide +kernel
  exact (Option.some.inj (hHere.symm.trans (hPlace loop fd mask hRegistered))).symm

/-- A handler that a connecting channel is given between the two halves of the hand-over is
registered with the loop that the channel has left, and stays there when it has joined the other and
when it is closed. -/
theorem registration_left_behind :
    let site := TcpSite.alone (.patient none)
    let s := site.surroundings
    let opening := (Origin.attempt { loop := 0 } .single).opening site
    let made := ChannelOp.createHandler .reading (.routine 0)
    let w₀ := World.started none 2
    let w₁ := ((Step.hold 0 .cut).run s w₀).2
    let w₂ := ((Step.hold 0 made).run s w₁).2
    let w₃ := ((Step.hold 0 (.splice 1)).run s w₂).2
    let w₄ := ((Step.hold 0 .shut).run s w₃).2
    let held := Tenure.none.since (World.blank 2).loops w₀.loops
    let window := [.made (.hold 0 .cut) w₀, .made (.hold 0 made) w₁]
    let moved := window ++ [.made (.hold 0 (.splice 1)) w₂]
    opening.run s (fun _ _ => none) (.blank 2) = some (.ok 0, w₀) ∧
      ∃ own₂ own₃ own₄, site.Life s 0 w₀ held window own₂ w₂ ∧
        site.Life s 0 w₀ held moved own₃ w₃ ∧
        site.Life s 0 w₀ held (moved ++ [.made (.hold 0 .shut) w₃]) own₄ w₄ ∧
        lastPlace (some 0) (driverCalls s 0 window) = none ∧
        w₂.loops.Registers own₂ 0 1 .reading ∧
        lastPlace (some 0) (driverCalls s 0 moved) = some 1 ∧
        w₃.loops.Registers own₃ 0 1 .reading ∧
        (w₄.channel 0).isOpen = false ∧ w₄.loops.Registers own₄ 0 1 .reading := by
  intro site s opening made w₀ w₁ w₂ w₃ w₄ held window moved
  have life₀ : site.Life s 0 w₀ held [] held w₀ := .refl
  have life₂ := (life₀.made (.hold 0 .cut) (.inl rfl)).made (.hold 0 made) (.inl rfl)
  have life₃ := life₂.made (.hold 0 (.splice 1)) (.inl rfl)
  refine ⟨run_started none 2, _, _, _, life₂, life₃, life₃.made (.hold 0 .shut) (.inl rfl),
    by decide +kernel, ?_, by decide +kernel, ?_, by decide +kernel, ?_⟩
  · exact ⟨⟨1, .reading, 2, some (.traffic 0 1)⟩, by decide +kernel,
      .inr ⟨by decide +kernel, by decide +kernel⟩, rfl, rfl⟩
  · exact ⟨⟨1, .reading, 2, some (.traffic 0 1)⟩, by decide +kernel,
      .inl (.inr ⟨by decide +kernel, by decide +kernel⟩), rfl, rfl⟩
  · exact ⟨⟨1, .reading, 2, some (.traffic 0 1)⟩, by decide +kernel,
      .inl (.inl (.inr ⟨by decide +kernel, by decide +kernel⟩)), rfl, rfl⟩

end EventChannel
