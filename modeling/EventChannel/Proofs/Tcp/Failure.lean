import EventChannel.Proofs.Tcp.Verdict

/-! Whatever a client is asked while its connection is being made, it does not know an error yet.
When the connection has failed, by whichever way it came to be known, no transfer is made any more;
the first who asks for the error is told it, and after that only what the socket itself tells is
left. -/

namespace EventChannel

variable {σ ν : Type}

namespace TcpHeld

variable {system : StreamSystem ν} {id : ChannelId} {h h' : TcpHeld ν} {a : ConnectAttempt}
  {failed : Bool} {error? : Option SystemError}

/-- Neither an attempt nor what has come of it is touched. -/
structure SameAttempt (h h' : TcpHeld ν) : Prop where
  server : h'.state.server = h.state.server
  connecting : h'.state.connecting = h.state.connecting
  attempt : h'.state.attempt? = h.state.attempt?
  sockets : h'.state.sockets = h.state.sockets
  failed : h'.state.connectFailed = h.state.connectFailed
  error : h'.state.connectError? = h.state.connectError?
  pending : h'.state.connectPending = true →
    h.state.connectPending = true ∨ h.state.connecting = true

theorem SameAttempt.seeking (same : h.SameAttempt h') (seeking : h.Seeking a) : h'.Seeking a where
  client := same.server.trans seeking.client
  connecting := same.connecting.trans seeking.connecting
  attempt := same.attempt.trans seeking.attempt
  lone := same.sockets.trans seeking.lone
  unfailed := same.failed.trans seeking.unfailed

theorem SameAttempt.resolved (same : h.SameAttempt h') (resolved : h.Resolved failed error?) :
    h'.Resolved failed error? where
  client := same.server.trans resolved.client
  rests := same.connecting.trans resolved.rests
  idle := by
    refine Bool.eq_false_iff.2 fun hPending => ?_
    rcases same.pending hPending with hPending | hConnecting
    · cases hPending.symm.trans resolved.idle
    · cases hConnecting.symm.trans resolved.rests
  failed := same.failed.trans resolved.failed
  error := same.error.trans resolved.error

/-- The calls that choose the mode, the conditions or the event loop. -/
theorem perform_sameAttempt (hClient : h.state.server = false) {call : DriverCall}
    (hOther : call.isPlain = false) (hOpen : call ≠ .close) :
    h.SameAttempt (TcpHeld.perform system id call h).2 := by
  cases call with
  | close => exact absurd rfl hOpen
  | setBlocking on =>
    show h.SameAttempt (h.setBlocking system on).2
    unfold TcpHeld.setBlocking
    dsimp only
    split
    · exact ⟨rfl, rfl, rfl, rfl, rfl, rfl, .inl⟩
    split
    · exact ⟨rfl, rfl, rfl, rfl, rfl, rfl, .inl⟩
    split
    · exact ⟨rfl, rfl, rfl, rfl, rfl, rfl, .inl⟩
    · exact ⟨rfl, rfl, rfl, rfl, rfl, rfl, .inl⟩
  | watch mask =>
    obtain ⟨-, hState⟩ := watch_frame id mask h
    show h.SameAttempt (h.watch id mask)
    refine ⟨?_, ?_, ?_, ?_, ?_, ?_, fun hPending => .inl ?_⟩
    all_goals rw [hState] at *
    exact hPending
  | cut =>
    refine ⟨rfl, rfl, rfl, rfl, rfl, rfl, fun hPending => .inl ?_⟩
    have hStill : (if h.state.connecting then false else h.state.connectPending) = true := hPending
    split at hStill
    · cases hStill
    · exact hStill
  | splice loop =>
    show h.SameAttempt (h.splice id loop)
    unfold TcpHeld.splice
    dsimp only
    split
    · next hServer => cases hClient.symm.trans hServer
    split
    · next hConnecting =>
      obtain ⟨-, hState⟩ := registerConnect_frame id (h.update ({ · with loop }))
      refine ⟨?_, ?_, ?_, ?_, ?_, ?_, fun _ => .inr hConnecting⟩
      all_goals rw [hState]
      all_goals rfl
    · exact ⟨rfl, rfl, rfl, rfl, rfl, rfl, .inl⟩
  | _ => cases hOther

/-- The error that the socket itself tells. -/
def liveError (system : StreamSystem ν) (h : TcpHeld ν) : OptionValue :=
  match h.state.clientSocket? with
  | none => .empty
  | some socket =>
    match (system.answer (.takeError socket) h.net).1 with
    | .ok (some e) => .text e.message
    | .ok none => .empty
    | .error e => .text e.message

/-- What a client tells who asks for its error: the one that is still to be told, or that of the
socket. -/
def toldError (system : StreamSystem ν) (h : TcpHeld ν) : Option SystemError → OptionValue
  | some e => .text e.message
  | none => h.liveError system

/-- Asking for the error is looking how the connection stands, and then telling it. -/
theorem getOption_error (reverseDns : Bool) {name : String}
    (hName : matchOption name readableTcpOptions = some "error") :
    h.getOption system id reverseDns (some name) =
      let looked := (h.waitForConnect system id false).2
      (.ok [("-error", (looked.errorValue system).1)], (looked.errorValue system).2) := by
  simp only [getOption, hName, optionValue]
  rfl

/-- Asking whether the client is connecting is looking how the connection stands. -/
theorem getOption_connecting (reverseDns : Bool) {name : String}
    (hName : matchOption name readableTcpOptions = some "connecting") :
    h.getOption system id reverseDns (some name) =
      let looked := (h.waitForConnect system id false).2
      (.ok [("-connecting", .flag looked.state.connecting)], looked) := by
  simp only [getOption, hName, optionValue]
  rfl

/-- Nothing is told while the connection is being made. -/
theorem errorValue_connecting (hConnecting : h.state.connecting = true) :
    h.errorValue system = (.empty, h) := by
  rw [errorValue, if_pos hConnecting]

theorem errorValue_keeps :
    (h.errorValue system).2.state.connecting = h.state.connecting := by
  unfold TcpHeld.errorValue
  split
  · rfl
  split
  · rfl
  split
  · rfl
  · next socket _ =>
    rcases hAsked : system.answer (.takeError socket) h.net with ⟨e | _ | e, net⟩
    all_goals simp only [socketCall, hAsked]

theorem Resolved.errorValue (resolved : h.Resolved failed error?) :
    (h.errorValue system).1 = h.toldError system error? ∧
      (h.errorValue system).2.Resolved failed none := by
  rw [TcpHeld.errorValue, if_neg (by simp [resolved.rests]), resolved.error]
  cases error? with
  | some e => exact ⟨rfl, { resolved with error := rfl }⟩
  | none =>
    dsimp only
    rw [toldError, liveError]
    cases h.state.clientSocket? with
    | none => exact ⟨rfl, resolved⟩
    | some socket =>
      rcases hAsked : system.answer (.takeError socket) h.net with ⟨e | _ | e, net⟩
      all_goals simp only [socketCall, hAsked, true_and]
      all_goals exact { resolved with }

theorem input_failed {room : Nat} {e : SystemError}
    (hFailed : (h.waitForConnect system id true).1 = .error e) :
    h.input system id room = (.error ⟨e, none⟩, (h.waitForConnect system id true).2) := by
  rw [input, transferSocket]
  generalize h.waitForConnect system id true = r at hFailed ⊢
  obtain ⟨answer, h₁⟩ := r
  obtain rfl : answer = .error e := hFailed
  rfl

theorem output_failed {bytes : Bytes} {e : SystemError}
    (hFailed : (h.waitForConnect system id true).1 = .error e) :
    h.output system id bytes = (.error ⟨e, none⟩, (h.waitForConnect system id true).2) := by
  rw [output, transferSocket]
  generalize h.waitForConnect system id true = r at hFailed ⊢
  obtain ⟨answer, h₁⟩ := r
  obtain rfl : answer = .error e := hFailed
  rfl

/-- After a failure no transfer waits any more. -/
theorem Resolved.waitForConnect (resolved : h.Resolved true error?) :
    h.waitForConnect system id true = (.error notConnected, h) := by
  rw [TcpHeld.waitForConnect, if_pos (by simp [resolved.failed])]
  rfl

theorem Seeking.asks : Asks system (Seeking (ν := ν) a) where
  call _ _ seeking := { seeking with }
  ask _ _ seeking := { seeking with }

theorem Resolved.asks : Asks system (Resolved (ν := ν) failed error?) where
  call _ _ resolved := { resolved with }
  ask _ _ resolved := { resolved with }

theorem Resolved.proceeds : Proceeds system id (Resolved (ν := ν) failed error?) where
  toAsks := Resolved.asks
  goesOn resolved := by
    rw [continueConnect_idle resolved.idle]
    exact resolved

theorem Seeking.rested (seeking : h.Seeking a) : h.rested.Seeking a := { seeking with }

theorem Resolved.rested (resolved : h.Resolved failed error?) : h.rested.Resolved failed error? :=
  { resolved with }

/-- What is noted when an attempt has failed. -/
theorem Resolved.of_failed {b : ConnectAttempt} {e : SystemError}
    (resolved : h.Resolved b.outcome.error?.isSome b.outcome.error?)
    (hFailed : b.outcome = .failed e) : h.Resolved true (some e) := by
  rw [hFailed] at resolved
  exact resolved

/-- However a handler of a client that is connecting is called, the client seeks its connection or
knows what has come of it. -/
theorem Seeking.fire (seeking : h.Seeking a) (ready : Interest) {handler : FileHandler}
    (hOwn : handler.channel? = some id) (suits : h.state.Suits handler) :
    (h.fire system ready handler).Pursues (ConnectAttempt.Concludes system h.net a) := by
  cases handler with
  | routine r => cases hOwn
  | connecting other epoch =>
    rw [TcpHeld.fire]
    split
    · exact seeking.continueConnect.mono fun b hEnds => .told hEnds.1 hEnds.2
    · exact .seeking seeking
  | traffic other epoch => exact .seeking (Seeking.asks.trafficMask epoch ready seeking)
  | accepting other epoch index => cases seeking.client.symm.trans suits

/-- A client that is closed knows of no failure any more. -/
theorem close_resolved (hClient : h.state.server = false) :
    (h.close system).Resolved false h.state.connectError? where
  client := hClient
  rests := rfl
  idle := rfl
  failed := rfl
  error := rfl

end TcpHeld

namespace Turn

/-- The turn asks why there is no connection. -/
def asksError : Turn ν → Bool
  | called call => call.asksError
  | fired _ _ | around _ => false

/-- The error that is still to be told after a turn. -/
def untold (turn : Turn ν) (error? : Option SystemError) : Option SystemError :=
  if turn.asksError then none else error?

theorem untold_of_asks {call : DriverCall} (hAsks : call.asksError = true)
    (error? : Option SystemError) : (called (ν := ν) call).untold error? = none :=
  if_pos hAsks

theorem untold_of_other {call : DriverCall} (hOther : call.asksError = false)
    (error? : Option SystemError) : (called (ν := ν) call).untold error? = error? := by
  rw [untold, asksError, hOther]
  rfl

/-- A turn that transfers something learns that there is no connection, and does no more than to
wait for it. One that asks for the error is told so much. -/
structure Bars (system : StreamSystem ν) (id : ChannelId) (h : TcpHeld ν) (told : OptionValue)
    (turn : Turn ν) : Prop where
  input : ∀ room, turn = called (.input room) → h.input system id room =
    (.error ⟨.number Errno.notConnected, none⟩, (h.waitForConnect system id true).2)
  output : ∀ bytes, turn = called (.output bytes) → h.output system id bytes =
    (.error ⟨.number Errno.notConnected, none⟩, (h.waitForConnect system id true).2)
  error : ∀ reverseDns name, turn = called (.getOption reverseDns (some name)) →
    matchOption name readableTcpOptions = some "error" →
      (h.getOption system id reverseDns (some name)).1 = .ok [("-error", told)]

/-- A turn that leaves a connection being made. One that asks for the error is told of none, and one
that asks whether the client is connecting is told that it is. -/
structure Waits (system : StreamSystem ν) (id : ChannelId) (h : TcpHeld ν) (turn : Turn ν) :
    Prop where
  error : ∀ reverseDns name, turn = called (.getOption reverseDns (some name)) →
    matchOption name readableTcpOptions = some "error" →
      (h.getOption system id reverseDns (some name)).1 = .ok [("-error", .empty)]
  connecting : ∀ reverseDns name, turn = called (.getOption reverseDns (some name)) →
    matchOption name readableTcpOptions = some "connecting" →
      (h.getOption system id reverseDns (some name)).1 = .ok [("-connecting", .flag true)]

variable {system : StreamSystem ν} {id : ChannelId} {h : TcpHeld ν} {a : ConnectAttempt}
  {failed : Bool} {error? : Option SystemError} {told : OptionValue} {turn : Turn ν}

/-- What neither transfers nor asks for the error. -/
theorem Bars.of_other (hInput : ∀ room, turn ≠ called (.input room))
    (hOutput : ∀ bytes, turn ≠ called (.output bytes)) (hError : turn.asksError = false) :
    turn.Bars system id h told where
  input room hTurn := absurd hTurn (hInput room)
  output bytes hTurn := absurd hTurn (hOutput bytes)
  error reverseDns name hTurn hName := by
    rw [hTurn] at hError
    simp [asksError, DriverCall.asksError, hName] at hError

/-- What transfers something when the connection has failed while it waits for it. -/
theorem Bars.of_transfer {e : SystemError} (hConnecting : h.state.connecting = true)
    (resolved : (h.waitForConnect system id true).2.Resolved true (some e))
    (hError : turn.asksError = false) : turn.Bars system id h told where
  input room _ := TcpHeld.input_failed (TcpHeld.waitForConnect_failed hConnecting resolved)
  output bytes _ := TcpHeld.output_failed (TcpHeld.waitForConnect_failed hConnecting resolved)
  error reverseDns name hTurn hName := by
    rw [hTurn] at hError
    simp [asksError, DriverCall.asksError, hName] at hError

/-- Once the connection has failed no turn transfers anything. -/
theorem Bars.of_resolved (resolved : h.Resolved true error?) (turn : Turn ν) :
    turn.Bars system id h (h.toldError system error?) where
  input room _ := TcpHeld.input_failed (by rw [resolved.waitForConnect]; rfl)
  output bytes _ := TcpHeld.output_failed (by rw [resolved.waitForConnect]; rfl)
  error reverseDns name _ hName := by
    rw [TcpHeld.getOption_error reverseDns hName,
      TcpHeld.waitForConnect_idle resolved.idle]
    exact congrArg (fun value => Except.ok [("-error", value)]) resolved.errorValue.1

theorem Waits.of_connecting (hStill : (turn.made system id h).state.connecting = true) :
    turn.Waits system id h where
  error reverseDns name hTurn hName := by
    subst hTurn
    have hLooked : (h.waitForConnect system id false).2.state.connecting = true := by
      have hAfter : (h.getOption system id reverseDns (some name)).2.state.connecting = true :=
        hStill
      rwa [TcpHeld.getOption_error reverseDns hName, TcpHeld.errorValue_keeps] at hAfter
    rw [TcpHeld.getOption_error reverseDns hName]
    dsimp only
    rw [TcpHeld.errorValue_connecting hLooked]
  connecting reverseDns name hTurn hName := by
    subst hTurn
    have hAfter : (h.getOption system id reverseDns (some name)).2.state.connecting = true :=
      hStill
    rw [TcpHeld.getOption_connecting reverseDns hName] at hAfter ⊢
    exact congrArg (fun on => Except.ok [("-connecting", OptionValue.flag on)]) hAfter

end Turn

theorem DriverCall.of_asksError {call : DriverCall} (hAsks : call.asksError = true) :
    ∃ reverseDns name, call = .getOption reverseDns (some name) ∧
      matchOption name readableTcpOptions = some "error" := by
  cases call with
  | getOption reverseDns name? =>
    obtain _ | name := name?
    · cases hAsks
    · exact ⟨reverseDns, name, rfl, of_decide_eq_true hAsks⟩
  | _ => cases hAsks

namespace TcpHeld

variable {system : StreamSystem ν} {id : ChannelId} {h : TcpHeld ν} {a : ConnectAttempt}
  {failed : Bool} {error? : Option SystemError}

/-- A client that knows how its connection has come out does not forget it until it is closed, but
for the error, which is told once. -/
theorem Resolved.made (resolved : h.Resolved failed error?) (turn : Turn ν)
    (hSuits : turn.Suits id h) (hOpen : turn ≠ .called .close) :
    (turn.made system id h).Resolved failed (turn.untold error?) := by
  cases turn with
  | around net => exact { resolved with }
  | fired handler ready =>
    obtain ⟨hOwn, suits⟩ := hSuits
    exact (Resolved.proceeds.fire ready hOwn (suits.not_accepting resolved.client id)
      resolved).rested
  | called call =>
    by_cases hAsks : call.asksError = true
    · obtain ⟨reverseDns, name, rfl, hName⟩ := DriverCall.of_asksError hAsks
      rw [Turn.untold_of_asks hAsks]
      show (h.getOption system id reverseDns (some name)).2.rested.Resolved failed none
      rw [getOption_error reverseDns hName, waitForConnect_idle resolved.idle]
      exact resolved.errorValue.2.rested
    · rw [Turn.untold_of_other (Bool.eq_false_iff.2 hAsks)]
      by_cases hPlain : call.isPlain = true
      · exact (Resolved.proceeds.perform call hPlain (fun hOther => absurd hOther hAsks)
          resolved).rested
      · exact ((perform_sameAttempt resolved.client (Bool.eq_false_iff.2 hPlain)
          fun hClose => hOpen (by rw [hClose])).resolved resolved).rested

/-- A plain call that does not ask for the error. A transfer that waits until the connection has
failed is the first to learn of it. -/
theorem Seeking.called (seeking : h.Seeking a) {call : DriverCall} (hPlain : call.isPlain = true)
    (hOther : call.asksError = false) :
    (∃ b, ((Turn.called call).made system id h).Seeking b) ∨
      ∃ b, ConnectAttempt.Concludes system h.net a b ∧
        ((Turn.called call).made system id h).Resolved b.outcome.error?.isSome b.outcome.error? ∧
        ∀ e, b.outcome = .failed e → (Turn.called call).Bars system id h (.text e.message) := by
  have hWaited (report : Bool) : (h.waitForConnect system id report).2.Pursues
      (ConnectAttempt.Concludes system h.net a) := seeking.waitForConnect report
  cases call with
  | input room =>
    cases hWaited true with
    | seeking seeking' => exact .inl ⟨_, (Seeking.asks.input room seeking').rested⟩
    | resolved hEnds resolved =>
      exact .inr ⟨_, hEnds, (Resolved.asks.input room resolved).rested,
        fun e hFailed => .of_transfer seeking.connecting (resolved.of_failed hFailed) rfl⟩
  | output bytes =>
    cases hWaited true with
    | seeking seeking' => exact .inl ⟨_, (Seeking.asks.output bytes seeking').rested⟩
    | resolved hEnds resolved =>
      exact .inr ⟨_, hEnds, (Resolved.asks.output bytes resolved).rested,
        fun e hFailed => .of_transfer seeking.connecting (resolved.of_failed hFailed) rfl⟩
  | _ =>
    cases (Pursues.asks _).perform _ hPlain hWaited (fun hAsks => by cases hOther.symm.trans hAsks)
      (.seeking seeking) with
    | seeking seeking' => exact .inl ⟨_, seeking'.rested⟩
    | resolved hEnds resolved =>
      exact .inr ⟨_, hEnds, resolved.rested, fun e _ => .of_other nofun nofun hOther⟩

/-- A turn leaves a client seeking its connection, or it brings about what comes of it. -/
theorem Seeking.made (seeking : h.Seeking a) (turn : Turn ν) (hSuits : turn.Suits id h)
    (hOpen : turn ≠ .called .close) :
    (∃ b, (turn.made system id h).Seeking b) ∨
      ∃ b, ConnectAttempt.Concludes system h.net a b ∧
        (turn.made system id h).Resolved b.outcome.error?.isSome (turn.untold b.outcome.error?) ∧
        ∀ e, b.outcome = .failed e → turn.Bars system id h (.text e.message) := by
  cases turn with
  | around net => exact .inl ⟨a, { seeking with }⟩
  | fired handler ready =>
    obtain ⟨hOwn, suits⟩ := hSuits
    have hFired : (h.fire system ready handler).Pursues
        (ConnectAttempt.Concludes system h.net a) := seeking.fire ready hOwn suits
    cases hFired with
    | seeking seeking' => exact .inl ⟨_, seeking'.rested⟩
    | resolved hEnds resolved =>
      exact .inr ⟨_, hEnds, resolved.rested, fun e _ => .of_other nofun nofun rfl⟩
  | called call =>
    by_cases hAsks : call.asksError = true
    · obtain ⟨reverseDns, name, rfl, hName⟩ := DriverCall.of_asksError hAsks
      simp only [Turn.untold_of_asks hAsks]
      have hMade : (Turn.called (.getOption reverseDns (some name))).made system id h =
          ((h.waitForConnect system id false).2.errorValue system).2.rested := by
        show (h.getOption system id reverseDns (some name)).2.rested = _
        rw [getOption_error reverseDns hName]
      rw [hMade]
      have hLooked : (h.waitForConnect system id false).2.Pursues
          (ConnectAttempt.Concludes system h.net a) := seeking.waitForConnect false
      cases hLooked with
      | seeking seeking' =>
        rw [errorValue_connecting seeking'.connecting]
        exact .inl ⟨_, seeking'.rested⟩
      | @resolved b hEnds resolved =>
        refine .inr ⟨b, hEnds, resolved.errorValue.2.rested, fun e hFailed => ⟨nofun, nofun, ?_⟩⟩
        rintro _ _ ⟨⟩ -
        rw [getOption_error reverseDns hName]
        exact congrArg (fun value => Except.ok [("-error", value)])
          (resolved.of_failed hFailed).errorValue.1
    have hOther : call.asksError = false := Bool.eq_false_iff.2 hAsks
    by_cases hPlain : call.isPlain = true
    · simp only [Turn.untold_of_other hOther]
      exact seeking.called hPlain hOther
    · exact .inl ⟨a, ((perform_sameAttempt seeking.client (Bool.eq_false_iff.2 hPlain)
        fun hClose => hOpen (by rw [hClose])).seeking seeking).rested⟩

/-- A client seeks its connection, or knows how that has come out. -/
def IsClient (h : TcpHeld ν) : Prop :=
  (∃ a, h.Seeking a) ∨ ∃ failed error?, h.Resolved failed error?

theorem IsClient.made (client : h.IsClient) (turn : Turn ν) (hSuits : turn.Suits id h) :
    (turn.made system id h).IsClient := by
  by_cases hOpen : turn = .called .close
  · have hClient : h.state.server = false := by
      obtain ⟨a, seeking⟩ | ⟨failed, error?, resolved⟩ := client
      · exact seeking.client
      · exact resolved.client
    rw [hOpen]
    exact .inr ⟨false, _, (close_resolved hClient).rested⟩
  · obtain ⟨a, seeking⟩ | ⟨failed, error?, resolved⟩ := client
    · obtain seeking | ⟨b, -, resolved, -⟩ := seeking.made turn hSuits hOpen
      · exact .inl seeking
      · exact .inr ⟨_, _, resolved⟩
    · exact .inr ⟨failed, _, resolved.made turn hSuits hOpen⟩

/-- Whatever is done to it, a client remains one. -/
theorem IsClient.after (client : h.IsClient) (turns : List (Turn ν))
    (admits : h.Admits system id turns) : (h.after system id turns).IsClient := by
  induction turns generalizing h with
  | nil => exact client
  | cons turn rest ih => exact ih (client.made turn admits.1) admits.2

/-- What has come of a connection stays known until the client is closed, and its error until it is
asked for. -/
theorem Resolved.after (resolved : h.Resolved failed error?) (turns : List (Turn ν))
    (admits : h.Admits system id turns) (hOpen : ∀ turn ∈ turns, turn ≠ .called .close) :
    (h.after system id turns).Resolved failed
      (if turns.any (·.asksError) then none else error?) := by
  induction turns generalizing h error? with
  | nil => exact resolved
  | cons turn rest ih =>
    have hRest := ih (resolved.made turn admits.1 (hOpen turn (by simp))) admits.2
      fun u hMem => hOpen u (List.mem_cons_of_mem _ hMem)
    rw [List.any_cons]
    cases hAsks : turn.asksError <;> simpa [Turn.untold, hAsks] using hRest

end TcpHeld

theorem ConnectAttempt.error?_outcome (a : ConnectAttempt) :
    a.outcome.error? = if a.phase = .failed then some a.lastError.copy else none := by
  rw [outcome]
  cases a.phase <;> rfl

/-- A client begins as one. -/
theorem Origin.Yields.isClient {system : StreamSystem ν} {id : ChannelId} {net : ν}
    {transport : Transport} {a : ConnectAttempt} {h : TcpHeld ν}
    (yields : Origin.Yields system id net (.attempt transport a) h) : h.IsClient := by
  cases yields with
  | @pending _ _ b net' =>
    let waiting : TcpHeld ν :=
      { state := { loop := transport.loop, testMode := transport.testMode, connecting := true
                   attempt? := some b }
        net := net' }
    have seeking : waiting.Seeking b := ⟨rfl, rfl, rfl, rfl, rfl⟩
    exact .inl ⟨b, seeking.registerConnect id⟩
  | connected => exact .inr ⟨false, none, rfl, rfl, rfl, rfl, rfl⟩

/-- From the turn on in which it comes to be known that an attempt has failed, in it or later, no
transfer is made until the client is closed, and none waits any more after it. The first who asks
for the error is told that of the attempt, whoever asks after that what the socket tells. -/
theorem TcpHeld.Resolved.bars_later {system : StreamSystem ν} {id : ChannelId} {h : TcpHeld ν}
    {turn : Turn ν} {later : List (Turn ν)} {e : SystemError}
    (resolved : (turn.made system id h).Resolved true (turn.untold (some e)))
    (bars : turn.Bars system id h (.text e.message))
    (admits : (turn.made system id h).Admits system id later)
    (hOpen : ∀ u ∈ later, u ≠ .called .close) {prior rest : List (Turn ν)} {u : Turn ν}
    (hTurns : turn :: later = prior ++ u :: rest) :
    let g := h.after system id prior
    u.Bars system id g
        (if prior.any (·.asksError) then g.liveError system else .text e.message) ∧
      (prior ≠ [] → (g.waitForConnect system id true).2 = g) := by
  intro g
  obtain _ | ⟨first, prior⟩ := prior
  · obtain ⟨rfl, rfl⟩ := List.cons.inj hTurns
    exact ⟨bars, fun hNone => absurd rfl hNone⟩
  · obtain ⟨rfl, rfl⟩ := List.cons.inj hTurns
    have known : g.Resolved true (if prior.any (·.asksError) then none else turn.untold (some e)) :=
      resolved.after prior ((admits_append _ _).1 admits).1 fun u hMem => hOpen u (by simp [hMem])
    have hTold : g.toldError system
          (if prior.any (·.asksError) then none else turn.untold (some e)) =
        if (turn :: prior).any (·.asksError) then g.liveError system else .text e.message := by
      rw [List.any_cons, Turn.untold]
      cases turn.asksError <;> cases prior.any (·.asksError) <;> rfl
    exact ⟨hTold ▸ .of_resolved known u, fun _ => waitForConnect_idle known.idle true⟩

/-- However a client that was opened to connect is used and called back, turn by turn: as long as
its connection is being made it tells no error, and that it is connecting. That ends when its
attempt has come to an end. If the attempt has failed, then until the client is closed every
transfer, from the turn on in which this came to be known, learns that there is no connection and
transfers nothing. The first who asks for the error, in that turn or later, is told the last one of
the attempt; whoever asks after that is told only what the socket itself tells. -/
theorem failure_told_once {site : TcpSite σ ν} {s : Surroundings σ} {w w₀ w₁ : World σ}
    {id : ChannelId} {callee : (c : Call) → World σ → Option (c.Answer × World σ)}
    {transport : Transport} {attempt : ConnectAttempt} {held own : Tenure}
    {events : List (StreamEvent σ)} (lawful : site.Lawful)
    (hDriver : s.driver id = site.driver id)
    (hOpened : (site.openAttempt transport attempt).run s callee w = some (.ok id, w₀))
    (life : site.Life s id w₀ held events own w₁) :
    ∃ h₀, site.held? id w₀.env = some h₀ ∧
      let turns := site.turns s id events
      site.held? id w₁.env = some (h₀.after site.system id turns) ∧
      h₀.answers site.system id turns = driverCalls s id events ∧
      ∀ before turn later, turns = before ++ turn :: later →
        let h := h₀.after site.system id before
        let h' := turn.made site.system id h
        h.state.connecting = true →
        (h'.state.connecting = true → turn.Waits site.system id h) ∧
        (h'.state.connecting = false → (∀ u ∈ turn :: later, u ≠ .called .close) →
          ∃ first last, h.state.attempt? = some first ∧
            ConnectAttempt.Concludes site.system h.net first last ∧
            (h'.state.connectFailed = true ↔ last.phase = .failed) ∧
            (last.phase = .failed → ∀ prior u rest, turn :: later = prior ++ u :: rest →
              let g := h.after site.system id prior
              u.Bars site.system id g (if prior.any (·.asksError) then g.liveError site.system
                else .text last.lastError.message) ∧
              (prior ≠ [] → (g.waitForConnect site.system id true).2 = g))) := by
  obtain ⟨h, yields, born⟩ := Origin.born lawful hDriver (.attempt transport attempt) hOpened
  have hHeld : site.held? id w₀.env = some h.rested := by
    rw [TcpSite.held?_of_state born.state, born.net]
    rfl
  have begins : h.rested.IsClient := by
    obtain ⟨a, seeking⟩ | ⟨failed, error?, resolved⟩ := yields.isClient
    · exact .inl ⟨a, seeking.rested⟩
    · exact .inr ⟨failed, error?, resolved.rested⟩
  have unfolds := life.unfolds lawful hDriver hHeld
  refine ⟨h.rested, hHeld, unfolds.held, unfolds.answers, ?_⟩
  intro before turn later hTurns g g' hConnecting
  have admits := unfolds.admits
  rw [hTurns, TcpHeld.admits_append] at admits
  obtain ⟨hBefore, hSuits, hLater⟩ := admits
  refine ⟨fun hStill => .of_connecting hStill, fun hEnded hOpen => ?_⟩
  obtain ⟨first, seeking⟩ | ⟨failed, error?, resolved⟩ := begins.after before hBefore
  · obtain ⟨b, seeking'⟩ | ⟨last, hEnds, resolved, hBars⟩ :=
      seeking.made turn hSuits (hOpen turn (by simp))
    · cases hEnded.symm.trans seeking'.connecting
    · rw [last.error?_outcome] at resolved
      refine ⟨first, last, seeking.attempt, hEnds, ?_, fun hFailed prior u rest hSplit => ?_⟩
      · rw [resolved.failed]
        split <;> simp_all
      · have hOutcome : last.outcome = .failed last.lastError.copy := by
          rw [ConnectAttempt.outcome, hFailed]
        rw [if_pos hFailed] at resolved
        have bars := hBars _ hOutcome
        have hAll := resolved.bars_later bars hLater
          (fun u hMem => hOpen u (List.mem_cons_of_mem _ hMem)) hSplit
        rwa [SystemError.message_copy] at hAll
  · cases hConnecting.symm.trans resolved.rests

/-- The event loop tells that the connection goes on, and it has been refused. The one who asks is
told so, and a read after that learns that there is no connection. -/
theorem failure_told_once_refused :
    let site := TcpSite.alone (.patient (some (.number Errno.connectionRefused)))
    let s := site.surroundings
    let asked := Step.hold 0 (.getOption false "-error")
    let read := Step.hold 0 (.read 1)
    let w₀ := World.started (some (.number Errno.connectionRefused)) 1
    let w₁ := site.worked 0 (·.fire site.system .writing (.connecting 0 0)) w₀
    let w₂ := (asked.run s w₁).2
    let w₃ := (read.run s w₂).2
    ∃ own h₀ first last, site.Life s 0 w₀ (Tenure.none.since (World.blank 1).loops w₀.loops)
        [.fired (.connecting 0 0) .writing w₀, .made asked w₁, .made read w₂] own w₃ ∧
      site.held? 0 w₀.env = some h₀ ∧ h₀.state.attempt? = some first ∧
      ConnectAttempt.Concludes site.system h₀.net first last ∧ last.phase = .failed ∧
      let h₁ := (Turn.fired (.connecting 0 0) .writing).made site.system 0 h₀
      let h₂ := (Turn.called (.getOption false (some "-error"))).made site.system 0 h₁
      (h₁.getOption site.system 0 false (some "-error")).1 =
        .ok [("-error", .text last.lastError.message)] ∧
      h₂.input site.system 0 4096 = (.error ⟨.number Errno.notConnected, none⟩, h₂) := by
  intro site s asked read w₀ w₁ w₂ w₃
  let events : List (StreamEvent _) :=
    [.fired (.connecting 0 0) .writing w₀, .made asked w₁, .made read w₂]
  have hClient : (site.state? 0 w₀.env).map (·.server) = some false := by decide +kernel
  have life₀ : site.Life s 0 w₀ (Tenure.none.since (World.blank 1).loops w₀.loops) [] _ w₀ := .refl
  have life := ((life₀.fired (.connecting 0 0) .writing rfl
    (TcpSite.suits_connecting hClient 0)).made asked (.inl rfl)).made read (.inl rfl)
  obtain ⟨h₀, hHeld, -, -, hTold⟩ := failure_told_once (TcpSite.alone_lawful _) rfl
    (run_started (some (.number Errno.connectionRefused)) 1) life
  have hAsked : (asked.calls s 0 w₁).map (·.call) = [.getOption false (some "-error")] := by
    decide +kernel
  have hRead : (read.calls s 0 w₂).map (·.call) = [.input 4096] := by decide +kernel
  have hTurns : site.turns s 0 events = [.fired (.connecting 0 0) .writing,
      .called (.getOption false (some "-error")), .called (.input 4096)] := by
    show _ :: (((asked.calls s 0 w₁).map (·.call)).map Turn.called ++
      (((read.calls s 0 w₂).map (·.call)).map Turn.called ++ [])) = _
    rw [hAsked, hRead]
    rfl
  have hBegins : (site.held? 0 w₀.env).map (·.state.connecting) = some true := by decide +kernel
  have hEnds : (site.held? 0 w₀.env).map (fun h =>
      let h' := (Turn.fired (.connecting 0 0) .writing).made site.system 0 h
      (h'.state.connecting, h'.state.connectFailed)) = some (false, true) := by decide +kernel
  rw [hHeld] at hBegins hEnds
  obtain ⟨hEnded, hFailed⟩ := Prod.mk.inj (Option.some.inj hEnds)
  obtain ⟨first, last, hFirst, hConcludes, hPhase, hBars⟩ :=
    (hTold [] _ _ hTurns (Option.some.inj hBegins)).2 hEnded (by simp)
  have hAll := hBars (hPhase.1 hFailed)
  have hText := (hAll [_] _ _ rfl).1.error false "-error" rfl rfl
  obtain ⟨hInput, hLeft⟩ := hAll [_, _] _ _ rfl
  have hLearnt := hInput.input 4096 rfl
  refine ⟨_, h₀, first, last, life, hHeld, hFirst, hConcludes, hPhase.1 hFailed, hText, ?_⟩
  exact hLearnt.trans (congrArg _ (hLeft nofun))

end EventChannel
