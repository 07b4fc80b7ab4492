import EventChannel.Proofs.Tcp.Turns

/-! A client seeks its connection, or that is resolved: it has been made or has failed for good. It
is resolved in one of three ways, when the event loop tells that the connection goes on, when it is
looked whether it does, or when it is waited for. A failure is noted twice, for good and until it is
told: no transfer is made after it, and the first who asks for the error is told it. -/

namespace EventChannel

variable {σ ν : Type}

/-- Why there is no connection. -/
def ConnectOutcome.error? : ConnectOutcome → Option SystemError
  | failed e => some e
  | connected | pending => none

namespace ConnectAttempt

/-- What an attempt comes to that is waited for. Each time its socket is ready it goes on, until it
has ended. -/
inductive Awaited (system : StreamSystem ν) : ν → ConnectAttempt → ConnectAttempt → Prop
  | ended {net net₁ : ν} {a b : ConnectAttempt} {socket : Socket}
      {ready : { ready : Interest // ready ≠ .none }} (hSocket : a.socket? = some socket)
      (hAwait : system.stream (.await socket (.writing ∪ .trouble)) net = (.ok ready, net₁))
      (hResume : (a.resume system.toSocketSystem net₁).1 = b) (hEnded : b.outcome ≠ .pending) :
      Awaited system net a b
  | suspended {net net₁ net₂ : ν} {a b c : ConnectAttempt} {socket : Socket}
      {ready : { ready : Interest // ready ≠ .none }} (hSocket : a.socket? = some socket)
      (hAwait : system.stream (.await socket (.writing ∪ .trouble)) net = (.ok ready, net₁))
      (hResume : a.resume system.toSocketSystem net₁ = (b, net₂)) (hPending : b.outcome = .pending)
      (rest : Awaited system net₂ b c) : Awaited system net a c

/-- What an attempt comes to when it ends: the event loop tells that it goes on, or its socket is
looked at and ready, or it is waited for. -/
inductive Concludes (system : StreamSystem ν) (net : ν) (a b : ConnectAttempt) : Prop
  | told (hResume : (a.resume system.toSocketSystem net).1 = b) (hEnded : b.outcome ≠ .pending)
  | seen {net₁ : ν} {socket : Socket} {ready : Interest} (hSocket : a.socket? = some socket)
      (hPoll : system.stream (.poll socket (.writing ∪ .trouble)) net = (.ok ready, net₁))
      (hReady : ready.isEmpty = false) (hResume : (a.resume system.toSocketSystem net₁).1 = b)
      (hEnded : b.outcome ≠ .pending)
  | awaited (waited : Awaited system net a b)

theorem Awaited.ends {system : StreamSystem ν} {net : ν} {a b : ConnectAttempt}
    (waited : Awaited system net a b) : b.outcome ≠ .pending := by
  induction waited with
  | ended _ _ _ hEnded => exact hEnded
  | suspended _ _ _ _ _ ih => exact ih

theorem Concludes.ends {system : StreamSystem ν} {net : ν} {a b : ConnectAttempt}
    (concludes : Concludes system net a b) : b.outcome ≠ .pending := by
  cases concludes with
  | told _ hEnded => exact hEnded
  | seen _ _ _ _ hEnded => exact hEnded
  | awaited waited => exact waited.ends

end ConnectAttempt

namespace TcpHeld

variable {system : StreamSystem ν} {id : ChannelId} {h h' : TcpHeld ν} {a : ConnectAttempt}
  {failed : Bool} {error? : Option SystemError}

/-- A client whose connection is being made by an attempt. -/
structure Seeking (a : ConnectAttempt) (h : TcpHeld ν) : Prop where
  client : h.state.server = false
  connecting : h.state.connecting = true
  attempt : h.state.attempt? = some a
  lone : h.state.sockets = []
  unfailed : h.state.connectFailed = false

/-- A client that knows how its connection has come out, with the error that is still to be told. -/
structure Resolved (failed : Bool) (error? : Option SystemError) (h : TcpHeld ν) : Prop where
  client : h.state.server = false
  rests : h.state.connecting = false
  idle : h.state.connectPending = false
  failed : h.state.connectFailed = failed
  error : h.state.connectError? = error?

/-- A client still seeks its connection, or it knows what its attempt has come to. -/
inductive Pursues (ends : ConnectAttempt → Prop) (h : TcpHeld ν) : Prop
  | seeking {b : ConnectAttempt} (seeking : h.Seeking b)
  | resolved {b : ConnectAttempt} (hEnds : ends b)
      (resolved : h.Resolved b.outcome.error?.isSome b.outcome.error?)

theorem Pursues.mono {ends ends' : ConnectAttempt → Prop} (pursues : h.Pursues ends)
    (hMono : ∀ b, ends b → ends' b) : h.Pursues ends' := by
  cases pursues with
  | seeking seeking => exact .seeking seeking
  | resolved hEnds resolved => exact .resolved (hMono _ hEnds) resolved

theorem Pursues.asks (ends : ConnectAttempt → Prop) : Asks system (Pursues (ν := ν) ends) where
  call c _ pursues := by
    cases pursues with
    | seeking seeking => exact .seeking { seeking with }
    | resolved hEnds resolved => exact .resolved hEnds { resolved with }
  ask c _ pursues := by
    cases pursues with
    | seeking seeking => exact .seeking { seeking with }
    | resolved hEnds resolved => exact .resolved hEnds { resolved with }

theorem Seeking.socket (seeking : h.Seeking a) : h.state.clientSocket? = a.socket? := by
  simp [TcpState.clientSocket?, seeking.attempt, seeking.lone]

theorem Seeking.registerConnect (seeking : h.Seeking a) (id : ChannelId) :
    (h.registerConnect id).Seeking a := by
  obtain ⟨-, hState⟩ := registerConnect_frame id h
  refine ⟨?_, ?_, ?_, ?_, ?_⟩ <;> rw [hState]
  · exact seeking.client
  · exact seeking.connecting
  · exact seeking.attempt
  · exact seeking.lone
  · exact seeking.unfailed

/-- Suspended again, the attempt is waited for if it has a socket. -/
theorem Seeking.suspended (seeking : h.Seeking a) (id : ChannelId)
    (hPending : h.state.connectPending = true) {b : ConnectAttempt} {net : ν}
    (hResume : a.resume system.toSocketSystem h.net = (b, net)) (hOutcome : b.outcome = .pending) :
    let h' := h.continueConnect system id
    h'.Seeking b ∧ h'.net = net ∧ (h'.state.connectPending = true ∨ b.socket? = none) := by
  intro h'
  have hNext : h' = (h.released.resumed b net).registerConnect id := by
    rw [show h' = _ from continueConnect_resumed hPending seeking.attempt hResume, hOutcome]
  have resumed : (h.released.resumed b net).Seeking b := by
    refine ⟨?_, ?_, rfl, ?_, ?_⟩ <;> rw [resumed_frame]
    · exact seeking.client
    · exact seeking.connecting
    · exact seeking.lone
    · exact seeking.unfailed
  rw [hNext]
  refine ⟨resumed.registerConnect id, (registerConnect_frame id _).1, ?_⟩
  unfold TcpHeld.registerConnect
  split
  · next hNone => exact .inr (resumed.socket.symm.trans hNone)
  · exact .inl rfl

theorem finishConnect_resolved (hClient : h.state.server = false)
    (hIdle : h.state.connectPending = false) (hUnfailed : h.state.connectFailed = false)
    (error? : Option SystemError) :
    (h.finishConnect system id error?).Resolved error?.isSome error? := by
  have hFrame : (h.finishConnect system id error?).state = _ := finishConnect_frame id error? h
  refine ⟨?_, ?_, ?_, ?_, rfl⟩
  · rw [hFrame]
    exact hClient
  · rw [hFrame]
    rfl
  · rw [hFrame]
    exact hIdle
  · rw [finishConnect_eq, state_update, (switched_keeps ..).2, (watch_frame ..).2]
    show (h.state.connectFailed || error?.isSome) = _
    rw [hUnfailed, Bool.false_or]

/-- What an attempt has come to is noted when it ends. -/
theorem Seeking.ended (seeking : h.Seeking a) (id : ChannelId)
    (hPending : h.state.connectPending = true) {b : ConnectAttempt}
    (hResume : (a.resume system.toSocketSystem h.net).1 = b) (hEnded : b.outcome ≠ .pending) :
    (h.continueConnect system id).Resolved b.outcome.error?.isSome b.outcome.error? := by
  rcases hLeft : a.resume system.toSocketSystem h.net with ⟨b', net⟩
  obtain rfl : b' = b := (congrArg Prod.fst hLeft).symm.trans hResume
  have hClient : (h.released.resumed b' net).state.server = false := by
    rw [resumed_frame]
    exact seeking.client
  have hIdle : (h.released.resumed b' net).state.connectPending = false := by
    rw [resumed_frame]
  have hUnfailed : (h.released.resumed b' net).state.connectFailed = false := by
    rw [resumed_frame]
    exact seeking.unfailed
  rw [continueConnect_resumed hPending seeking.attempt hLeft]
  cases hOutcome : b'.outcome with
  | pending => exact absurd hOutcome hEnded
  | connected => exact finishConnect_resolved hClient hIdle hUnfailed none
  | failed e => exact finishConnect_resolved hClient hIdle hUnfailed (some e)

/-- However its connection goes on, a client seeks it or knows what has come of it. -/
theorem Seeking.continueConnect (seeking : h.Seeking a) :
    (h.continueConnect system id).Pursues fun b =>
      (a.resume system.toSocketSystem h.net).1 = b ∧ b.outcome ≠ .pending := by
  by_cases hPending : h.state.connectPending = true
  · by_cases hOutcome : (a.resume system.toSocketSystem h.net).1.outcome = .pending
    · exact .seeking (seeking.suspended id hPending rfl hOutcome).1
    · exact .resolved ⟨rfl, hOutcome⟩ (seeking.ended id hPending rfl hOutcome)
  · rw [continueConnect_idle (Bool.eq_false_iff.2 hPending)]
    exact .seeking seeking

theorem awaitConnect_socketless (hNone : h.state.clientSocket? = none) (tries : Nat) :
    h.awaitConnect system id tries = h := by
  cases tries with
  | zero => rfl
  | succ tries => rw [awaitConnect, hNone]

theorem Seeking.awaitConnect (seeking : h.Seeking a) (hPending : h.state.connectPending = true)
    (tries : Nat) :
    (h.awaitConnect system id tries).Pursues (ConnectAttempt.Awaited system h.net a) := by
  induction tries generalizing h a with
  | zero => exact .seeking seeking
  | succ tries ih =>
    unfold TcpHeld.awaitConnect
    split
    · exact .seeking seeking
    next socket hClient =>
    have hSocket : a.socket? = some socket := seeking.socket.symm.trans hClient
    rcases hAwait : system.stream (.await socket (.writing ∪ .trouble)) h.net with ⟨e | ready, net⟩
    · simp only [TcpHeld.call, hAwait]
      exact .seeking { seeking with }
    simp only [TcpHeld.call, hAwait]
    have waiting : Seeking a { h with net } := { seeking with }
    rcases hResume : a.resume system.toSocketSystem net with ⟨b, net'⟩
    by_cases hOutcome : b.outcome = .pending
    · obtain ⟨seeking', hNet, hOn⟩ := waiting.suspended id hPending hResume hOutcome
      rw [if_pos seeking'.connecting]
      obtain hPending' | hNone := hOn
      · refine (ih seeking' hPending').mono fun c waited => ?_
        rw [hNet] at waited
        exact .suspended hSocket hAwait hResume hOutcome waited
      · rw [awaitConnect_socketless (seeking'.socket.trans hNone)]
        exact .seeking seeking'
    · have hEnd : (a.resume system.toSocketSystem net).1 = b := by rw [hResume]
      have resolved := waiting.ended id hPending hEnd hOutcome
      rw [if_neg (by simp [resolved.rests])]
      exact .resolved (.ended hSocket hAwait hEnd hOutcome) resolved

theorem Seeking.probeConnect (seeking : h.Seeking a) :
    (h.probeConnect system id).Pursues (ConnectAttempt.Concludes system h.net a) := by
  unfold TcpHeld.probeConnect
  split
  · exact .seeking seeking
  next socket hClient =>
  have hSocket : a.socket? = some socket := seeking.socket.symm.trans hClient
  rcases hPoll : system.stream (.poll socket (.writing ∪ .trouble)) h.net with ⟨e | ready, net⟩
  · simp only [TcpHeld.call, hPoll]
    exact .seeking { seeking with }
  simp only [TcpHeld.call, hPoll]
  have looked : Seeking a { h with net } := { seeking with }
  split
  · exact .seeking looked
  · next hReady =>
    exact looked.continueConnect.mono fun b ⟨hResume, hEnded⟩ =>
      .seen hSocket hPoll (Bool.eq_false_iff.2 hReady) hResume hEnded

/-- Whoever waits for a connection, or looks how it stands. -/
theorem Seeking.waitForConnect (seeking : h.Seeking a) (report : Bool) :
    (h.waitForConnect system id report).2.Pursues
      (ConnectAttempt.Concludes system h.net a) := by
  unfold TcpHeld.waitForConnect
  split
  · exact .seeking seeking
  split
  · exact .seeking seeking
  next hPending =>
  dsimp only
  split
  · exact .seeking seeking
  have hWent : (if report && !h.state.nonblocking then h.awaitConnect system id h.triesLeft
      else h.probeConnect system id).Pursues (ConnectAttempt.Concludes system h.net a) := by
    split
    · exact (seeking.awaitConnect (by simpa using hPending) _).mono fun _ => .awaited
    · exact seeking.probeConnect
  generalize (if report && !h.state.nonblocking then h.awaitConnect system id h.triesLeft
    else h.probeConnect system id) = h₁ at hWent ⊢
  split
  · exact hWent
  split
  · exact hWent
  · exact hWent

/-- A transfer that learns of the failure is told that there is no connection. -/
theorem waitForConnect_failed {e : SystemError} (hConnecting : h.state.connecting = true)
    (resolved : (h.waitForConnect system id true).2.Resolved true (some e)) :
    (h.waitForConnect system id true).1 = .error notConnected := by
  have hNow : h.state.connecting = false → False := fun hRests => by
    cases hConnecting.symm.trans hRests
  unfold TcpHeld.waitForConnect at resolved ⊢
  split
  · rfl
  next hUnfailed =>
  rw [if_neg hUnfailed] at resolved
  split
  · next hIdle =>
    rw [if_pos hIdle] at resolved
    exact absurd resolved.rests hNow
  next hPending =>
  rw [if_neg hPending] at resolved
  dsimp only at resolved ⊢
  split
  · next hTest =>
    rw [if_pos hTest] at resolved
    exact absurd resolved.rests hNow
  next hTest =>
  rw [if_neg hTest] at resolved
  generalize (if true && !h.state.nonblocking then h.awaitConnect system id h.triesLeft
    else h.probeConnect system id) = h₁ at resolved ⊢
  have hLeft : h₁.Resolved true (some e) := by
    split at resolved
    · exact resolved
    split at resolved
    · exact resolved
    · exact resolved
  simp [hLeft.idle, hLeft.error, notConnected]

/-- There is nothing left to wait for. -/
theorem waitForConnect_idle (hIdle : h.state.connectPending = false) (report : Bool) :
    (h.waitForConnect system id report).2 = h := by
  unfold TcpHeld.waitForConnect
  split
  · rfl
  · rw [if_pos (by simp [hIdle])]

end TcpHeld

end EventChannel
