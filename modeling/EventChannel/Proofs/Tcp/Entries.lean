import EventChannel.Proofs.Tcp.Work

/-! A stream channel notes which descriptors it has registered, and takes out what it has noted. The
books show how far that note is right: nothing is registered that is not noted, and a client that
stays in one event loop has exactly one descriptor registered there, or none. -/

namespace EventChannel

namespace TcpHeld

variable {ν : Type} {h : TcpHeld ν} {n : Nat} {b : Books}

/-- The books after what was done to event loops so far. -/
def books (n : Nat) (b : Books) (h : TcpHeld ν) : Books := b.applyAll n h.commands

@[simp] theorem books_update (f : TcpState → TcpState) : (h.update f).books n b = h.books n b := rfl

@[simp] theorem state_update (f : TcpState → TcpState) : (h.update f).state = f h.state := rfl

@[simp] theorem net_update (f : TcpState → TcpState) : (h.update f).net = h.net := rfl

@[simp] theorem books_command (c : LoopCommand) :
    (h.command c).books n b = (h.books n b).apply n c := by
  simp [books, command]

theorem books_register (fd : Descriptor) (mask : Interest) (handler : FileHandler) :
    (h.register fd mask handler).books n b =
      (h.books n b).apply n (.create h.state.loop fd mask handler) :=
  books_command _

theorem books_unregisterAll :
    h.unregisterAll.books n b =
      (h.books n b).applyAll n (h.state.registered.map (.delete h.state.loop)) :=
  Books.applyAll_append ..

/-- What is left in a list when an element is taken out. -/
theorem mem_swapRemove {fds : List Descriptor} {fd other : Descriptor} (hMem : other ∈ fds)
    (hOther : other ≠ fd) : other ∈ swapRemove fds fd := by
  unfold swapRemove
  cases hIdx : fds.idxOf? fd with
  | none => simpa using hMem
  | some i =>
    rw [List.idxOf?, List.findIdx?_eq_some_iff_getElem] at hIdx
    obtain ⟨hLength, hAt, -⟩ := hIdx
    rcases List.eq_nil_or_concat fds with rfl | ⟨rest, last, rfl⟩
    · cases hMem
    simp only [List.concat_eq_append] at hLength hAt hMem ⊢
    rw [List.getLast?_concat]
    rw [List.mem_append, List.mem_singleton] at hMem
    rw [List.length_append, List.length_singleton] at hLength
    by_cases hLast : i < rest.length
    · have hFd : rest[i] = fd := by simpa [List.getElem_append_left hLast] using hAt
      simp only [List.set_append_left i last hLast, List.dropLast_concat]
      rcases hMem with hMem | rfl
      · obtain ⟨j, hj, rfl⟩ := List.mem_iff_getElem.1 hMem
        have hNe : i ≠ j := fun hSame => hOther (by simp only [← hFd, hSame])
        exact List.mem_iff_getElem.2 ⟨j, by simpa using hj, by simp [hNe]⟩
      · exact List.mem_set hLast other
    · obtain rfl : i = rest.length := by omega
      have hFd : last = fd := by simpa using hAt
      simp only [List.set_append_right _ _ (Nat.le_refl _), Nat.sub_self, List.set_cons_zero,
        List.dropLast_concat]
      exact hMem.resolve_right fun hSame => hOther (hSame.trans hFd)

/-- All registrations are with the channel's own event loop, and noted. -/
def Accounts (n : Nat) (b : Books) (h : TcpHeld ν) : Prop :=
  ∀ loop fd, h.books n b loop fd ≠ none → loop = h.state.loop ∧ fd ∈ h.state.registered

/-- What concerns neither the event loop nor the note. -/
theorem Accounts.of_kept {h' : TcpHeld ν} (accounts : h.Accounts n b)
    (hCommands : h'.commands = h.commands) (hLoop : h'.state.loop = h.state.loop)
    (hRegistered : h'.state.registered = h.state.registered) : h'.Accounts n b := by
  intro loop fd hSome
  rw [hLoop, hRegistered]
  rw [books, hCommands] at hSome
  exact accounts loop fd hSome

theorem Accounts.register (accounts : h.Accounts n b) (fd : Descriptor) (mask : Interest)
    (handler : FileHandler) : (h.register fd mask handler).Accounts n b := by
  intro loop d hSome
  have hNoted (hMem : d = fd ∨ d ∈ h.state.registered) :
      d ∈ (h.register fd mask handler).state.registered := by
    simp only [TcpHeld.register, command, update]
    by_cases hThere : h.state.registered.contains fd <;> grind
  rw [books_register] at hSome
  simp only [Books.apply] at hSome
  split at hSome
  · next hNew => exact ⟨hNew.1, hNoted (.inl hNew.2.1)⟩
  · exact ⟨(accounts loop d hSome).1, hNoted (.inr (accounts loop d hSome).2)⟩

theorem Accounts.unregister (accounts : h.Accounts n b) (fd : Descriptor) :
    (h.unregister fd).Accounts n b := by
  unfold TcpHeld.unregister
  split
  · intro loop d hSome
    rw [books_command, books_update] at hSome
    simp only [Books.apply] at hSome
    split at hSome
    · cases hSome rfl
    · next hOther =>
      obtain ⟨hLoop, hMem⟩ := accounts loop d hSome
      refine ⟨hLoop, mem_swapRemove hMem fun hFd => hOther ⟨hLoop, hFd⟩⟩
  · exact accounts

/-- Then nothing is left of what was registered. -/
theorem Accounts.unregisterAll (accounts : h.Accounts n b) :
    h.unregisterAll.books n b = Books.empty := by
  funext loop fd
  rw [books_unregisterAll, Books.applyAll_deletes]
  split
  · rfl
  · next hOther =>
    cases hBooks : h.books n b loop fd with
    | none => rfl
    | some mask => exact absurd (accounts loop fd (by simp [hBooks])) hOther

theorem Accounts.of_empty (hEmpty : h.books n b = Books.empty) : h.Accounts n b := by
  intro loop fd hSome
  exact absurd (congrFun (congrFun hEmpty loop) fd) hSome

theorem Accounts.empty (accounts : h.Accounts n b) (hNone : h.state.registered = []) :
    h.books n b = Books.empty := by
  funext loop fd
  cases hBooks : h.books n b loop fd with
  | none => rfl
  | some mask =>
    have hMem := (accounts loop fd (by simp [hBooks])).2
    rw [hNone] at hMem
    cases hMem

/-- Exactly so much is registered with an event loop, the channel's own, and noted. -/
structure Lists (n : Nat) (b : Books) (loop : LoopId) (listed? : Option (Descriptor × Interest))
    (h : TcpHeld ν) : Prop where
  own : h.state.loop = loop
  made : loop < n
  noted : h.state.registered = listed?.toList.map (·.1)
  booked : h.books n b = .only loop listed?

namespace Lists

variable {loop : LoopId} {listed? : Option (Descriptor × Interest)}

theorem of_kept {h' : TcpHeld ν} (lists : h.Lists n b loop listed?)
    (hCommands : h'.commands = h.commands) (hLoop : h'.state.loop = h.state.loop)
    (hRegistered : h'.state.registered = h.state.registered) : h'.Lists n b loop listed? where
  own := hLoop.trans lists.own
  made := lists.made
  noted := hRegistered.trans lists.noted
  booked := by rw [TcpHeld.books, hCommands]; exact lists.booked

/-- A channel that has just been made has nothing registered. -/
theorem new {t : TcpState} (hLoop : t.loop < n) (hNone : t.registered = []) (net : ν) :
    Lists n .empty t.loop none { state := t, net } :=
  ⟨rfl, hLoop, hNone, (Books.only_none t.loop).symm⟩

/-- What has been done so far is put into the books. -/
theorem entered (lists : h.Lists n b loop listed?) :
    Lists n (h.books n b) loop listed? { state := h.state, net := h.net } :=
  ⟨lists.own, lists.made, lists.noted, lists.booked⟩

theorem accounts (lists : h.Lists n b loop listed?) : h.Accounts n b := by
  intro l fd hSome
  obtain ⟨mask, hMask⟩ := Option.ne_none_iff_exists'.1 hSome
  rw [lists.booked, Books.only_eq_some] at hMask
  obtain ⟨rfl, rfl⟩ := hMask
  exact ⟨lists.own.symm, by simp [lists.noted]⟩

/-- A descriptor takes its own place. -/
theorem register (lists : h.Lists n b loop listed?) {fd : Descriptor}
    (hSame : ∀ e, listed? = some e → e.1 = fd) (mask : Interest) (handler : FileHandler) :
    (h.register fd mask handler).Lists n b loop (some (fd, mask)) where
  own := lists.own
  made := lists.made
  noted := by
    simp only [TcpHeld.register, command, update, lists.noted]
    obtain _ | e := listed?
    · rfl
    · simp [hSame e rfl]
  booked := by
    funext l d
    rw [books_register, lists.booked, lists.own]
    have hMade := lists.made
    obtain _ | e := listed?
    · simp only [Books.apply, Books.only]
      split <;> grind
    · have hFd := hSame e rfl
      simp only [Books.apply, Books.only]
      split <;> grind

theorem unregister (lists : h.Lists n b loop listed?) {fd : Descriptor}
    (hSame : ∀ e, listed? = some e → e.1 = fd) : (h.unregister fd).Lists n b loop none := by
  obtain _ | e := listed?
  · rw [TcpHeld.unregister, if_neg (by simp [lists.noted])]
    exact lists
  · obtain rfl := hSame e rfl
    have hNoted : h.state.registered = [e.1] := lists.noted
    rw [TcpHeld.unregister, if_pos (by simp [hNoted])]
    refine ⟨lists.own, lists.made, ?_, ?_⟩
    · show swapRemove h.state.registered e.1 = []
      rw [hNoted]
      simp [swapRemove, List.idxOf?, List.findIdx?_cons]
    · funext l d
      rw [books_command, books_update, lists.booked, lists.own]
      simp only [Books.apply, Books.only]
      split <;> grind

theorem unregisterAll (lists : h.Lists n b loop listed?) :
    h.unregisterAll.Lists n b loop none where
  own := lists.own
  made := lists.made
  noted := rfl
  booked := lists.accounts.unregisterAll.trans (Books.only_none loop).symm

end Lists

/-- Waiting for the connection changes nothing but that it is waited for. -/
theorem registerConnect_frame (id : ChannelId) (h : TcpHeld ν) :
    (h.registerConnect id).net = h.net ∧ (h.registerConnect id).state = { h.state with
      connectPending := (h.registerConnect id).state.connectPending
      registered := (h.registerConnect id).state.registered } := by
  unfold registerConnect
  split <;> exact ⟨rfl, rfl⟩

theorem Accounts.registerConnect (accounts : h.Accounts n b) (id : ChannelId) :
    (h.registerConnect id).Accounts n b := by
  unfold TcpHeld.registerConnect
  split
  · exact accounts
  · exact (accounts.register _ _ _).of_kept rfl rfl rfl

/-- Waiting for connections to accept changes nothing but what is registered. -/
theorem registerAccept_frame (id : ChannelId) (h : TcpHeld ν) :
    (h.registerAccept id).net = h.net ∧ (h.registerAccept id).state =
      { h.state with registered := (h.registerAccept id).state.registered } := by
  unfold TcpHeld.registerAccept
  generalize h.state.sockets.zipIdx = listeners
  induction listeners generalizing h with
  | nil => exact ⟨rfl, rfl⟩
  | cons l rest ih => exact ih _

theorem Accounts.registerAccept (accounts : h.Accounts n b) (id : ChannelId) :
    (h.registerAccept id).Accounts n b := by
  unfold TcpHeld.registerAccept
  generalize h.state.sockets.zipIdx = listeners
  induction listeners generalizing h with
  | nil => exact accounts
  | cons l rest ih => exact ih (accounts.register _ _ _)

/-- The state when the event loop is no longer asked about a connection. -/
def released (h : TcpHeld ν) : TcpHeld ν :=
  let h := h.update ({ · with connectPending := false })
  match h.state.clientSocket? with
  | some socket => h.unregister (Socket.descriptor socket)
  | none => h

/-- What a state becomes when its attempt has gone on. -/
def resumed (a : ConnectAttempt) (net : ν) (h : TcpHeld ν) : TcpHeld ν :=
  { h with net, state := { h.state with attempt? := some a } }

variable {system : StreamSystem ν} {id : ChannelId}

theorem continueConnect_idle (hIdle : h.state.connectPending = false) :
    h.continueConnect system id = h := by
  simp [continueConnect, hIdle]

theorem released_keeps :
    h.released.net = h.net ∧ h.released.state = { h.state with
      connectPending := false, registered := h.released.state.registered } := by
  unfold released
  dsimp only
  split
  · unfold TcpHeld.unregister
    split <;> exact ⟨rfl, rfl⟩
  · exact ⟨rfl, rfl⟩

theorem resumed_frame (a : ConnectAttempt) (net : ν) :
    (h.released.resumed a net).state = { h.state with
      connectPending := false, registered := h.released.state.registered, attempt? := some a } := by
  rw [resumed, (released_keeps ..).2]

theorem Accounts.released (accounts : h.Accounts n b) : h.released.Accounts n b := by
  have accounts : (h.update ({ · with connectPending := false })).Accounts n b :=
    accounts.of_kept rfl rfl rfl
  unfold TcpHeld.released
  dsimp only
  split
  · exact accounts.unregister _
  · exact accounts

theorem Lists.released {loop : LoopId} {listed? : Option (Descriptor × Interest)}
    (lists : h.Lists n b loop listed?)
    (hSame : ∀ e, listed? = some e → ∃ s, h.state.clientSocket? = some s ∧
      e.1 = Socket.descriptor s) : h.released.Lists n b loop none := by
  have lists : (h.update ({ · with connectPending := false })).Lists n b loop listed? :=
    lists.of_kept rfl rfl rfl
  unfold TcpHeld.released
  dsimp only
  split
  · next socket hSocket =>
    refine lists.unregister fun e hEntry => ?_
    obtain ⟨s, hSome, hFd⟩ := hSame e hEntry
    rw [hFd, Option.some.inj (hSome.symm.trans hSocket)]
  · next hNone =>
    obtain _ | e := listed?
    · exact lists
    · obtain ⟨s, hSome, -⟩ := hSame e rfl
      cases hSome.symm.trans hNone

/-- What a connection comes to that the event loop is asked about. -/
theorem continueConnect_eq (hPending : h.state.connectPending = true) :
    h.continueConnect system id =
      match h.state.attempt? with
      | none => h.released
      | some attempt =>
        let (attempt, net) := attempt.resume system.toSocketSystem h.net
        match attempt.outcome with
        | .pending => (h.released.resumed attempt net).registerConnect id
        | .connected => (h.released.resumed attempt net).finishConnect system id none
        | .failed e => (h.released.resumed attempt net).finishConnect system id (some e) := by
  obtain ⟨hNet, hState⟩ := h.released_keeps
  have hAttempt : h.released.state.attempt? = h.state.attempt? := by rw [hState]
  rw [continueConnect, if_neg (by simp [hPending]), ← hAttempt, ← hNet]
  rfl

/-- Without an attempt there is nothing to go on with. -/
theorem continueConnect_lone (hPending : h.state.connectPending = true)
    (hAttempt : h.state.attempt? = none) : h.continueConnect system id = h.released := by
  rw [continueConnect_eq hPending, hAttempt]

/-- The connection goes on as its attempt does. -/
theorem continueConnect_resumed {a a' : ConnectAttempt} {net : ν}
    (hPending : h.state.connectPending = true) (hAttempt : h.state.attempt? = some a)
    (hResume : a.resume system.toSocketSystem h.net = (a', net)) :
    h.continueConnect system id =
      match a'.outcome with
      | .pending => (h.released.resumed a' net).registerConnect id
      | .connected => (h.released.resumed a' net).finishConnect system id none
      | .failed e => (h.released.resumed a' net).finishConnect system id (some e) := by
  rw [continueConnect_eq hPending, hAttempt]
  simp only [hResume]

/-- Watching changes no more than the conditions noted and what is registered. -/
theorem watch_frame (id : ChannelId) (mask : Interest) (h : TcpHeld ν) :
    (h.watch id mask).net = h.net ∧ (h.watch id mask).state = { h.state with
      interest := (h.watch id mask).state.interest
      cachedWatch := (h.watch id mask).state.cachedWatch
      registered := (h.watch id mask).state.registered } := by
  unfold TcpHeld.watch
  split
  · exact ⟨rfl, rfl⟩
  split
  · exact ⟨rfl, rfl⟩
  split
  · exact ⟨rfl, rfl⟩
  dsimp only
  split
  · unfold TcpHeld.unregister
    split <;> exact ⟨rfl, rfl⟩
  · exact ⟨rfl, rfl⟩

/-- Nothing comes to be registered without conditions to wait for, or without a socket. -/
theorem watch_registered {mask : Interest} (hNone : h.state.registered = [])
    (hQuiet : mask.isEmpty = true ∨ h.state.clientSocket? = none ∨ h.state.server = true) :
    (h.watch id mask).state.registered = [] := by
  unfold TcpHeld.watch
  split
  · exact hNone
  next hClient =>
  split
  · exact hNone
  split
  · exact hNone
  · next socket hSocket =>
    have hEmpty : mask.isEmpty = true := by
      obtain hEmpty | hFree | hServer := hQuiet
      · exact hEmpty
      · cases hFree.symm.trans hSocket
      · exact absurd hServer hClient
    dsimp only
    rw [if_pos hEmpty, TcpHeld.unregister, if_neg (by simp [hNone])]
    exact hNone

theorem Accounts.watch (accounts : h.Accounts n b) (id : ChannelId) (mask : Interest) :
    (h.watch id mask).Accounts n b := by
  unfold TcpHeld.watch
  split
  · exact accounts
  split
  · exact accounts.of_kept rfl rfl rfl
  split
  · exact accounts
  · have accounts : (h.update ({ · with interest := mask })).Accounts n b :=
      accounts.of_kept rfl rfl rfl
    dsimp only
    split
    · exact accounts.unregister _
    · exact accounts.register _ _ _

/-- The state when its attempt has come to an end. -/
def ended (h : TcpHeld ν) : TcpHeld ν :=
  h.update fun t =>
    { t with
      attempt? := none
      sockets := match t.attempt?.bind (·.socket?) with
        | some socket => [socket]
        | none => t.sockets
      connecting := false }

/-- The socket is put into the mode that was wished for meanwhile. -/
def switched (system : StreamSystem ν) (h : TcpHeld ν) : TcpHeld ν :=
  match h.state.sockets.head? with
  | some socket => (h.socketCall system (.setNonblocking socket (!h.state.cachedBlocking))).2
  | none => h

theorem switched_keeps (system : StreamSystem ν) (h : TcpHeld ν) :
    (h.switched system).commands = h.commands ∧ (h.switched system).state = h.state := by
  unfold switched
  split <;> exact ⟨rfl, rfl⟩

theorem finishConnect_eq (id : ChannelId) (error? : Option SystemError) (h : TcpHeld ν) :
    h.finishConnect system id error? =
      ((h.ended.watch id h.state.cachedWatch).switched system).update fun t =>
        { t with
          connectFailed := t.connectFailed || error?.isSome
          connectError? := error?
          forward := if t.cachedBlocking then t.forward else t.forward ∪ .writing } := rfl

/-- What is left when a connection is made or has failed. -/
theorem finishConnect_frame (id : ChannelId) (error? : Option SystemError) (h : TcpHeld ν) :
    let done := h.finishConnect system id error?
    done.state = { h.ended.state with
      interest := done.state.interest, cachedWatch := done.state.cachedWatch
      registered := done.state.registered, connectFailed := done.state.connectFailed
      connectError? := done.state.connectError?, forward := done.state.forward } := by
  intro done
  have hState : done.state = { (h.ended.watch id h.state.cachedWatch).state with
      connectFailed := done.state.connectFailed, connectError? := done.state.connectError?
      forward := done.state.forward } := by
    simp only [done, finishConnect_eq, state_update, (switched_keeps ..).2]
  rw [hState, (watch_frame ..).2]

theorem Accounts.finishConnect (accounts : h.Accounts n b) (id : ChannelId)
    (error? : Option SystemError) : (h.finishConnect system id error?).Accounts n b := by
  have hWatched : (h.ended.watch id h.state.cachedWatch).Accounts n b :=
    Accounts.watch (h := h.ended) (accounts.of_kept rfl rfl rfl) id _
  obtain ⟨hCommands, hState⟩ :=
    (h.ended.watch id h.state.cachedWatch).switched_keeps system
  rw [finishConnect_eq]
  exact hWatched.of_kept hCommands (by rw [state_update, hState]) (by rw [state_update, hState])

end TcpHeld

end EventChannel
