import EventChannel.Proofs.Socket.Record
import EventChannel.Socket.Listen

/-! What opening a candidate can come to: five outcomes, by the answers of the system. The calls
made and the port chosen are read off the outcome, and so is that the listeners stay bound to one
port, where all candidates share it. -/

namespace EventChannel

/-- A call that sets an option of a socket. -/
def SocketCall.isSetting : SocketCall → Bool
  | .minimumBuffers _ _ | .setNonblocking _ _ | .setReuseAddress _ _ | .setReusePort _ _
  | .setV6Only _ _ => true
  | _ => false

/-- The socket whose address a call may change. -/
def SocketCall.rebound? : SocketCall → Option Socket
  | .bind socket _ | .close socket => some socket
  | _ => none

/-- What the addresses of sockets are, as far as it is relied on. A new socket is not yet bound, and
binding it gives it a port, the one asked for unless the choice is left to the system. The address
of a bound socket is told, and changes only with calls on that socket. -/
structure SocketSystem.Binds {σ : Type} (system : SocketSystem σ)
    (bound : σ → Socket → Option SocketAddress) : Prop where
  create : ∀ address s socket, (system.answer (.create address) s).1 = .ok socket →
    bound s socket = none
  bind : ∀ socket address s, (system.answer (.bind socket address) s).1 = .ok () →
    ∃ b, bound (system.after (.bind socket address) s) socket = some b ∧ b.port ≠ 0 ∧
      (address.port ≠ 0 → b.port = address.port)
  localAddress : ∀ socket s b, bound s socket = some b →
    (system.answer (.localAddress socket) s).1 = .ok b
  others : ∀ call s socket, call.rebound? ≠ some socket →
    bound (system.after call s) socket = bound s socket

/-- A call that binds and closes nothing changes no address. -/
theorem SocketSystem.Binds.still {σ : Type} {system : SocketSystem σ}
    {bound : σ → Socket → Option SocketAddress} (binds : system.Binds bound) {call : SocketCall}
    {answer : call.Answer} {s s' : σ} (hAnswer : system.answer call s = (answer, s'))
    (hCall : call.rebound? = none) (other : Socket) : bound s' other = bound s other := by
  have hSame := binds.others call s other (by simp [hCall])
  rwa [after, hAnswer] at hSame

/-- Recording the calls changes nothing about the addresses. -/
theorem SocketSystem.Binds.traced {σ : Type} {system : SocketSystem σ}
    {bound : σ → Socket → Option SocketAddress} (binds : system.Binds bound) :
    system.traced.Binds fun p => bound p.1 where
  create address p := binds.create address p.1
  bind socket address p := binds.bind socket address p.1
  localAddress socket p := binds.localAddress socket p.1
  others call p := binds.others call p.1

namespace ListenRound

variable {σ : Type}

/-- What the opening of an address comes to. With `shared` the listeners of the round share a
port. -/
inductive Opens (system : SocketSystem σ) (options : ListenOptions) (shared : Bool)
    (r : ListenRound) (address : SocketAddress) (s : σ) : ListenStep × ListenRound × σ → Prop
  | uncreated {e : SystemError} {s₁ : σ}
      (hCreate : system.answer (.create address) s = (.error e, s₁)) :
      Opens system options shared r address s (.next, r.fail .create e, s₁)
  | unsupported {socket : Socket} {s₁ s₂ : σ}
      (hCreate : system.answer (.create address) s = (.ok socket, s₁))
      (hSetUp : setUp system options address socket s₁ = (false, s₂)) :
      Opens system options shared r address s
        (.unsupported, r, system.after (.close socket) s₂)
  | unbound {socket : Socket} {e : SystemError} {s₁ s₂ s₃ : σ}
      (hCreate : system.answer (.create address) s = (.ok socket, s₁))
      (hSetUp : setUp system options address socket s₁ = (true, s₂))
      (hBind : system.answer (.bind socket address) s₂ = (.error e, s₃)) :
      Opens system options shared r address s (giveUp system shared r socket .bind e s₃)
  | unheard {socket : Socket} {r₁ : ListenRound} {e : SystemError} {s₁ s₂ s₃ s₄ s₅ : σ}
      (hCreate : system.answer (.create address) s = (.ok socket, s₁))
      (hSetUp : setUp system options address socket s₁ = (true, s₂))
      (hBind : system.answer (.bind socket address) s₂ = (.ok (), s₃))
      (hChoose : choosePort system shared r socket s₃ = (r₁, s₄))
      (hListen : system.answer (.listen socket options.queueLength) s₄ = (.error e, s₅)) :
      Opens system options shared r address s (giveUp system shared r₁ socket .listen e s₅)
  | listening {socket : Socket} {r₁ : ListenRound} {told : Except SystemError SocketAddress}
      {s₁ s₂ s₃ s₄ s₅ s₆ : σ}
      (hCreate : system.answer (.create address) s = (.ok socket, s₁))
      (hSetUp : setUp system options address socket s₁ = (true, s₂))
      (hBind : system.answer (.bind socket address) s₂ = (.ok (), s₃))
      (hChoose : choosePort system shared r socket s₃ = (r₁, s₄))
      (hListen : system.answer (.listen socket options.queueLength) s₄ = (.ok (), s₅))
      (hLocal : system.answer (.localAddress socket)
        (system.after (.setNonblocking socket true) s₅) = (told, s₆)) :
      Opens system options shared r address s
        (.next, { r₁ with listeners := r₁.listeners ++ [⟨socket, told.toOption.getD address⟩] }, s₆)

/-- The address that a candidate is opened at: with the port chosen in the round, if there is one
already. -/
def addressOf (chosen? : Option Port) (candidate : SocketAddress) : SocketAddress :=
  candidate.withPort (chosen?.getD candidate.port)

variable {system : SocketSystem σ} {options : ListenOptions}

theorem openCandidate_opens (system : SocketSystem σ) (options : ListenOptions) (shared : Bool)
    (r : ListenRound) (candidate : SocketAddress) (s : σ) :
    Opens system options shared r (if shared then addressOf r.chosen? candidate else candidate) s
      (openCandidate system options shared r candidate s) := by
  have hAddress : (if shared then candidate.withPort (r.chosen?.getD candidate.port)
      else candidate) = if shared then addressOf r.chosen? candidate else candidate := rfl
  rw [openCandidate, hAddress]
  generalize (if shared then addressOf r.chosen? candidate else candidate) = address
  rcases hCreate : system.answer (.create address) s with ⟨e | socket, s₁⟩
  · exact .uncreated hCreate
  simp only
  rcases hSetUp : setUp system options address socket s₁ with ⟨_ | _, s₂⟩
  · exact .unsupported hCreate hSetUp
  simp only
  rcases hBind : system.answer (.bind socket address) s₂ with ⟨e | done, s₃⟩
  · exact .unbound hCreate hSetUp hBind
  simp only
  rcases hChoose : choosePort system shared r socket s₃ with ⟨r₁, s₄⟩
  simp only
  rcases hListen : system.answer (.listen socket options.queueLength) s₄ with ⟨e | done, s₅⟩
  · exact .unheard hCreate hSetUp hBind hChoose hListen
  simp only
  split
  · rename_i b hTold
    exact .listening hCreate hSetUp hBind hChoose hListen (Prod.ext hTold rfl)
  · rename_i e hTold
    exact .listening hCreate hSetUp hBind hChoose hListen (Prod.ext hTold rfl)

/-- What calls that set options leave as it is, setting up a socket leaves as it is. -/
theorem setUp_of_settings (system : SocketSystem σ) (options : ListenOptions) (P : σ → Prop)
    (hSetting : ∀ call s, call.isSetting = true → P s → P (system.after call s))
    (address : SocketAddress) (socket : Socket) {s : σ} (hStart : P s) :
    P (setUp system options address socket s).2 := by
  have hBuffers := hSetting (.minimumBuffers socket minimumBufferSize) s rfl hStart
  have hReuse : P (if options.reuseAddress then
      system.after (.setReuseAddress socket true)
        (system.after (.minimumBuffers socket minimumBufferSize) s)
      else system.after (.minimumBuffers socket minimumBufferSize) s) := by
    split
    · exact hSetting _ _ rfl hBuffers
    · exact hBuffers
  have hReusePort (s : σ) (h : P s) : P (if options.reusePort then
      system.answer (.setReusePort socket true) s else (.ok (), s)).2 := by
    split
    · exact hSetting (.setReusePort socket true) s rfl h
    · exact h
  have hOnly (s : σ) (h : P s) :
      P (if address.isV4 then s else system.after (.setV6Only socket true) s) := by
    split
    · exact h
    · exact hSetting _ _ rfl h
  have hAsked := hReusePort _ hReuse
  simp only [setUp]
  split
  · split
    · exact hAsked
    · exact hOnly _ hAsked
  · exact hOnly _ hAsked

/-- The listeners are bound to the addresses kept of them, all with the port that was chosen. -/
structure Shares (bound : σ → Socket → Option SocketAddress) (r : ListenRound) (s : σ) : Prop where
  nonzero : ∀ port, r.chosen? = some port → port ≠ 0
  listens : ∀ l ∈ r.listeners, bound s l.socket = some l.address ∧ r.chosen? = some l.address.port

variable {bound : σ → Socket → Option SocketAddress}

/-- Nothing matters but the addresses of the listeners and the port. -/
theorem Shares.of_kept {r r' : ListenRound} {s s' : σ} (shares : Shares bound r s)
    (hChosen : r'.chosen? = r.chosen?) (hListeners : r'.listeners = r.listeners)
    (hKept : ∀ l ∈ r.listeners, bound s' l.socket = bound s l.socket) : Shares bound r' s' where
  nonzero := hChosen ▸ shares.nonzero
  listens l hMem := by
    rw [hListeners] at hMem
    rw [hKept l hMem, hChosen]
    exact shares.listens l hMem

/-- A socket that is not bound is none of the listeners. -/
theorem Shares.apart {r : ListenRound} {s : σ} (shares : Shares bound r s) {socket : Socket}
    (hNew : bound s socket = none) : ∀ l ∈ r.listeners, l.socket ≠ socket := by
  rintro l hMem rfl
  rw [(shares.listens l hMem).1] at hNew
  cases hNew

/-- A call on a socket that is none of the listeners. -/
theorem Shares.after (binds : system.Binds bound) {r : ListenRound} {s : σ}
    (shares : Shares bound r s) (call : SocketCall) {socket : Socket}
    (hCall : call.rebound? = some socket) (hApart : ∀ l ∈ r.listeners, l.socket ≠ socket) :
    Shares bound r (system.after call s) := by
  apply shares.of_kept rfl rfl
  intro l hMem
  apply binds.others
  rw [hCall]
  intro hSame
  exact hApart l hMem (Option.some.inj hSame).symm

/-- The candidate that failed is closed, and the others stay as they are. -/
theorem Shares.giveUp (binds : system.Binds bound) {r : ListenRound} {s : σ}
    (shares : Shares bound r s) {socket : Socket} (hApart : ∀ l ∈ r.listeners, l.socket ≠ socket)
    (stage : ListenStage) (e : SystemError) :
    Shares bound (giveUp system true r socket stage e s).2.1
      (ListenRound.giveUp system true r socket stage e s).2.2 := by
  have hClosed := shares.after binds (.close socket) rfl hApart
  exact ⟨hClosed.nonzero, hClosed.listens⟩

/-- Setting up a socket changes no address. -/
theorem setUp_bound (binds : system.Binds bound) (options : ListenOptions)
    (address : SocketAddress) (socket : Socket) (s : σ) (other : Socket) :
    bound (setUp system options address socket s).2 other = bound s other := by
  apply setUp_of_settings system options (fun s' => bound s' other = bound s other) _ _ _ rfl
  intro call s' hSetting hSame
  rw [binds.others call s' other, hSame]
  cases call <;> simp_all [SocketCall.isSetting, SocketCall.rebound?]

/-- Once a socket is bound, its port is the one chosen. -/
theorem choosePort_shares (binds : system.Binds bound) {r r₁ : ListenRound} {s s₁ : σ}
    (shares : Shares bound r s) {socket : Socket} {b : SocketAddress}
    (hBound : bound s socket = some b) (hNonzero : b.port ≠ 0)
    (hPort : ∀ port, r.chosen? = some port → b.port = port)
    (hChoose : choosePort system true r socket s = (r₁, s₁)) :
    Shares bound r₁ s₁ ∧ r₁.chosen? = some b.port ∧ r₁.listeners = r.listeners ∧
      bound s₁ socket = some b := by
  cases hChosen : r.chosen? with
  | some port =>
    simp only [choosePort, hChosen, Option.isNone_some, Bool.and_false] at hChoose
    cases hChoose
    exact ⟨shares, by rw [hChosen, hPort port hChosen], rfl, hBound⟩
  | none =>
    rcases hLocal : system.answer (.localAddress socket) s with ⟨told, s'⟩
    have hTold := binds.localAddress socket s b hBound
    have hSame := binds.still hLocal rfl socket
    rw [hLocal] at hTold
    obtain rfl : told = .ok b := hTold
    simp only [choosePort, hChosen, hLocal, Option.isNone_none, Bool.and_self, if_true] at hChoose
    cases hChoose
    refine ⟨⟨?_, ?_⟩, rfl, rfl, hSame.trans hBound⟩
    · rintro port hPort'
      cases hPort'
      exact hNonzero
    · intro l hMem
      have hOther := (shares.listens l hMem).2
      rw [hChosen] at hOther
      cases hOther

/-- However the opening of a candidate ends, the listeners share their port. -/
theorem Opens.shares (binds : system.Binds bound) {r : ListenRound} {address : SocketAddress}
    {s : σ} {outcome : ListenStep × ListenRound × σ} (shares : Shares bound r s)
    (hAddress : ∀ port, r.chosen? = some port → address.port = port)
    (opens : Opens system options true r address s outcome) :
    Shares bound outcome.2.1 outcome.2.2 := by
  have hReady {socket : Socket} {ready : Bool} {s₁ s₂ : σ}
      (hCreate : system.answer (.create address) s = (.ok socket, s₁))
      (hSetUp : setUp system options address socket s₁ = (ready, s₂)) :
      Shares bound r s₂ ∧ ∀ l ∈ r.listeners, l.socket ≠ socket := by
    have hOpened := shares.of_kept rfl rfl fun l _ => binds.still hCreate rfl l.socket
    have hSame (other : Socket) : bound s₂ other = bound s₁ other := by
      have hSetting := setUp_bound binds options address socket s₁ other
      rwa [hSetUp] at hSetting
    refine ⟨hOpened.of_kept rfl rfl fun l _ => hSame l.socket, shares.apart ?_⟩
    exact binds.create address s socket (by rw [hCreate])
  have hChosen {socket : Socket} {r₁ : ListenRound} {s₁ s₂ s₃ s₄ : σ}
      (hCreate : system.answer (.create address) s = (.ok socket, s₁))
      (hSetUp : setUp system options address socket s₁ = (true, s₂))
      (hBind : system.answer (.bind socket address) s₂ = (.ok (), s₃))
      (hChoose : choosePort system true r socket s₃ = (r₁, s₄)) :
      ∃ b, Shares bound r₁ s₄ ∧ r₁.chosen? = some b.port ∧ r₁.listeners = r.listeners ∧
        bound s₄ socket = some b := by
    obtain ⟨hShares, hApart⟩ := hReady hCreate hSetUp
    have hBound := hShares.after binds (.bind socket address) rfl hApart
    obtain ⟨b, hGiven, hNonzero, hAsked⟩ := binds.bind socket address s₂ (by rw [hBind])
    rw [SocketSystem.after, hBind] at hBound hGiven
    refine ⟨b, choosePort_shares binds hBound hGiven hNonzero ?_ hChoose⟩
    intro port hPort
    have hSame := hAddress port hPort
    rw [← hSame]
    exact hAsked (hSame ▸ shares.nonzero port hPort)
  cases opens with
  | uncreated hCreate =>
    exact shares.of_kept rfl rfl fun l _ => binds.still hCreate rfl l.socket
  | unsupported hCreate hSetUp =>
    obtain ⟨hShares, hApart⟩ := hReady hCreate hSetUp
    exact hShares.after binds (.close _) rfl hApart
  | @unbound socket e _ s₂ s₃ hCreate hSetUp hBind =>
    obtain ⟨hShares, hApart⟩ := hReady hCreate hSetUp
    have hRefused := hShares.after binds (.bind socket address) rfl hApart
    rw [SocketSystem.after, hBind] at hRefused
    exact hRefused.giveUp binds hApart .bind e
  | @unheard socket r₁ e _ s₂ s₃ s₄ s₅ hCreate hSetUp hBind hChoose hListen =>
    obtain ⟨b, hShares, -, hListeners, -⟩ := hChosen hCreate hSetUp hBind hChoose
    have hRefused := hShares.of_kept rfl rfl fun l _ => binds.still hListen rfl l.socket
    apply hRefused.giveUp binds
    rw [hListeners]
    exact (hReady hCreate hSetUp).2
  | @listening socket r₁ told _ s₂ s₃ s₄ s₅ s₆ hCreate hSetUp hBind hChoose hListen hLocal =>
    obtain ⟨b, hShares, hPort, hListeners, hBound⟩ := hChosen hCreate hSetUp hBind hChoose
    have hSame (other : Socket) : bound s₆ other = bound s₄ other := by
      rw [binds.still hLocal rfl other, binds.others _ _ _ (by simp [SocketCall.rebound?]),
        binds.still hListen rfl other]
    have hTold := binds.localAddress socket (system.after (.setNonblocking socket true) s₅) b
      (by rw [← binds.still hLocal rfl socket, hSame, hBound])
    rw [hLocal] at hTold
    obtain rfl : told = .ok b := hTold
    refine ⟨hShares.nonzero, ?_⟩
    intro l hMem
    simp only [List.mem_append, List.mem_singleton] at hMem
    show bound s₆ l.socket = _ ∧ r₁.chosen? = _
    rw [hSame]
    rcases hMem with hMem | rfl
    · exact hShares.listens l hMem
    · exact ⟨hBound, hPort⟩

end ListenRound

end EventChannel
