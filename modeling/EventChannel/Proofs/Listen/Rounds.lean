import EventChannel.Proofs.Listen.Candidate

/-! What is done to open listeners that share a port, read off the record of the calls: rounds, each
of which goes through the candidates from the first one on with the ports asked for, until a socket
of the round is bound. Another round follows on a collision, and on nothing else. -/

namespace EventChannel

/-- A call that meets an address that is taken. -/
def SocketEvent.isCollision : SocketEvent → Bool
  | ⟨.bind _ _, .error e⟩ | ⟨.listen _ _, .error e⟩ => e.errno? == some Errno.addressInUse
  | _ => false

/-- Whether some call met an address that is taken. -/
def collides (events : List SocketEvent) : Bool := events.any (·.isCollision)

@[simp] theorem collides_nil : collides [] = false := rfl

@[simp] theorem collides_cons (e : SocketEvent) (rest : List SocketEvent) :
    collides (e :: rest) = (e.isCollision || collides rest) := rfl

@[simp] theorem collides_append (first second : List SocketEvent) :
    collides (first ++ second) = (collides first || collides second) :=
  List.any_append

/-- Closing meets no address. -/
@[simp] theorem collides_closings (sockets : List Socket) :
    collides (SocketEvent.closings sockets) = false := by
  simp [collides, SocketEvent.closings, SocketEvent.isCollision]

/-- Setting options meets no address. -/
theorem collides_of_settings {settings : List SocketEvent}
    (hSettings : ∀ e ∈ settings, e.call.isSetting = true) : collides settings = false := by
  rw [collides, List.any_eq_false]
  intro e hMem
  have hSetting := hSettings e hMem
  obtain ⟨call, answer⟩ := e
  cases call <;> simp_all [SocketEvent.isCollision, SocketCall.isSetting]

/-- What follows on the failure of a candidate to be bound or to listen. -/
def ListenStep.after (e : SystemError) : ListenStep :=
  if e.errno? == some Errno.addressInUse then .collision else .next

namespace ListenRound

/-- How a socket that is bound tells the port, where none was chosen before. -/
inductive Choice (socket : Socket) : Option Port → List SocketEvent → Option Port → Prop
  | known (port : Port) : Choice socket (some port) [] (some port)
  | told (b : SocketAddress) : Choice socket none [⟨.localAddress socket, .ok b⟩] (some b.port)
  | untold (e : SystemError) : Choice socket none [⟨.localAddress socket, .error e⟩] none

/-- The calls by which a candidate is opened, with the port chosen before and after, and what
follows. -/
inductive Opening (options : ListenOptions) (candidate : SocketAddress) (chosen? : Option Port) :
    List SocketEvent → Option Port → ListenStep → Prop
  | uncreated (e : SystemError) :
      Opening options candidate chosen? [⟨.create (addressOf chosen? candidate), .error e⟩]
        chosen? .next
  | unsupported (socket : Socket) {settings : List SocketEvent}
      (hSettings : ∀ e ∈ settings, e.call.isSetting = true) :
      Opening options candidate chosen?
        ([⟨.create (addressOf chosen? candidate), .ok socket⟩] ++ settings ++ [⟨.close socket, ()⟩])
        chosen? .unsupported
  | unbound (socket : Socket) {settings : List SocketEvent}
      (hSettings : ∀ e ∈ settings, e.call.isSetting = true) (e : SystemError) :
      Opening options candidate chosen?
        ([⟨.create (addressOf chosen? candidate), .ok socket⟩] ++ settings ++
          [⟨.bind socket (addressOf chosen? candidate), .error e⟩, ⟨.close socket, ()⟩])
        chosen? (.after e)
  | unheard (socket : Socket) {settings choice : List SocketEvent} {chosen'? : Option Port}
      (hSettings : ∀ e ∈ settings, e.call.isSetting = true)
      (hChoice : Choice socket chosen? choice chosen'?) (e : SystemError) :
      Opening options candidate chosen?
        ([⟨.create (addressOf chosen? candidate), .ok socket⟩] ++ settings ++
          [⟨.bind socket (addressOf chosen? candidate), .ok ()⟩] ++ choice ++
          [⟨.listen socket options.queueLength, .error e⟩, ⟨.close socket, ()⟩])
        chosen'? (.after e)
  | listening (socket : Socket) {settings choice : List SocketEvent} {chosen'? : Option Port}
      (hSettings : ∀ e ∈ settings, e.call.isSetting = true)
      (hChoice : Choice socket chosen? choice chosen'?) (unblocked : Except SystemError Unit)
      (told : Except SystemError SocketAddress) :
      Opening options candidate chosen?
        ([⟨.create (addressOf chosen? candidate), .ok socket⟩] ++ settings ++
          [⟨.bind socket (addressOf chosen? candidate), .ok ()⟩] ++ choice ++
          [⟨.listen socket options.queueLength, .ok ()⟩, ⟨.setNonblocking socket true, unblocked⟩,
            ⟨.localAddress socket, told⟩])
        chosen'? .next

/-- The calls by which candidates are opened one after the other, until one of them ends the round
and the sockets opened in it are closed. -/
inductive Round (options : ListenOptions) :
    Option Port → List SocketAddress → List SocketEvent → ListenStep → Prop
  | through (chosen? : Option Port) : Round options chosen? [] [] .next
  | next {chosen? chosen'? : Option Port} {candidate : SocketAddress}
      {candidates : List SocketAddress} {first more : List SocketEvent} {step : ListenStep}
      (opening : Opening options candidate chosen? first chosen'? .next)
      (round : Round options chosen'? candidates more step) :
      Round options chosen? (candidate :: candidates) (first ++ more) step
  | ended {chosen? chosen'? : Option Port} {candidate : SocketAddress}
      {candidates : List SocketAddress} {first : List SocketEvent} {step : ListenStep}
      (opening : Opening options candidate chosen? first chosen'? step) (hEnds : step ≠ .next)
      (sockets : List Socket) :
      Round options chosen? (candidate :: candidates) (first ++ SocketEvent.closings sockets) step

/-- Asking for an address meets none. -/
theorem Choice.collides {socket : Socket} {chosen? chosen'? : Option Port}
    {choice : List SocketEvent} (hChoice : Choice socket chosen? choice chosen'?) :
    collides choice = false := by
  cases hChoice <;> rfl

/-- A candidate ends the round with a collision exactly if it met an address that is taken. -/
theorem Opening.collides {options : ListenOptions} {candidate : SocketAddress}
    {chosen? chosen'? : Option Port} {events : List SocketEvent} {step : ListenStep}
    (opening : Opening options candidate chosen? events chosen'? step) :
    collides events = decide (step = .collision) := by
  cases opening with
  | uncreated => rfl
  | unsupported _ hSettings => simp [collides_of_settings hSettings, SocketEvent.isCollision]
  | unbound _ hSettings e =>
    cases hTaken : e.errno? == some Errno.addressInUse <;>
      simp [collides_of_settings hSettings, SocketEvent.isCollision, ListenStep.after, hTaken]
  | unheard _ hSettings hChoice e =>
    cases hTaken : e.errno? == some Errno.addressInUse <;>
      simp [collides_of_settings hSettings, hChoice.collides, SocketEvent.isCollision,
        ListenStep.after, hTaken]
  | listening _ hSettings hChoice =>
    simp [collides_of_settings hSettings, hChoice.collides, SocketEvent.isCollision]

/-- A round ends with a collision exactly if a call in it met an address that is taken. -/
theorem Round.collides {options : ListenOptions} {chosen? : Option Port}
    {candidates : List SocketAddress} {events : List SocketEvent} {step : ListenStep}
    (round : Round options chosen? candidates events step) :
    collides events = decide (step = .collision) := by
  induction round with
  | through => rfl
  | next opening round ih => simp [opening.collides, ih]
  | ended opening hEnds sockets => simp [opening.collides]

variable {σ : Type} {system : SocketSystem σ} {options : ListenOptions}

/-- What is noted of setting up a socket. -/
theorem setUp_traced {address : SocketAddress} {socket : Socket} {ready : Bool}
    {p p' : σ × List SocketEvent}
    (hSetUp : setUp system.traced options address socket p = (ready, p')) :
    ∃ settings, p'.2 = p.2 ++ settings ∧ ∀ e ∈ settings, e.call.isSetting = true := by
  let Noted (p' : σ × List SocketEvent) : Prop :=
    ∃ settings, p'.2 = p.2 ++ settings ∧ ∀ e ∈ settings, e.call.isSetting = true
  have hSetting (call : SocketCall) (p' : σ × List SocketEvent) (hCall : call.isSetting = true)
      (hNoted : Noted p') : Noted (system.traced.after call p') := by
    obtain ⟨settings, hEvents, hSettings⟩ := hNoted
    refine ⟨settings ++ [⟨call, (system.answer call p'.1).1⟩], ?_, ?_⟩
    · rw [← List.append_assoc, ← hEvents]
      rfl
    · intro e hMem
      simp only [List.mem_append, List.mem_singleton] at hMem
      rcases hMem with hMem | rfl
      · exact hSettings e hMem
      · exact hCall
  have hNoted : Noted (setUp system.traced options address socket p).2 :=
    setUp_of_settings system.traced options Noted hSetting address socket ⟨[], by simp, by simp⟩
  rwa [hSetUp] at hNoted

/-- What is noted of a call. -/
theorem traced_noted {call : SocketCall} {answer : call.Answer} {p p' : σ × List SocketEvent}
    (hAnswer : system.traced.answer call p = (answer, p')) : p'.2 = p.2 ++ [⟨call, answer⟩] := by
  cases hAnswer
  rfl

/-- What is noted of the choice of a port. -/
theorem choosePort_traced {r r₁ : ListenRound} {socket : Socket} {p p' : σ × List SocketEvent}
    (hChoose : choosePort system.traced true r socket p = (r₁, p')) :
    ∃ choice, p'.2 = p.2 ++ choice ∧ Choice socket r.chosen? choice r₁.chosen? := by
  cases hChosen : r.chosen? with
  | some port =>
    simp only [choosePort, hChosen, Option.isNone_some, Bool.and_false] at hChoose
    cases hChoose
    exact ⟨[], by simp, by rw [hChosen]; exact .known port⟩
  | none =>
    simp only [choosePort, hChosen, Option.isNone_none, Bool.and_self, if_true] at hChoose
    rcases hLocal : system.traced.answer (.localAddress socket) p with ⟨e | b, q⟩
    all_goals
      rw [hLocal] at hChoose
      cases hChoose
    · exact ⟨_, traced_noted hLocal, by rw [hChosen]; exact .untold e⟩
    · exact ⟨_, traced_noted hLocal, .told b⟩

/-- What is noted of the opening of a candidate. -/
theorem Opens.opening {r : ListenRound} {candidate : SocketAddress} {p : σ × List SocketEvent}
    {outcome : ListenStep × ListenRound × σ × List SocketEvent}
    (opens : Opens system.traced options true r (addressOf r.chosen? candidate) p outcome) :
    ∃ more, outcome.2.2.2 = p.2 ++ more ∧
      Opening options candidate r.chosen? more outcome.2.1.chosen? outcome.1 := by
  cases opens with
  | uncreated hCreate => exact ⟨_, traced_noted hCreate, .uncreated _⟩
  | @unsupported socket p₁ p₂ hCreate hSetUp =>
    obtain ⟨settings, hSet, hSettings⟩ := setUp_traced hSetUp
    refine ⟨_, ?_, .unsupported socket hSettings⟩
    show p₂.2 ++ _ = _
    rw [hSet, traced_noted hCreate]
    simp
  | @unbound socket e p₁ p₂ p₃ hCreate hSetUp hBind =>
    obtain ⟨settings, hSet, hSettings⟩ := setUp_traced hSetUp
    refine ⟨_, ?_, .unbound socket hSettings e⟩
    show p₃.2 ++ _ = _
    rw [traced_noted hBind, hSet, traced_noted hCreate]
    simp
  | @unheard socket r₁ e p₁ p₂ p₃ p₄ p₅ hCreate hSetUp hBind hChoose hListen =>
    obtain ⟨settings, hSet, hSettings⟩ := setUp_traced hSetUp
    obtain ⟨choice, hChosen, hChoice⟩ := choosePort_traced hChoose
    refine ⟨_, ?_, .unheard socket hSettings hChoice e⟩
    show p₅.2 ++ _ = _
    rw [traced_noted hListen, hChosen, traced_noted hBind, hSet, traced_noted hCreate]
    simp
  | @listening socket r₁ told p₁ p₂ p₃ p₄ p₅ p₆ hCreate hSetUp hBind hChoose hListen hLocal =>
    obtain ⟨settings, hSet, hSettings⟩ := setUp_traced hSetUp
    obtain ⟨choice, hChosen, hChoice⟩ := choosePort_traced hChoose
    refine ⟨_, ?_, .listening socket hSettings hChoice
      (system.answer (.setNonblocking socket true) p₅.1).1 told⟩
    show p₆.2 = _
    rw [traced_noted hLocal]
    show p₅.2 ++ _ ++ _ = _
    rw [traced_noted hListen, hChosen, traced_noted hBind, hSet, traced_noted hCreate]
    simp

/-- What is noted of a round. -/
theorem openAll_round (system : SocketSystem σ) (options : ListenOptions)
    (candidates : List SocketAddress) (r : ListenRound) (p : σ × List SocketEvent) :
    ∃ more, (openAll system.traced options true candidates r p).2.2.2 = p.2 ++ more ∧
      Round options r.chosen? candidates more
        (openAll system.traced options true candidates r p).1 := by
  induction candidates generalizing r p with
  | nil => exact ⟨[], by simp [openAll], .through r.chosen?⟩
  | cons candidate rest ih =>
    obtain ⟨first, hFirst, opening⟩ := (openCandidate_opens _ _ true r candidate p).opening
    rcases hOpen : openCandidate system.traced options true r candidate p with ⟨step, r₁, p₁⟩
    rw [hOpen] at hFirst opening
    cases step with
    | next =>
      obtain ⟨more, hMore, round⟩ := ih r₁ p₁
      rw [openAll, hOpen]
      exact ⟨first ++ more, by rw [← List.append_assoc, ← hFirst, hMore], .next opening round⟩
    | collision | unsupported =>
      rw [openAll, hOpen]
      refine ⟨_, ?_, .ended opening (by simp) (r₁.listeners.map (·.socket))⟩
      show (system.traced.closeAll _ (p₁.1, p₁.2)).2 = _
      rw [system.traced_closeAll, ← List.append_assoc, ← hFirst]

/-- Where a round has gone through all candidates, the listeners share their port. -/
theorem openAll_shares {bound : σ → Socket → Option SocketAddress} (binds : system.Binds bound)
    (candidates : List SocketAddress) {r r' : ListenRound} {s s' : σ} (shares : Shares bound r s)
    (hThrough : openAll system options true candidates r s = (.next, r', s')) :
    Shares bound r' s' := by
  induction candidates generalizing r s with
  | nil =>
    cases hThrough
    exact shares
  | cons candidate rest ih =>
    have hAddress (port : Port) (hChosen : r.chosen? = some port) :
        (addressOf r.chosen? candidate).port = port := by
      rw [hChosen]
      rfl
    have opens : Opens system options true r _ s _ := openCandidate_opens _ _ true r candidate s
    rcases hOpen : openCandidate system options true r candidate s with ⟨step, r₁, s₁⟩
    rw [openAll, hOpen] at hThrough
    rw [hOpen] at opens
    cases step with
    | next => exact ih (opens.shares binds shares hAddress) hThrough
    | collision | unsupported => cases hThrough

end ListenRound

variable {σ : Type} {system : SocketSystem σ} {options : ListenOptions}

/-- What is noted of up to `n` rounds. Another round follows exactly on one that has met an address
that is taken, as long as a round is left. -/
structure Rounds (options : ListenOptions) (candidates : List SocketAddress) (n : Nat)
    (rounds : List (List SocketEvent)) : Prop where
  each : ∀ round ∈ rounds, ∃ step, ListenRound.Round options none candidates round step
  begun : n ≠ 0 → rounds ≠ []
  length_le : rounds.length ≤ n
  again : ∀ i (h : i < rounds.length),
    i + 1 < rounds.length ↔ collides rounds[i] = true ∧ i + 1 < n

/-- A round that is the last one. -/
theorem Rounds.last {candidates : List SocketAddress} {first : List SocketEvent}
    {step : ListenStep} (round : ListenRound.Round options none candidates first step)
    (hEnds : step ≠ .collision) (n : Nat) : Rounds options candidates (n + 1) [first] where
  each := by
    intro other hMem
    rw [List.mem_singleton.1 hMem]
    exact ⟨step, round⟩
  begun _ := by simp
  length_le := by simp
  again i h := by
    obtain rfl : i = 0 := by simpa using h
    simp [round.collides, hEnds]

/-- A round that is followed by others, if any are left. -/
theorem Rounds.cons {candidates : List SocketAddress} {first : List SocketEvent}
    {more : List (List SocketEvent)} {n : Nat}
    (round : ListenRound.Round options none candidates first .collision)
    (rounds : Rounds options candidates n more) :
    Rounds options candidates (n + 1) (first :: more) where
  each := by
    intro other hMem
    rcases List.mem_cons.1 hMem with rfl | hMem
    · exact ⟨.collision, round⟩
    · exact rounds.each other hMem
  begun _ := by simp
  length_le := by
    have hLength := rounds.length_le
    simpa using hLength
  again i h := by
    cases i with
    | zero =>
      have hBegun : n ≠ 0 → 0 < more.length := fun h => List.length_pos_iff.2 (rounds.begun h)
      have hLength := rounds.length_le
      simp only [List.length_cons, List.getElem_cons_zero, round.collides, decide_true, true_and]
      omega
    | succ i =>
      simp only [List.length_cons, List.getElem_cons_succ, Nat.add_lt_add_iff_right]
      exact rounds.again i (by simpa using h)

/-- What is noted of opening listeners are such rounds. -/
theorem listenRounds_rounds (system : SocketSystem σ) (options : ListenOptions)
    (candidates : List SocketAddress) (n : Nat)
    (failure? : Option ListenFailure) (p : σ × List SocketEvent) :
    ∃ rounds, (listenRounds system.traced options true candidates n failure? p).2.2 =
      p.2 ++ rounds.flatten ∧ Rounds options candidates n rounds := by
  induction n generalizing failure? p with
  | zero => exact ⟨[], by simp [listenRounds], ⟨by simp, by simp, by simp, by simp⟩⟩
  | succ n ih =>
    obtain ⟨first, hFirst, round⟩ :=
      ListenRound.openAll_round system options candidates { failure? } p
    rw [listenRounds]
    rcases hOpen : ListenRound.openAll system.traced options true candidates { failure? } p with
      ⟨step, r, p₁⟩
    rw [hOpen] at hFirst round
    have hNoted : p₁.2 = p.2 ++ first := hFirst
    cases step with
    | unsupported => exact ⟨[first], by simp [hNoted], .last round (by simp) n⟩
    | next =>
      refine ⟨[first], ?_, .last round (by simp) n⟩
      simp only
      split <;> simp [listenRounds, hNoted]
    | collision =>
      obtain ⟨more, hMore, rounds⟩ := ih r.failure? p₁
      exact ⟨first :: more, by simp [hMore, hNoted], .cons round rounds⟩

/-- Listeners that are returned share their port. -/
theorem listenRounds_shares {bound : σ → Socket → Option SocketAddress}
    (binds : system.Binds bound) (candidates : List SocketAddress) {n : Nat}
    {failure? : Option ListenFailure} {listeners : List Listener} {s s' : σ}
    (hOk : listenRounds system options true candidates n failure? s = (.ok listeners, s')) :
    listeners ≠ [] ∧ ∃ r, r.listeners = listeners ∧ ListenRound.Shares bound r s' := by
  induction n generalizing failure? s with
  | zero => simp [listenRounds] at hOk
  | succ n ih =>
    rw [listenRounds] at hOk
    rcases hRound : ListenRound.openAll system options true candidates { failure? } s with
      ⟨step, r, s₁⟩
    rw [hRound] at hOk
    cases step with
    | unsupported => cases hOk
    | collision => exact ih hOk
    | next =>
      cases hListeners : r.listeners with
      | nil => simp [hListeners, listenRounds] at hOk
      | cons l rest =>
        simp only [hListeners, List.isEmpty_cons] at hOk
        cases hOk
        have hNone : ListenRound.Shares bound { failure? } s :=
          ⟨by simp, by simp⟩
        exact ⟨by simp, r, hListeners, ListenRound.openAll_shares binds candidates hNone hRound⟩

/-- Where the first candidate leaves the port to the system, all listeners that are returned are
bound to one port, and there is one. The candidates are gone through in at most ten rounds, each of
which begins with the first of them and no port chosen. Another round follows exactly on one in
which an address was found taken, as long as fewer than ten were begun. -/
theorem listeners_share_port {bound : σ → Socket → Option SocketAddress}
    (binds : system.Binds bound) (first : SocketAddress) (rest : List SocketAddress)
    (hFirst : first.port = 0) (options : ListenOptions) (s : σ) :
    ∃ result s' rounds,
      openListeners system.traced (first :: rest) options (s, []) = (result, s', rounds.flatten) ∧
      (∀ listeners, result = .ok listeners → listeners ≠ [] ∧ ∃ port, port ≠ 0 ∧
        ∀ l ∈ listeners, bound s' l.socket = some l.address ∧ l.address.port = port) ∧
      rounds ≠ [] ∧ rounds.length ≤ 10 ∧
      (∀ round ∈ rounds, ∃ step, ListenRound.Round options none (first :: rest) round step) ∧
      ∀ i (h : i < rounds.length),
        i + 1 < rounds.length ↔ collides rounds[i] = true ∧ i + 1 < 10 := by
  have hShared : openListeners system.traced (first :: rest) options (s, []) =
      listenRounds system.traced options true (first :: rest) maxListenRounds none (s, []) := by
    simp [openListeners, hFirst]
  obtain ⟨rounds, hNoted, hRounds⟩ := listenRounds_rounds system options (first :: rest)
    maxListenRounds none (s, [])
  rcases hResult : listenRounds system.traced options true (first :: rest) maxListenRounds none
    (s, []) with ⟨result, s', events⟩
  rw [hResult] at hNoted
  obtain rfl : events = rounds.flatten := hNoted
  refine ⟨result, s', rounds, hShared.trans hResult, ?_, hRounds.begun (by decide),
    hRounds.length_le, hRounds.each, hRounds.again⟩
  rintro listeners rfl
  obtain ⟨hSome, r, rfl, shares⟩ := listenRounds_shares binds.traced (first :: rest) hResult
  refine ⟨hSome, ?_⟩
  obtain ⟨l, others, hListeners⟩ := List.exists_cons_of_ne_nil hSome
  have hChosen := (shares.listens l (by simp [hListeners])).2
  refine ⟨l.address.port, shares.nonzero _ hChosen, ?_⟩
  intro other hMem
  obtain ⟨hBound, hOther⟩ := shares.listens other hMem
  exact ⟨hBound, Option.some.inj (hOther.symm.trans hChosen)⟩

/-- A desk that hands out the port 40000 to whoever asks for any. Its first socket cannot listen. -/
structure Desk where
  next : Socket := 0
  bound : Socket → Option SocketAddress := fun _ => none

def Desk.give (address : SocketAddress) : SocketAddress :=
  if address.port = 0 then address.withPort 40000 else address

def Desk.serving : SocketSystem Desk where
  answer
    | .create _, d => match d.bound d.next with
      | none => (.ok d.next, { d with next := d.next + 1 })
      | some _ => (.error (.number Errno.badDescriptor), d)
    | .bind socket address, d =>
      (.ok (), { d with
        bound := fun other => if other = socket then some (Desk.give address) else d.bound other })
    | .localAddress socket, d => match d.bound socket with
      | some address => (.ok address, d)
      | none => (.error (.number Errno.invalidArgument), d)
    | .listen socket _, d =>
      (if socket = 0 then .error (.number Errno.invalidArgument) else .ok (), d)
    | .takeError _, d => (.ok none, d)
    | .minimumBuffers _ _, d | .close _, d => ((), d)
    | .setNonblocking _ _, d | .setReuseAddress _ _, d | .setReusePort _ _, d => (.ok (), d)
    | .setV6Only _ _, d | .connect _ _, d => (.ok (), d)

theorem desk_binds : Desk.serving.Binds Desk.bound where
  create _ d socket hCreate := by
    simp only [Desk.serving] at hCreate
    split at hCreate
    · cases hCreate
      assumption
    · cases hCreate
  bind socket address d _ := by
    refine ⟨Desk.give address, by simp [SocketSystem.after, Desk.serving], ?_, ?_⟩
    · unfold Desk.give
      split
      · exact (by decide : (40000 : Port) ≠ 0)
      · assumption
    · intro hPort
      rw [Desk.give, if_neg hPort]
  localAddress socket d b hBound := by
    simp only [Desk.serving, hBound]
  others call d socket hOther := by
    cases call with
    | create address =>
      simp only [SocketSystem.after, Desk.serving]
      split <;> rfl
    | bind other address =>
      have hNot : socket ≠ other := fun hSame => hOther (congrArg some hSame.symm)
      simp [SocketSystem.after, Desk.serving, hNot]
    | localAddress other =>
      simp only [SocketSystem.after, Desk.serving]
      split <;> rfl
    | _ => rfl

/-- The candidate that gets the port cannot listen on it, but the other one does. -/
theorem listeners_share_port_desk :
    let any : SocketAddress := { host := .anyV4, port := 0 }
    let other : SocketAddress := { host := .anyV6, port := 0 }
    Desk.serving.Binds Desk.bound ∧ any.port = 0 ∧
      ∃ l, (openListeners Desk.serving.traced [any, other] {} ({}, [])).1 = .ok [l] ∧
        l.address.port ≠ 0 := by
  intro any other
  obtain ⟨result, s', rounds, hOpen, hShare, -⟩ :=
    listeners_share_port desk_binds any [other] rfl {} {}
  have hResult : (openListeners Desk.serving.traced [any, other] {} ({}, [])).1 =
      .ok [⟨1, other.withPort 40000⟩] := by with_unfolding_all rfl
  obtain ⟨-, port, hPort, hAll⟩ := hShare _ ((congrArg (·.1) hOpen).symm.trans hResult)
  obtain ⟨-, hSame⟩ := hAll _ (List.mem_singleton.2 rfl)
  exact ⟨desk_binds, rfl, _, hResult, hSame ▸ hPort⟩

end EventChannel
