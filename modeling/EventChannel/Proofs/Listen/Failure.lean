import EventChannel.Proofs.Listen.Rounds

/-! Of all the calls made while listeners are opened, those that create a socket, bind it and put it
to listening may fail with consequences. What is kept of the failures so far is the first of those
that came farthest, and it is kept from round to round. So it is what is reported when no listener
could be opened. -/

namespace EventChannel

/-- The failure of a candidate that a call tells. A call that sets an option or asks for an address
tells none. -/
def SocketEvent.failure? : SocketEvent → Option ListenFailure
  | ⟨.create _, .error e⟩ => some ⟨.create, e⟩
  | ⟨.bind _ _, .error e⟩ => some ⟨.bind, e⟩
  | ⟨.listen _ _, .error e⟩ => some ⟨.listen, e⟩
  | _ => none

/-- The failures of candidates, in order. -/
def setbacks (events : List SocketEvent) : List ListenFailure := events.filterMap (·.failure?)

@[simp] theorem setbacks_append (first second : List SocketEvent) :
    setbacks (first ++ second) = setbacks first ++ setbacks second :=
  List.filterMap_append

@[simp] theorem setbacks_closings (sockets : List Socket) :
    setbacks (SocketEvent.closings sockets) = [] := by
  simp [setbacks, SocketEvent.closings, SocketEvent.failure?]

/-- Calls of other kinds tell no failure. -/
theorem SocketEvent.kind_of_failure? {e : SocketEvent} {f : ListenFailure}
    (hFailure : e.failure? = some f) :
    e.call.isSetting = false ∧ ∀ socket, e.call ≠ .localAddress socket := by
  obtain ⟨call, answer⟩ := e
  cases call with
  | create | bind | listen => exact ⟨rfl, fun _ => nofun⟩
  | _ => cases hFailure

/-- Setting options tells no failure. -/
theorem setbacks_settings {settings : List SocketEvent}
    (hSettings : ∀ e ∈ settings, e.call.isSetting = true) : setbacks settings = [] := by
  refine List.filterMap_eq_nil_iff.2 fun e hMem => Option.eq_none_iff_forall_ne_some.2 ?_
  intro f hFailure
  have hSetting := hSettings e hMem
  rw [(SocketEvent.kind_of_failure? hFailure).1] at hSetting
  cases hSetting

/-- The first of those failures that came farthest, if there was one. -/
inductive Farthest : List ListenFailure → Option ListenFailure → Prop
  | unfailed : Farthest [] none
  | first {before after : List ListenFailure} {f : ListenFailure}
      (hBefore : ∀ g ∈ before, g.stage.rank < f.stage.rank)
      (hAfter : ∀ g ∈ after, g.stage.rank ≤ f.stage.rank) :
      Farthest (before ++ f :: after) (some f)

namespace Farthest

variable {known? : Option ListenFailure} {failed : List ListenFailure}

/-- One more failure is kept only if it came farther. -/
theorem snoc (farthest : Farthest failed known?) (f : ListenFailure) :
    Farthest (failed ++ [f]) (some (.farther known? f)) := by
  cases farthest with
  | unfailed =>
    show Farthest ([] ++ f :: []) (some f)
    exact .first nofun nofun
  | @first before after known hBefore hAfter =>
    simp only [ListenFailure.farther]
    split
    · next hFarther =>
      refine .first (fun g hMem => ?_) nofun
      rcases List.mem_append.1 hMem with hMem | hMem
      · exact Nat.lt_trans (hBefore g hMem) hFarther
      · rcases List.mem_cons.1 hMem with rfl | hMem
        · exact hFarther
        · exact Nat.lt_of_le_of_lt (hAfter g hMem) hFarther
    · next hNot =>
      rw [List.append_assoc, List.cons_append]
      refine .first hBefore fun g hMem => ?_
      rcases List.mem_append.1 hMem with hMem | hMem
      · exact hAfter g hMem
      · rw [List.mem_singleton.1 hMem]
        exact Nat.le_of_not_lt hNot

/-- What is kept is told by a call, before which no failure came as far and after which none came
farther. -/
theorem told {events : List SocketEvent} {f : ListenFailure}
    (farthest : Farthest (setbacks events) (some f)) :
    ∃ before e after, events = before ++ e :: after ∧ e.failure? = some f ∧
      (∀ g ∈ setbacks before, g.stage.rank < f.stage.rank) ∧
      ∀ g ∈ setbacks after, g.stage.rank ≤ f.stage.rank := by
  generalize hFailed : setbacks events = failed at farthest
  cases farthest with
  | first hBefore hAfter =>
    obtain ⟨first, second, rfl, rfl, hSecond⟩ := List.filterMap_eq_append_iff.1 hFailed
    obtain ⟨quiet, e, after, rfl, hQuiet, hFailure, rfl⟩ := List.filterMap_eq_cons_iff.1 hSecond
    refine ⟨first ++ quiet, e, after, by simp, hFailure, ?_, hAfter⟩
    have hNone : setbacks quiet = [] := List.filterMap_eq_nil_iff.2 hQuiet
    rw [setbacks_append, hNone, List.append_nil]
    exact hBefore

end Farthest

namespace ListenRound

variable {σ : Type} {system : SocketSystem σ} {options : ListenOptions} {shared : Bool}

/-- What a call adds to the failures. -/
theorem setbacks_noted {call : SocketCall} {answer : call.Answer} {p p' : σ × List SocketEvent}
    (hAnswer : system.traced.answer call p = (answer, p')) :
    setbacks p'.2 = setbacks p.2 ++ (SocketEvent.failure? ⟨call, answer⟩).toList := by
  rw [traced_noted hAnswer, setbacks_append]
  cases hFailure : SocketEvent.failure? ⟨call, answer⟩ <;> simp [setbacks, hFailure]

/-- A socket that is set up has not failed. -/
theorem setbacks_setUp {address : SocketAddress} {socket : Socket} {ready : Bool}
    {p p' : σ × List SocketEvent}
    (hSetUp : setUp system.traced options address socket p = (ready, p')) :
    setbacks p'.2 = setbacks p.2 := by
  obtain ⟨settings, hNoted, hSettings⟩ := setUp_traced hSetUp
  rw [hNoted, setbacks_append, setbacks_settings hSettings, List.append_nil]

/-- A socket that cannot tell its port has not failed. -/
theorem setbacks_choosePort {r r₁ : ListenRound} {socket : Socket} {p p' : σ × List SocketEvent}
    (hChoose : choosePort system.traced shared r socket p = (r₁, p')) :
    setbacks p'.2 = setbacks p.2 ∧ r₁.failure? = r.failure? := by
  rw [choosePort] at hChoose
  split at hChoose
  · rcases hLocal : system.traced.answer (.localAddress socket) p with ⟨e | b, q⟩
    all_goals
      rw [hLocal] at hChoose
      cases hChoose
      exact ⟨by rw [setbacks_noted hLocal]; exact List.append_nil _, rfl⟩
  · cases hChoose
    exact ⟨rfl, rfl⟩

theorem setbacks_close (socket : Socket) (p : σ × List SocketEvent) :
    setbacks (system.traced.after (.close socket) p).2 = setbacks p.2 :=
  (setbacks_noted rfl).trans (List.append_nil _)

/-- However the opening of a candidate ends, the first of the failures so far that came farthest is
kept. -/
theorem Opens.farthest {r : ListenRound} {address : SocketAddress} {p : σ × List SocketEvent}
    {outcome : ListenStep × ListenRound × σ × List SocketEvent}
    (farthest : Farthest (setbacks p.2) r.failure?)
    (opens : Opens system.traced options shared r address p outcome) :
    Farthest (setbacks outcome.2.2.2) outcome.2.1.failure? := by
  have hReady {socket : Socket} {ready : Bool} {p₁ p₂ : σ × List SocketEvent}
      (hCreate : system.traced.answer (.create address) p = (.ok socket, p₁))
      (hSetUp : setUp system.traced options address socket p₁ = (ready, p₂)) :
      setbacks p₂.2 = setbacks p.2 := by
    rw [setbacks_setUp hSetUp, setbacks_noted hCreate]
    exact List.append_nil _
  have hBound {socket : Socket} {r₁ : ListenRound} {p₁ p₂ p₃ p₄ : σ × List SocketEvent}
      (hCreate : system.traced.answer (.create address) p = (.ok socket, p₁))
      (hSetUp : setUp system.traced options address socket p₁ = (true, p₂))
      (hBind : system.traced.answer (.bind socket address) p₂ = (.ok (), p₃))
      (hChoose : choosePort system.traced shared r socket p₃ = (r₁, p₄)) :
      setbacks p₄.2 = setbacks p.2 ∧ r₁.failure? = r.failure? := by
    obtain ⟨hChosen, hSame⟩ := setbacks_choosePort hChoose
    refine ⟨?_, hSame⟩
    rw [hChosen, setbacks_noted hBind, hReady hCreate hSetUp]
    exact List.append_nil _
  have hGivenUp {socket : Socket} {stage : ListenStage} {e : SystemError} {r₁ : ListenRound}
      {q : σ × List SocketEvent} (hSame : r₁.failure? = r.failure?)
      (hFailed : setbacks q.2 = setbacks p.2 ++ [⟨stage, e⟩]) :
      Farthest (setbacks (giveUp system.traced shared r₁ socket stage e q).2.2.2)
        (giveUp system.traced shared r₁ socket stage e q).2.1.failure? := by
    show Farthest (setbacks (system.traced.after (.close socket) q).2)
      (some (.farther r₁.failure? ⟨stage, e⟩))
    rw [setbacks_close, hFailed, hSame]
    exact farthest.snoc ⟨stage, e⟩
  cases opens with
  | uncreated hCreate =>
    show Farthest (setbacks _) _
    rw [setbacks_noted hCreate]
    exact farthest.snoc _
  | unsupported hCreate hSetUp =>
    show Farthest (setbacks (system.traced.after _ _).2) r.failure?
    rw [setbacks_close, hReady hCreate hSetUp]
    exact farthest
  | unbound hCreate hSetUp hBind =>
    apply hGivenUp rfl
    rw [setbacks_noted hBind, hReady hCreate hSetUp]
    rfl
  | unheard hCreate hSetUp hBind hChoose hListen =>
    obtain ⟨hChosen, hSame⟩ := hBound hCreate hSetUp hBind hChoose
    apply hGivenUp hSame
    rw [setbacks_noted hListen, hChosen]
    rfl
  | @listening socket r₁ told p₁ p₂ p₃ p₄ p₅ p₆ hCreate hSetUp hBind hChoose hListen hLocal =>
    obtain ⟨hChosen, hSame⟩ := hBound hCreate hSetUp hBind hChoose
    have hUnblocked :
        setbacks (system.traced.after (.setNonblocking socket true) p₅).2 = setbacks p₅.2 :=
      (setbacks_noted rfl).trans (List.append_nil _)
    show Farthest (setbacks p₆.2) r₁.failure?
    rw [setbacks_noted hLocal, hUnblocked, setbacks_noted hListen, hChosen, hSame]
    simpa [SocketEvent.failure?] using farthest

/-- A candidate becomes a listener, or its failure is kept, unless its options are not to be had. -/
theorem Opens.told {r : ListenRound} {address : SocketAddress} {s : σ}
    {outcome : ListenStep × ListenRound × σ}
    (opens : Opens system options shared r address s outcome) (hHad : outcome.1 ≠ .unsupported) :
    outcome.2.1.failure?.isSome ∨ outcome.1 = .next ∧ outcome.2.1.listeners ≠ [] := by
  cases opens with
  | uncreated | unbound | unheard => exact .inl rfl
  | unsupported => exact absurd rfl hHad
  | listening => exact .inr ⟨rfl, List.append_ne_nil_of_right_ne_nil _ (List.cons_ne_nil _ _)⟩

/-- At the end of a round the first of all failures that came farthest is kept. -/
theorem openAll_farthest (system : SocketSystem σ) (options : ListenOptions) (shared : Bool)
    (candidates : List SocketAddress) {r : ListenRound} {p : σ × List SocketEvent}
    (farthest : Farthest (setbacks p.2) r.failure?) :
    Farthest (setbacks (openAll system.traced options shared candidates r p).2.2.2)
      (openAll system.traced options shared candidates r p).2.1.failure? := by
  induction candidates generalizing r p with
  | nil => exact farthest
  | cons candidate rest ih =>
    have opens := openCandidate_opens system.traced options shared r candidate p
    have opened := opens.farthest farthest
    rcases hOpen : openCandidate system.traced options shared r candidate p with ⟨step, r₁, p₁⟩
    rw [hOpen] at opened
    rw [openAll, hOpen]
    cases step with
    | next => exact ih opened
    | collision | unsupported =>
      show Farthest (setbacks (system.traced.closeAll _ (p₁.1, p₁.2)).2) r₁.failure?
      rw [system.traced_closeAll, setbacks_append, setbacks_closings, List.append_nil]
      exact opened

/-- A round that finds no listener among its candidates has met a failure. -/
theorem openAll_told {candidates : List SocketAddress} (hSome : candidates ≠ [])
    {r r' : ListenRound} {s s' : σ} {step : ListenStep}
    (hRound : openAll system options shared candidates r s = (step, r', s'))
    (hHad : step ≠ .unsupported) : r'.failure?.isSome ∨ step = .next ∧ r'.listeners ≠ [] := by
  induction candidates generalizing r s with
  | nil => exact absurd rfl hSome
  | cons candidate rest ih =>
    have opens := openCandidate_opens system options shared r candidate s
    rcases hOpen : openCandidate system options shared r candidate s with ⟨step₁, r₁, s₁⟩
    rw [hOpen] at opens
    rw [openAll, hOpen] at hRound
    cases step₁ with
    | unsupported =>
      cases hRound
      exact absurd rfl hHad
    | collision =>
      cases hRound
      have hNext : ListenStep.collision ≠ .next := by decide
      exact .inl ((opens.told hHad).resolve_right fun h => hNext h.1)
    | next =>
      cases rest with
      | nil =>
        cases hRound
        exact opens.told hHad
      | cons => exact ih (List.cons_ne_nil _ _) hRound

end ListenRound

variable {σ : Type} {system : SocketSystem σ} {options : ListenOptions}

/-- Where no listener could be opened, what is reported is kept of the failures of all rounds. -/
theorem listenRounds_farthest {shared : Bool} {candidates : List SocketAddress} {n : Nat}
    {known? : Option ListenFailure} {p p' : σ × List SocketEvent} {report : Report}
    (farthest : Farthest (setbacks p.2) known?)
    (hTried : n = 0 → candidates ≠ [] → known?.isSome)
    (hFailed : listenRounds system.traced options shared candidates n known? p =
      (.error report, p'))
    (hOther : report ≠ .ofMisuse (.unsupportedOption reusePortUnsupported)) :
    ∃ failure?, Farthest (setbacks p'.2) failure? ∧ (candidates ≠ [] → failure?.isSome) ∧
      report = openReport ((failure?.map (·.error)).getD (.number Errno.addressNotAvailable)) := by
  induction n generalizing known? p with
  | zero =>
    rw [listenRounds] at hFailed
    cases hFailed
    exact ⟨known?, farthest, hTried rfl, rfl⟩
  | succ n ih =>
    have hRound := ListenRound.openAll_farthest system options shared candidates
      (r := { failure? := known? }) farthest
    rcases hAll : ListenRound.openAll system.traced options shared candidates
      { failure? := known? } p with ⟨step, r, p₁⟩
    rw [hAll] at hRound
    rw [listenRounds, hAll] at hFailed
    have hTold (hNone : step = .next → r.listeners = []) (hHad : step ≠ .unsupported)
        (hSome : candidates ≠ []) : r.failure?.isSome :=
      (ListenRound.openAll_told hSome hAll hHad).resolve_right fun h => h.2 (hNone h.1)
    cases step with
    | unsupported =>
      cases hFailed
      exact absurd rfl hOther
    | collision =>
      have hOn : ListenStep.collision ≠ .next := by decide
      exact ih hRound (fun _ => hTold (fun h => absurd h hOn) (by decide)) hFailed
    | next =>
      cases hListeners : r.listeners with
      | nil =>
        simp only [hListeners, List.isEmpty_nil, if_true, listenRounds] at hFailed
        cases hFailed
        exact ⟨r.failure?, hRound, hTold (fun _ => hListeners) (by decide), rfl⟩
      | cons l rest =>
        simp only [hListeners, List.isEmpty_cons] at hFailed
        cases hFailed

/-- Where no listener could be opened, and not for want of an option, the report is that of a socket
that could not be opened, for the first of those failures to create, bind or listen that came
farthest, over all rounds. What options or addresses were refused is not told. Without any failure
there were no candidates, and the report is that no address is available. -/
theorem farthest_failure_reported {candidates : List SocketAddress} {s s' : σ} {report : Report}
    {events : List SocketEvent}
    (hFailed : openListeners system.traced candidates options (s, []) =
      (.error report, s', events))
    (hOther : report ≠ .ofMisuse (.unsupportedOption reusePortUnsupported)) :
    (setbacks events ≠ [] → ∃ before e after f, events = before ++ e :: after ∧
      e.failure? = some f ∧ e.call.isSetting = false ∧ (∀ socket, e.call ≠ .localAddress socket) ∧
      (∀ g ∈ setbacks before, g.stage.rank < f.stage.rank) ∧
      (∀ g ∈ setbacks after, g.stage.rank ≤ f.stage.rank) ∧
      report = .ofSystem "conduit.transport.tcp.open_failed" "couldn't open socket" f.error) ∧
    (setbacks events = [] → candidates = [] ∧
      report = .ofSystem "conduit.transport.tcp.open_failed" "couldn't open socket"
        (.number Errno.addressNotAvailable)) := by
  obtain ⟨failure?, farthest, hTold, hReport⟩ := listenRounds_farthest (p := (s, [])) .unfailed
    (by simp [maxListenRounds]) hFailed hOther
  cases failure? with
  | none =>
    have hNone : setbacks events = [] := by
      generalize hEvents : setbacks events = failed at farthest
      cases farthest
      rfl
    refine ⟨fun hSome => absurd hNone hSome, fun _ => ⟨?_, hReport⟩⟩
    exact Classical.not_not.1 fun hSome => nomatch hTold hSome
  | some f =>
    obtain ⟨before, e, after, hEvents, hFailure, hBefore, hAfter⟩ := farthest.told
    obtain ⟨hSetting, hLocal⟩ := SocketEvent.kind_of_failure? hFailure
    refine ⟨fun _ => ⟨before, e, after, f, hEvents, hFailure, hSetting, hLocal, hBefore, hAfter,
      hReport⟩, fun hNone => ?_⟩
    have hHere : f ∈ setbacks events :=
      List.mem_filterMap.2 ⟨e, by simp [show events = _ from hEvents], hFailure⟩
    rw [hNone] at hHere
    cases hHere

/-- A system without sockets for IPv4, on which no address can be bound: the first one asked for is
taken, the others are not to be had. Nor can addresses be reused. -/
def Barred.refusing : SocketSystem Bool where
  answer
    | .create address, taken =>
      (if address.isV4 then .error (.number Errno.badDescriptor) else .ok 3, taken)
    | .bind _ _, taken =>
      (.error (.number (if taken then Errno.addressInUse else Errno.addressNotAvailable)), false)
    | .setReuseAddress _ _, taken => (.error (.number Errno.invalidArgument), taken)
    | .minimumBuffers _ _, taken | .close _, taken => ((), taken)
    | .localAddress _, taken => (.error (.number Errno.invalidArgument), taken)
    | .takeError _, taken => (.ok none, taken)
    | .setNonblocking _ _, taken | .setReusePort _ _, taken => (.ok (), taken)
    | .setV6Only _ _, taken | .connect _ _, taken | .listen _ _, taken => (.ok (), taken)

/-- Of four failures in two rounds the second is reported, the first to bind. -/
theorem farthest_failure_reported_barred :
    let candidates : List SocketAddress :=
      [{ host := .anyV4, port := 0 }, { host := .anyV6, port := 0 }]
    ∃ report events, openListeners Barred.refusing.traced candidates {} (true, []) =
        (.error report, false, events) ∧
      report ≠ .ofMisuse (.unsupportedOption reusePortUnsupported) ∧
      setbacks events = [⟨.create, .number Errno.badDescriptor⟩,
        ⟨.bind, .number Errno.addressInUse⟩, ⟨.create, .number Errno.badDescriptor⟩,
        ⟨.bind, .number Errno.addressNotAvailable⟩] ∧
      ∃ before e after f, events = before ++ e :: after ∧ e.failure? = some f ∧
        f.stage = .bind ∧ report = openReport f.error := by
  intro candidates
  obtain ⟨report, events, hFailed, hReport, hFailures⟩ : ∃ report events,
      openListeners Barred.refusing.traced candidates {} (true, []) =
        (.error report, false, events) ∧
      report = openReport (.number Errno.addressInUse) ∧
      setbacks events = [⟨.create, .number Errno.badDescriptor⟩,
        ⟨.bind, .number Errno.addressInUse⟩, ⟨.create, .number Errno.badDescriptor⟩,
        ⟨.bind, .number Errno.addressNotAvailable⟩] :=
    ⟨_, _, by with_unfolding_all rfl, rfl, by with_unfolding_all rfl⟩
  have hOther : report ≠ .ofMisuse (.unsupportedOption reusePortUnsupported) := by
    intro hSame
    have hCause := congrArg Report.cause (hReport.symm.trans hSame)
    cases hCause
  obtain ⟨hTold, -⟩ := farthest_failure_reported hFailed hOther
  obtain ⟨before, e, after, f, hEvents, hFailure, -, -, -, -, hSame⟩ :=
    hTold (by simp [hFailures])
  refine ⟨report, events, hFailed, hOther, hFailures, before, e, after, f, hEvents, hFailure, ?_,
    hSame⟩
  have hError : .number Errno.addressInUse = f.error :=
    Cause.system.inj (Option.some.inj (congrArg Report.cause (hReport.symm.trans hSame)))
  have hHere : f ∈ setbacks events :=
    List.mem_filterMap.2 ⟨e, by simp [hEvents], hFailure⟩
  rw [hFailures] at hHere
  simp only [List.mem_cons, List.not_mem_nil, or_false] at hHere
  rcases hHere with rfl | rfl | rfl | rfl
  · cases hError
  · rfl
  · cases hError
  · cases hError

end EventChannel
