import EventChannel.Proofs.Connect.Enumeration

/-! Two networks let the same tries end in the same way: one says so at once, the other may say
first that the connection is under way. An attempt on the second one, resumed until it ends, comes
to what the attempt on the first one comes to, and is resumed once for each suspended try. -/

namespace EventChannel

/-- How each try is to end, by the number of tries before it: whether its socket can be opened and
bound, and how connecting comes out. -/
structure TrialPlan where
  opening : Nat → Except SystemError Unit
  binding : Nat → Except SystemError Unit
  connecting : Nat → Except SystemError Unit
  opening_ended : ∀ i e, opening i = .error e → e.isInProgress = false
  binding_ended : ∀ i e, binding i = .error e → e.isInProgress = false
  connecting_ended : ∀ i e, connecting i = .error e → e.isInProgress = false

/-- A call to connect that is answered as being under way. -/
def SocketEvent.isSuspension : SocketEvent → Bool
  | ⟨.connect _ _, .error e⟩ => e.isInProgress
  | _ => false

/-- How many tries were suspended. -/
def suspensions (events : List SocketEvent) : Nat := events.countP (·.isSuspension)

@[simp] theorem suspensions_nil : suspensions [] = 0 := rfl

@[simp] theorem suspensions_cons (e : SocketEvent) (rest : List SocketEvent) :
    suspensions (e :: rest) = suspensions rest + if e.isSuspension then 1 else 0 :=
  List.countP_cons ..

@[simp] theorem suspensions_append (first second : List SocketEvent) :
    suspensions (first ++ second) = suspensions first + suspensions second :=
  List.countP_append

/-- Closing suspends nothing. -/
@[simp] theorem suspensions_closings (sockets : List Socket) :
    suspensions (SocketEvent.closings sockets) = 0 := by
  simp [suspensions, SocketEvent.closings, SocketEvent.isSuspension]

namespace TrialPlan

/-- What the calls of a try come to if connecting is answered so. -/
def upTo (plan : TrialPlan) (connect : Except SystemError Unit) (i : Nat) :
    Except SystemError Unit :=
  match plan.opening i, plan.binding i with
  | .error e, _ | .ok (), .error e => .error e
  | .ok (), .ok () => connect

/-- How a try ends in the end. -/
def result (plan : TrialPlan) (i : Nat) : Except SystemError Unit :=
  plan.upTo (plan.connecting i) i

/-- What the calls of a try come to where some are suspended. -/
def answer (plan : TrialPlan) (suspends : Nat → Bool) (i : Nat) : Except SystemError Unit :=
  plan.upTo (if suspends i then .error (.number Errno.inProgress) else plan.connecting i) i

theorem answer_never (plan : TrialPlan) (i : Nat) :
    plan.answer (fun _ => false) i = plan.result i := rfl

/-- The end of a try is not that it is under way. -/
theorem result_ended (plan : TrialPlan) {i : Nat} {e : SystemError}
    (hResult : plan.result i = .error e) : e.isInProgress = false := by
  unfold result upTo at hResult
  split at hResult
  · rename_i hOpening
    cases hResult
    exact plan.opening_ended i e hOpening
  · rename_i hBinding
    cases hResult
    exact plan.binding_ended i e hBinding
  · exact plan.connecting_ended i e hResult

/-- A try that is not suspended ends as it is to end; else connecting has still to come out. -/
theorem answer_cases (plan : TrialPlan) (suspends : Nat → Bool) (i : Nat) :
    plan.answer suspends i = plan.result i ∨
      suspends i = true ∧ plan.answer suspends i = .error (.number Errno.inProgress) ∧
        plan.result i = plan.connecting i := by
  unfold answer result upTo
  split
  · exact .inl rfl
  · exact .inl rfl
  · cases hSuspends : suspends i with
    | false => exact .inl rfl
    | true => exact .inr ⟨rfl, rfl, rfl⟩

end TrialPlan

/-- A system on which the tries end as planned. Connecting may be answered with the end at once or,
where the try is suspended, with the socket to be asked for it later. The sockets asked for so far
tell how many tries there were. -/
structure SocketSystem.Plays {σ : Type} (system : SocketSystem σ) (plan : TrialPlan)
    (suspends : Nat → Bool) (begun : σ → Nat) : Prop where
  begun_create : ∀ address s, begun (system.after (.create address) s) = begun s + 1
  begun_other : ∀ call s, (∀ address, call ≠ .create address) →
    begun (system.after call s) = begun s
  create : ∀ address s,
    (system.answer (.create address) s).1.map (fun _ => ()) = plan.opening (begun s)
  setNonblocking : ∀ socket s, (system.answer (.setNonblocking socket true) s).1 = .ok ()
  bind : ∀ socket address s,
    (system.answer (.bind socket address) s).1 = plan.binding (begun s - 1)
  connect : ∀ socket address s, (system.answer (.connect socket address) s).1 =
    if suspends (begun s - 1) then .error (.number Errno.inProgress)
    else plan.connecting (begun s - 1)
  takeError : ∀ socket s, suspends (begun s - 1) = true →
    ConnectAttempt.TryEnd.told (system.answer (.takeError socket) s).1 =
      .of false (plan.connecting (begun s - 1))

namespace SocketSystem.Plays

variable {σ : Type} {system : SocketSystem σ} {plan : TrialPlan} {suspends : Nat → Bool}
  {begun : σ → Nat}

theorem reserves (plays : system.Plays plan suspends begun) : system.ReservesInProgress where
  create address s e hFailed := by
    apply plan.opening_ended (begun s) e
    rw [← plays.create address s, hFailed]
    rfl
  setNonblocking socket s e hFailed := by
    rw [plays.setNonblocking] at hFailed
    cases hFailed
  bind socket address s e hFailed := by
    apply plan.binding_ended (begun s - 1) e
    rw [← plays.bind socket address s, hFailed]

theorem closeAll (plays : system.Plays plan suspends begun) (sockets : List Socket) (s : σ) :
    begun (system.closeAll sockets s) = begun s := by
  induction sockets generalizing s with
  | nil => rfl
  | cons socket rest ih =>
    rw [closeAll_cons, ih]
    exact plays.begun_other (.close socket) s (by simp)

/-- Recording the calls changes nothing about the plan. -/
theorem traced (plays : system.Plays plan suspends begun) :
    system.traced.Plays plan suspends fun p => begun p.1 where
  begun_create address p := plays.begun_create address p.1
  begun_other call p := plays.begun_other call p.1
  create address p := plays.create address p.1
  setNonblocking socket p := plays.setNonblocking socket p.1
  bind socket address p := plays.bind socket address p.1
  connect socket address p := plays.connect socket address p.1
  takeError socket p := plays.takeError socket p.1

end SocketSystem.Plays

namespace ConnectAttempt

variable {σ τ : Type} {slow : SocketSystem σ} {direct : SocketSystem τ} {plan : TrialPlan}
  {suspends : Nat → Bool} {begun : σ → Nat} {begun' : τ → Nat}

/-- Making a socket ready suspends nothing. -/
@[simp] theorem suspensions_preparation (async : Bool) (pair : SocketAddress × SocketAddress)
    (socket : Socket) (reused : Except SystemError Unit) :
    suspensions (preparation async pair socket reused) = 0 := by
  cases async <;> rfl

/-- A try that has ended at once is not noted as suspended. -/
theorem Trial.suspensions_of_ended {async : Bool} {held? socket? : Option Socket}
    {pair : SocketAddress × SocketAddress} {events : List SocketEvent}
    {answer : Except SystemError Unit} (trial : Trial async held? pair events answer socket?)
    (hEnded : ∀ e, answer = .error e → e.isInProgress = false) : suspensions events = 0 := by
  cases trial with
  | asked =>
    cases answer with
    | ok done => simp [SocketEvent.isSuspension]
    | error e => simp [SocketEvent.isSuspension, hEnded e rfl]
  | _ => simp [SocketEvent.isSuspension]

/-- A try that connects later is noted as suspended, once. -/
theorem Trial.suspensions_of_progress {async : Bool} {held? socket? : Option Socket}
    {pair : SocketAddress × SocketAddress} {events : List SocketEvent} {e : SystemError}
    (trial : Trial async held? pair events (.error e) socket?) (hProgress : e.isInProgress = true) :
    suspensions events = 1 := by
  cases trial with
  | unopened _ hOther | blocking _ _ hOther | unbound _ _ _ hOther =>
    rw [hOther] at hProgress
    cases hProgress
  | asked => simp [SocketEvent.isSuspension, hProgress]

/-- A socket that tells of success ends the attempt. -/
theorem afterTold_connected {answer : Except SystemError (Option SystemError)}
    (hTold : TryEnd.told answer = .connected) (a : ConnectAttempt) (s : σ) :
    afterTold slow a (answer, s) = ({ a with phase := .connected }, s) := by
  match answer with
  | .ok none => rfl
  | .ok (some e) | .error e => cases hTold

/-- A socket that tells of a failure, in either way, makes the attempt go on. -/
theorem afterTold_failed {answer : Except SystemError (Option SystemError)} {e : SystemError}
    (hTold : TryEnd.told answer = .failed e) (a : ConnectAttempt) (s : σ) :
    afterTold slow a (answer, s) = proceed slow { a with lastError := e } s := by
  match answer with
  | .ok none => cases hTold
  | .ok (some e) | .error e =>
    cases hTold
    rfl

/-- A socket that is made not to block is, and what was begun is not changed by it. -/
theorem unblocking_plays (plays : slow.Plays plan suspends begun) (async : Bool) (socket : Socket)
    (s : σ) :
    ∃ s', begun s' = begun s ∧
      (if async then slow.answer (.setNonblocking socket true) s else (.ok (), s)) =
        (.ok (), s') := by
  cases async with
  | false => exact ⟨s, rfl, rfl⟩
  | true => exact ⟨(slow.answer (.setNonblocking socket true) s).2,
      plays.begun_other _ s (by simp), Prod.ext (plays.setNonblocking socket s) rfl⟩

/-- A try on a system that plays a plan is answered as planned. -/
theorem tryPair_plays (plays : slow.Plays plan suspends begun) (a : ConnectAttempt)
    (pair : SocketAddress × SocketAddress) (s : σ) :
    ∃ socket? s', begun s' = begun s + 1 ∧
      tryPair slow a pair s = (plan.answer suspends (begun s), a.holding socket?, s') := by
  have hCreate := plays.create pair.1 (slow.closeAll a.socket?.toList s)
  have hBegun := plays.begun_create pair.1 (slow.closeAll a.socket?.toList s)
  rw [plays.closeAll] at hCreate hBegun
  unfold tryPair dropSocket
  rcases hCreated : slow.answer (.create pair.1) (slow.closeAll a.socket?.toList s)
    with ⟨e | socket, s₁⟩
  all_goals
    simp only [SocketSystem.after, hCreated] at hCreate hBegun
    simp only [hCreated]
  · have hAnswer : plan.answer suspends (begun s) = .error e := by
      simp [TrialPlan.answer, TrialPlan.upTo, ← hCreate, Except.map]
    exact ⟨none, s₁, hBegun, by rw [hAnswer]; rfl⟩
  obtain ⟨s₂, hUnblocking, hReady⟩ := unblocking_plays plays a.async socket
    (slow.after (.minimumBuffers socket minimumBufferSize) s₁)
  rw [hReady]
  have hReused : begun (slow.after (.setReuseAddress socket true) s₂) = begun s + 1 := by
    rw [plays.begun_other _ _ (by simp), hUnblocking, plays.begun_other _ _ (by simp), hBegun]
  simp only
  generalize slow.after (.setReuseAddress socket true) s₂ = s₃ at hReused ⊢
  have hBind := plays.bind socket pair.2 s₃
  have hBound := plays.begun_other (.bind socket pair.2) s₃ (by simp)
  rw [hReused, Nat.add_sub_cancel] at hBind
  rcases hBinding : slow.answer (.bind socket pair.2) s₃ with ⟨e | done, s₄⟩
  all_goals
    simp only [SocketSystem.after, hBinding] at hBind hBound
    simp only
  · have hAnswer : plan.answer suspends (begun s) = .error e := by
      simp [TrialPlan.answer, TrialPlan.upTo, ← hCreate, Except.map, ← hBind]
    exact ⟨some socket, s₄, hBound.trans hReused, by rw [hAnswer]; rfl⟩
  · have hConnect := plays.connect socket pair.1 s₄
    rw [hBound, hReused, Nat.add_sub_cancel] at hConnect
    have hAnswer :
        plan.answer suspends (begun s) = (slow.answer (.connect socket pair.1) s₄).1 := by
      simp [TrialPlan.answer, TrialPlan.upTo, ← hCreate, Except.map, ← hBind, hConnect]
    have hBegun' := plays.begun_other (.connect socket pair.1) s₄ (by simp)
    exact ⟨some socket, _, hBegun'.trans (hBound.trans hReused), by rw [hAnswer]; rfl⟩

/-- What a try on a system that plays a plan comes to and adds to the record. -/
theorem tryPair_traced (plays : slow.Plays plan suspends begun) (a : ConnectAttempt)
    (pair : SocketAddress × SocketAddress) (s : σ) (past : List SocketEvent) :
    ∃ socket? s' more, begun s' = begun s + 1 ∧
      tryPair slow.traced a pair (s, past) =
        (plan.answer suspends (begun s), a.holding socket?, s', past ++ more) ∧
      Trial a.async a.socket? pair more (plan.answer suspends (begun s)) socket? := by
  obtain ⟨answer, socket?, s', more, hTried, trial⟩ := tryPair_trial plays.reserves a pair s past
  obtain ⟨socket₂?, p, hBegun, hPlayed⟩ := tryPair_plays plays.traced a pair (s, past)
  obtain ⟨rfl, -, rfl⟩ := Prod.mk.injEq .. ▸ Prod.mk.injEq .. ▸ hTried.symm.trans hPlayed
  exact ⟨socket?, s', more, hBegun, hTried, trial⟩

/-- Two attempts that have come to the same. They may hold different sockets. -/
structure Alike (a b : ConnectAttempt) : Prop where
  untried : a.untried = b.untried
  tries : a.tries = b.tries
  current : a.current? = b.current?
  lastError : a.lastError = b.lastError

/-- After a try of the same pair, attempts are alike again. -/
theorem Alike.tried {a b : ConnectAttempt} (alike : Alike a b) {i j k l : Nat}
    (hUntried : (a.movedTo i j).untried = (b.movedTo k l).untried)
    (pair : SocketAddress × SocketAddress) (socketA? socketB? : Option Socket) :
    Alike (((a.movedTo i j).trying pair).holding socketA?)
      (((b.movedTo k l).trying pair).holding socketB?) where
  untried := hUntried
  tries := congrArg (· + 1) alike.tries
  current := rfl
  lastError := alike.lastError

/-- Attempts that meet the same error are alike. -/
theorem Alike.failing {a b : ConnectAttempt} (alike : Alike a b) (phase : ConnectPhase)
    (e : SystemError) : Alike { a with phase, lastError := e } { b with lastError := e } :=
  { alike with lastError := rfl }

/-- Resumed a number of times, and always after a suspended try, an attempt has come to what the
other one has come to. -/
structure Reaches (slow : SocketSystem σ) (p : ConnectAttempt × σ × List SocketEvent)
    (past : List SocketEvent) (b : ConnectAttempt) (n : Nat) : Prop where
  waits : ∀ m < n, (resumed slow.traced m p).1.phase = .waitingWritable
  ends : ∃ a s more, resumed slow.traced n p = (a, s, past ++ more) ∧ suspensions more = n ∧
    Alike a b ∧ a.phase = b.phase ∧ (a.phase = .connected ∨ a.phase = .failed)

namespace Reaches

variable {p : ConnectAttempt × σ × List SocketEvent} {past : List SocketEvent}
  {b : ConnectAttempt} {n : Nat}

/-- Attempts that have ended alike. -/
theorem of_ended {a : ConnectAttempt} (alike : Alike a b) (hPhase : a.phase = b.phase)
    (hEnded : a.phase = .connected ∨ a.phase = .failed) (s : σ) :
    Reaches slow (a, s, past) past b 0 where
  waits _ hLess := nomatch hLess
  ends := ⟨a, s, [], by rw [resumed, List.append_nil], rfl, alike, hPhase, hEnded⟩

/-- A try that was not suspended comes before. -/
theorem after_try {first : List SocketEvent} (reaches : Reaches slow p (past ++ first) b n)
    (hCount : suspensions first = 0) : Reaches slow p past b n where
  waits := reaches.waits
  ends := by
    obtain ⟨a, s, more, hResumed, hMore, hEnd⟩ := reaches.ends
    rw [List.append_assoc] at hResumed
    exact ⟨a, s, first ++ more, hResumed, by simp [hCount, hMore], hEnd⟩

/-- A suspended try comes before, after which the attempt was resumed. -/
theorem after_suspension {first : List SocketEvent} {told : SocketEvent}
    (hWaits : p.1.phase = .waitingWritable)
    (reaches : Reaches slow (resume slow.traced p.1 p.2) (past ++ first ++ [told]) b n)
    (hCount : suspensions first = 1) (hTold : told.isSuspension = false) :
    Reaches slow p past b (n + 1) where
  waits m hLess := by
    cases m with
    | zero => exact hWaits
    | succ m => exact reaches.waits m (by omega)
  ends := by
    obtain ⟨a, s, more, hResumed, hMore, hEnd⟩ := reaches.ends
    rw [List.append_assoc, List.append_assoc] at hResumed
    refine ⟨a, s, first ++ ([told] ++ more), hResumed, ?_, hEnd⟩
    simp [hCount, hTold, hMore]
    omega

end Reaches

/-- An attempt in the background, resumed until it ends, comes to what the one that waits does. -/
theorem proceed_reaches (slowPlays : slow.Plays plan suspends begun)
    (directPlays : direct.Plays plan (fun _ => false) begun') {a b : ConnectAttempt}
    (alike : Alike a b) (hAsync : a.async = true) {s : σ} {t : τ}
    (hBegun : begun s = begun' t) (past : List SocketEvent) :
    ∃ n, Reaches slow (proceed slow.traced a (s, past)) past (proceed direct b t).1 n := by
  induction hUntried : a.untried generalizing a b s t past with
  | nil =>
    obtain ⟨i, j, hNone, hProceed⟩ := proceed_nil hUntried
    obtain ⟨k, l, hNone', hProceed'⟩ := proceed_nil (alike.untried.symm.trans hUntried)
    rw [hProceed, hProceed']
    have hAlike : Alike { a.movedTo i j with phase := .failed }
        { b.movedTo k l with phase := .failed } :=
      { alike with untried := hNone.trans hNone'.symm }
    exact ⟨0, .of_ended hAlike rfl (.inr rfl) s⟩
  | cons pair rest ih =>
    obtain ⟨i, j, hRest, hProceed⟩ := proceed_cons hUntried
    obtain ⟨k, l, hRest', hProceed'⟩ := proceed_cons (alike.untried.symm.trans hUntried)
    obtain ⟨socket?, s₁, first, hBegun₁, hTried, trial⟩ :=
      tryPair_traced slowPlays ((a.movedTo i j).trying pair) pair s past
    obtain ⟨socket'?, t₁, hBegun₁', hTried'⟩ :=
      tryPair_plays directPlays ((b.movedTo k l).trying pair) pair t
    rw [hProceed, hTried, hProceed', hTried', plan.answer_never, ← hBegun]
    have hAlike := alike.tried (hRest.trans hRest'.symm) pair socket? socket'?
    have hSame : begun s₁ = begun' t₁ := by omega
    have hAsync₁ : (((a.movedTo i j).trying pair).holding socket?).async = true := hAsync
    have hRest₁ : (((a.movedTo i j).trying pair).holding socket?).untried = rest := hRest
    have hHeld : (((a.movedTo i j).trying pair).holding socket?).socket? = socket? := rfl
    -- what the two attempts have come to matters from here on, not how
    generalize ((a.movedTo i j).trying pair).holding socket? = a₁ at *
    generalize ((b.movedTo k l).trying pair).holding socket'? = b₁ at *
    have hOn (phase : ConnectPhase) (e : SystemError) (s' : σ) (hStill : begun s' = begun s₁)
        (past' : List SocketEvent) :
        ∃ n, Reaches slow (proceed slow.traced { a₁ with phase, lastError := e } (s', past')) past'
          (proceed direct { b₁ with lastError := e } t₁).1 n :=
      ih (hAlike.failing phase e) hAsync₁ (hStill.trans hSame) past' hRest₁
    obtain hAnswer | ⟨hSuspends, hAnswer, hResult⟩ := plan.answer_cases suspends (begun s)
    · rw [hAnswer] at trial ⊢
      have hCount := trial.suspensions_of_ended fun e => plan.result_ended
      cases hResult : plan.result (begun s) with
      | ok done =>
        have hEnd : Alike { a₁ with phase := .connected } { b₁ with phase := .connected } :=
          { hAlike with }
        exact ⟨0, (Reaches.of_ended hEnd rfl (.inl rfl) s₁).after_try hCount⟩
      | error e =>
        have hEnded := plan.result_ended hResult
        obtain ⟨n, reaches⟩ := hOn a₁.phase e s₁ rfl (past ++ first)
        rw [afterTry_failed _ (.inr hEnded), afterTry_failed _ (.inr hEnded)]
        exact ⟨n, reaches.after_try hCount⟩
    · rw [hAnswer] at trial ⊢
      have hCount := trial.suspensions_of_progress rfl
      obtain ⟨socket, rfl⟩ := trial.held_of_suspended rfl
      rw [afterTry_suspended _ hAsync₁ rfl, hResult]
      rcases hTells : slow.answer (.takeError socket) s₁ with ⟨answer, s₂⟩
      have hTold := slowPlays.takeError socket s₁
      rw [hTells, hBegun₁, Nat.add_sub_cancel] at hTold
      have hStill := slowPlays.begun_other (.takeError socket) s₁ (by simp)
      rw [SocketSystem.after, hTells] at hStill
      have hResume : resume slow.traced { a₁ with phase := .waitingWritable } (s₁, past ++ first) =
          afterTold slow.traced { a₁ with phase := .waitingWritable }
            (answer, s₂, past ++ first ++ [⟨.takeError socket, answer⟩]) := by
        rw [resume_waiting _ rfl (by exact hHeld), SocketSystem.traced_of hTells]
      cases hConnecting : plan.connecting (begun s) with
      | ok done =>
        rw [hConnecting] at hTold
        rw [afterTold_connected (hTold hSuspends)] at hResume
        have hEnd : Alike { a₁ with phase := .connected } { b₁ with phase := .connected } :=
          { hAlike with }
        have reaches : Reaches slow _ (past ++ first ++ [⟨.takeError socket, answer⟩]) _ 0 :=
          .of_ended hEnd rfl (.inl rfl) s₂
        exact ⟨1, .after_suspension rfl (hResume ▸ reaches) hCount rfl⟩
      | error e =>
        rw [hConnecting] at hTold
        rw [afterTold_failed (hTold hSuspends)] at hResume
        obtain ⟨n, reaches⟩ := hOn .waitingWritable e s₂ hStill
          (past ++ first ++ [⟨.takeError socket, answer⟩])
        rw [afterTry_failed _ (.inr (plan.connecting_ended _ _ hConnecting))]
        exact ⟨n + 1, .after_suspension rfl (hResume ▸ reaches) hCount rfl⟩

theorem outcome_of_waiting {a : ConnectAttempt} (hWaits : a.phase = .waitingWritable) :
    a.outcome = .pending := by
  simp only [outcome, hWaits]

/-- The pairs tried by two attempts at the same addresses that have come to the same. -/
theorem Progress.tried_eq {remote locals : List SocketAddress} {async async' : Bool}
    {a b : ConnectAttempt} {tried tried' : List (SocketAddress × SocketAddress)}
    {events events' : List SocketEvent} {last? last'? : Option TryEnd}
    (progress : Progress remote locals async a tried events last?)
    (progress' : Progress remote locals async' b tried' events' last'?)
    (hTries : a.tries = b.tries) : tried = tried' := by
  have hLength : tried.length = tried'.length := by rw [← progress.tries, hTries, progress'.tries]
  exact (List.append_inj (progress.split.symm.trans progress'.split) hLength).1

/-- Some calls to connect are answered later, with what they would have been answered at once. Then
an attempt in the background, resumed until it is no longer pending, has come to what the attempt
that waits for each answer has come to, and was resumed once for each suspended try. -/
theorem suspension_transparent (slowPlays : slow.Plays plan suspends begun)
    (directPlays : direct.Plays plan (fun _ => false) begun') (remote locals : List SocketAddress)
    (s : σ) (t : τ) (hBegun : begun s = begun' t) :
    ∃ n a s' events b t' events' tried last? last'?,
      resumed slow.traced n (start slow.traced { remote, locals, async := true } (s, [])) =
        (a, s', events) ∧
      start direct.traced { remote, locals, async := false } (t, []) = (b, t', events') ∧
      (∀ m < n, (resumed slow.traced m
        (start slow.traced { remote, locals, async := true } (s, []))).1.outcome = .pending) ∧
      a.outcome ≠ .pending ∧ a.outcome = b.outcome ∧
      a.phase = b.phase ∧ a.tries = b.tries ∧ a.current? = b.current? ∧
      a.lastError = b.lastError ∧
      Course true tried events last? a.socket? ∧ Course false tried events' last'? b.socket? ∧
      n = suspensions events := by
  have hAlike : Alike { remote, locals, async := true } { remote, locals, async := false } :=
    ⟨rfl, rfl, rfl, rfl⟩
  obtain ⟨n, reaches⟩ := proceed_reaches slowPlays directPlays.traced hAlike rfl (t := (t, []))
    hBegun []
  obtain ⟨a, s', events, hResumed, hCount, alike, hPhase, hEnded⟩ := reaches.ends
  obtain ⟨a₁, s₁, tried, events₁, last?, hRun, progress, -⟩ :=
    begun_rests slowPlays.reserves remote locals true s n
  obtain ⟨b, t', tried', events', last'?, hStart, progress', -⟩ :=
    begun_rests directPlays.reserves remote locals false t 0
  obtain ⟨rfl, -, rfl⟩ := Prod.mk.injEq .. ▸ Prod.mk.injEq .. ▸ hRun.symm.trans hResumed
  have hDirect : proceed direct.traced { remote, locals, async := false } (t, []) =
      (b, t', events') := hStart
  rw [hDirect] at alike hPhase
  obtain rfl := progress.tried_eq progress' alike.tries
  have hOutcome : a₁.outcome = b.outcome := by
    simp only [outcome, hPhase, alike.lastError]
  have hPending : a₁.outcome ≠ .pending := by
    rcases hEnded with hEnded | hEnded <;> simp [outcome, hEnded]
  refine ⟨n, a₁, s₁, _, b, t', events', tried, last?, last'?, hRun, hStart, ?_, hPending, hOutcome,
    hPhase, alike.tries, alike.current, alike.lastError, progress.course, progress'.course,
    hCount.symm⟩
  intro m hLess
  exact outcome_of_waiting (reaches.waits m hLess)

/-- A network that plays any plan. In the plan below, the first of two tries is refused and the
second one connects; the network lets the first one wait. -/
def playing (plan : TrialPlan) (suspends : Nat → Bool) : SocketSystem Nat where
  answer
    | .create _, n => ((plan.opening n).map fun _ => n, n + 1)
    | .bind _ _, n => (plan.binding (n - 1), n)
    | .connect _ _, n =>
      (if suspends (n - 1) then .error (.number Errno.inProgress) else plan.connecting (n - 1), n)
    | .takeError _, n => match plan.connecting (n - 1) with
      | .ok () => (.ok none, n)
      | .error e => (.ok (some e), n)
    | .localAddress _, n => (.ok { host := .anyV4, port := 1 }, n)
    | .minimumBuffers _ _, n | .close _, n => ((), n)
    | .setNonblocking _ _, n | .setReuseAddress _ _, n | .setReusePort _ _, n => (.ok (), n)
    | .setV6Only _ _, n | .listen _ _, n => (.ok (), n)

theorem playing_plays (plan : TrialPlan) (suspends : Nat → Bool) :
    (playing plan suspends).Plays plan suspends id where
  begun_create _ _ := rfl
  begun_other call n hOther := by
    cases call with
    | create address => exact absurd rfl (hOther address)
    | takeError socket =>
      simp only [SocketSystem.after, playing]
      split <;> rfl
    | _ => rfl
  create _ n := by
    simp only [playing, id]
    cases plan.opening n <;> rfl
  setNonblocking _ _ := rfl
  bind _ _ _ := rfl
  connect _ _ _ := rfl
  takeError _ n _ := by
    simp only [playing, id]
    cases plan.connecting (n - 1) <;> rfl

def refusedOnce : TrialPlan where
  opening _ := .ok ()
  binding _ := .ok ()
  connecting i := if i = 0 then .error (.number Errno.connectionRefused) else .ok ()
  opening_ended _ _ h := nomatch h
  binding_ended _ _ h := nomatch h
  connecting_ended i e h := by
    split at h
    · cases h
      rfl
    · cases h

/-- The attempt that is suspended once ends like the one that waits. -/
theorem suspension_transparent_refused :
    let host : SocketAddress := { host := .v4 203 0 113 1, port := 80 }
    let here : SocketAddress := { host := .anyV4, port := 0 }
    let there : SocketAddress := { host := .v4 127 0 0 1, port := 0 }
    let slow := playing refusedOnce (· == 0)
    let direct := playing refusedOnce fun _ => false
    slow.Plays refusedOnce (· == 0) id ∧ direct.Plays refusedOnce (fun _ => false) id ∧
      ∃ n, (resumed slow.traced n (start slow.traced
          { remote := [host], locals := [here, there], async := true } (0, []))).1.phase =
        (start direct.traced
          { remote := [host], locals := [here, there], async := false } (0, [])).1.phase := by
  intro host here there slow direct
  have hSlow := playing_plays refusedOnce (· == 0)
  have hDirect := playing_plays refusedOnce fun _ => false
  obtain ⟨n, a, s', events, b, t', events', tried, last?, last'?, hResumed, hStart, -, -, -, hPhase,
    -⟩ := suspension_transparent hSlow hDirect [host] [here, there] 0 0 rfl
  refine ⟨hSlow, hDirect, n, ?_⟩
  rw [hResumed, hStart, hPhase]

end ConnectAttempt

end EventChannel
