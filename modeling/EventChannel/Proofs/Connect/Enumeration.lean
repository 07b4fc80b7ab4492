import EventChannel.Proofs.Connect.Course

/-! An attempt that is started and then resumed any number of times has tried the first of all pairs
of one family, in order. What is counted and kept of the latest try agrees with that, and the error
of an attempt that has failed is that of the last pair there is. -/

namespace EventChannel.ConnectAttempt

variable {σ : Type}

/-- An attempt after a number of resumptions. -/
def resumed (system : SocketSystem σ) : Nat → ConnectAttempt × σ → ConnectAttempt × σ
  | 0, p => p
  | n + 1, p => resumed system n (resume system p.1 p.2)

theorem resumed_add (system : SocketSystem σ) (n more : Nat) (p : ConnectAttempt × σ) :
    resumed system (n + more) p = resumed system more (resumed system n p) := by
  induction n generalizing p with
  | zero => rw [Nat.zero_add, resumed]
  | succ n ih => rw [Nat.succ_add, resumed, resumed, ih]

/-- An attempt that has ended stays as it is. -/
theorem resumed_of_ended (system : SocketSystem σ) {p : ConnectAttempt × σ}
    (hEnded : p.1.phase ≠ .waitingWritable) (n : Nat) : resumed system n p = p := by
  induction n with
  | zero => rfl
  | succ n ih => rw [resumed, resume_of_ended _ _ hEnded, ih]

/-- What is kept of the tries agrees with the record of them. -/
structure Progress (remote locals : List SocketAddress) (async : Bool) (a : ConnectAttempt)
    (tried : List (SocketAddress × SocketAddress)) (events : List SocketEvent)
    (last? : Option TryEnd) : Prop where
  remote_eq : a.remote = remote
  locals_eq : a.locals = locals
  async_eq : a.async = async
  course : Course async tried events last? a.socket?
  split : addressPairs remote locals = tried ++ a.untried
  tries : a.tries = tried.length
  current : a.current? = tried.getLast?.map (·.1)

/-- How the latest try ended where an attempt rests. -/
def Rests (a : ConnectAttempt) (last? : Option TryEnd) : Prop :=
  match a.phase with
  | .idle => False
  | .connected => last? = some .connected
  | .waitingWritable => last? = some .suspended ∧ a.socket?.isSome
  | .failed => Failing a.lastError last? ∧ a.untried = []

section Runs

variable {system : SocketSystem σ} {remote locals : List SocketAddress} {async : Bool}

/-- An attempt that goes on from a failed try comes to rest, with more pairs tried. -/
theorem proceed_rests (reserved : system.ReservesInProgress) {a : ConnectAttempt}
    {tried : List (SocketAddress × SocketAddress)} {past : List SocketEvent}
    {last? : Option TryEnd} (progress : Progress remote locals async a tried past last?)
    (failing : Failing a.lastError last?) (s : σ) :
    ∃ a' s' tried' events last?', proceed system.traced a (s, past) = (a', s', events) ∧
      Progress remote locals async a' tried' events last?' ∧ Rests a' last?' := by
  induction hUntried : a.untried generalizing a tried past last? s with
  | nil =>
    obtain ⟨i, j, hNone, hProceed⟩ := proceed_nil hUntried
    refine ⟨_, _, tried, past, last?, hProceed .., ?_, failing, hNone⟩
    exact { progress with split := by rw [progress.split, hUntried]; exact congrArg _ hNone.symm }
  | cons pair rest ih =>
    obtain ⟨i, j, hRest, hProceed⟩ := proceed_cons hUntried
    obtain ⟨answer, socket?, s', more, hTried, trial⟩ :=
      tryPair_trial reserved ((a.movedTo i j).trying pair) pair s past
    rw [hProceed, hTried]
    have hNext (phase : ConnectPhase) (e : SystemError) : Progress remote locals async
        { ((a.movedTo i j).trying pair).holding socket? with phase, lastError := e }
        (tried ++ [pair]) (past ++ more) (some (.of async answer)) :=
      { remote_eq := progress.remote_eq
        locals_eq := progress.locals_eq
        async_eq := progress.async_eq
        course := progress.course.tried failing (progress.async_eq ▸ trial)
        split := by rw [progress.split, hUntried, List.append_assoc, ← hRest]; rfl
        tries := by simp [holding, trying, movedTo, progress.tries]
        current := by simp [holding, trying] }
    cases answer with
    | ok done => exact ⟨_, _, _, _, _, rfl, hNext .connected _, rfl⟩
    | error e =>
      by_cases hWaits : async = true ∧ e.isInProgress = true
      · obtain ⟨hAsync, hProgress⟩ := hWaits
        obtain ⟨socket, rfl⟩ := trial.held_of_suspended hProgress
        rw [afterTry_suspended _ (by exact progress.async_eq.trans hAsync) hProgress]
        have hEnd := hNext .waitingWritable a.lastError
        rw [TryEnd.of_suspended hAsync hProgress] at hEnd
        exact ⟨_, _, _, _, _, rfl, hEnd, rfl, rfl⟩
      · have hEnded : async = false ∨ e.isInProgress = false := by grind
        rw [afterTry_failed _ (by exact progress.async_eq ▸ hEnded)]
        have hEnd := hNext a.phase e
        rw [TryEnd.of_failed hEnded] at hEnd
        exact ih hEnd rfl s' hRest

/-- An attempt that rests comes to rest again when it is resumed. -/
theorem resume_rests (reserved : system.ReservesInProgress) {a : ConnectAttempt}
    {tried : List (SocketAddress × SocketAddress)} {past : List SocketEvent}
    {last? : Option TryEnd} (progress : Progress remote locals async a tried past last?)
    (rests : Rests a last?) (s : σ) :
    ∃ a' s' tried' events last?', resume system.traced a (s, past) = (a', s', events) ∧
      Progress remote locals async a' tried' events last?' ∧ Rests a' last?' := by
  by_cases hWaits : a.phase = .waitingWritable
  · simp only [Rests, hWaits] at rests
    obtain ⟨rfl, hHeld⟩ := rests
    obtain ⟨socket, hSocket⟩ := Option.isSome_iff_exists.1 hHeld
    rcases hTells : system.answer (.takeError socket) s with ⟨answer, s'⟩
    have hNext (phase : ConnectPhase) (e : SystemError) :
        Progress remote locals async { a with phase, lastError := e } tried
          (past ++ [⟨.takeError socket, answer⟩]) (some (.told answer)) :=
      { progress with
        course := by
          have hCourse := progress.course
          rw [hSocket] at hCourse
          exact hSocket ▸ hCourse.told answer }
    rw [resume_waiting _ hWaits hSocket, SocketSystem.traced_of hTells]
    match answer with
    | .ok none => exact ⟨_, _, _, _, _, rfl, hNext .connected _, rfl⟩
    | .ok (some e) | .error e => exact proceed_rests reserved (hNext _ e) rfl s'
  · rw [resume_of_ended _ _ hWaits]
    exact ⟨a, s, tried, past, last?, rfl, progress, rests⟩

/-- An attempt that has just been made has tried nothing. -/
theorem progress_new (remote locals : List SocketAddress) (async : Bool) :
    Progress remote locals async { remote, locals, async } [] [] none where
  remote_eq := rfl
  locals_eq := rfl
  async_eq := rfl
  course := .idle
  split := (untried_movedTo_start { remote, locals, async }).symm
  tries := rfl
  current := rfl

/-- However often it is resumed, an attempt that rests comes to rest. -/
theorem resumed_rests (reserved : system.ReservesInProgress) {a : ConnectAttempt}
    {tried : List (SocketAddress × SocketAddress)} {past : List SocketEvent}
    {last? : Option TryEnd} (progress : Progress remote locals async a tried past last?)
    (rests : Rests a last?) (s : σ) (n : Nat) :
    ∃ a' s' tried' events last?', resumed system.traced n (a, s, past) = (a', s', events) ∧
      Progress remote locals async a' tried' events last?' ∧ Rests a' last?' := by
  induction n generalizing a tried past last? s with
  | zero => exact ⟨a, s, tried, past, last?, rfl, progress, rests⟩
  | succ n ih =>
    obtain ⟨a₁, s₁, tried₁, events₁, last₁?, hResume, progress₁, rests₁⟩ :=
      resume_rests reserved progress rests s
    rw [resumed, hResume]
    exact ih progress₁ rests₁ s₁

/-- A new attempt that is started and resumed comes to rest. -/
theorem begun_rests (reserved : system.ReservesInProgress) (remote locals : List SocketAddress)
    (async : Bool) (s : σ) (n : Nat) :
    ∃ a s' tried events last?,
      resumed system.traced n (start system.traced { remote, locals, async } (s, [])) =
        (a, s', events) ∧
        Progress remote locals async a tried events last? ∧ Rests a last? := by
  obtain ⟨a, s', tried, events, last?, hStart, progress, rests⟩ :=
    proceed_rests reserved (progress_new remote locals async) rfl s
  rw [show start system.traced { remote, locals, async } (s, []) = (a, s', events) from hStart]
  exact resumed_rests reserved progress rests s' n

end Runs

/-- Where only connecting is answered as being under way, an attempt has tried the first ones of all
pairs of one family, each once and however often it was suspended. It has counted them, and knows
the remote address of the last of them. An attempt that has failed has tried all pairs, and reports
how the last try ended. Once it has ended, resuming changes nothing and makes no call. -/
theorem pairs_tried_in_order {σ : Type} {system : SocketSystem σ}
    (reserved : system.ReservesInProgress) (remote locals : List SocketAddress) (async : Bool)
    (s : σ) (n : Nat) :
    ∃ a s' tried events last?,
      resumed system.traced n (start system.traced { remote, locals, async } (s, [])) =
        (a, s', events) ∧
      Course async tried events last? a.socket? ∧ openings events = tried.map (·.1) ∧
      tried <+: addressPairs remote locals ∧
      a.tries = tried.length ∧ a.current? = tried.getLast?.map (·.1) ∧
      (a.phase = .failed → tried = addressPairs remote locals ∧
        (if tried = [] then a.lastError = .number Errno.hostUnreachable
          else last? = some (.failed a.lastError)) ∧
        ∃ e, a.outcome = .failed e ∧ e.errno? = a.lastError.errno? ∧
          e.kind = a.lastError.kind ∧ e.fullText = a.lastError.fullText) ∧
      (a.phase = .connected ∨ a.phase = .failed → ∀ more,
        resumed system.traced (n + more) (start system.traced { remote, locals, async } (s, [])) =
          (a, s', events)) := by
  obtain ⟨a, s', tried, events, last?, hResumed, progress, rests⟩ :=
    begun_rests reserved remote locals async s n
  refine ⟨a, s', tried, events, last?, hResumed, progress.course, progress.course.openings,
    ⟨_, progress.split.symm⟩, progress.tries, progress.current, ?_, ?_⟩
  · intro hFailed
    simp only [Rests, hFailed] at rests
    obtain ⟨failing, hNone⟩ := rests
    have hAll : tried = addressPairs remote locals := by simp [progress.split, hNone]
    exact ⟨hAll, (progress.course.failing_iff _).1 failing, a.lastError.copy,
      by simp [outcome, hFailed], by simp⟩
  · intro hEnded more
    rw [resumed_add, hResumed, resumed_of_ended]
    rcases hEnded with hEnded | hEnded <;> simp [hEnded]

/-- A network that answers every attempt to connect later, and then refuses it. -/
def SocketSystem.refusing : SocketSystem Unit where
  answer
    | .create _, s => (.ok 1, s)
    | .connect _ _, s => (.error (.number Errno.inProgress), s)
    | .takeError _, s => (.ok (some (.number Errno.connectionRefused)), s)
    | .localAddress _, s => (.ok { host := .anyV4, port := 1 }, s)
    | .minimumBuffers _ _, s | .close _, s => ((), s)
    | .setNonblocking _ _, s | .setReuseAddress _ _, s | .setReusePort _ _, s => (.ok (), s)
    | .setV6Only _ _, s | .bind _ _, s | .listen _ _, s => (.ok (), s)

theorem refusing_reserves : SocketSystem.refusing.ReservesInProgress where
  create _ _ _ h := nomatch h
  setNonblocking _ _ _ h := nomatch h
  bind _ _ _ _ h := nomatch h

/-- One remote address from two local ones: after two resumptions both pairs have been tried. -/
theorem pairs_tried_in_order_refusing :
    let host : SocketAddress := { host := .v4 203 0 113 1, port := 80 }
    let here : SocketAddress := { host := .anyV4, port := 0 }
    let there : SocketAddress := { host := .v4 127 0 0 1, port := 0 }
    let rest := resumed SocketSystem.refusing.traced 2 (start SocketSystem.refusing.traced
      { remote := [host], locals := [here, there], async := true } ((), []))
    SocketSystem.refusing.ReservesInProgress ∧
      openings rest.2.2 = (addressPairs [host] [here, there]).map (·.1) := by
  intro host here there rest
  obtain ⟨a, s', tried, events, last?, hResumed, -, hOpenings, -, -, -, hFailed, -⟩ :=
    pairs_tried_in_order refusing_reserves [host] [here, there] true () 2
  have hRest : rest = (a, s', events) := hResumed
  have hPhase : a.phase = .failed := (congrArg (·.1.phase) hRest).symm.trans rfl
  rw [hRest, ← (hFailed hPhase).1, ← hOpenings]
  exact ⟨refusing_reserves, rfl⟩

end EventChannel.ConnectAttempt
