import EventChannel.Proofs.Connect.Cursors
import EventChannel.Proofs.Socket.Record

/-! What an attempt does, read off the record of its calls: one try after the other, each of the
next pair, with the calls that belong to it. A suspended try is told its end by its socket. However
often an attempt is suspended and resumed, the pairs tried are the first ones of all pairs, each
once. -/

namespace EventChannel

/-- Of the calls whose failure ends a try, only that to connect is ever answered that it is under
way. -/
structure SocketSystem.ReservesInProgress {σ : Type} (system : SocketSystem σ) : Prop where
  create : ∀ address s e, (system.answer (.create address) s).1 = .error e →
    e.isInProgress = false
  setNonblocking : ∀ socket s e, (system.answer (.setNonblocking socket true) s).1 = .error e →
    e.isInProgress = false
  bind : ∀ socket address s e, (system.answer (.bind socket address) s).1 = .error e →
    e.isInProgress = false

namespace ConnectAttempt

/-- How a try has ended, or that it has not. -/
inductive TryEnd
  | connected
  | suspended
  | failed (error : SystemError)
  deriving DecidableEq

/-- What the answers to the calls of a try mean for it. -/
def TryEnd.of (async : Bool) : Except SystemError Unit → TryEnd
  | .ok () => .connected
  | .error e => if async && e.isInProgress then .suspended else .failed e

theorem TryEnd.of_suspended {async : Bool} {e : SystemError} (hAsync : async = true)
    (hProgress : e.isInProgress = true) : TryEnd.of async (.error e) = .suspended := by
  simp [TryEnd.of, hAsync, hProgress]

theorem TryEnd.of_failed {async : Bool} {e : SystemError}
    (hEnded : async = false ∨ e.isInProgress = false) : TryEnd.of async (.error e) = .failed e := by
  rcases hEnded with hEnded | hEnded <;> simp [TryEnd.of, hEnded]

/-- What the socket of a suspended try tells about it. -/
def TryEnd.told : Except SystemError (Option SystemError) → TryEnd
  | .ok none => .connected
  | .ok (some e) | .error e => .failed e

/-- The error to be reported when no pair is left: that of the latest try, which has failed. -/
def Failing (e : SystemError) : Option TryEnd → Prop
  | none => e = .number Errno.hostUnreachable
  | some last => last = .failed e

/-- How a socket for a try in the background is made not to block. -/
def unblocked (async : Bool) (socket : Socket) : List SocketEvent :=
  if async then [⟨.setNonblocking socket true, .ok ()⟩] else []

/-- How a new socket is made ready for a pair. -/
def preparation (async : Bool) (pair : SocketAddress × SocketAddress) (socket : Socket)
    (reused : Except SystemError Unit) : List SocketEvent :=
  [⟨.create pair.1, .ok socket⟩, ⟨.minimumBuffers socket minimumBufferSize, ()⟩] ++
    unblocked async socket ++ [⟨.setReuseAddress socket true, reused⟩]

/-- The calls of one try, from the closing of the socket of the try before it on, with what they
come to and the socket held then. -/
inductive Trial (async : Bool) (held? : Option Socket) (pair : SocketAddress × SocketAddress) :
    List SocketEvent → Except SystemError Unit → Option Socket → Prop
  | unopened (e : SystemError) (hOther : e.isInProgress = false) :
      Trial async held? pair
        (SocketEvent.closings held?.toList ++ [⟨.create pair.1, .error e⟩]) (.error e) none
  | blocking (socket : Socket) (e : SystemError) (hOther : e.isInProgress = false)
      (hAsync : async = true) :
      Trial async held? pair
        (SocketEvent.closings held?.toList ++
          [⟨.create pair.1, .ok socket⟩, ⟨.minimumBuffers socket minimumBufferSize, ()⟩,
            ⟨.setNonblocking socket true, .error e⟩, ⟨.close socket, ()⟩]) (.error e) none
  | unbound (socket : Socket) (reused : Except SystemError Unit) (e : SystemError)
      (hOther : e.isInProgress = false) :
      Trial async held? pair
        (SocketEvent.closings held?.toList ++
          (preparation async pair socket reused ++ [⟨.bind socket pair.2, .error e⟩]))
        (.error e) (some socket)
  | asked (socket : Socket) (reused answer : Except SystemError Unit) :
      Trial async held? pair
        (SocketEvent.closings held?.toList ++
          (preparation async pair socket reused ++
            [⟨.bind socket pair.2, .ok ()⟩, ⟨.connect socket pair.1, answer⟩]))
        answer (some socket)

/-- The pairs tried so far and all calls made for them, with how the latest try ended and the
socket held. A try comes after one that has failed. -/
inductive Course (async : Bool) :
    List (SocketAddress × SocketAddress) → List SocketEvent → Option TryEnd → Option Socket → Prop
  | idle : Course async [] [] none none
  | tried {pairs : List (SocketAddress × SocketAddress)} {events more : List SocketEvent}
      {last? : Option TryEnd} {held? socket? : Option Socket}
      {pair : SocketAddress × SocketAddress} {answer : Except SystemError Unit} {e : SystemError}
      (course : Course async pairs events last? held?) (failing : Failing e last?)
      (trial : Trial async held? pair more answer socket?) :
      Course async (pairs ++ [pair]) (events ++ more) (some (.of async answer)) socket?
  | told {pairs : List (SocketAddress × SocketAddress)} {events : List SocketEvent}
      {socket : Socket} (course : Course async pairs events (some .suspended) (some socket))
      (answer : Except SystemError (Option SystemError)) :
      Course async pairs (events ++ [⟨.takeError socket, answer⟩]) (some (.told answer))
        (some socket)

/-- A try asks for one socket, for the remote address of its pair. -/
theorem Trial.openings {async : Bool} {held? socket? : Option Socket}
    {pair : SocketAddress × SocketAddress} {events : List SocketEvent}
    {answer : Except SystemError Unit} (trial : Trial async held? pair events answer socket?) :
    openings events = [pair.1] := by
  cases trial <;> rw [openings_append, openings_closings, List.nil_append]
  · rfl
  · rfl
  · cases async <;> rfl
  · cases async <;> rfl

/-- A try that is under way has its socket. -/
theorem Trial.held_of_suspended {async : Bool} {held? socket? : Option Socket}
    {pair : SocketAddress × SocketAddress} {events : List SocketEvent} {e : SystemError}
    (trial : Trial async held? pair events (.error e) socket?) (hProgress : e.isInProgress = true) :
    ∃ socket, socket? = some socket := by
  cases trial with
  | unopened _ hOther | blocking _ _ hOther | unbound _ _ _ hOther =>
    rw [hOther] at hProgress
    cases hProgress
  | asked socket => exact ⟨socket, rfl⟩

/-- The pairs for which a socket is asked for are those tried. -/
theorem Course.openings {async : Bool} {pairs : List (SocketAddress × SocketAddress)}
    {events : List SocketEvent} {last? : Option TryEnd} {held? : Option Socket}
    (course : Course async pairs events last? held?) : openings events = pairs.map (·.1) := by
  induction course with
  | idle => rfl
  | tried course failing trial ih => simp [ih, trial.openings]
  | told course answer ih => simpa [EventChannel.openings, SocketEvent.opened?] using ih

/-- How the latest try ended is known where there was one. -/
theorem Course.last_isSome {async : Bool} {pairs : List (SocketAddress × SocketAddress)}
    {events : List SocketEvent} {last? : Option TryEnd} {held? : Option Socket}
    (course : Course async pairs events last? held?) : last?.isSome ↔ pairs ≠ [] := by
  induction course with
  | idle => simp
  | tried => simp
  | told course answer ih => simpa using ih

/-- The error to be reported is that of the last pair tried, or stands for there being none. -/
theorem Course.failing_iff {async : Bool} {pairs : List (SocketAddress × SocketAddress)}
    {events : List SocketEvent} {last? : Option TryEnd} {held? : Option Socket}
    (course : Course async pairs events last? held?) (e : SystemError) :
    Failing e last? ↔
      if pairs = [] then e = .number Errno.hostUnreachable else last? = some (.failed e) := by
  have hSome := course.last_isSome
  cases last? with
  | none => simp_all [Failing]
  | some last => simp_all [Failing]

variable {σ : Type} {system : SocketSystem σ}

/-- A try in the background asks first that its socket does not block. -/
theorem unblocking_cases (system : SocketSystem σ) (async : Bool) (socket : Socket) (s : σ)
    (past : List SocketEvent) :
    (∃ e s', async = true ∧ (system.answer (.setNonblocking socket true) s).1 = .error e ∧
        (if async then system.traced.answer (.setNonblocking socket true) (s, past)
          else (.ok (), s, past)) =
        (.error e, s', past ++ [⟨.setNonblocking socket true, .error e⟩])) ∨
      ∃ s', (if async then system.traced.answer (.setNonblocking socket true) (s, past)
          else (.ok (), s, past)) = (.ok (), s', past ++ unblocked async socket) := by
  cases async with
  | false => exact .inr ⟨s, by simp [unblocked]⟩
  | true =>
    rcases hAnswer : system.answer (.setNonblocking socket true) s with ⟨e | done, s'⟩
    · exact .inl ⟨e, s', rfl, rfl, by simp [system.traced_answer, hAnswer]⟩
    · exact .inr ⟨s', by simp [system.traced_answer, hAnswer, unblocked]⟩

/-- What a try on a traced system adds to the record. -/
theorem tryPair_trial (reserved : system.ReservesInProgress) (a : ConnectAttempt)
    (pair : SocketAddress × SocketAddress) (s : σ) (past : List SocketEvent) :
    ∃ answer socket? s' more,
      tryPair system.traced a pair (s, past) = (answer, a.holding socket?, s', past ++ more) ∧
        Trial a.async a.socket? pair more answer socket? := by
  unfold tryPair dropSocket
  rw [system.traced_closeAll]
  rcases hCreate : system.answer (.create pair.1) (system.closeAll a.socket?.toList s)
    with ⟨e | socket, s₁⟩
  · have hOther := reserved.create pair.1 _ e (by rw [hCreate])
    exact ⟨.error e, none, s₁, _, by simp [SocketSystem.traced_of hCreate, holding],
      .unopened e hOther⟩
  simp only [SocketSystem.traced_of hCreate, system.traced_after]
  generalize system.answer (.minimumBuffers socket minimumBufferSize) s₁ = buffers
  rcases unblocking_cases system a.async socket buffers.2 _ with
    ⟨e, s₃, hAsync, hAnswer, hBlocks⟩ | ⟨s₃, hReady⟩
  · rw [hBlocks]
    exact ⟨.error e, none, _, _, by simp [holding]; rfl,
      .blocking socket e (reserved.setNonblocking socket _ e hAnswer) hAsync⟩
  rw [hReady]
  simp only
  generalize system.answer (.setReuseAddress socket true) s₃ = reused
  rcases hBind : system.answer (.bind socket pair.2) reused.2 with ⟨e | done, s₄⟩
  · have hOther := reserved.bind socket pair.2 _ e (by rw [hBind])
    exact ⟨.error e, some socket, s₄, _,
      by simp [preparation, holding, SocketSystem.traced_of hBind],
      .unbound socket reused.1 e hOther⟩
  · rcases hConnect : system.answer (.connect socket pair.1) s₄ with ⟨answer, s₅⟩
    exact ⟨answer, some socket, s₅, _,
      by simp [preparation, holding, SocketSystem.traced_of hBind,
        SocketSystem.traced_of hConnect],
      .asked socket reused.1 answer⟩

/-- The attempt has begun, and it holds a socket where it waits or is connected. -/
def Poised (a : ConnectAttempt) : Prop :=
  match a.phase with
  | .idle => False
  | .waitingWritable | .connected => a.socket?.isSome
  | .failed => True

/-- A try holds its socket unless it fails otherwise than by being under way. -/
theorem tryPair_holds (reserved : system.ReservesInProgress) (a : ConnectAttempt)
    (pair : SocketAddress × SocketAddress) (s : σ)
    (hEnd : ∀ e, (tryPair system a pair s).1 = .error e → e.isInProgress = true) :
    (tryPair system a pair s).2.1.socket?.isSome := by
  obtain ⟨e, hError, hOther⟩ | hSome : (∃ e, (tryPair system a pair s).1 = .error e ∧
      e.isInProgress = false) ∨ (tryPair system a pair s).2.1.socket?.isSome := by
    unfold tryPair dropSocket
    dsimp only
    rcases hCreate : system.answer (.create pair.1) (system.closeAll a.socket?.toList s)
      with ⟨e | socket, s₁⟩
    · exact .inl ⟨e, rfl, reserved.create pair.1 _ e (by rw [hCreate])⟩
    dsimp only
    split
    · next s₂ e s₃ hBlocks =>
      refine .inl ⟨e, rfl, ?_⟩
      split at hBlocks
      · exact reserved.setNonblocking socket _ e (congrArg Prod.fst hBlocks)
      · cases hBlocks
    · split <;> exact .inr rfl
  · rw [hEnd e hError] at hOther
    cases hOther
  · exact hSome

theorem proceed_poised (reserved : system.ReservesInProgress) (a : ConnectAttempt) (s : σ) :
    Poised (proceed system a s).1 := by
  induction hUntried : a.untried generalizing a s with
  | nil =>
    obtain ⟨i, j, -, hProceed⟩ := proceed_nil hUntried
    rw [hProceed]
    trivial
  | cons pair rest ih =>
    obtain ⟨i, j, hRest, hProceed⟩ := proceed_cons hUntried
    obtain ⟨socket?, hFrame⟩ := tryPair_frame system ((a.movedTo i j).trying pair) pair s
    have hHolds := tryPair_holds reserved ((a.movedTo i j).trying pair) pair s
    rw [hProceed]
    generalize tryPair system ((a.movedTo i j).trying pair) pair s = tried at hFrame hHolds ⊢
    obtain ⟨e | done, b, s'⟩ := tried
    · rw [afterTry]
      split
      · next hWaits =>
        refine hHolds fun e' hSame => ?_
        obtain rfl : e = e' := Except.error.inj hSame
        exact (Bool.and_eq_true _ _ ▸ hWaits).2
      · obtain rfl : b = ((a.movedTo i j).trying pair).holding socket? := hFrame
        exact ih _ s' hRest
    · exact hHolds fun e hSame => by cases hSame

theorem start_poised (reserved : system.ReservesInProgress) (a : ConnectAttempt) (s : σ) :
    Poised (start system a s).1 :=
  proceed_poised reserved _ s

theorem resume_poised (reserved : system.ReservesInProgress) {a : ConnectAttempt} (s : σ)
    (poised : Poised a) : Poised (resume system a s).1 := by
  by_cases hWaits : a.phase = .waitingWritable
  · obtain ⟨socket, hHeld⟩ := Option.isSome_iff_exists.1 (by simpa [Poised, hWaits] using poised)
    rw [resume_waiting _ hWaits hHeld]
    rcases system.answer (.takeError socket) s with ⟨e | e | _, s'⟩
    · exact proceed_poised reserved _ s'
    · show a.socket?.isSome = true
      simp [hHeld]
    · exact proceed_poised reserved _ s'
  · rw [resume_of_ended _ _ hWaits]
    exact poised

/-- An attempt that is pending waits with a socket. -/
theorem Poised.waits {a : ConnectAttempt} (poised : Poised a) (hPending : a.outcome = .pending) :
    a.phase = .waitingWritable ∧ ∃ socket, a.socket? = some socket := by
  unfold outcome at hPending
  unfold Poised at poised
  split at hPending <;> simp_all [Option.isSome_iff_exists]

end ConnectAttempt

end EventChannel
