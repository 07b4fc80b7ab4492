import Mathlib.Data.List.Induction
import EventChannel.Proofs.Listen.Rounds

/-! Each candidate is offered a socket, which is closed again before the next candidate's turn, or
goes on to be a listener of the round. If the round is abandoned its listeners are closed, in order.
So no socket is left over: those returned are the listeners of the last round, and all others were
closed when the next round began. -/

namespace EventChannel

open scoped List

/-- From the sockets held to those held after a call. Only sockets that are held are used or
closed. -/
inductive Holding : List Socket → SocketEvent → List Socket → Prop
  | refused (held : List Socket) (address : SocketAddress) (e : SystemError) :
      Holding held ⟨.create address, .error e⟩ held
  | created (held : List Socket) (address : SocketAddress) (socket : Socket) :
      Holding held ⟨.create address, .ok socket⟩ (held ++ [socket])
  | used {held : List Socket} {e : SocketEvent} {socket : Socket} (hUsed : e.used? = some socket)
      (hHeld : socket ∈ held) : Holding held e held
  | closed (before after : List Socket) (socket : Socket) :
      Holding (before ++ socket :: after) ⟨.close socket, ()⟩ (before ++ after)

/-- From the sockets held first to those held after some calls. -/
inductive Holdings (first : List Socket) : List SocketEvent → List Socket → Prop
  | refl : Holdings first [] first
  | snoc {events : List SocketEvent} {held next : List Socket} {e : SocketEvent}
      (prior : Holdings first events held) (holding : Holding held e next) :
      Holdings first (events ++ [e]) next

/-- What comes into being in a call, together with what was held, is closed in it or held then. -/
theorem Holding.balance {held next : List Socket} {e : SocketEvent}
    (holding : Holding held e next) :
    (held ++ e.created?.toList).Perm (e.closed?.toList ++ next) := by
  cases holding with
  | refused => simp [SocketEvent.created?, SocketEvent.closed?]
  | created => rfl
  | @used _ e socket hUsed =>
    obtain ⟨call, answer⟩ := e
    cases call with
    | create address | close socket => cases hUsed
    | _ => simp [SocketEvent.created?, SocketEvent.closed?]
  | closed before after socket =>
    rw [show SocketEvent.created? ⟨.close socket, ()⟩ = none from rfl, Option.toList_none,
      List.append_nil]
    exact List.perm_middle

namespace Holdings

variable {first held last : List Socket} {events later : List SocketEvent}

theorem append (left : Holdings first events held) (right : Holdings held later last) :
    Holdings first (events ++ later) last := by
  induction right with
  | refl => rwa [List.append_nil]
  | snoc prior holding ih =>
    rw [← List.append_assoc]
    exact .snoc ih holding

theorem single {e : SocketEvent} (holding : Holding held e last) : Holdings held [e] last := by
  rw [← List.nil_append [e]]
  exact .snoc .refl holding

/-- What came into being has been closed, or is held. -/
theorem balance (holdings : Holdings first events last) :
    (first ++ created events).Perm (closed events ++ last) := by
  induction holdings with
  | refl => simp [created, closed]
  | @snoc events held next e prior holding ih =>
    have hCreated : created [e] = e.created?.toList := by
      rw [created, List.filterMap_cons]
      cases e.created? <;> rfl
    have hClosed : closed [e] = e.closed?.toList := by
      rw [closed, List.filterMap_cons]
      cases e.closed? <;> rfl
    calc first ++ created (events ++ [e])
        = (first ++ created events) ++ e.created?.toList := by
          rw [created_append, hCreated, List.append_assoc]
      _ ~ (closed events ++ held) ++ e.created?.toList := ih.append_right _
      _ = closed events ++ (held ++ e.created?.toList) := List.append_assoc ..
      _ ~ closed events ++ (e.closed?.toList ++ next) := holding.balance.append_left _
      _ = closed (events ++ [e]) ++ next := by rw [closed_append, hClosed, List.append_assoc]

/-- Up to each moment the sockets are accounted for. -/
theorem up_to {before after : List SocketEvent} (holdings : Holdings first (before ++ after) last) :
    ∃ held, Holdings first before held := by
  induction after using List.reverseRecOn generalizing last with
  | nil => exact ⟨last, List.append_nil before ▸ holdings⟩
  | append_singleton after e ih =>
    rw [← List.append_assoc] at holdings
    generalize hEvents : before ++ after ++ [e] = events at holdings
    cases holdings with
    | refl => simp at hEvents
    | snoc prior holding =>
      obtain ⟨hPrior, -⟩ := List.append_inj' hEvents rfl
      exact ih (hPrior ▸ prior)

theorem uses {socket : Socket} (hHeld : socket ∈ held)
    (hUses : ∀ e ∈ events, e.used? = some socket) : Holdings held events held := by
  induction events with
  | nil => exact .refl
  | cons e rest ih =>
    obtain ⟨hUsed, hRest⟩ := List.forall_mem_cons.1 hUses
    exact (single (.used hUsed hHeld)).append (ih hRest)

/-- The sockets held last are closed in order. -/
theorem closings (held sockets : List Socket) :
    Holdings (held ++ sockets) (SocketEvent.closings sockets) held := by
  induction sockets with
  | nil =>
    rw [List.append_nil]
    exact .refl
  | cons socket rest ih => exact (single (.closed held rest socket)).append ih

end Holdings

namespace ListenRound

/-- The calls by which a candidate is offered a socket, and the listener that comes of it: the
socket was refused, or closed after use, or was bound and then put to listening. -/
inductive Offered (candidate : SocketAddress) : List SocketEvent → Option Listener → Prop
  | refused (port : Port) (e : SystemError) :
      Offered candidate [⟨.create (candidate.withPort port), .error e⟩] none
  | dropped (port : Port) (socket : Socket) {uses : List SocketEvent}
      (hUses : ∀ e ∈ uses, e.used? = some socket) :
      Offered candidate
        (⟨.create (candidate.withPort port), .ok socket⟩ :: uses ++ [⟨.close socket, ()⟩]) none
  | listening (port : Port) (socket : Socket) (address : SocketAddress) (queue : Int)
      {uses : List SocketEvent} (hUses : ∀ e ∈ uses, e.used? = some socket)
      (hPassed : [⟨.bind socket (candidate.withPort port), .ok ()⟩,
        ⟨.listen socket queue, .ok ()⟩] <+ uses) :
      Offered candidate (⟨.create (candidate.withPort port), .ok socket⟩ :: uses)
        (some ⟨socket, address⟩)

/-- Candidates that are offered a socket one after the other, with the listeners in their order. -/
inductive Gathers : List SocketAddress → List SocketEvent → List Listener → Prop
  | nil : Gathers [] [] []
  | cons {candidate : SocketAddress} {candidates : List SocketAddress}
      {first more : List SocketEvent} {l? : Option Listener} {listeners : List Listener}
      (offered : Offered candidate first l?) (gathers : Gathers candidates more listeners) :
      Gathers (candidate :: candidates) (first ++ more) (l?.toList ++ listeners)

/-- A whole round with the listeners that are left of it: it goes through all candidates, or is
abandoned after some, and then their listeners are closed. -/
inductive Sweeps (candidates : List SocketAddress) : List SocketEvent → List Listener → Prop
  | through {events : List SocketEvent} {listeners : List Listener}
      (gathers : Gathers candidates events listeners) : Sweeps candidates events listeners
  | abandoned {tried rest : List SocketAddress} {events : List SocketEvent}
      {listeners : List Listener} (hTried : candidates = tried ++ rest)
      (gathers : Gathers tried events listeners) :
      Sweeps candidates (events ++ SocketEvent.closings (listeners.map (·.socket))) []

variable {candidate : SocketAddress} {candidates : List SocketAddress} {events : List SocketEvent}
  {l? : Option Listener} {listeners : List Listener}

theorem Offered.holdings (offered : Offered candidate events l?) (held : List Socket) :
    Holdings held events (held ++ l?.toList.map (·.socket)) := by
  have hCreated (port : Port) (socket : Socket) :
      Holdings held [⟨.create (candidate.withPort port), .ok socket⟩] (held ++ [socket]) :=
    .single (.created held _ socket)
  cases offered with
  | refused port e =>
    rw [Option.toList_none, List.map_nil, List.append_nil]
    exact .single (.refused held _ e)
  | dropped port socket hUses =>
    have hUsed := (hCreated port socket).append (.uses (by simp) hUses)
    have hDropped := hUsed.append (.single (.closed held [] socket))
    simpa using hDropped
  | listening port socket address queue hUses =>
    exact (hCreated port socket).append (.uses (by simp) hUses)

theorem Gathers.holdings (gathers : Gathers candidates events listeners) (held : List Socket) :
    Holdings held events (held ++ listeners.map (·.socket)) := by
  induction gathers generalizing held with
  | nil => simpa using Holdings.refl
  | cons offered gathers ih =>
    rw [List.map_append, ← List.append_assoc]
    exact (offered.holdings held).append (ih _)

/-- A round that begins with no socket held ends with those of its listeners. -/
theorem Sweeps.holdings (sweeps : Sweeps candidates events listeners) :
    Holdings [] events (listeners.map (·.socket)) := by
  cases sweeps with
  | through gathers => exact gathers.holdings []
  | abandoned hTried gathers => exact (gathers.holdings []).append (.closings [] _)

/-- What is noted between two moments are uses of a socket. -/
def Uses {σ : Type} (socket : Socket) (p p' : σ × List SocketEvent) : Prop :=
  ∃ uses, p'.2 = p.2 ++ uses ∧ ∀ e ∈ uses, e.used? = some socket

variable {σ : Type} {system : SocketSystem σ} {options : ListenOptions} {socket : Socket}
  {p p' p'' : σ × List SocketEvent}

theorem Uses.refl (p : σ × List SocketEvent) : Uses socket p p := ⟨[], by simp, by simp⟩

theorem Uses.trans (left : Uses socket p p') (right : Uses socket p' p'') : Uses socket p p'' := by
  obtain ⟨first, hFirst, hFirstUses⟩ := left
  obtain ⟨more, hMore, hMoreUses⟩ := right
  refine ⟨first ++ more, by rw [hMore, hFirst, List.append_assoc], ?_⟩
  intro e hMem
  exact (List.mem_append.1 hMem).elim (hFirstUses e) (hMoreUses e)

theorem Uses.after (call : SocketCall)
    (hUsed : ∀ answer, SocketEvent.used? ⟨call, answer⟩ = some socket) :
    Uses socket p (system.traced.after call p) :=
  ⟨[_], rfl, by simpa using hUsed _⟩

theorem Uses.answered {call : SocketCall} {answer : call.Answer}
    (hUsed : SocketEvent.used? ⟨call, answer⟩ = some socket)
    (hAnswer : system.traced.answer call p = (answer, p')) : Uses socket p p' :=
  ⟨[_], traced_noted hAnswer, by simpa using hUsed⟩

/-- A new socket is set up by calls on it. -/
theorem setUp_uses (system : SocketSystem σ) (options : ListenOptions) (address : SocketAddress)
    (socket : Socket) (p : σ × List SocketEvent) :
    Uses socket p (setUp system.traced options address socket p).2 := by
  have hReuse : Uses socket p (if options.reuseAddress then
      system.traced.after (.setReuseAddress socket true)
        (system.traced.after (.minimumBuffers socket minimumBufferSize) p)
      else system.traced.after (.minimumBuffers socket minimumBufferSize) p) := by
    split
    · exact Uses.trans (.after _ fun _ => rfl) (.after _ fun _ => rfl)
    · exact .after _ fun _ => rfl
  have hReusePort (p : σ × List SocketEvent) : Uses socket p (if options.reusePort then
      system.traced.answer (.setReusePort socket true) p else (.ok (), p)).2 := by
    split
    · exact Uses.after (.setReusePort socket true) fun _ => rfl
    · exact .refl p
  have hOnly (p : σ × List SocketEvent) : Uses socket p
      (if address.isV4 then p else system.traced.after (.setV6Only socket true) p) := by
    split
    · exact .refl p
    · exact .after _ fun _ => rfl
  have hAsked := hReuse.trans (hReusePort _)
  simp only [setUp]
  split
  · split
    · exact hAsked
    · exact hAsked.trans (hOnly _)
  · exact hAsked.trans (hOnly _)

/-- A bound socket is asked for its port, if at all, and the listeners are as before. -/
theorem choosePort_uses (system : SocketSystem σ) (socket : Socket) (shared : Bool)
    (r : ListenRound) (p : σ × List SocketEvent) :
    (choosePort system.traced shared r socket p).1.listeners = r.listeners ∧
      Uses socket p (choosePort system.traced shared r socket p).2 := by
  unfold choosePort
  split
  · rcases hLocal : system.traced.answer (.localAddress socket) p with ⟨e | b, p'⟩
    · exact ⟨rfl, .answered rfl hLocal⟩
    · exact ⟨rfl, .answered rfl hLocal⟩
  · exact ⟨rfl, .refl p⟩

/-- What is noted of a candidate that was used and then closed. -/
theorem Offered.of_dropped {port : Port} {p₁ p₂ : σ × List SocketEvent}
    (hCreate : system.traced.answer (.create (candidate.withPort port)) p = (.ok socket, p₁))
    (hUses : Uses socket p₁ p₂) :
    ∃ more, (system.traced.after (.close socket) p₂).2 = p.2 ++ more ∧
      Offered candidate more none := by
  obtain ⟨uses, hNoted, hUsed⟩ := hUses
  refine ⟨_, ?_, .dropped port socket hUsed⟩
  show p₂.2 ++ [_] = _
  rw [hNoted, traced_noted hCreate]
  simp

/-- What is noted of opening a candidate, with the listener that is added to the round. -/
theorem openCandidate_offered (system : SocketSystem σ) (options : ListenOptions) (shared : Bool)
    (r : ListenRound) (candidate : SocketAddress) (p : σ × List SocketEvent) :
    ∃ step r' p' more l?,
      openCandidate system.traced options shared r candidate p = (step, r', p') ∧
      p'.2 = p.2 ++ more ∧ r'.listeners = r.listeners ++ l?.toList ∧ Offered candidate more l? ∧
      (step ≠ .next → l? = none) := by
  obtain ⟨port, hAddress⟩ : ∃ port, (if shared then
      candidate.withPort (r.chosen?.getD candidate.port) else candidate) =
        candidate.withPort port := by
    cases shared
    · exact ⟨candidate.port, rfl⟩
    · exact ⟨_, rfl⟩
  rw [openCandidate, hAddress]
  rcases hCreate : system.traced.answer (.create (candidate.withPort port)) p with ⟨e | socket, p₁⟩
  · exact ⟨_, _, _, _, none, rfl, traced_noted hCreate, by simp [fail], .refused port e,
      fun _ => rfl⟩
  simp only
  have hSet := setUp_uses system options (candidate.withPort port) socket p₁
  rcases hSetUp : setUp system.traced options (candidate.withPort port) socket p₁
    with ⟨_ | _, p₂⟩
  all_goals rw [hSetUp] at hSet
  · obtain ⟨more, hNoted, offered⟩ := Offered.of_dropped hCreate hSet
    exact ⟨_, _, _, more, none, rfl, hNoted, by simp, offered, fun _ => rfl⟩
  simp only
  rcases hBind : system.traced.answer (.bind socket (candidate.withPort port)) p₂
    with ⟨e | done, p₃⟩
  · obtain ⟨more, hNoted, offered⟩ :=
      Offered.of_dropped hCreate (hSet.trans (.answered rfl hBind))
    exact ⟨_, _, _, more, none, rfl, hNoted, by simp [fail], offered, fun _ => rfl⟩
  simp only
  obtain ⟨hListeners, hChose⟩ := choosePort_uses system socket shared r p₃
  generalize choosePort system.traced shared r socket p₃ = chosen at hListeners hChose
  obtain ⟨r₁, p₄⟩ := chosen
  simp only at hListeners hChose ⊢
  rcases hListen : system.traced.answer (.listen socket options.queueLength) p₄ with ⟨e | done, p₅⟩
  · obtain ⟨more, hNoted, offered⟩ := Offered.of_dropped hCreate
      (((hSet.trans (.answered rfl hBind)).trans hChose).trans (.answered rfl hListen))
    exact ⟨_, _, _, more, none, rfl, hNoted, by simp [fail, hListeners], offered, fun _ => rfl⟩
  simp only
  have hTold : Uses socket p₅ (system.traced.answer (.localAddress socket)
      (system.traced.after (.setNonblocking socket true) p₅)).2 :=
    Uses.trans (.after _ fun _ => rfl) (.after (.localAddress socket) fun _ => rfl)
  obtain ⟨settings, hSettings, hSettingsUse⟩ := hSet
  obtain ⟨choice, hChoice, hChoiceUses⟩ := hChose
  obtain ⟨rest, hRest, hRestUses⟩ := hTold
  simp only at hSettings hChoice
  refine ⟨_, _, _, ⟨.create (candidate.withPort port), .ok socket⟩ ::
    (settings ++ ⟨.bind socket (candidate.withPort port), .ok ()⟩ ::
      (choice ++ ⟨.listen socket options.queueLength, .ok ()⟩ :: rest)), some ⟨socket, _⟩, rfl,
    ?_, by rw [hListeners]; rfl, .listening port socket _ options.queueLength ?_ ?_, by simp⟩
  · rw [hRest, traced_noted hListen, hChoice, traced_noted hBind, hSettings, traced_noted hCreate]
    simp
  · intro e hMem
    simp only [List.mem_append, List.mem_cons] at hMem
    rcases hMem with hMem | rfl | hMem | rfl | hMem
    · exact hSettingsUse e hMem
    · rfl
    · exact hChoiceUses e hMem
    · rfl
    · exact hRestUses e hMem
  · exact .trans (.cons_cons _ (.trans (.cons_cons _ (List.nil_sublist rest))
      (List.sublist_append_right choice _))) (List.sublist_append_right settings _)

/-- What is noted of a round whose listeners so far are known, with those it ends with. -/
theorem openAll_gathers (system : SocketSystem σ) (options : ListenOptions) (shared : Bool)
    (candidates : List SocketAddress) (r : ListenRound) (p : σ × List SocketEvent) :
    ∃ step r' p', openAll system.traced options shared candidates r p = (step, r', p') ∧
      ∃ tried rest more listeners, candidates = tried ++ rest ∧ Gathers tried more listeners ∧
        (step = .next → rest = [] ∧ r'.listeners = r.listeners ++ listeners ∧
          p'.2 = p.2 ++ more) ∧
        (step ≠ .next → r'.listeners = [] ∧ p'.2 = p.2 ++ more ++
          SocketEvent.closings ((r.listeners ++ listeners).map (·.socket))) := by
  induction candidates generalizing r p with
  | nil => exact ⟨_, _, _, rfl, [], [], [], [], rfl, .nil, by simp, by simp⟩
  | cons candidate rest ih =>
    obtain ⟨step, r₁, p₁, first, l?, hOpen, hFirst, hListeners, offered, hEnds⟩ :=
      openCandidate_offered system options shared r candidate p
    rw [openAll, hOpen]
    have hAbandoned (hStep : step ≠ .next) :
        (system.traced.closeAll (r₁.listeners.map (·.socket)) p₁).2 = p.2 ++ first ++
          SocketEvent.closings ((r.listeners ++ l?.toList).map (·.socket)) := by
      rw [← hListeners, ← hFirst]
      exact congrArg (·.2) (system.traced_closeAll p₁.1 p₁.2 _)
    cases step with
    | next =>
      obtain ⟨step, r', p', hAll, tried, left, more, listeners, rfl, gathers, hThrough, hLeft⟩ :=
        ih r₁ p₁
      refine ⟨step, r', p', hAll, candidate :: tried, left, first ++ more, l?.toList ++ listeners,
        rfl, .cons offered gathers, ?_, ?_⟩
      · intro hStep
        obtain ⟨hRest, hGathered, hNoted⟩ := hThrough hStep
        exact ⟨hRest, by rw [hGathered, hListeners, List.append_assoc],
          by rw [hNoted, hFirst, List.append_assoc]⟩
      · intro hStep
        obtain ⟨hNone, hNoted⟩ := hLeft hStep
        exact ⟨hNone, by rw [hNoted, hFirst, hListeners]; simp⟩
    | collision | unsupported =>
      refine ⟨_, _, _, rfl, [candidate], rest, first, l?.toList, rfl, ?_,
        (fun hStep => by cases hStep), fun hStep => ⟨rfl, hAbandoned hStep⟩⟩
      simpa using Gathers.cons offered .nil

/-- What is noted of a whole round. -/
theorem openAll_sweeps (system : SocketSystem σ) (options : ListenOptions) (shared : Bool)
    (candidates : List SocketAddress) (failure? : Option ListenFailure)
    (p : σ × List SocketEvent) :
    ∃ step r' p' more, openAll system.traced options shared candidates { failure? } p =
        (step, r', p') ∧ p'.2 = p.2 ++ more ∧ Sweeps candidates more r'.listeners ∧
      (step = .next → Gathers candidates more r'.listeners) ∧
      (step ≠ .next → r'.listeners = []) := by
  obtain ⟨step, r', p', hAll, tried, rest, more, listeners, rfl, gathers, hThrough, hLeft⟩ :=
    openAll_gathers system options shared candidates { failure? } p
  by_cases hStep : step = .next
  · obtain ⟨rfl, hListeners, hNoted⟩ := hThrough hStep
    obtain rfl : r'.listeners = listeners := by simpa using hListeners
    have hGathers : Gathers (tried ++ []) more r'.listeners := by rwa [List.append_nil]
    exact ⟨step, r', p', more, hAll, hNoted, .through hGathers, fun _ => hGathers,
      fun h => absurd hStep h⟩
  · obtain ⟨hNone, hNoted⟩ := hLeft hStep
    refine ⟨step, r', p', _, hAll, by rw [hNoted, List.append_assoc], ?_,
      fun h => absurd h hStep, fun _ => hNone⟩
    rw [hNone]
    exact .abandoned rfl gathers

end ListenRound

variable {σ : Type}

/-- Rounds one after the other, with what they end with: nothing is left of a round that is not the
last one, nor of any if no listener could be opened. -/
inductive Sweeping (candidates : List SocketAddress) :
    List (List SocketEvent) → Except Report (List Listener) → Prop
  | failed (e : Report) : Sweeping candidates [] (.error e)
  | listening {last : List SocketEvent} {listeners : List Listener}
      (gathers : ListenRound.Gathers candidates last listeners) :
      Sweeping candidates [last] (.ok listeners)
  | again {first : List SocketEvent} {more : List (List SocketEvent)}
      {result : Except Report (List Listener)} (sweeps : ListenRound.Sweeps candidates first [])
      (sweeping : Sweeping candidates more result) : Sweeping candidates (first :: more) result

theorem listenRounds_sweeping (system : SocketSystem σ) (options : ListenOptions) (shared : Bool)
    (candidates : List SocketAddress) (n : Nat) (failure? : Option ListenFailure)
    (p : σ × List SocketEvent) :
    ∃ result p' rounds,
      listenRounds system.traced options shared candidates n failure? p = (result, p') ∧
      p'.2 = p.2 ++ rounds.flatten ∧ Sweeping candidates rounds result := by
  induction n generalizing failure? p with
  | zero => exact ⟨_, p, [], by rw [listenRounds], by simp, .failed _⟩
  | succ n ih =>
    obtain ⟨step, r, p₁, first, hAll, hFirst, sweeps, hThrough, hLeft⟩ :=
      ListenRound.openAll_sweeps system options shared candidates failure? p
    rw [listenRounds, hAll]
    cases step with
    | unsupported =>
      rw [hLeft (by simp)] at sweeps
      exact ⟨_, _, [first], rfl, by simpa using hFirst, .again sweeps (.failed _)⟩
    | collision =>
      rw [hLeft (by simp)] at sweeps
      obtain ⟨result, p', rounds, hRest, hNoted, sweeping⟩ := ih r.failure? p₁
      exact ⟨result, p', first :: rounds, hRest,
        by rw [hNoted, hFirst, List.flatten_cons, List.append_assoc], .again sweeps sweeping⟩
    | next =>
      cases hListeners : r.listeners with
      | nil =>
        rw [hListeners] at sweeps
        simp only [hListeners, List.isEmpty_nil, if_true]
        rw [listenRounds]
        exact ⟨_, _, [first], rfl, by simpa using hFirst, .again sweeps (.failed _)⟩
      | cons l rest =>
        refine ⟨_, _, [first], ?_, by simpa using hFirst, .listening (hThrough rfl)⟩
        simp [hListeners]

/-- The sockets that are returned. -/
def handedOver : Except Report (List Listener) → List Socket
  | .ok listeners => listeners.map (·.socket)
  | .error _ => []

namespace Sweeping

variable {candidates : List SocketAddress} {rounds : List (List SocketEvent)}
  {result : Except Report (List Listener)}

theorem holdings (sweeping : Sweeping candidates rounds result) :
    Holdings [] rounds.flatten (handedOver result) := by
  induction sweeping with
  | failed e => exact .refl
  | listening gathers =>
    rw [List.flatten_singleton]
    exact gathers.holdings []
  | again sweeps sweeping ih => exact sweeps.holdings.append ih

/-- No socket is held when a round begins. -/
theorem between (sweeping : Sweeping candidates rounds result)
    {earlier later : List (List SocketEvent)} (hRounds : rounds = earlier ++ later)
    (hLater : later ≠ []) : Holdings [] earlier.flatten [] := by
  induction earlier generalizing rounds with
  | nil => exact .refl
  | cons first earlier ih =>
    cases sweeping with
    | failed e => cases hRounds
    | listening gathers => simp_all
    | again sweeps sweeping =>
      obtain ⟨rfl, hMore⟩ := List.cons.inj hRounds
      exact sweeps.holdings.append (ih sweeping hMore)

/-- Where opening fails, nothing is left of any round. -/
theorem all_swept {e : Report} (sweeping : Sweeping candidates rounds (.error e)) :
    ∀ round ∈ rounds, ListenRound.Sweeps candidates round [] := by
  generalize hResult : Except.error e = result at sweeping
  induction sweeping with
  | failed e => simp
  | listening gathers => cases hResult
  | again sweeps sweeping ih => exact List.forall_mem_cons.2 ⟨sweeps, ih hResult⟩

/-- The listeners that are returned are those of the last round, and nothing is left of the
others. -/
theorem last_round {listeners : List Listener}
    (sweeping : Sweeping candidates rounds (.ok listeners)) :
    ∃ earlier last, rounds = earlier ++ [last] ∧ ListenRound.Gathers candidates last listeners ∧
      ∀ round ∈ earlier, ListenRound.Sweeps candidates round [] := by
  generalize hResult : Except.ok listeners = result at sweeping
  induction sweeping with
  | failed e => cases hResult
  | @listening last _ gathers =>
    cases hResult
    exact ⟨[], last, rfl, gathers, by simp⟩
  | @again first more _ sweeps sweeping ih =>
    obtain ⟨earlier, last, rfl, gathers, hEarlier⟩ := ih hResult
    exact ⟨first :: earlier, last, rfl, gathers, List.forall_mem_cons.2 ⟨sweeps, hEarlier⟩⟩

end Sweeping

/-- Whatever the system answers, the sockets that came into being are in the end those closed and
those returned, and at every moment those closed so far and some others; so one whose number was
given out once is closed once or returned once. Opening goes by rounds, each of which offers the
candidates sockets from the first one on. None of its sockets is left open when the next round
begins, nor any at all when opening fails. The listeners returned are those of the last round, in
the order of the candidates, each with a socket that was opened, bound and put to listening in that
round. -/
theorem listeners_in_custody (system : SocketSystem σ) (candidates : List SocketAddress)
    (options : ListenOptions) (s : σ) :
    ∃ result s' rounds,
      openListeners system.traced candidates options (s, []) = (result, s', rounds.flatten) ∧
      created rounds.flatten ~ closed rounds.flatten ++ handedOver result ∧
      (∀ socket, (created rounds.flatten).count socket = 1 →
        ((closed rounds.flatten).count socket = 1 ∧ socket ∉ handedOver result) ∨
        (socket ∉ closed rounds.flatten ∧ (handedOver result).count socket = 1)) ∧
      (∀ before after, rounds.flatten = before ++ after →
        ∃ held, created before ~ closed before ++ held) ∧
      (∀ earlier later, rounds = earlier ++ later → later ≠ [] →
        created earlier.flatten ~ closed earlier.flatten) ∧
      (∀ e, result = .error e → created rounds.flatten ~ closed rounds.flatten ∧
        ∀ round ∈ rounds, ListenRound.Sweeps candidates round []) ∧
      ∀ listeners, result = .ok listeners →
        ∃ earlier last, rounds = earlier ++ [last] ∧
          ListenRound.Gathers candidates last listeners ∧
          ∀ round ∈ earlier, ListenRound.Sweeps candidates round [] := by
  obtain ⟨result, ⟨s', events⟩, rounds, hOpen, hNoted, sweeping⟩ :=
    listenRounds_sweeping system options (candidates.head?.any fun first => first.port == 0)
      candidates maxListenRounds none (s, [])
  obtain rfl : events = rounds.flatten := hNoted
  have balance : created rounds.flatten ~ closed rounds.flatten ++ handedOver result :=
    sweeping.holdings.balance
  refine ⟨result, s', rounds, hOpen, balance, ?_, ?_, ?_, ?_, ?_⟩
  · intro socket hOnce
    have hCount := balance.count_eq socket
    rw [hOnce, List.count_append] at hCount
    rw [← List.count_eq_zero, ← List.count_eq_zero]
    omega
  · intro before after hEvents
    obtain ⟨held, holdings⟩ := (hEvents ▸ sweeping.holdings).up_to
    exact ⟨held, holdings.balance⟩
  · intro earlier later hRounds hLater
    simpa using (sweeping.between hRounds hLater).balance
  · rintro e rfl
    exact ⟨by simpa [handedOver] using balance, sweeping.all_swept⟩
  · rintro listeners rfl
    exact sweeping.last_round

end EventChannel
