import EventChannel.Socket.Connect

/-! The two loops over remote and local addresses, with cursors that outlast a suspension, come to
the pairs of one family one by one. What is left to be tried is a list, and an attempt that goes on
takes its first element: the loops are a walk along this list. -/

namespace EventChannel.ConnectAttempt

variable {σ : Type}

/-- The attempt with its cursors elsewhere. -/
def movedTo (a : ConnectAttempt) (remoteCursor localCursor : Nat) : ConnectAttempt :=
  { a with remoteCursor, localCursor }

/-- The attempt when it turns to a pair. -/
def trying (a : ConnectAttempt) (pair : SocketAddress × SocketAddress) : ConnectAttempt :=
  { a with tries := a.tries + 1, current? := some pair.1 }

/-- The attempt with another socket, or none. -/
def holding (a : ConnectAttempt) (socket? : Option Socket) : ConnectAttempt := { a with socket? }

/-- What follows on a try: the attempt is connected or suspended, or it goes on. -/
def afterTry (system : SocketSystem σ) :
    Except SystemError Unit × ConnectAttempt × σ → ConnectAttempt × σ
  | (.ok (), a, s) => ({ a with phase := .connected }, s)
  | (.error e, a, s) =>
    if a.async && e.isInProgress then ({ a with phase := .waitingWritable }, s)
    else proceed system { a with lastError := e } s

theorem afterTry_suspended (system : SocketSystem σ) {e : SystemError} {a : ConnectAttempt}
    (hAsync : a.async = true) (hProgress : e.isInProgress = true) (s : σ) :
    afterTry system (.error e, a, s) = ({ a with phase := .waitingWritable }, s) := by
  simp [afterTry, hAsync, hProgress]

theorem afterTry_failed (system : SocketSystem σ) {e : SystemError} {a : ConnectAttempt}
    (hEnded : a.async = false ∨ e.isInProgress = false) (s : σ) :
    afterTry system (.error e, a, s) = proceed system { a with lastError := e } s := by
  rcases hEnded with hEnded | hEnded <;> simp [afterTry, hEnded]

/-- What follows on what the socket of a suspended try tells. -/
def afterTold (system : SocketSystem σ) (a : ConnectAttempt) :
    Except SystemError (Option SystemError) × σ → ConnectAttempt × σ
  | (.ok none, s) => ({ a with phase := .connected }, s)
  | (.ok (some e), s) | (.error e, s) => proceed system { a with lastError := e } s

theorem resume_waiting (system : SocketSystem σ) {a : ConnectAttempt} {socket : Socket}
    (hWaits : a.phase = .waitingWritable) (hHeld : a.socket? = some socket) (s : σ) :
    resume system a s = afterTold system a (system.answer (.takeError socket) s) := by
  simp only [resume, hWaits, suspendedResult, hHeld]
  rcases system.answer (.takeError socket) s with ⟨e | e | _, s'⟩ <;>
    simp [afterTold, hWaits, hHeld]

/-- A try changes nothing but the socket held. -/
theorem tryPair_frame (system : SocketSystem σ) (a : ConnectAttempt)
    (pair : SocketAddress × SocketAddress) (s : σ) :
    ∃ socket?, (tryPair system a pair s).2.1 = a.holding socket? := by
  unfold tryPair
  simp only
  split
  · exact ⟨_, rfl⟩
  · split
    · exact ⟨_, rfl⟩
    · split <;> exact ⟨_, rfl⟩

theorem pairsOf_cons (address origin : SocketAddress) (rest : List SocketAddress) :
    pairsOf address (origin :: rest) =
      if origin.isV4 = address.isV4 then (address, origin) :: pairsOf address rest
      else pairsOf address rest := by
  by_cases hFamily : origin.isV4 = address.isV4 <;> simp [pairsOf, hFamily]

section Moves

variable {system : SocketSystem σ} {a : ConnectAttempt} {address origin : SocketAddress}
  {here later : List SocketAddress} {s : σ}

theorem proceed_done (hRemote : a.remote.drop a.remoteCursor = []) :
    proceed system a s = ({ a with phase := .failed }, s) := by
  rw [proceed, hRemote, tryRemotes]

theorem untried_done (hRemote : a.remote.drop a.remoteCursor = []) : a.untried = [] := by
  rw [untried, hRemote]

theorem drop_next {α : Type} {xs rest : List α} {x : α} {n : Nat} (h : xs.drop n = x :: rest) :
    xs.drop (n + 1) = rest := by
  rw [← List.tail_drop, h, List.tail_cons]

/-- Goes through local addresses for a remote one, then through the remote addresses after it. -/
def walk (system : SocketSystem σ) (address : SocketAddress) (here later : List SocketAddress)
    (a : ConnectAttempt) (s : σ) : ConnectAttempt × σ :=
  match tryLocals system address here a s with
  | (true, a, s) => (a, s)
  | (false, a, s) =>
    tryRemotes system later { a with remoteCursor := a.remoteCursor + 1, localCursor := 0 } s

/-- Between two tries the cursors stand where the walk goes on. -/
theorem proceed_walk (hRemote : a.remote.drop a.remoteCursor = address :: later) :
    proceed system a s = walk system address (a.locals.drop a.localCursor) later a s := by
  rw [proceed, hRemote, tryRemotes]
  rfl

/-- Where no local address is left, it is the next remote one's turn. -/
theorem proceed_turn (hRemote : a.remote.drop a.remoteCursor = address :: later)
    (hLocal : a.locals.drop a.localCursor = []) :
    proceed system a s = proceed system (a.movedTo (a.remoteCursor + 1) 0) s := by
  have hLater : (a.movedTo (a.remoteCursor + 1) 0).remote.drop (a.remoteCursor + 1) = later :=
    drop_next hRemote
  rw [proceed_walk hRemote, hLocal, walk, tryLocals, proceed]
  exact congrArg (fun left => tryRemotes system left _ s) hLater.symm

theorem untried_turn (hRemote : a.remote.drop a.remoteCursor = address :: later)
    (hLocal : a.locals.drop a.localCursor = []) :
    (a.movedTo (a.remoteCursor + 1) 0).untried = a.untried := by
  have hLater : (a.movedTo (a.remoteCursor + 1) 0).remote.drop
      (a.movedTo (a.remoteCursor + 1) 0).remoteCursor = later := drop_next hRemote
  rw [untried, untried, hRemote, hLocal, hLater]
  cases later <;> simp [pairsOf, addressPairs, movedTo]

/-- After a local address the remote one stays, and the local ones after it are left. -/
theorem left_after (hRemote : a.remote.drop a.remoteCursor = address :: later)
    (hLocal : a.locals.drop a.localCursor = origin :: here) :
    (a.movedTo a.remoteCursor (a.localCursor + 1)).remote.drop
        (a.movedTo a.remoteCursor (a.localCursor + 1)).remoteCursor = address :: later ∧
      (a.movedTo a.remoteCursor (a.localCursor + 1)).locals.drop
        (a.movedTo a.remoteCursor (a.localCursor + 1)).localCursor = here :=
  ⟨hRemote, drop_next hLocal⟩

/-- A local address of the other family is passed over. -/
theorem proceed_skip (hRemote : a.remote.drop a.remoteCursor = address :: later)
    (hLocal : a.locals.drop a.localCursor = origin :: here)
    (hFamily : origin.isV4 ≠ address.isV4) :
    proceed system a s = proceed system (a.movedTo a.remoteCursor (a.localCursor + 1)) s := by
  obtain ⟨hRemote', hHere⟩ := left_after hRemote hLocal
  rw [proceed_walk hRemote, proceed_walk hRemote', hLocal, hHere, walk, tryLocals,
    if_pos (by simpa using hFamily)]
  rfl

theorem untried_skip (hRemote : a.remote.drop a.remoteCursor = address :: later)
    (hLocal : a.locals.drop a.localCursor = origin :: here)
    (hFamily : origin.isV4 ≠ address.isV4) :
    (a.movedTo a.remoteCursor (a.localCursor + 1)).untried = a.untried := by
  obtain ⟨hRemote', hHere⟩ := left_after hRemote hLocal
  rw [untried, untried, hRemote, hRemote', hLocal, hHere]
  simp [pairsOf_cons, hFamily, movedTo]

/-- A local address of the same family is tried. -/
theorem proceed_try (hRemote : a.remote.drop a.remoteCursor = address :: later)
    (hLocal : a.locals.drop a.localCursor = origin :: here)
    (hFamily : origin.isV4 = address.isV4) :
    proceed system a s =
      afterTry system (tryPair system
        ((a.movedTo a.remoteCursor (a.localCursor + 1)).trying (address, origin))
        (address, origin) s) := by
  let next := (a.movedTo a.remoteCursor (a.localCursor + 1)).trying (address, origin)
  obtain ⟨socket?, hFrame⟩ := tryPair_frame system next (address, origin) s
  rcases hTried : tryPair system next (address, origin) s with ⟨e | done, c, s'⟩
  all_goals
    rw [hTried] at hFrame
    obtain rfl : c = next.holding socket? := hFrame
    have hSame := hTried
    simp only [next, movedTo, trying] at hSame
    rw [proceed_walk hRemote, hLocal, walk, tryLocals, if_neg (by simpa using hFamily)]
    simp only [hSame]
  · by_cases hWaits : (a.async && e.isInProgress) = true
    · simp [afterTry, next, movedTo, trying, holding, hWaits]
    · let left := { next.holding socket? with lastError := e }
      have hLeft : left.remote.drop left.remoteCursor = address :: later := hRemote
      have hHere : left.locals.drop left.localCursor = here := drop_next hLocal
      have hEnded : (next.holding socket?).async = false ∨ e.isInProgress = false := by
        simpa [next, movedTo, trying, holding, Decidable.or_iff_not_imp_left] using hWaits
      have hGoesOn : afterTry system (.error e, next.holding socket?, s') =
          walk system address here later left s' := by
        apply (afterTry_failed system hEnded s').trans
        rw [proceed_walk hLeft, hHere]
      apply Eq.trans _ hGoesOn.symm
      simp only [holding, hWaits]
      rfl
  · rfl

theorem untried_try (hRemote : a.remote.drop a.remoteCursor = address :: later)
    (hLocal : a.locals.drop a.localCursor = origin :: here)
    (hFamily : origin.isV4 = address.isV4) :
    a.untried =
      (address, origin) :: (a.movedTo a.remoteCursor (a.localCursor + 1)).untried := by
  obtain ⟨hRemote', hHere⟩ := left_after hRemote hLocal
  rw [untried, untried, hRemote, hRemote', hLocal, hHere]
  simp [pairsOf_cons, hFamily, movedTo]

end Moves

/-- An attempt that has just been made has all pairs before it. -/
theorem untried_movedTo_start (a : ConnectAttempt) :
    (a.movedTo 0 0).untried = addressPairs a.remote a.locals := by
  cases hRemote : a.remote <;> simp [untried, movedTo, hRemote, addressPairs]

/-- An attempt that goes on gives up where no pair is left, and tries the first one else. -/
theorem proceed_cases (a : ConnectAttempt) :
    (a.untried = [] ∧ ∃ i j, (a.movedTo i j).untried = [] ∧
      ∀ {σ : Type} (system : SocketSystem σ) (s : σ),
        proceed system a s = ({ a.movedTo i j with phase := .failed }, s)) ∨
      ∃ pair i j, a.untried = pair :: (a.movedTo i j).untried ∧
        ∀ {σ : Type} (system : SocketSystem σ) (s : σ), proceed system a s =
          afterTry system (tryPair system ((a.movedTo i j).trying pair) pair s) := by
  -- each move of a cursor leaves fewer remote addresses, or as many and fewer local ones
  induction hLater : a.remote.drop a.remoteCursor generalizing a with
  | nil => exact .inl ⟨untried_done hLater, a.remoteCursor, a.localCursor, untried_done hLater,
      fun system s => proceed_done hLater⟩
  | cons address later ihRemote =>
    induction hHere : a.locals.drop a.localCursor generalizing a with
    | nil =>
      have hMoved := ihRemote (a.movedTo (a.remoteCursor + 1) 0) (drop_next hLater)
      simp only [proceed_turn hLater hHere, untried_turn hLater hHere] at hMoved ⊢
      exact hMoved
    | cons origin here ihLocal =>
      by_cases hFamily : origin.isV4 = address.isV4
      · exact .inr ⟨(address, origin), a.remoteCursor, a.localCursor + 1,
          untried_try hLater hHere hFamily, fun system s => proceed_try hLater hHere hFamily⟩
      · have hMoved := ihLocal (a.movedTo a.remoteCursor (a.localCursor + 1)) hLater
          (drop_next hHere)
        simp only [proceed_skip hLater hHere hFamily,
          untried_skip hLater hHere hFamily] at hMoved ⊢
        exact hMoved

/-- An attempt without a pair left gives up. -/
theorem proceed_nil {a : ConnectAttempt} (hUntried : a.untried = []) :
    ∃ i j, (a.movedTo i j).untried = [] ∧ ∀ {σ : Type} (system : SocketSystem σ) (s : σ),
      proceed system a s = ({ a.movedTo i j with phase := .failed }, s) := by
  obtain ⟨-, hGivesUp⟩ | ⟨pair, i, j, hSome, -⟩ := proceed_cases a
  · exact hGivesUp
  · rw [hUntried] at hSome
    cases hSome

/-- An attempt with pairs left tries the first of them. -/
theorem proceed_cons {a : ConnectAttempt} {pair : SocketAddress × SocketAddress}
    {rest : List (SocketAddress × SocketAddress)} (hUntried : a.untried = pair :: rest) :
    ∃ i j, (a.movedTo i j).untried = rest ∧ ∀ {σ : Type} (system : SocketSystem σ) (s : σ),
      proceed system a s =
        afterTry system (tryPair system ((a.movedTo i j).trying pair) pair s) := by
  obtain ⟨hNone, -⟩ | ⟨first, i, j, hSome, hTries⟩ := proceed_cases a
  · rw [hUntried] at hNone
    cases hNone
  · rw [hUntried, List.cons.injEq] at hSome
    obtain ⟨rfl, hRest⟩ := hSome
    exact ⟨i, j, hRest.symm, hTries⟩

end EventChannel.ConnectAttempt
