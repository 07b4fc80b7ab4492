import EventChannel.Proofs.Channel.Record

/-! An operation does no more to a channel that it holds than call the driver, which may put
conditions off, and change the part of the record that its transfers and controls are about. The
rest is kept by others: the name, the references, the actions on closing, the part in a copy, and
the handlers unless the operation is about those. So it is as it was, and the conditions put off are
those that the driver has raised. -/

namespace EventChannel

variable {σ : Type}

/-- What a channel's own operations do not deal with, unless they make or delete handlers. -/
def Channel.ledger (c : Channel) :
    String × List CloseAction × Interest × Nat × Bool × List Handler × HandlerId :=
  (c.name, c.closeActions, c.deferred, c.references, c.copying, c.handlers, c.lastHandler)

/-- The ledger, with whether the channel is open and how it waits. -/
def Channel.account (c : Channel) := (c.ledger, c.isOpen, c.blocking)

/-- The channel as it is when its driver is about to be closed. -/
def Channel.givenUp (c : Channel) : Channel :=
  { c with
    isOpen := false, mode := .none, input := [], output := .empty, flushPending := false
    watched := .none }

/-- A call that neither closes the driver nor chooses its mode. -/
def DriverCall.isSteady : DriverCall → Bool
  | close | setBlocking _ => false
  | _ => true

/-- The operation makes or deletes a handler. -/
def ChannelOp.Enlists : ChannelOp → Prop
  | .createHandler .. | .deleteHandler _ => True
  | _ => False

/-- Driver calls and changes outside the ledger keep what holds of a channel that is held, as long
as they neither close it nor choose its mode. -/
structure Held.Sustains (driver : Driver σ) (I : Held σ → Prop) : Prop where
  drive : ∀ {h} call, call.isSteady = true → I h → I (h.drive driver call).2
  update : ∀ {h} (f : Channel → Channel), (∀ c, (f c).account = c.account) → I h → I (h.update f)

/-- Driver calls and changes outside the ledger keep what holds of a channel that is held. -/
structure Held.Persists (driver : Driver σ) (I : Held σ → Prop) : Prop where
  drive : ∀ {h} call, I h → I (h.drive driver call).2
  update : ∀ {h} (f : Channel → Channel), (∀ c, (f c).ledger = c.ledger) → I h → I (h.update f)

theorem Held.Persists.sustains {driver : Driver σ} {I : Held σ → Prop} (kept : Persists driver I) :
    Sustains driver I where
  drive call _ := kept.drive call
  update f hAccount := kept.update f fun c => congrArg (·.1) (hAccount c)

namespace Held.Sustains

variable {driver : Driver σ} {I : Held σ → Prop} {h : Held σ}

theorem applyWatch (kept : Sustains driver I) (start : I h) : I (h.applyWatch driver) := by
  by_cases hSame : h.channel.wantedMask = h.channel.watched
  · rwa [applyWatch_same hSame]
  · have hNoted := kept.update ({ · with watched := h.channel.wantedMask }) (fun _ => rfl) start
    cases hOpen : h.channel.isOpen with
    | true =>
      rw [applyWatch_open hSame hOpen]
      exact kept.drive _ rfl hNoted
    | false =>
      rw [applyWatch_closed hSame hOpen]
      exact hNoted

theorem read (kept : Sustains driver I) (start : I h) (n : Nat) : I (h.read driver n).2 := by
  unfold Held.read
  split
  · exact start
  split
  · exact start
  split
  · exact kept.update (fun c => { c with input := c.input.drop n }) (fun _ => rfl) start
  have hCleared := kept.update ({ · with blocked := false }) (fun _ => rfl) start
  unfold askInput
  have hAsked := kept.drive (.input (max n h.channel.bufferSize)) rfl hCleared
  simp only [update_channel]
  generalize (h.update ({ · with blocked := false })).drive driver _ = r at hAsked ⊢
  obtain ⟨⟨f⟩ | ⟨bytes, _⟩, h₁⟩ := r
  · dsimp only
    split
    · exact kept.update ({ · with blocked := true }) (fun _ => rfl) hAsked
    · exact hAsked
  · have hTaken := kept.update ({ · with input := bytes.drop n }) (fun _ => rfl) hAsked
    exact kept.update ({ · with eof := (bytes.take n).isEmpty }) (fun _ => rfl) hTaken

theorem emit (kept : Sustains driver I) (start : I h) (offers : Nat) :
    I (h.emit driver offers).2 := by
  induction offers generalizing h with
  | zero => exact start
  | succ offers ih =>
    unfold Held.emit
    split
    · exact start
    have hOffered := kept.drive (.output h.channel.output.toBytes) rfl start
    generalize h.drive driver _ = r at hOffered ⊢
    obtain ⟨⟨f⟩ | ⟨_ | n, _⟩, h₁⟩ := r
    · dsimp only
      split
      · exact hOffered
      · exact hOffered
    · exact hOffered
    · exact ih (kept.update (fun c => { c with output := c.output.drop (n + 1) }) (fun _ => rfl)
        hOffered)

theorem flush (kept : Sustains driver I) (start : I h) : I (h.flush driver).2 := by
  unfold Held.flush
  split
  · exact start
  have hSettled {h₁ : Held σ} (hEmitted : I h₁) : I (h₁.settleBackground driver) := by
    unfold settleBackground
    dsimp only
    split
    · exact hEmitted
    · exact kept.applyWatch (kept.update ({ · with flushPending := _ }) (fun _ => rfl) hEmitted)
  have hEmitted := kept.emit start h.channel.output.size
  generalize h.emit driver _ = r at hEmitted ⊢
  obtain ⟨_ | f, h₁⟩ := r
  · exact hSettled hEmitted
  · exact hSettled (kept.update ({ · with output := .empty }) (fun _ => rfl) hEmitted)

theorem write (kept : Sustains driver I) (start : I h) (bytes : Bytes) (force : Bool) :
    I (h.write driver bytes force).2 := by
  unfold Held.write
  split
  · exact start
  split
  · exact start
  split
  · exact kept.update ({ · with unreported? := none }) (fun _ => rfl) start
  have hPushed :=
    kept.update (fun c => { c with output := c.output.push bytes }) (fun _ => rfl) start
  dsimp only
  split
  · have hFlushed := kept.flush hPushed
    generalize Held.flush driver _ = r at hFlushed ⊢
    obtain ⟨_ | f, h₁⟩ := r
    · exact hFlushed
    · exact hFlushed
  · exact hPushed

/-- Writing in the background keeps it. -/
theorem flushInBackground (kept : Sustains driver I) (start : I h) (raised : Interest) :
    I (h.flushInBackground driver raised) := by
  unfold Held.flushInBackground
  split
  · have hFlushed := kept.flush start
    generalize h.flush driver = r at hFlushed ⊢
    obtain ⟨_ | f, h₁⟩ := r
    · exact hFlushed
    · exact kept.update ({ · with unreported? := some f }) (fun _ => rfl) hFlushed
  · exact start

theorem seek (kept : Sustains driver I) (start : I h) (target : SeekTarget) :
    I (h.seek driver target).2 := by
  have hThere {h₁ : Held σ} (there : I h₁) : I (h₁.goTo driver target).2 := by
    unfold goTo
    split
    · exact there
    have hSought := kept.drive (.seek target) rfl there
    generalize h₁.drive driver _ = r at hSought ⊢
    obtain ⟨_ | position, h₂⟩ := r
    · exact hSought
    · exact kept.update ({ · with input := [], eof := false }) (fun _ => rfl) hSought
  cases hEmpty : h.channel.output.isEmpty with
  | true =>
    rw [seek_empty hEmpty]
    exact hThere start
  | false =>
    rw [seek_waiting hEmpty]
    have hFlushed := kept.flush start
    generalize h.flush driver = r at hFlushed ⊢
    obtain ⟨_ | f, h₁⟩ := r
    · exact hThere hFlushed
    · exact hFlushed

theorem tell (kept : Sustains driver I) (start : I h) : I (h.tell driver).2 := by
  unfold Held.tell
  split
  · exact start
  have hAsked := kept.drive (.seek (.current 0)) rfl start
  generalize h.drive driver _ = r at hAsked ⊢
  obtain ⟨_ | position, h₁⟩ := r
  · exact hAsked
  · exact hAsked

theorem getOption (kept : Sustains driver I) (start : I h) (dns : Bool) (name : String) :
    I (h.getOption driver dns name).2 := by
  unfold Held.getOption
  split
  · exact start
  · exact start
  · split
    · exact start
    have hAsked := kept.drive (.getOption dns (some name)) rfl start
    generalize h.drive driver _ = r at hAsked ⊢
    obtain ⟨_ | listing, h₁⟩ := r
    · exact hAsked
    · exact hAsked

theorem getOptions (kept : Sustains driver I) (start : I h) (dns : Bool) :
    I (h.getOptions driver dns).2 := by
  unfold Held.getOptions
  split
  · exact start
  have hAsked := kept.drive (.getOption dns none) rfl start
  generalize h.drive driver _ = r at hAsked ⊢
  obtain ⟨_ | listing, h₁⟩ := r
  · exact hAsked
  · exact hAsked

theorem setOption (kept : Sustains driver I) (start : I h) (name value : String)
    (switch : ∀ on, I (h.setBlocking driver on).2) : I (h.setOption driver name value).2 := by
  unfold Held.setOption
  split
  · split
    · exact start
    · exact switch _
  · split
    · exact start
    · exact kept.update ({ · with bufferSize := _ }) (fun _ => rfl) start
  · split
    · exact start
    have hSet := kept.drive (.setOption name value) rfl start
    generalize h.drive driver _ = r at hSet ⊢
    obtain ⟨_ | done, h₁⟩ := r
    · exact hSet
    · exact hSet

/-- Closing keeps it, if it does where the channel is given up and the driver closed. -/
theorem shut (kept : Sustains driver I) (start : I h)
    (close : ∀ {h}, I h → I (((h.update Channel.givenUp).drive driver (.watch .none)).2.drive driver
      .close).2) : I (h.shut driver).2 := by
  unfold Held.shut
  split
  · exact start
  have hWritten : I (if h.channel.output.isEmpty then h else (h.flush driver).2) := by
    split
    · exact start
    · exact kept.flush start
  exact close hWritten

theorem closeHalf (kept : Sustains driver I) (start : I h) (d : Direction) :
    I (h.closeHalf driver d).2 := by
  have hSide {h₁ : Held σ} (there : I h₁) : I (h₁.closeSide driver d).2 := by
    unfold closeSide
    have hClosed := kept.drive (.closeHalf d) rfl there
    generalize h₁.drive driver _ = r at hClosed ⊢
    obtain ⟨e | done, h₂⟩ := r
    · exact hClosed
    · have hLess :=
        kept.update (fun c => { c with mode := c.mode.without d }) (fun _ => rfl) hClosed
      apply kept.applyWatch
      split
      · exact kept.update ({ · with input := [], eof := true }) (fun _ => rfl) hLess
      · exact hLess
  by_cases hNot : h.channel.isOpen = false ∨ h.channel.mode.has d = false ∨
      h.channel.mode.without d = .none
  · rwa [closeHalf_unchanged hNot]
  · obtain ⟨hOpen, hHas, hLast⟩ : h.channel.isOpen = true ∧ h.channel.mode.has d = true ∧
        h.channel.mode.without d ≠ .none := by simpa using hNot
    cases d with
    | read =>
      rw [closeHalf_read hOpen hHas hLast]
      exact hSide start
    | write =>
      rw [closeHalf_write hOpen hHas hLast]
      have hFlushed := kept.flush start
      generalize h.flush driver = r at hFlushed ⊢
      obtain ⟨_ | f, h₁⟩ := r
      · exact hSide hFlushed
      · exact hFlushed

/-- Every operation keeps it, if the choice of a mode does and closing does, and changes to the
handlers where the operation makes them. -/
theorem perform (kept : Sustains driver I) (start : I h) (op : ChannelOp)
    (enlist : op.Enlists → ∀ handlers last,
      I (h.update ({ · with handlers := handlers, lastHandler := last })))
    (switch : ∀ on, I (h.setBlocking driver on).2) (shut : I (h.shut driver).2) :
    I (h.perform driver op).2 := by
  cases op with
  | read n => exact kept.read start n
  | write bytes force => exact kept.write start bytes force
  | seek target => exact kept.seek start target
  | tell => exact kept.tell start
  | setBlocking on => exact switch on
  | createHandler mask callback =>
    exact kept.applyWatch (enlist trivial
      (h.channel.handlers ++ [⟨h.channel.lastHandler + 1, mask, callback⟩])
      (h.channel.lastHandler + 1))
  | deleteHandler id =>
    exact kept.applyWatch (enlist trivial (h.channel.handlers.filter (·.id != id))
      h.channel.lastHandler)
  | getOption dns name => exact kept.getOption start dns name
  | getOptions dns => exact kept.getOptions start dns
  | setOption name value => exact kept.setOption start name value switch
  | cut =>
    show I (h.cut driver)
    unfold Held.cut
    split
    · exact kept.drive .cut rfl start
    · exact start
  | splice loop =>
    show I (h.splice driver loop)
    unfold Held.splice
    split
    · exact kept.drive _ rfl (kept.drive (.splice loop) rfl start)
    · exact start
  | shut => exact shut
  | closeHalf d => exact kept.closeHalf start d

end Held.Sustains

namespace Held.Persists

variable {driver : Driver σ} {I : Held σ → Prop} {h : Held σ}

theorem applyWatch (kept : Persists driver I) (start : I h) : I (h.applyWatch driver) :=
  kept.sustains.applyWatch start

/-- Writing in the background keeps it. -/
theorem flushInBackground (kept : Persists driver I) (start : I h) (raised : Interest) :
    I (h.flushInBackground driver raised) :=
  kept.sustains.flushInBackground start raised

theorem setBlocking (kept : Persists driver I) (start : I h) (on : Bool) :
    I (h.setBlocking driver on).2 := by
  unfold Held.setBlocking
  split
  · exact start
  have hSwitched := kept.drive (.setBlocking on) start
  generalize h.drive driver _ = r at hSwitched ⊢
  obtain ⟨e | done, h₁⟩ := r
  · exact hSwitched
  · exact kept.applyWatch (kept.update
      (fun c => { c with blocking := on, flushPending := if on then false else c.flushPending })
      (fun _ => rfl) hSwitched)

theorem shut (kept : Persists driver I) (start : I h) : I (h.shut driver).2 :=
  kept.sustains.shut start fun there =>
    kept.drive .close (kept.drive (.watch .none) (kept.update _ (fun _ => rfl) there))

/-- Every operation keeps it, if changes to the handlers do where it makes them. -/
theorem perform (kept : Persists driver I) (start : I h) (op : ChannelOp)
    (enlist : op.Enlists → ∀ handlers last,
      I (h.update ({ · with handlers := handlers, lastHandler := last }))) :
    I (h.perform driver op).2 :=
  kept.sustains.perform start op enlist (kept.setBlocking start) (kept.shut start)

end Held.Persists

/-- The conditions that a driver raises in some calls, and the environment after them. -/
def Driver.replay (driver : Driver σ) (env : σ) (calls : List DriverEvent) : Interest × σ :=
  calls.foldl (fun (raised, env) e =>
    let driven := driver e.call env
    (raised ∪ driven.raised, driven.env)) (.none, env)

theorem Driver.replay_concat (driver : Driver σ) (env : σ) (calls : List DriverEvent)
    (e : DriverEvent) :
    driver.replay env (calls ++ [e]) =
      ((driver.replay env calls).1 ∪ (driver e.call (driver.replay env calls).2).raised,
        (driver e.call (driver.replay env calls).2).env) := by
  rw [replay, List.foldl_append]
  rfl

namespace Held

/-- The channel has noted what its driver has raised since the record began. -/
structure PutsOff (driver : Driver σ) (before : Interest) (start : σ)
    (h : Held (σ × List DriverEvent)) : Prop where
  env : h.env.1 = (driver.replay start h.calls).2
  deferred : h.channel.deferred = before ∪ (driver.replay start h.calls).1

variable (driver : Driver σ)

theorem persists_putsOff (before : Interest) (start : σ) :
    Persists driver.traced (PutsOff driver before start) where
  drive := by
    intro h call putsOff
    have hCalls : (h.drive driver.traced call).2.calls =
        h.calls ++ [⟨call, (driver call h.env.1).answer⟩] := rfl
    constructor
    · rw [hCalls, Driver.replay_concat, ← putsOff.env]
      rfl
    · rw [hCalls, Driver.replay_concat, ← putsOff.env, ← Interest.union_assoc,
        ← putsOff.deferred]
      rfl
  update := by
    intro h f hLedger putsOff
    have hDeferred : (f h.channel).deferred = h.channel.deferred :=
      congrArg (fun l => l.2.2.1) (hLedger h.channel)
    exact ⟨putsOff.env, hDeferred.trans putsOff.deferred⟩

theorem putsOff_recording (h : Held σ) :
    h.recording.PutsOff driver h.channel.deferred h.env :=
  ⟨rfl, (Interest.union_none _).symm⟩

/-- An operation puts off what the driver raises in the calls that it makes. -/
theorem deferred_perform (h : Held σ) (op : ChannelOp) :
    (h.perform driver op).2.channel.deferred =
      h.channel.deferred ∪
        (driver.replay h.env (h.recording.perform driver.traced op).2.calls).1 := by
  have hErase := erase_perform driver h.recording op
  rw [erase_recording] at hErase
  rw [hErase]
  exact ((persists_putsOff driver _ _).perform (putsOff_recording driver h) op
    fun _ _ _ => ⟨rfl, (Interest.union_none _).symm⟩).deferred

/-- Writing in the background does so, too. -/
theorem deferred_flushInBackground (h : Held σ) (raised : Interest) :
    (h.flushInBackground driver raised).channel.deferred =
      h.channel.deferred ∪
        (driver.replay h.env (h.recording.flushInBackground driver.traced raised).calls).1 := by
  have hErase := erase_flushInBackground driver h.recording raised
  rw [erase_recording] at hErase
  rw [hErase]
  exact ((persists_putsOff driver _ _).flushInBackground (putsOff_recording driver h)
    raised).deferred

end Held

end EventChannel
