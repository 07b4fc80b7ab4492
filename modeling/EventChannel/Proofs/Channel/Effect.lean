import EventChannel.Proofs.Channel.Traffic

/-! What each operation may come to, whatever the driver answers: the calls that it makes, its own
answer and the channel that it leaves behind. What is proved from the effects alone holds of every
driver. -/

namespace EventChannel

namespace Channel

/-- The directions that a channel is open in while its driver is open. -/
def isOpenFor (c : Channel) (d : Direction) : Bool := c.isOpen && c.mode.has d

/-- What reading may come to. The driver is asked only when no input waits. -/
inductive ReadEffect (c : Channel) (n : Nat) :
    List DriverEvent → Except TransferFailure Bytes → Channel → Prop
  | misused (m : Misuse) (hNot : c.isOpenFor .read = false) :
      ReadEffect c n [] (.error (.misuse m)) c
  | buffered (hInput : c.input ≠ []) :
      ReadEffect c n [] (.ok (c.input.take n)) { c with input := c.input.drop n }
  | given (hInput : c.input = []) (bytes : { bytes : Bytes // bytes.length ≤ max n c.bufferSize })
      (deferred : Interest) :
      ReadEffect c n [⟨.input (max n c.bufferSize), .ok bytes⟩] (.ok (bytes.1.take n))
        { c with input := bytes.1.drop n, eof := (bytes.1.take n).isEmpty, blocked := false
                 deferred }
  | waits (hInput : c.input = []) (f : DriverFailure) (hWait : f.isWouldBlock = true)
      (deferred : Interest) :
      ReadEffect c n [⟨.input (max n c.bufferSize), .error f⟩] (.ok [])
        { c with blocked := true, deferred }
  | fails (hInput : c.input = []) (f : DriverFailure) (hWait : f.isWouldBlock = false)
      (deferred : Interest) :
      ReadEffect c n [⟨.input (max n c.bufferSize), .error f⟩] (.error (.driver f))
        { c with blocked := false, deferred }

/-- What writing may come to. A failure that was not reported yet is answered before anything else
is done. -/
inductive WriteEffect (c : Channel) (bytes : Bytes) (force : Bool) :
    List DriverEvent → Except TransferFailure Unit → Channel → Prop
  | misused (m : Misuse) (hNot : c.isOpenFor .write = false) :
      WriteEffect c bytes force [] (.error (.misuse m)) c
  | unreported (f : DriverFailure) (hParked : c.unreported? = some f) :
      WriteEffect c bytes force [] (.error (.driver f)) { c with unreported? := none }
  | kept (hParked : c.unreported? = none) (hForce : force = false) :
      WriteEffect c bytes force [] (.ok ()) { c with output := c.output.push bytes }
  | written {calls : List DriverEvent} {c' : Channel} (hParked : c.unreported? = none)
      (flushed : Flushed { c with output := c.output.push bytes } calls none c') :
      WriteEffect c bytes force calls (.ok ()) c'
  | failed {calls : List DriverEvent} {c' : Channel} (f : DriverFailure)
      (hParked : c.unreported? = none)
      (flushed : Flushed { c with output := c.output.push bytes } calls (some f) c') :
      WriteEffect c bytes force calls (.error (.driver f)) c'

/-- The report of a failure to write what waits before a seek. -/
def seekReport (c : Channel) (f : DriverFailure) : Report :=
  f.report "conduit.channel.seek" ("error during seek on " ++ Held.quoted c.name)

/-- The report of a failure to write what waits before one direction is closed. -/
def writeReport (c : Channel) (f : DriverFailure) : Report :=
  f.report "conduit.channel.io" ("error writing " ++ Held.quoted c.name)

/-- What waits has been written first, where anything waited. -/
def Cleared (c : Channel) (calls : List DriverEvent) (c' : Channel) : Prop :=
  calls = [] ∧ c' = c ∨ c.Flushed calls none c'

/-- What seeking may come to. -/
inductive SeekEffect (c : Channel) : List DriverEvent → Except Report Nat → Channel → Prop
  | failed {calls : List DriverEvent} {c' : Channel} (f : DriverFailure)
      (flushed : c.Flushed calls (some f) c') :
      SeekEffect c calls (.error (c.seekReport f)) c'
  | went {first second : List DriverEvent} {c₁ : Channel} (answer : Except Report Nat)
      (input : Bytes) (eof : Bool) (deferred : Interest) (cleared : c.Cleared first c₁)
      (control : Control second) :
      SeekEffect c (first ++ second) answer { c₁ with input, eof, deferred }

/-- What closing one direction may come to. -/
inductive CloseHalfEffect (c : Channel) (d : Direction) :
    List DriverEvent → Except Report HalfClosed → Channel → Prop
  | unchanged (answer : Except Report HalfClosed) : CloseHalfEffect c d [] answer c
  | failed {calls : List DriverEvent} {c' : Channel} (f : DriverFailure) (hWrite : d = .write)
      (flushed : c.Flushed calls (some f) c') :
      CloseHalfEffect c d calls (.error (c.writeReport f)) c'
  | went {first second : List DriverEvent} {c₁ c' : Channel} (answer : Except Report HalfClosed)
      (cleared : c.Cleared first c₁) (control : Control second)
      (kept : d = .write ∨ c'.mode.readable = true → c'.input = c₁.input)
      (mode : c'.mode = c₁.mode ∨ c'.mode = c₁.mode.without d)
      (rest : c' = { c₁ with
        mode := c'.mode, input := c'.input, eof := c'.eof, deferred := c'.deferred
        watched := c'.watched }) :
      CloseHalfEffect c d (first ++ second) answer c'

/-- What conditions that come up may lead to, before anybody is called. A failure waits for a call
that can report it. -/
inductive RaiseEffect (c : Channel) : List DriverEvent → Channel → Prop
  | idle : RaiseEffect c [] c
  | written {calls : List DriverEvent} {c' : Channel} (hPending : c.flushPending = true)
      (flushed : c.Flushed calls none c') : RaiseEffect c calls c'
  | failed {calls : List DriverEvent} {c' : Channel} (f : DriverFailure)
      (hPending : c.flushPending = true) (flushed : c.Flushed calls (some f) c') :
      RaiseEffect c calls { c' with unreported? := some f }

/-- What closing may come to. No output is left, and neither direction is open. -/
inductive ShutEffect (c : Channel) : Channel → Prop
  | already (hShut : c.isOpen = false) : ShutEffect c c
  | went {c' : Channel} (isOpen : c'.isOpen = false) (mode : c'.mode = .none)
      (output : c'.output = .empty) (pending : c'.flushPending = false) : ShutEffect c c'

theorem ShutEffect.isOpen {c c' : Channel} (effect : c.ShutEffect c') : c'.isOpen = false := by
  cases effect with
  | already hShut => exact hShut
  | went isOpen mode output pending => exact isOpen

/-- No bytes are moved: all that may change is how the channel is to work and whom it calls. Only
the callback given may be new among those of its handlers. Output stays to be written in the
background, unless the mode has been switched to the blocking one. -/
structure Calm (c : Channel) (callback? : Option Callback) (calls : List DriverEvent)
    (c' : Channel) : Prop where
  control : Control calls
  pending : c'.flushPending = true → c.flushPending = true
  minded : c'.flushPending = c.flushPending ∧ c'.blocking = c.blocking ∨
    c'.flushPending = (c.flushPending && !c'.blocking)
  handlers : ∀ handler ∈ c'.handlers, handler ∈ c.handlers ∨ callback? = some handler.callback
  rest : c' = { c with
    blocking := c'.blocking, bufferSize := c'.bufferSize, watched := c'.watched
    flushPending := c'.flushPending, handlers := c'.handlers, lastHandler := c'.lastHandler
    deferred := c'.deferred }

/-- Nothing at all has happened. -/
theorem Calm.refl (c : Channel) (callback? : Option Callback) : c.Calm callback? [] c :=
  ⟨control_nil, id, .inl ⟨rfl, rfl⟩, fun _ hMem => .inl hMem, rfl⟩

/-- What an operation may come to. -/
def Effect (c : Channel) : (op : ChannelOp) → List DriverEvent → op.Answer → Channel → Prop
  | .read n => c.ReadEffect n
  | .write bytes force => c.WriteEffect bytes force
  | .seek _ => c.SeekEffect
  | .closeHalf d => c.CloseHalfEffect d
  | .shut => fun _ _ => c.ShutEffect
  | .setBlocking on => fun calls answer c' =>
      c.Calm none calls c' ∧ (answer = .ok () → c'.blocking = on) ∧
        ∀ r, answer = .error r → c.isOpen = false ∨ ∃ e, ⟨.setBlocking on, .error e⟩ ∈ calls
  | .createHandler _ callback => fun calls _ c' =>
      c.Calm (some callback) calls c' ∧ c'.blocking = c.blocking
  | .deleteHandler _ => fun calls _ c' => c.Calm none calls c' ∧ c'.blocking = c.blocking
  | .tell | .getOption .. | .getOptions _ | .setOption .. | .cut | .splice _ => fun calls _ c' =>
      c.Calm none calls c'

variable {c c' : Channel} {d : Direction}

theorem isOpenFor_congr (hOpen : c'.isOpen = c.isOpen) (hMode : c'.mode = c.mode) :
    c'.isOpenFor d = c.isOpenFor d := by
  rw [isOpenFor, isOpenFor, hOpen, hMode]

/-- A channel that is open in some direction is open. -/
theorem isOpenFor_of_has {d : Direction} (hShut : c.isOpen = false → c.mode = .none)
    (hHas : c.mode.has d = true) : c.isOpenFor d = true := by
  cases hOpen : c.isOpen with
  | true => rw [isOpenFor, hOpen, hHas]; rfl
  | false =>
    rw [hShut hOpen] at hHas
    cases d <;> cases hHas

theorem Flushed.isOpen {calls : List DriverEvent} {failure? : Option DriverFailure}
    (flushed : c.Flushed calls failure? c') : c'.isOpen = c.isOpen := by
  rw [flushed.rest]

theorem Flushed.isOpenFor {calls : List DriverEvent} {failure? : Option DriverFailure}
    (flushed : c.Flushed calls failure? c') : c'.isOpenFor d = c.isOpenFor d :=
  isOpenFor_congr flushed.isOpen (by rw [flushed.rest])

theorem Cleared.isOpen {calls : List DriverEvent} (cleared : c.Cleared calls c') :
    c'.isOpen = c.isOpen := by
  rcases cleared with ⟨-, rfl⟩ | flushed
  · rfl
  · exact flushed.isOpen

theorem Cleared.isOpenFor {calls : List DriverEvent} (cleared : c.Cleared calls c') :
    c'.isOpenFor d = c.isOpenFor d := by
  rcases cleared with ⟨-, rfl⟩ | flushed
  · rfl
  · exact flushed.isOpenFor

theorem Calm.isOpen {callback? : Option Callback} {calls : List DriverEvent}
    (calm : c.Calm callback? calls c') : c'.isOpen = c.isOpen := by
  rw [calm.rest]

theorem Calm.isOpenFor {callback? : Option Callback} {calls : List DriverEvent}
    (calm : c.Calm callback? calls c') : c'.isOpenFor d = c.isOpenFor d :=
  isOpenFor_congr calm.isOpen (by rw [calm.rest])

theorem RaiseEffect.isOpen {calls : List DriverEvent} (effect : c.RaiseEffect calls c') :
    c'.isOpen = c.isOpen := by
  cases effect with
  | idle => rfl
  | written hPending flushed => exact flushed.isOpen
  | failed f hPending flushed => exact flushed.isOpen

theorem RaiseEffect.isOpenFor {calls : List DriverEvent} (effect : c.RaiseEffect calls c') :
    c'.isOpenFor d = c.isOpenFor d := by
  cases effect with
  | idle => rfl
  | written hPending flushed => exact flushed.isOpenFor
  | failed f hPending flushed => exact flushed.isOpenFor

/-- Only closing closes a channel. -/
theorem Effect.isOpen_of_ne_shut {op : ChannelOp} {calls : List DriverEvent} {answer : op.Answer}
    (effect : c.Effect op calls answer c') (stays : op ≠ .shut) : c'.isOpen = c.isOpen := by
  cases op with
  | read n => cases effect <;> rfl
  | write bytes force =>
    cases effect with
    | misused | unreported | kept => rfl
    | written hParked flushed => exact flushed.isOpen
    | failed f hParked flushed => exact flushed.isOpen
  | seek target =>
    cases effect with
    | failed f flushed => exact flushed.isOpen
    | went answer input eof deferred cleared control => exact cleared.isOpen
  | closeHalf side =>
    cases effect with
    | unchanged => rfl
    | failed f hWrite flushed => exact flushed.isOpen
    | @went first second c₁ _ answer cleared control kept mode rest =>
      have hLast : c'.isOpen = c₁.isOpen := by rw [rest]
      exact hLast.trans cleared.isOpen
  | shut => exact absurd rfl stays
  | setBlocking | createHandler | deleteHandler => exact effect.1.isOpen
  | tell | getOption | getOptions | setOption | cut | splice => exact Calm.isOpen effect

/-- No operation opens a direction. -/
theorem Effect.isOpenFor {op : ChannelOp} {calls : List DriverEvent} {answer : op.Answer}
    (effect : c.Effect op calls answer c') (hOpen : c'.isOpenFor d = true) :
    c.isOpenFor d = true := by
  cases op with
  | read n => cases effect <;> exact hOpen
  | write bytes force =>
    cases effect with
    | misused | unreported | kept => exact hOpen
    | written hParked flushed => exact flushed.isOpenFor (d := d) ▸ hOpen
    | failed f hParked flushed => exact flushed.isOpenFor (d := d) ▸ hOpen
  | seek target =>
    cases effect with
    | failed f flushed => exact flushed.isOpenFor (d := d) ▸ hOpen
    | went answer input eof deferred cleared control =>
      exact cleared.isOpenFor (d := d) ▸ hOpen
  | closeHalf side =>
    cases effect with
    | unchanged => exact hOpen
    | failed f hWrite flushed => exact flushed.isOpenFor (d := d) ▸ hOpen
    | @went first second c₁ _ answer cleared control kept mode rest =>
      rw [← cleared.isOpenFor]
      have hIsOpen : c'.isOpen = c₁.isOpen := by rw [rest]
      rcases mode with hMode | hMode
      · exact isOpenFor_congr hIsOpen hMode ▸ hOpen
      · rw [Channel.isOpenFor, hIsOpen, hMode] at hOpen
        by_cases hSide : d = side
        · simp [hSide] at hOpen
        · rwa [Mode.has_without_of_ne _ hSide] at hOpen
  | shut =>
    rw [Channel.isOpenFor, ShutEffect.isOpen effect] at hOpen
    cases hOpen
  | setBlocking | createHandler | deleteHandler => exact effect.1.isOpenFor (d := d) ▸ hOpen
  | tell | getOption | getOptions | setOption | cut | splice =>
    exact Calm.isOpenFor (d := d) effect ▸ hOpen

end Channel

namespace Held

variable {σ α : Type} (driver : Driver σ) (h : Held (σ × List DriverEvent))

/-- What has been done to a channel, read off the record: some calls were added to it, and they,
the answer and the channel stand in a relation. -/
def Shows (h : Held (σ × List DriverEvent))
    (effect : List DriverEvent → α → Channel → Prop) (r : α × Held (σ × List DriverEvent)) : Prop :=
  ∃ calls, r.2.calls = h.calls ++ calls ∧ effect calls r.1 r.2.channel

theorem shows_nil {effect : List DriverEvent → α → Channel → Prop} {a : α}
    {h₁ : Held (σ × List DriverEvent)} (hCalls : h₁.calls = h.calls)
    (hEffect : effect [] a h₁.channel) : h.Shows effect (a, h₁) :=
  ⟨[], by rw [hCalls, List.append_nil], hEffect⟩

theorem read_shows (n : Nat) : h.Shows (h.channel.ReadEffect n) (h.read driver.traced n) := by
  cases hOpen : h.channel.isOpen with
  | false =>
    rw [read_closed hOpen]
    exact shows_nil h rfl (.misused _ (by simp [Channel.isOpenFor, hOpen]))
  | true =>
  cases hMode : h.channel.mode.readable with
  | false =>
    rw [read_unreadable hOpen hMode]
    exact shows_nil h rfl (.misused _ (by simp [Channel.isOpenFor, Mode.has, hMode]))
  | true =>
  by_cases hInput : h.channel.input = []
  · rw [read_asked hOpen hMode hInput]
    rcases hDriven : (h.update ({ · with blocked := false })).drive driver.traced
      (.input (max n h.channel.bufferSize)) with ⟨answer, h₁⟩
    obtain ⟨hCalls, deferred, hChannel⟩ := drive_traced driver _ hDriven
    refine ⟨[⟨.input (max n h.channel.bufferSize), answer⟩], ?_⟩
    rcases answer with f | bytes
    · by_cases hWait : f.isWouldBlock
      · simp only [hWait, if_true]
        refine ⟨hCalls, ?_⟩
        rw [update_channel, hChannel]
        exact .waits hInput f hWait deferred
      · simp only [hWait]
        refine ⟨hCalls, ?_⟩
        show h.channel.ReadEffect n _ _ h₁.channel
        rw [hChannel]
        exact .fails hInput f (by simpa using hWait) deferred
    · refine ⟨hCalls, ?_⟩
      simp only
      rw [update_channel, hChannel]
      exact .given hInput bytes deferred
  · rw [read_buffered hOpen hMode hInput]
    exact shows_nil h rfl (.buffered hInput)

theorem write_shows (bytes : Bytes) (force : Bool) :
    h.Shows (h.channel.WriteEffect bytes force) (h.write driver.traced bytes force) := by
  cases hOpen : h.channel.isOpen with
  | false =>
    rw [write_closed hOpen]
    exact shows_nil h rfl (.misused _ (by simp [Channel.isOpenFor, hOpen]))
  | true =>
  cases hMode : h.channel.mode.writable with
  | false =>
    rw [write_unwritable hOpen hMode]
    exact shows_nil h rfl (.misused _ (by simp [Channel.isOpenFor, Mode.has, hMode]))
  | true =>
  cases hParked : h.channel.unreported? with
  | some f =>
    rw [write_unreported hOpen hMode hParked]
    exact shows_nil h rfl (.unreported f hParked)
  | none =>
  cases hDue : force || decide (h.channel.bufferSize ≤ (h.channel.output.push bytes).size) with
  | false =>
    rw [write_kept hOpen hMode hParked hDue]
    exact shows_nil h rfl (.kept hParked (by simp_all))
  | true =>
    rw [write_flushed hOpen hMode hParked hDue]
    obtain ⟨calls, hCalls, flushed⟩ := flush_traced driver (h.pushed bytes) hOpen
    refine ⟨calls, ?_⟩
    rcases hFlush : (h.pushed bytes).flush driver.traced with ⟨_ | f, h₁⟩
    · rw [hFlush] at hCalls flushed
      exact ⟨hCalls, .written hParked flushed⟩
    · rw [hFlush] at hCalls flushed
      exact ⟨hCalls, .failed f hParked flushed⟩

/-- Where a seek has come to its own call, nothing but control is left to do. -/
theorem goTo_shows (target : SeekTarget) :
    h.Shows (fun calls _ c' => Control calls ∧ ∃ input eof deferred,
      c' = { h.channel with input, eof, deferred }) (h.goTo driver.traced target) := by
  unfold goTo
  cases hOpen : h.channel.isOpen with
  | false =>
    refine shows_nil h rfl ⟨control_nil, h.channel.input, h.channel.eof, h.channel.deferred, ?_⟩
    simp
  | true =>
    rcases hDriven : h.drive driver.traced (.seek target) with ⟨answer, h₁⟩
    obtain ⟨hCalls, deferred, hChannel⟩ := drive_traced driver h hDriven
    have hControl : Control [⟨.seek target, answer⟩] := control_single rfl rfl
    cases answer with
    | error f => exact ⟨_, hCalls, hControl, _, _, _, hChannel⟩
    | ok position =>
      refine ⟨_, hCalls, hControl, [], false, deferred, ?_⟩
      show { h₁.channel with input := [], eof := false } = _
      rw [hChannel]

theorem seek_shows (target : SeekTarget) :
    h.Shows h.channel.SeekEffect (h.seek driver.traced target) := by
  cases hEmpty : h.channel.output.isEmpty with
  | true =>
    rw [seek_empty hEmpty]
    obtain ⟨calls, hCalls, hControl, input, eof, deferred, hChannel⟩ := goTo_shows driver h target
    refine ⟨[] ++ calls, hCalls, ?_⟩
    rw [hChannel]
    exact .went _ input eof deferred (.inl ⟨rfl, rfl⟩) hControl
  | false =>
    rw [seek_waiting hEmpty]
    cases hOpen : h.channel.isOpen with
    | false =>
      rw [flush_closed hOpen]
      obtain ⟨calls, hCalls, hControl, input, eof, deferred, hChannel⟩ := goTo_shows driver h target
      refine ⟨[] ++ calls, hCalls, ?_⟩
      show h.channel.SeekEffect _ _ (h.goTo driver.traced target).2.channel
      rw [hChannel]
      exact .went _ input eof deferred (.inl ⟨rfl, rfl⟩) hControl
    | true =>
      obtain ⟨first, hFirst, flushed⟩ := flush_traced driver h hOpen
      rcases hFlush : h.flush driver.traced with ⟨_ | f, h₁⟩
      · rw [hFlush] at hFirst flushed
        obtain ⟨second, hSecond, hControl, input, eof, deferred, hChannel⟩ :=
          goTo_shows driver h₁ target
        refine ⟨first ++ second, ?_, ?_⟩
        · rw [hSecond, hFirst, List.append_assoc]
        · show h.channel.SeekEffect _ _ (h₁.goTo driver.traced target).2.channel
          rw [hChannel]
          exact .went _ input eof deferred (.inr flushed) hControl
      · rw [hFlush] at hFirst flushed
        refine ⟨first, hFirst, ?_⟩
        have hName : h₁.channel.name = h.channel.name := by rw [flushed.rest]
        show h.channel.SeekEffect _ (.error (h₁.channel.seekReport f)) h₁.channel
        rw [Channel.seekReport, hName, ← Channel.seekReport]
        exact .failed f flushed

/-- One direction has been given up or kept; no bytes have been moved meanwhile. -/
theorem closeSide_shows (d : Direction) :
    h.Shows (fun calls _ c' => Control calls ∧
      (d = .write ∨ c'.mode.readable = true → c'.input = h.channel.input) ∧
      (c'.mode = h.channel.mode ∨ c'.mode = h.channel.mode.without d) ∧
      c' = { h.channel with
        mode := c'.mode, input := c'.input, eof := c'.eof, deferred := c'.deferred
        watched := c'.watched }) (h.closeSide driver.traced d) := by
  unfold closeSide
  rcases hDriven : h.drive driver.traced (.closeHalf d) with ⟨answer, h₁⟩
  obtain ⟨hCalls, deferred, hChannel⟩ := drive_traced driver h hDriven
  have hControl : Control [⟨.closeHalf d, answer⟩] := control_single rfl rfl
  cases answer with
  | error e =>
    refine ⟨_, hCalls, hControl, ?_⟩
    simp only
    rw [hChannel]
    exact ⟨fun _ => rfl, .inl rfl, rfl⟩
  | ok done =>
    obtain ⟨more, hMore, hWatch, later, watched, hTold⟩ := applyWatch_traced driver
      (if d = .read then
        (h₁.update fun c => { c with mode := c.mode.without d }).update
          ({ · with input := [], eof := true })
      else h₁.update fun c => { c with mode := c.mode.without d })
    refine ⟨[⟨.closeHalf d, .ok done⟩] ++ more, ?_, hControl.append hWatch, ?_⟩
    · rw [← List.append_assoc, ← hCalls]
      apply hMore.trans
      by_cases hRead : d = .read <;> simp [hRead]
    · simp only
      rw [hTold]
      cases d with
      | read =>
        simp only [if_true, update_channel, hChannel]
        refine ⟨?_, .inr trivial, trivial⟩
        rintro (hWrite | hReadable)
        · cases hWrite
        · cases hReadable
      | write =>
        have hRead : Direction.write ≠ .read := by decide
        simp only [if_neg hRead, update_channel, hChannel]
        exact ⟨fun _ => trivial, .inr trivial, trivial⟩

theorem closeHalf_shows (d : Direction) :
    h.Shows (h.channel.CloseHalfEffect d) (h.closeHalf driver.traced d) := by
  by_cases hNot : h.channel.isOpen = false ∨ h.channel.mode.has d = false ∨
      h.channel.mode.without d = .none
  · refine ⟨[], by rw [closeHalf_unchanged hNot, List.append_nil], ?_⟩
    rw [closeHalf_unchanged hNot]
    exact .unchanged _
  · obtain ⟨hOpen, hHas, hLast⟩ : h.channel.isOpen = true ∧ h.channel.mode.has d = true ∧
        h.channel.mode.without d ≠ .none := by simpa using hNot
    cases d with
    | read =>
      rw [closeHalf_read hOpen hHas hLast]
      obtain ⟨calls, hCalls, hControl, hKept, hMode, hRest⟩ := closeSide_shows driver h .read
      exact ⟨[] ++ calls, hCalls, .went _ (.inl ⟨rfl, rfl⟩) hControl hKept hMode hRest⟩
    | write =>
      rw [closeHalf_write hOpen hHas hLast]
      obtain ⟨first, hFirst, flushed⟩ := flush_traced driver h hOpen
      rcases hFlush : h.flush driver.traced with ⟨_ | f, h₁⟩
      · rw [hFlush] at hFirst flushed
        obtain ⟨second, hSecond, hControl, hKept, hMode, hRest⟩ := closeSide_shows driver h₁ .write
        refine ⟨first ++ second, ?_, .went _ (.inr flushed) hControl hKept hMode hRest⟩
        rw [hSecond, hFirst, List.append_assoc]
      · rw [hFlush] at hFirst flushed
        refine ⟨first, hFirst, ?_⟩
        have hName : h₁.channel.name = h.channel.name := by rw [flushed.rest]
        show h.channel.CloseHalfEffect _ _ (.error (h₁.channel.writeReport f)) h₁.channel
        rw [Channel.writeReport, hName, ← Channel.writeReport]
        exact .failed f rfl flushed

theorem shut_shows :
    h.Shows (fun _ _ => h.channel.ShutEffect) (h.shut driver.traced) := by
  cases hOpen : h.channel.isOpen with
  | false =>
    refine ⟨[], ?_, ?_⟩
    · simp [shut, hOpen]
    · simp only [shut, hOpen]
      exact .already hOpen
  | true =>
    cases hEmpty : h.channel.output.isEmpty with
    | true =>
      refine ⟨[⟨.watch .none, ()⟩] ++ [⟨.close, (h.shut driver.traced).1⟩], ?_, ?_⟩
      · simp only [shut, hOpen, hEmpty]
        exact List.append_assoc _ _ _
      · simp only [shut, hOpen, hEmpty]
        exact .went rfl rfl rfl rfl
    | false =>
      obtain ⟨first, hFirst, _⟩ := flush_traced driver h hOpen
      refine ⟨first ++ ([⟨.watch .none, ()⟩] ++ [⟨.close, (h.shut driver.traced).1⟩]), ?_, ?_⟩
      · rw [← List.append_assoc, ← hFirst]
        simp only [shut, hOpen, hEmpty]
        exact List.append_assoc _ _ _
      · simp only [shut, hOpen, hEmpty]
        exact .went rfl rfl rfl rfl

/-- A call to the driver that moves no bytes leaves the channel calm. -/
theorem drive_calm {call : DriverCall} {answer : call.Answer} {h₁ : Held (σ × List DriverEvent)}
    (hDriven : h.drive driver.traced call = (answer, h₁)) (hControl : Control [⟨call, answer⟩]) :
    h₁.calls = h.calls ++ [⟨call, answer⟩] ∧ h.channel.Calm none [⟨call, answer⟩] h₁.channel := by
  obtain ⟨hCalls, deferred, hChannel⟩ := drive_traced driver h hDriven
  rw [hChannel]
  exact ⟨hCalls, hControl, id, .inl ⟨rfl, rfl⟩, fun _ hMem => .inl hMem, rfl⟩

theorem tell_shows : h.Shows (fun calls _ c' => h.channel.Calm none calls c')
    (h.tell driver.traced) := by
  unfold tell
  cases hOpen : h.channel.isOpen with
  | false => exact shows_nil h rfl (.refl _ _)
  | true =>
    rcases hDriven : h.drive driver.traced (.seek (.current 0)) with ⟨answer, h₁⟩
    obtain ⟨hCalls, hCalm⟩ := drive_calm driver h hDriven (control_single rfl rfl)
    cases answer <;> exact ⟨_, hCalls, hCalm⟩

theorem setBlocking_shows (on : Bool) :
    h.Shows (h.channel.Effect (.setBlocking on)) (h.setBlocking driver.traced on) := by
  unfold setBlocking
  cases hOpen : h.channel.isOpen with
  | false => exact shows_nil h rfl ⟨.refl _ _, fun hOk => (by cases hOk), fun _ _ => .inl hOpen⟩
  | true =>
    rcases hDriven : h.drive driver.traced (.setBlocking on) with ⟨answer, h₁⟩
    obtain ⟨hCalls, hCalm⟩ := drive_calm driver h hDriven (control_single rfl rfl)
    obtain ⟨-, deferred, hChannel⟩ := drive_traced driver h hDriven
    cases answer with
    | error e =>
      exact ⟨_, hCalls, hCalm, fun hOk => (by cases hOk),
        fun _ _ => .inr ⟨e, List.mem_singleton_self _⟩⟩
    | ok done =>
      obtain ⟨more, hMore, hWatch, later, watched, hTold⟩ := applyWatch_traced driver
        (h₁.update fun c =>
          { c with blocking := on, flushPending := if on then false else c.flushPending })
      refine ⟨[⟨.setBlocking on, .ok done⟩] ++ more, ?_, ?_⟩
      · rw [← List.append_assoc, ← hCalls]
        exact hMore
      · show h.channel.Effect (.setBlocking on) _ (.ok ()) (applyWatch _ _).channel
        rw [hTold, update_channel, hChannel]
        refine ⟨⟨(control_single rfl rfl).append hWatch, ?_, .inr ?_, fun _ hMem => .inl hMem, rfl⟩,
          fun _ => rfl, fun r hError => (by cases hError)⟩
        · cases on <;> simp
        · cases on <;> simp

theorem createHandler_shows (mask : Interest) (callback : Callback) :
    h.Shows (h.channel.Effect (.createHandler mask callback))
      (h.createHandler driver.traced mask callback) := by
  obtain ⟨calls, hCalls, hWatch, deferred, watched, hTold⟩ := applyWatch_traced driver
    (h.update fun c =>
      { c with lastHandler := h.channel.lastHandler + 1
               handlers := c.handlers ++ [⟨h.channel.lastHandler + 1, mask, callback⟩] })
  refine ⟨calls, hCalls, ?_⟩
  show h.channel.Calm _ _ (applyWatch _ _).channel ∧ (applyWatch _ _).channel.blocking = _
  rw [hTold]
  refine ⟨⟨hWatch, id, .inl ⟨rfl, rfl⟩, ?_, rfl⟩, rfl⟩
  intro handler hMem
  rcases List.mem_append.1 hMem with hMem | hMem
  · exact .inl hMem
  · rw [List.mem_singleton.1 hMem]
    exact .inr rfl

theorem deleteHandler_shows (id : HandlerId) :
    h.Shows (h.channel.Effect (.deleteHandler id)) ((), h.deleteHandler driver.traced id) := by
  obtain ⟨calls, hCalls, hWatch, deferred, watched, hTold⟩ := applyWatch_traced driver
    (h.update fun c => { c with handlers := c.handlers.filter (·.id != id) })
  refine ⟨calls, hCalls, ?_⟩
  show h.channel.Calm _ _ (applyWatch _ _).channel ∧ (applyWatch _ _).channel.blocking = _
  rw [hTold]
  refine ⟨⟨hWatch, fun hPending => hPending, .inl ⟨rfl, rfl⟩, fun _ hMem => ?_, rfl⟩, rfl⟩
  exact .inl (List.mem_filter.1 hMem).1

theorem getOption_shows (dns : Bool) (name : String) :
    h.Shows (fun calls _ c' => h.channel.Calm none calls c')
      (h.getOption driver.traced dns name) := by
  unfold getOption
  split
  · exact shows_nil h rfl (.refl _ _)
  · exact shows_nil h rfl (.refl _ _)
  · cases hOpen : h.channel.isOpen with
    | false => exact shows_nil h rfl (.refl _ _)
    | true =>
      rcases hDriven : h.drive driver.traced (.getOption dns (some name)) with ⟨answer, h₁⟩
      obtain ⟨hCalls, hCalm⟩ := drive_calm driver h hDriven (control_single rfl rfl)
      cases answer <;> exact ⟨_, hCalls, hCalm⟩

theorem getOptions_shows (dns : Bool) :
    h.Shows (fun calls _ c' => h.channel.Calm none calls c') (h.getOptions driver.traced dns) := by
  unfold getOptions
  cases hOpen : h.channel.isOpen with
  | false => exact shows_nil h rfl (.refl _ _)
  | true =>
    rcases hDriven : h.drive driver.traced (.getOption dns none) with ⟨answer, h₁⟩
    obtain ⟨hCalls, hCalm⟩ := drive_calm driver h hDriven (control_single rfl rfl)
    cases answer <;> exact ⟨_, hCalls, hCalm⟩

theorem setOption_shows (name value : String) :
    h.Shows (fun calls _ c' => h.channel.Calm none calls c')
      (h.setOption driver.traced name value) := by
  unfold setOption
  split
  · split
    · exact shows_nil h rfl (.refl _ _)
    · next on _ =>
      obtain ⟨calls, hCalls, hCalm, -⟩ := setBlocking_shows driver h on
      exact ⟨calls, hCalls, hCalm⟩
  · split
    · exact shows_nil h rfl (.refl _ _)
    · exact shows_nil h rfl ⟨control_nil, id, .inl ⟨rfl, rfl⟩, fun _ hMem => .inl hMem, rfl⟩
  · cases hOpen : h.channel.isOpen with
    | false => exact shows_nil h rfl (.refl _ _)
    | true =>
      rcases hDriven : h.drive driver.traced (.setOption name value) with ⟨answer, h₁⟩
      obtain ⟨hCalls, hCalm⟩ := drive_calm driver h hDriven (control_single rfl rfl)
      cases answer <;> exact ⟨_, hCalls, hCalm⟩

theorem cut_shows :
    h.Shows (fun calls _ c' => h.channel.Calm none calls c') ((), h.cut driver.traced) := by
  unfold cut
  cases hOpen : h.channel.isOpen with
  | false => exact shows_nil h rfl (.refl _ _)
  | true =>
    obtain ⟨hCalls, hCalm⟩ :=
      drive_calm driver h (show h.drive driver.traced .cut = _ from rfl) (control_single rfl rfl)
    exact ⟨_, hCalls, hCalm⟩

theorem splice_shows (loop : LoopId) :
    h.Shows (fun calls _ c' => h.channel.Calm none calls c') ((), h.splice driver.traced loop) := by
  unfold splice
  cases hOpen : h.channel.isOpen with
  | false => exact shows_nil h rfl (.refl _ _)
  | true =>
    refine ⟨[⟨.splice loop, ()⟩] ++ [⟨.watch h.channel.watched, ()⟩], ?_, ?_⟩
    · exact List.append_assoc _ _ _
    · exact ⟨(control_single rfl rfl).append (control_single rfl rfl), id,
        .inl ⟨rfl, rfl⟩, fun _ hMem => .inl hMem, rfl⟩

theorem flushInBackground_shows (raised : Interest) :
    h.Shows (fun calls _ c' => h.channel.RaiseEffect calls c')
      ((), h.flushInBackground driver.traced raised) := by
  cases hDue : raised.writable && h.channel.flushPending with
  | false =>
    rw [flushInBackground_idle hDue]
    exact shows_nil h rfl .idle
  | true =>
    rw [flushInBackground_due hDue]
    have hPending : h.channel.flushPending = true := (Bool.and_eq_true _ _ ▸ hDue).2
    cases hOpen : h.channel.isOpen with
    | false =>
      rw [flush_closed hOpen]
      exact shows_nil h rfl .idle
    | true =>
      obtain ⟨calls, hCalls, flushed⟩ := flush_traced driver h hOpen
      rcases hFlush : h.flush driver.traced with ⟨_ | f, h₁⟩
      · rw [hFlush] at hCalls flushed
        exact ⟨calls, hCalls, .written hPending flushed⟩
      · rw [hFlush] at hCalls flushed
        exact ⟨calls, hCalls, .failed f hPending flushed⟩

/-- Every operation shows one of its effects. -/
theorem perform_shows (op : ChannelOp) :
    h.Shows (h.channel.Effect op) (h.perform driver.traced op) := by
  cases op with
  | read n => exact read_shows driver h n
  | write bytes force => exact write_shows driver h bytes force
  | seek target => exact seek_shows driver h target
  | tell => exact tell_shows driver h
  | setBlocking on => exact setBlocking_shows driver h on
  | createHandler mask callback => exact createHandler_shows driver h mask callback
  | deleteHandler id => exact deleteHandler_shows driver h id
  | getOption dns name => exact getOption_shows driver h dns name
  | getOptions dns => exact getOptions_shows driver h dns
  | setOption name value => exact setOption_shows driver h name value
  | cut => exact cut_shows driver h
  | splice loop => exact splice_shows driver h loop
  | shut => exact shut_shows driver h
  | closeHalf d => exact closeHalf_shows driver h d

end Held

end EventChannel
