import EventChannel.Channel.Operation

/-! What reading, writing, seeking and closing come to in each of the situations that they tell
apart. -/

namespace EventChannel.Held

variable {σ : Type} {driver : Driver σ} {h : Held σ}

/-- The channel with bytes added to its output. -/
def pushed (bytes : Bytes) (h : Held σ) : Held σ :=
  h.update fun c => { c with output := c.output.push bytes }

theorem applyWatch_same (hSame : h.channel.wantedMask = h.channel.watched) :
    h.applyWatch driver = h :=
  if_pos hSame

theorem applyWatch_open (hSame : h.channel.wantedMask ≠ h.channel.watched)
    (hOpen : h.channel.isOpen = true) :
    h.applyWatch driver =
      ((h.update ({ · with watched := h.channel.wantedMask })).drive driver
        (.watch h.channel.wantedMask)).2 := by
  unfold applyWatch
  rw [if_neg hSame]
  exact if_pos hOpen

/-- A closed driver is told nothing. -/
theorem applyWatch_closed (hSame : h.channel.wantedMask ≠ h.channel.watched)
    (hOpen : h.channel.isOpen = false) :
    h.applyWatch driver = h.update ({ · with watched := h.channel.wantedMask }) := by
  unfold applyWatch
  rw [if_neg hSame]
  exact if_neg (by simp [hOpen])

theorem read_closed {n : Nat} (hOpen : h.channel.isOpen = false) :
    h.read driver n = (.error (.misuse h.channel.closed), h) := by
  simp [read, hOpen]

theorem read_unreadable {n : Nat} (hOpen : h.channel.isOpen = true)
    (hMode : h.channel.mode.readable = false) :
    h.read driver n = (.error (.misuse (.notOpenedFor h.channel.name "reading")), h) := by
  simp [read, hOpen, hMode]

theorem read_buffered {n : Nat} (hOpen : h.channel.isOpen = true)
    (hMode : h.channel.mode.readable = true) (hInput : h.channel.input ≠ []) :
    h.read driver n = (.ok (h.channel.input.take n),
      h.update fun c => { c with input := c.input.drop n }) := by
  simp [read, hOpen, hMode, hInput, takeInput]

theorem read_asked {n : Nat} (hOpen : h.channel.isOpen = true)
    (hMode : h.channel.mode.readable = true) (hInput : h.channel.input = []) :
    h.read driver n =
      match (h.update ({ · with blocked := false })).drive driver
          (.input (max n h.channel.bufferSize)) with
      | (.ok ⟨bytes, _⟩, h) => (.ok (bytes.take n),
          h.update fun c => { c with input := bytes.drop n, eof := (bytes.take n).isEmpty })
      | (.error f, h) =>
        if f.isWouldBlock then (.ok [], h.update ({ · with blocked := true }))
        else (.error (.driver f), h) := by
  simp only [read, hOpen, hMode, hInput, askInput, update_channel]
  rcases (h.update ({ · with blocked := false })).drive driver _ with ⟨⟨f⟩ | ⟨bytes, _⟩, h₁⟩ <;> rfl

theorem write_closed {bytes : Bytes} {force : Bool} (hOpen : h.channel.isOpen = false) :
    h.write driver bytes force = (.error (.misuse h.channel.closed), h) := by
  simp [write, hOpen]

theorem write_unwritable {bytes : Bytes} {force : Bool} (hOpen : h.channel.isOpen = true)
    (hMode : h.channel.mode.writable = false) :
    h.write driver bytes force =
      (.error (.misuse (.notOpenedFor h.channel.name "writing")), h) := by
  simp [write, hOpen, hMode]

/-- A failure that was not reported yet comes before anything else. -/
theorem write_unreported {bytes : Bytes} {force : Bool} {f : DriverFailure}
    (hOpen : h.channel.isOpen = true) (hMode : h.channel.mode.writable = true)
    (hParked : h.channel.unreported? = some f) :
    h.write driver bytes force =
      (.error (.driver f), h.update ({ · with unreported? := none })) := by
  simp [write, hOpen, hMode, hParked]

theorem write_kept {bytes : Bytes} {force : Bool} (hOpen : h.channel.isOpen = true)
    (hMode : h.channel.mode.writable = true) (hParked : h.channel.unreported? = none)
    (hDue : (force || decide (h.channel.bufferSize ≤ (h.channel.output.push bytes).size)) = false) :
    h.write driver bytes force = (.ok (), h.pushed bytes) := by
  unfold write
  rw [if_neg (by simp [hOpen]), if_neg (by simp [hMode]), hParked]
  exact if_neg (Bool.not_eq_true _ ▸ hDue)

theorem write_flushed {bytes : Bytes} {force : Bool} (hOpen : h.channel.isOpen = true)
    (hMode : h.channel.mode.writable = true) (hParked : h.channel.unreported? = none)
    (hDue : (force || decide (h.channel.bufferSize ≤ (h.channel.output.push bytes).size)) = true) :
    h.write driver bytes force =
      match (h.pushed bytes).flush driver with
      | (none, h) => (.ok (), h)
      | (some f, h) => (.error (.driver f), h) := by
  unfold write
  rw [if_neg (by simp [hOpen]), if_neg (by simp [hMode]), hParked]
  exact if_pos hDue

theorem flush_closed (hOpen : h.channel.isOpen = false) : h.flush driver = (none, h) := by
  simp [flush, hOpen]

theorem flushInBackground_due {raised : Interest}
    (hDue : (raised.writable && h.channel.flushPending) = true) :
    h.flushInBackground driver raised =
      match h.flush driver with
      | (none, h) => h
      | (some f, h) => h.update ({ · with unreported? := some f }) := by
  unfold flushInBackground
  exact if_pos hDue

theorem flushInBackground_idle {raised : Interest}
    (hDue : (raised.writable && h.channel.flushPending) = false) :
    h.flushInBackground driver raised = h := by
  simp [flushInBackground, hDue]

/-- Goes to a position when no output waits. -/
def goTo (driver : Driver σ) (target : SeekTarget) (h : Held σ) : Except Report Nat × Held σ :=
  if !h.channel.isOpen then (.error (.ofMisuse h.channel.closed), h)
  else
    match h.drive driver (.seek target) with
    | (.error f, h) => (.error (h.seekReport f), h)
    | (.ok position, h) => (.ok position, h.update ({ · with input := [], eof := false }))

theorem seek_empty {target : SeekTarget} (hEmpty : h.channel.output.isEmpty = true) :
    h.seek driver target = h.goTo driver target := by
  simp only [seek, hEmpty, if_true]
  rfl

/-- Output that waits is written first; if that fails, the position stays. -/
theorem seek_waiting {target : SeekTarget} (hEmpty : h.channel.output.isEmpty = false) :
    h.seek driver target =
      match h.flush driver with
      | (some f, h) => (.error (h.seekReport f), h)
      | (none, h) => h.goTo driver target := by
  simp only [seek, hEmpty]
  rcases h.flush driver with ⟨_ | f, h₁⟩ <;> rfl

/-- On a closed channel output that waits is not written. -/
theorem seek_closed {target : SeekTarget} (hOpen : h.channel.isOpen = false) :
    h.seek driver target = (.error (.ofMisuse h.channel.closed), h) := by
  cases hEmpty : h.channel.output.isEmpty with
  | true => simp [seek_empty hEmpty, goTo, hOpen]
  | false => simp [seek_waiting hEmpty, flush_closed hOpen, goTo, hOpen]

theorem setBlocking_closed {on : Bool} (hOpen : h.channel.isOpen = false) :
    h.setBlocking driver on = (.error (.ofMisuse h.channel.closed), h) := by
  simp [setBlocking, hOpen]

theorem getOptions_closed {reverseDns : Bool} (hOpen : h.channel.isOpen = false) :
    h.getOptions driver reverseDns = (.error (.ofMisuse h.channel.closed), h) := by
  simp [getOptions, hOpen]

theorem closeHalf_closed {d : Direction} (hOpen : h.channel.isOpen = false) :
    h.closeHalf driver d = (.error (.ofMisuse h.channel.closed), h) := by
  simp [closeHalf, hOpen]

/-- Closes one of two directions when no output of it waits. -/
def closeSide (driver : Driver σ) (d : Direction) (h : Held σ) :
    Except Report HalfClosed × Held σ :=
  match h.drive driver (.closeHalf d) with
  | (.error e, h) =>
    (.error (.ofSystem "conduit.channel.io"
      ("error closing " ++ d.name ++ " side of " ++ quoted h.channel.name) e), h)
  | (.ok (), h) =>
    let h := h.update fun c => { c with mode := c.mode.without d }
    let h := if d = .read then h.update ({ · with input := [], eof := true }) else h
    (.ok .done, h.applyWatch driver)

theorem closeHalf_read (hOpen : h.channel.isOpen = true) (hHas : h.channel.mode.has .read = true)
    (hLast : h.channel.mode.without .read ≠ .none) :
    h.closeHalf driver .read = h.closeSide driver .read := by
  simp only [closeHalf, hOpen, hHas, hLast]
  rfl

/-- Output that waits is written first; if that fails, the direction stays open. -/
theorem closeHalf_write (hOpen : h.channel.isOpen = true)
    (hHas : h.channel.mode.has .write = true) (hLast : h.channel.mode.without .write ≠ .none) :
    h.closeHalf driver .write =
      match h.flush driver with
      | (some f, h) => (.error (h.writeReport f), h)
      | (none, h) => h.closeSide driver .write := by
  simp only [closeHalf, hOpen, hHas, hLast, if_true]
  rcases h.flush driver with ⟨_ | f, h₁⟩ <;> rfl

/-- Where there is no second direction to stay open, nothing is done. -/
theorem closeHalf_unchanged {d : Direction}
    (hNot : h.channel.isOpen = false ∨ h.channel.mode.has d = false ∨
      h.channel.mode.without d = .none) : (h.closeHalf driver d).2 = h := by
  unfold closeHalf
  by_cases hOpen : h.channel.isOpen <;> by_cases hHas : h.channel.mode.has d <;>
    by_cases hLast : h.channel.mode.without d = .none <;> simp_all

end EventChannel.Held
