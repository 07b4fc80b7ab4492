import EventChannel.Channel.Basic

/-! Input is taken from the driver in chunks of the buffer size unless the reader has room for more;
what is left of a chunk waits in the input buffer, and the driver is not asked while anything waits
there. Output is collected up to the buffer size, then offered to the driver until it takes no more.
A failure drops the output that is left. In non-blocking mode output that is left otherwise is
written in the background. -/

namespace EventChannel

/-- Why no bytes were moved. -/
inductive TransferFailure
  | misuse (m : Misuse)
  | driver (f : DriverFailure)
  deriving DecidableEq

/-- The report of a transfer that failed, with the words for a failure of the driver. -/
def TransferFailure.report (failure : TransferFailure) (code context : String) : Report :=
  match failure with
  | .misuse m => .ofMisuse m
  | .driver f => f.report code context

namespace Held

variable {σ : Type}

/-- Takes bytes that wait in the input buffer. -/
def takeInput (n : Nat) (h : Held σ) : Bytes × Held σ :=
  (h.channel.input.take n, h.update fun c => { c with input := c.input.drop n })

/-- Asks the driver for input. Of a whole chunk the reader gets what it has room for. -/
def askInput (driver : Driver σ) (n : Nat) (h : Held σ) : Except DriverFailure Bytes × Held σ :=
  let room := max n h.channel.bufferSize
  match h.drive driver (.input room) with
  | (.ok ⟨bytes, _⟩, h) => (.ok (bytes.take n), h.update ({ · with input := bytes.drop n }))
  | (.error f, h) => (.error f, h)

/-- Reads at most `n` bytes. No bytes mean the end of the file or, in place of it, that the read
would have had to wait. -/
def read (driver : Driver σ) (n : Nat) (h : Held σ) : Except TransferFailure Bytes × Held σ :=
  if !h.channel.isOpen then (.error (.misuse h.channel.closed), h)
  else if !h.channel.mode.readable then
    (.error (.misuse (.notOpenedFor h.channel.name "reading")), h)
  else if !h.channel.input.isEmpty then
    let (bytes, h) := h.takeInput n
    (.ok bytes, h)
  else
    match (h.update ({ · with blocked := false })).askInput driver n with
    | (.ok bytes, h) => (.ok bytes, h.update ({ · with eof := bytes.isEmpty }))
    | (.error f, h) =>
      if f.isWouldBlock then (.ok [], h.update ({ · with blocked := true }))
      else (.error (.driver f), h)

/-- Drops bytes that the driver has taken. -/
def dropOutput (n : Nat) (h : Held σ) : Held σ :=
  h.update fun c => { c with output := c.output.drop n }

/-- Offers the output to the driver, up to `offers` times, until all is taken or the driver takes
nothing. Having to wait is a failure in blocking mode only. -/
def emit (driver : Driver σ) : Nat → Held σ → Option DriverFailure × Held σ
  | 0, h => (none, h)
  | offers + 1, h =>
    if h.channel.output.isEmpty then (none, h)
    else
      match h.drive driver (.output h.channel.output.toBytes) with
      | (.ok ⟨0, _⟩, h) => (none, h)
      | (.ok ⟨n + 1, _⟩, h) => emit driver offers (h.dropOutput (n + 1))
      | (.error f, h) =>
        if f.isWouldBlock && !h.channel.blocking then (none, h) else (some f, h)

/-- Sets whether output is left to be written in the background, and tells the driver. -/
def settleBackground (driver : Driver σ) (h : Held σ) : Held σ :=
  let background := !h.channel.output.isEmpty && !h.channel.blocking
  if background = h.channel.flushPending then h
  else (h.update ({ · with flushPending := background })).applyWatch driver

/-- Writes the output that waits, as far as the driver takes it. -/
def flush (driver : Driver σ) (h : Held σ) : Option DriverFailure × Held σ :=
  if !h.channel.isOpen then (none, h)
  else
    let (failure?, h) := h.emit driver h.channel.output.size
    let h := if failure?.isSome then h.update ({ · with output := .empty }) else h
    (failure?, h.settleBackground driver)

/-- Takes bytes to be written, and writes them if that is asked for or there are enough. If
writing in the background has failed before, the caller learns that instead. -/
def write (driver : Driver σ) (bytes : Bytes) (force : Bool) (h : Held σ) :
    Except TransferFailure Unit × Held σ :=
  if !h.channel.isOpen then (.error (.misuse h.channel.closed), h)
  else if !h.channel.mode.writable then
    (.error (.misuse (.notOpenedFor h.channel.name "writing")), h)
  else
    match h.channel.unreported? with
    | some f => (.error (.driver f), h.update ({ · with unreported? := none }))
    | none =>
      let h := h.update fun c => { c with output := c.output.push bytes }
      if force || h.channel.bufferSize ≤ h.channel.output.size then
        match h.flush driver with
        | (none, h) => (.ok (), h)
        | (some f, h) => (.error (.driver f), h)
      else (.ok (), h)

/-- Writes output in the background when the driver is ready for it. A failure waits for a call
that can report it. -/
def flushInBackground (driver : Driver σ) (raised : Interest) (h : Held σ) : Held σ :=
  if raised.writable && h.channel.flushPending then
    match h.flush driver with
    | (none, h) => h
    | (some f, h) => h.update ({ · with unreported? := some f })
  else h

end Held

end EventChannel
