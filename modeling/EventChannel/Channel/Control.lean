import EventChannel.Channel.Transfer

/-! Positions, blocking, options, handlers, the move to another event loop, and the closing of a
channel or of one of its directions. -/

namespace EventChannel

/-- The options that every channel has. -/
def genericOptions : List String := ["blocking", "buffersize"]

/-- Where a driver does not know an option, the general names come before its own. -/
def withGenericNames (r : Report) : Report :=
  match r.cause with
  | some (.misuse (.badOption name valid)) => .ofMisuse (.badOption name (genericOptions ++ valid))
  | _ => r

/-- What closing one direction came to. -/
inductive HalfClosed
  | done
  /-- It was the last direction; the whole channel is to be closed. -/
  | last
  deriving DecidableEq

namespace Held

variable {σ : Type}

def quoted (text : String) : String := "\"" ++ text ++ "\""

def seekReport (h : Held σ) (f : DriverFailure) : Report :=
  f.report "conduit.channel.seek" ("error during seek on " ++ quoted h.channel.name)

def writeReport (h : Held σ) (f : DriverFailure) : Report :=
  f.report "conduit.channel.io" ("error writing " ++ quoted h.channel.name)

/-- Goes to a position, after the output that waits has been written. The input that waits is
dropped. -/
def seek (driver : Driver σ) (target : SeekTarget) (h : Held σ) : Except Report Nat × Held σ :=
  match if h.channel.output.isEmpty then (none, h) else h.flush driver with
  | (some f, h) => (.error (h.seekReport f), h)
  | (none, h) =>
    if !h.channel.isOpen then (.error (.ofMisuse h.channel.closed), h)
    else
      match h.drive driver (.seek target) with
      | (.error f, h) => (.error (h.seekReport f), h)
      | (.ok position, h) => (.ok position, h.update ({ · with input := [], eof := false }))

/-- The position that the next transfer starts from: that of the driver, less the input and more
the output that waits. Positions are words of 64 bits. -/
def tell (driver : Driver σ) (h : Held σ) : Option Nat × Held σ :=
  if !h.channel.isOpen then (none, h)
  else
    match h.drive driver (.seek (.current 0)) with
    | (.error _, h) => (none, h)
    | (.ok position, h) =>
      (some ((position - h.channel.input.length + h.channel.output.size) % UInt64.size), h)

/-- Switches between the modes. In blocking mode nothing is written in the background. -/
def setBlocking (driver : Driver σ) (on : Bool) (h : Held σ) : Except Report Unit × Held σ :=
  if !h.channel.isOpen then (.error (.ofMisuse h.channel.closed), h)
  else
    match h.drive driver (.setBlocking on) with
    | (.error e, h) =>
      (.error (.ofSystem "conduit.channel.io"
        ("error setting blocking mode on " ++ quoted h.channel.name) e), h)
    | (.ok (), h) =>
      let h := h.update fun c =>
        { c with blocking := on, flushPending := if on then false else c.flushPending }
      (.ok (), h.applyWatch driver)

def createHandler (driver : Driver σ) (mask : Interest) (callback : Callback) (h : Held σ) :
    HandlerId × Held σ :=
  let id := h.channel.lastHandler + 1
  let h := h.update fun c =>
    { c with lastHandler := id, handlers := c.handlers ++ [⟨id, mask, callback⟩] }
  (id, h.applyWatch driver)

def deleteHandler (driver : Driver σ) (id : HandlerId) (h : Held σ) : Held σ :=
  (h.update fun c => { c with handlers := c.handlers.filter (·.id != id) }).applyWatch driver

def getOption (driver : Driver σ) (reverseDns : Bool) (name : String) (h : Held σ) :
    Except Report OptionValue × Held σ :=
  match matchOption name genericOptions with
  | some "blocking" => (.ok (.flag h.channel.blocking), h)
  | some _ => (.ok (.text (toString h.channel.bufferSize)), h)
  | none =>
    if !h.channel.isOpen then (.error (.ofMisuse h.channel.closed), h)
    else
      match h.drive driver (.getOption reverseDns (some name)) with
      | (.error r, h) => (.error (withGenericNames r), h)
      | (.ok listing, h) => (.ok ((listing.head?.map (·.2)).getD .empty), h)

/-- All options: the general ones, then those of the driver. -/
def getOptions (driver : Driver σ) (reverseDns : Bool) (h : Held σ) :
    Except Report OptionListing × Held σ :=
  if !h.channel.isOpen then (.error (.ofMisuse h.channel.closed), h)
  else
    match h.drive driver (.getOption reverseDns none) with
    | (.error r, h) => (.error r, h)
    | (.ok listing, h) =>
      (.ok (("-blocking", .flag h.channel.blocking) ::
        ("-buffersize", .text (toString h.channel.bufferSize)) :: listing), h)

def setOption (driver : Driver σ) (name value : String) (h : Held σ) :
    Except Report Unit × Held σ :=
  match matchOption name genericOptions with
  | some "blocking" =>
    match parseBoolean value with
    | .error m => (.error (.ofMisuse m), h)
    | .ok on => h.setBlocking driver on
  | some _ =>
    match Text.int64? (Text.trim value.toList) with
    | none => (.error (.ofMisuse (.invalidInteger value)), h)
    | some n => (.ok (), h.update ({ · with bufferSize := clampBufferSize n }))
  | none =>
    if !h.channel.isOpen then (.error (.ofMisuse h.channel.closed), h)
    else
      match h.drive driver (.setOption name value) with
      | (.error r, h) => (.error (withGenericNames r), h)
      | (.ok (), h) => (.ok (), h)

/-- Leaves the event loop. -/
def cut (driver : Driver σ) (h : Held σ) : Held σ :=
  if h.channel.isOpen then (h.drive driver .cut).2 else h

/-- Joins an event loop and waits there for the same conditions. -/
def splice (driver : Driver σ) (loop : LoopId) (h : Held σ) : Held σ :=
  if h.channel.isOpen then
    ((h.drive driver (.splice loop)).2.drive driver (.watch h.channel.watched)).2
  else h

/-- Closes the driver, after a last try to write the output that waits. -/
def shut (driver : Driver σ) (h : Held σ) : Except SystemError Unit × Held σ :=
  if !h.channel.isOpen then (.ok (), h)
  else
    let h := if h.channel.output.isEmpty then h else (h.flush driver).2
    let h := h.update fun c =>
      { c with isOpen := false, mode := .none, input := [], output := .empty
               flushPending := false, watched := .none }
    (h.drive driver (.watch .none)).2.drive driver .close

/-- Closes one direction, the writing one after the output that waits has been written. -/
def closeHalf (driver : Driver σ) (d : Direction) (h : Held σ) :
    Except Report HalfClosed × Held σ :=
  if !h.channel.isOpen then (.error (.ofMisuse h.channel.closed), h)
  else if !h.channel.mode.has d then (.error (.ofMisuse (.halfCloseNotOpened d.name)), h)
  else if h.channel.mode.without d = .none then (.ok .last, h)
  else
    match if d = .write then h.flush driver else (none, h) with
    | (some f, h) => (.error (h.writeReport f), h)
    | (none, h) =>
      match h.drive driver (.closeHalf d) with
      | (.error e, h) =>
        (.error (.ofSystem "conduit.channel.io"
          ("error closing " ++ d.name ++ " side of " ++ quoted h.channel.name) e), h)
      | (.ok (), h) =>
        let h := h.update fun c => { c with mode := c.mode.without d }
        let h := if d = .read then h.update ({ · with input := [], eof := true }) else h
        (.ok .done, h.applyWatch driver)

end Held

end EventChannel
