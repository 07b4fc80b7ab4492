import EventChannel.ByteQueue
import EventChannel.Driver

/-! A stand-in for the driver of a channel. Input and output are answered from two lists, other
calls from settings that can be changed at any time; what is written is kept. A plain one does
without the optional abilities of a driver and cannot notify its channel. -/

namespace EventChannel

/-- An entry of the list for input. -/
inductive InputItem
  | endOfFile
  | block
  | fail (f : DriverFailure)
  | notify (raised : Interest)
  | data (bytes : Bytes)

/-- An entry of the list for output. -/
inductive OutputItem
  | accept (most : Nat)
  | block
  | fail (f : DriverFailure)
  | notify (raised : Interest)

/-- A scripted driver. -/
structure ScriptedDriver where
  label : String
  plain : Bool := false
  reads : List InputItem := []
  /-- What is left of the data being delivered. -/
  current : Bytes := []
  writes : List OutputItem := []
  /-- The end of the list for input is the end of the file. -/
  endsWithList : Bool := false
  /-- At the end of the list for output nothing more is taken. -/
  fullAfterList : Bool := false
  closeError? : Option SystemError := none
  halfError? : Option SystemError := none
  blockErrors : List (Option SystemError) := []
  /-- Position and size. -/
  position? : Option (Nat × Nat) := none
  seekFailure? : Option DriverFailure := none
  options : List (String × String) := []
  optionError? : Option SystemError := none
  descriptor? : Option Descriptor := none
  written : ByteQueue := .empty

namespace ScriptedDriver

/-- Changes to a driver. The entries of lists are added to those that are there, options are put in
the place of the old ones, and a setting that is not given stays. -/
structure Change where
  reads : List InputItem := []
  writes : List OutputItem := []
  blockErrors : List (Option SystemError) := []
  endsWithList? : Option Bool := none
  fullAfterList? : Option Bool := none
  closeError? : Option (Option SystemError) := none
  halfError? : Option (Option SystemError) := none
  position? : Option (Option (Nat × Nat)) := none
  seekFailure? : Option (Option DriverFailure) := none
  options? : Option (List (String × String)) := none
  optionError? : Option (Option SystemError) := none
  descriptor? : Option (Option Descriptor) := none

def change (d : ScriptedDriver) (c : Change) : ScriptedDriver :=
  { d with
    reads := d.reads ++ c.reads
    writes := d.writes ++ c.writes
    blockErrors := d.blockErrors ++ c.blockErrors
    endsWithList := c.endsWithList?.getD d.endsWithList
    fullAfterList := c.fullAfterList?.getD d.fullAfterList
    closeError? := c.closeError?.getD d.closeError?
    halfError? := c.halfError?.getD d.halfError?
    position? := c.position?.getD d.position?
    seekFailure? := c.seekFailure?.getD d.seekFailure?
    options := c.options?.getD d.options
    optionError? := c.optionError?.getD d.optionError?
    descriptor? := c.descriptor?.getD d.descriptor? }

/-- A driver at work: its answer, what has become of it, and the conditions it raised. -/
structure Served (α : Type) where
  answer : α
  driver : ScriptedDriver
  raised : Interest := .none

/-- Delivers data that is there; at most as much as there is room for. -/
def deliver (d : ScriptedDriver) (room : Nat) (raised : Interest) :
    Served (DriverCall.input room).Answer where
  answer := .ok ⟨d.current.take room, List.length_take_le room d.current⟩
  driver := { d with current := d.current.drop room }
  raised := raised

/-- Goes through the list for input up to an entry that answers. -/
def nextInput (d : ScriptedDriver) (room : Nat) (raised : Interest) :
    List InputItem → Served (DriverCall.input room).Answer
  | [] =>
    { answer := if d.endsWithList then .ok ⟨[], Nat.zero_le _⟩ else .error .wouldBlock
      driver := { d with reads := [] }, raised }
  | .endOfFile :: rest =>
    { answer := .ok ⟨[], Nat.zero_le _⟩, driver := { d with reads := rest }, raised }
  | .block :: rest => { answer := .error .wouldBlock, driver := { d with reads := rest }, raised }
  | .fail f :: rest => { answer := .error f, driver := { d with reads := rest }, raised }
  | .notify more :: rest =>
    nextInput d room (if d.plain then raised else raised ∪ more) rest
  | .data bytes :: rest =>
    if bytes.isEmpty then nextInput d room raised rest
    else deliver { d with reads := rest, current := bytes } room raised

def input (d : ScriptedDriver) (room : Nat) : Served (DriverCall.input room).Answer :=
  if d.current.isEmpty then d.nextInput room .none d.reads else d.deliver room .none

/-- Takes at most so many of the bytes offered. -/
def take (d : ScriptedDriver) (bytes : Bytes) (most : Nat) (raised : Interest) :
    Served (DriverCall.output bytes).Answer where
  answer := .ok ⟨(bytes.take most).length, List.length_take_le' most bytes⟩
  driver := { d with written := d.written.push (bytes.take most) }
  raised := raised

/-- Goes through the list for output up to an entry that answers. -/
def nextOutput (d : ScriptedDriver) (bytes : Bytes) (raised : Interest) :
    List OutputItem → Served (DriverCall.output bytes).Answer
  | [] =>
    if d.fullAfterList then
      { answer := .error .wouldBlock, driver := { d with writes := [] }, raised }
    else take { d with writes := [] } bytes bytes.length raised
  | .accept most :: rest => take { d with writes := rest } bytes most raised
  | .block :: rest => { answer := .error .wouldBlock, driver := { d with writes := rest }, raised }
  | .fail f :: rest => { answer := .error f, driver := { d with writes := rest }, raised }
  | .notify more :: rest =>
    nextOutput d bytes (if d.plain then raised else raised ∪ more) rest

def output (d : ScriptedDriver) (bytes : Bytes) : Served (DriverCall.output bytes).Answer :=
  d.nextOutput bytes .none d.writes

/-- Where a target lies. -/
def destination (position size : Nat) : SeekTarget → Int
  | .start n => n
  | .current n => position + n
  | .fromEnd n => size + n

def seek (d : ScriptedDriver) (target : SeekTarget) : Except DriverFailure Nat × ScriptedDriver :=
  let invalid : DriverFailure := ⟨.number Errno.invalidArgument, none⟩
  match d.seekFailure?, d.position? with
  | some f, _ => (.error f, d)
  | none, none => (.error invalid, d)
  | none, some (position, size) =>
    let n := destination position size target
    if n < 0 || UInt64.size ≤ n then (.error invalid, d)
    else (.ok n.toNat, { d with position? := some (n.toNat, size) })

def verdict : Option SystemError → Except SystemError Unit
  | none => .ok ()
  | some e => .error e

/-- The value of an option: `~` for none, bars between the elements of a list. -/
def optionValue? (text : String) : Option OptionValue :=
  if text = "~" then none
  else if text.contains '|' then some (.list (text.splitOn "|"))
  else some (.text text)

def entry (option : String × String) : OptionListing :=
  ((optionValue? option.2).map fun value => ("-" ++ option.1, value)).toList

def optionReport (e : SystemError) : Report := .ofSystem "test.option" "option failed" e

/-- The option that a name stands for. -/
def findOption (d : ScriptedDriver) (name : String) : Except Report (String × String) :=
  match d.optionError? with
  | some e => .error (optionReport e)
  | none =>
    let names := d.options.map (·.1)
    match matchOption name names with
    | none => .error (.ofMisuse (.badOption name names))
    | some found => .ok (found, (d.options.lookup found).getD "")

def getOption (d : ScriptedDriver) : Option String → Except Report OptionListing
  | some name => (d.findOption name).map entry
  | none =>
    match d.optionError? with
    | some e => .error (optionReport e)
    | none => .ok (d.options.flatMap entry)

/-- The options with a new value for the first one of a name. -/
def replaceOption (name value : String) : List (String × String) → List (String × String)
  | [] => []
  | (other, old) :: rest =>
    if other = name then (other, value) :: rest else (other, old) :: replaceOption name value rest

def setOption (d : ScriptedDriver) (name value : String) : Except Report Unit × ScriptedDriver :=
  match d.findOption name with
  | .error r => (.error r, d)
  | .ok (found, _) => (.ok (), { d with options := replaceOption found value d.options })

/-- How a target is written. -/
def targetText : SeekTarget → String
  | .start n => "Start(" ++ toString n ++ ")"
  | .current n => "Current(" ++ toString n ++ ")"
  | .fromEnd n => "End(" ++ toString n ++ ")"

/-- How a call is written, where it is kept. Transfers are written after the call, with how they
ended, the others before. -/
def callText : DriverCall → Option String
  | .seek target => some ("seek(" ++ targetText target ++ ")")
  | .close => some "close"
  | .closeHalf d => some ("close_half(" ++ d.name ++ ")")
  | .setBlocking on => some ("set_blocking(" ++ toString on ++ ")")
  | .setOption name value => some ("set_option(" ++ name ++ "," ++ value ++ ")")
  | .getOption reverseDns name? =>
    some ("get_option(" ++ name?.getD "*" ++ "," ++ toString reverseDns ++ ")")
  | .watch mask => some ("watch(" ++ mask.text ++ ")")
  | .cut => some "thread(remove)"
  | .splice _ => some "thread(insert)"
  | .input _ | .output _ | .attach | .handle _ => none

/-- How a transfer is written. -/
def transferText (name : String) (offered : Nat) (ended : Except DriverFailure Nat) : String :=
  name ++ "(" ++ toString offered ++ ")" ++ match ended with
    | .ok n => "=" ++ toString n
    | .error f => "!" ++ f.message

/-- The abilities that a plain driver has. -/
def isBasic : DriverCall → Bool
  | .input _ | .output _ | .close | .setBlocking _ | .watch _ | .handle _ => true
  | _ => false

/-- A descriptor that stands for none, which a driver that joins an event loop takes out of it. -/
def noDescriptor : Descriptor := -7

/-- Answers a call; with it comes the line that is kept of it. -/
def serve (d : ScriptedDriver) :
    (call : DriverCall) → Served call.Answer × Option String × List LoopCommand
  | .input room =>
    let served := d.input room
    (served, some (transferText "input" room (served.answer.map (·.1.length))), [])
  | .output bytes =>
    let served := d.output bytes
    (served, some (transferText "output" bytes.length (served.answer.map (·.1))), [])
  | .seek target =>
    let (answer, d) := d.seek target
    (⟨answer, d, .none⟩, callText (.seek target), [])
  | .close => (⟨verdict d.closeError?, d, .none⟩, callText .close, [])
  | .closeHalf direction =>
    (⟨verdict d.halfError?, d, .none⟩, callText (.closeHalf direction), [])
  | .setBlocking on =>
    (⟨verdict (d.blockErrors.headD none), { d with blockErrors := d.blockErrors.tail }, .none⟩,
      callText (.setBlocking on), [])
  | .setOption name value =>
    let (answer, d) := d.setOption name value
    (⟨answer, d, .none⟩, callText (.setOption name value), [])
  | .getOption reverseDns name? =>
    (⟨d.getOption name?, d, .none⟩, callText (.getOption reverseDns name?), [])
  | .watch mask => (⟨(), d, .none⟩, callText (.watch mask), [])
  | .handle .read => (⟨d.descriptor?, d, .none⟩, none, [])
  | .handle .write => (⟨d.descriptor?.map (· + 1), d, .none⟩, none, [])
  | .attach => (⟨(), d, .none⟩, none, [])
  | .cut => (⟨(), d, .none⟩, callText .cut, [])
  | .splice loop => (⟨(), d, .none⟩, callText (.splice loop), [.delete loop noDescriptor])

/-- The same, for a plain driver only what it is able to do. -/
def answer (d : ScriptedDriver) (call : DriverCall) :
    Served call.Answer × Option String × List LoopCommand :=
  if d.plain && !isBasic call then (⟨call.unsupported, d, .none⟩, none, []) else d.serve call

end ScriptedDriver

end EventChannel
