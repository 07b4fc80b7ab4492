import EventChannel.World

/-! What a program does to a world without anything else coming in between. A step that holds a
channel ends with the conditions that were raised meanwhile; what follows from those is left to the
program. -/

namespace EventChannel

/-- What a world stands in: the drivers of its channels, the conditions that descriptors are in, and
what its users refer to. -/
structure Surroundings (σ : Type) where
  driver : ChannelId → Driver σ
  ready : Descriptor → σ → Interest
  users : σ → Entity → Bool
  /-- Why the system does not tell the conditions of some descriptors, if it does not. -/
  pollError? : List Descriptor → σ → Option SystemError := fun _ _ => none

/-- A step, indexed by what it answers with. -/
inductive Step (σ : Type) : Type → Type 1
  /-- Something done to the environment alone. -/
  | env {α : Type} (f : σ → α × σ) : Step σ α
  | look (channel : ChannelId) : Step σ Channel
  | open (channel : Channel) : Step σ ChannelId
  | hold (channel : ChannelId) (op : ChannelOp) : Step σ (op.Answer × Interest)
  /-- Refers to something. -/
  | grasp (e : Entity) : Step σ Unit
  /-- Gives up one reference. -/
  | letGo (e : Entity) : Step σ Unit
  /-- Conditions come up: waiting output is written, and the handlers concerned are found. The
  copies among them are referred to from then on. -/
  | raise (channel : ChannelId) (raised : Interest) : Step σ (List (Interest × Callback))
  | handle (channel : ChannelId) (d : Direction) : Step σ (Option Descriptor)
  /-- Takes what is to be done on closing, unless the channel is closed already. -/
  | takeCloseActions (channel : ChannelId) : Step σ (Option (List CloseAction))
  | addCloseAction (channel : ChannelId) (action : CloseAction) : Step σ Unit
  | clearHandlers (channel : ChannelId) : Step σ Unit
  /-- Gives one reference back; answers whether it was the last. -/
  | dropReference (channel : ChannelId) : Step σ Bool
  /-- Whether the channel is still there for its driver to notify. -/
  | isKept (channel : ChannelId) : Step σ Bool
  | newInterp : Step σ InterpId
  | interp (id : InterpId) : Step σ Interp
  /-- Enters a channel in a table, unless its name is taken. -/
  | register (interp : InterpId) (channel : ChannelId) : Step σ Unit
  /-- Removes a name from a table. -/
  | unregister (interp : InterpId) (name : String) : Step σ (Option ChannelId)
  | setVariable (interp : InterpId) (name : String) (value? : Option String) : Step σ Unit
  | addBackgroundError (interp : InterpId) (report : Report) : Step σ Unit
  | takeBackgroundErrors (interp : InterpId) : Step σ (List Report)
  /-- Marks an interpreter as deleted and detaches its records; false if it was deleted before. -/
  | markDeleted (interp : InterpId) : Step σ Bool
  | newRecord (interp : InterpId) (script : RoutineId) : Step σ RecordId
  | detach (record : RecordId) : Step σ Unit
  /-- How many records of an interpreter are still there. -/
  | countRecords (interp : InterpId) : Step σ Nat
  /-- The interpreter that a record leads to, with the script. -/
  | recordTarget (record : RecordId) : Step σ (Option (InterpId × RoutineId))
  /-- Takes two channels for a copy, if they are open in the directions needed and not taken. -/
  | beginCopy (source target : ChannelId) (limit? : Option Nat) (onDone? : Option RoutineId) :
      Step σ (Except Misuse CopyId)
  | copy (id : CopyId) : Step σ Copy
  /-- Fixes the size of the chunks. A copy in the background is at rest from then on. -/
  | fixChunk (id : CopyId) : Step σ Unit
  /-- Begins to move bytes, if the copy is at rest. -/
  | enterCopy (id : CopyId) : Step σ Bool
  | restCopy (id : CopyId) : Step σ Unit
  | countCopied (id : CopyId) (n : Nat) : Step σ Unit
  | setCopyHandlers (id : CopyId) (source? target? : Option HandlerId) : Step σ Unit
  | endCopying (id : CopyId) : Step σ Unit
  /-- Gives the two channels free. -/
  | finishCopy (id : CopyId) : Step σ Unit
  | newLoop : Step σ LoopId
  | loop (id : LoopId) : Step σ EventLoop
  | command (command : LoopCommand) : Step σ Unit
  /-- The registrations of a loop that some condition they wait for has come up for. -/
  | poll (loop : LoopId) : Step σ (Except SystemError (List (Registration × Interest)))
  | takeHandler (loop : LoopId) (descriptor : Descriptor) (generation : Nat) :
      Step σ (Option FileHandler)
  | putBack (loop : LoopId) (descriptor : Descriptor) (generation : Nat) (handler : FileHandler) :
      Step σ Unit

namespace World

variable {σ : Type}

/-- Makes a channel and lets its driver know. -/
def openChannel (s : Surroundings σ) (w : World σ) (c : Channel) : ChannelId × World σ :=
  let id := w.channels.length
  let w := { w with channels := w.channels ++ [c] }
  (id, (w.hold id (Held.drive (s.driver id) .attach)).2)

/-- Refers to the copies among some callbacks. -/
def graspCopies (w : World σ) (targets : List (Interest × Callback)) : World σ :=
  targets.foldl (fun w (_, callback) => match callback with
    | .copy k => w.grasp (.copy k)
    | .routine _ => w) w

/-- What conditions lead to while the channel is held, and whom they concern. -/
def raise (s : Surroundings σ) (w : World σ) (id : ChannelId) (raised : Interest) :
    List (Interest × Callback) × World σ :=
  let (targets, w) := w.hold id fun h =>
    let h := h.flushInBackground (s.driver id) raised
    (h.channel.targets raised, h)
  (targets, w.graspCopies targets)

def register (w : World σ) (i : InterpId) (id : ChannelId) : World σ :=
  let name := (w.channel id).name
  if (w.interp i).contains name then w
  else (w.modifyInterp i (·.enter name id)).modifyChannel id
    fun c => { c with references := c.references + 1 }

def unregister (w : World σ) (i : InterpId) (name : String) : Option ChannelId × World σ :=
  match (w.interp i).lookup? name with
  | none => (none, w)
  | some id => (some id, w.modifyInterp i (·.remove name))

def markDeleted (w : World σ) (i : InterpId) : Bool × World σ :=
  let interp := w.interp i
  if interp.deleted then (false, w)
  else
    let w := w.modifyInterp i ({ · with deleted := true, records := [] })
    (true, interp.records.foldl (fun w r => w.modifyRecord r ({ · with interp? := none })) w)

/-- Why two channels cannot be taken for a copy. -/
def copyObstacle? (w : World σ) (source target : ChannelId) : Option Misuse :=
  let s := w.channel source
  let t := w.channel target
  if !s.mode.readable then some (.notOpenedFor s.name "reading")
  else if !t.mode.writable then some (.notOpenedFor t.name "writing")
  else if s.copying then some (.busy s.name)
  else if t.copying then some (.busy t.name)
  else none

def markCopying (w : World σ) (source target : ChannelId) (on : Bool) : World σ :=
  (w.modifyChannel source ({ · with copying := on })).modifyChannel target
    ({ · with copying := on })

def beginCopy (w : World σ) (source target : ChannelId) (limit? : Option Nat)
    (onDone? : Option RoutineId) : Except Misuse CopyId × World σ :=
  match w.copyObstacle? source target with
  | some m => (.error m, w)
  | none =>
    let savedModes := ((w.channel source).blocking, (w.channel target).blocking)
    let copy : Copy := { source, target, limit?, savedModes, onDone? }
    (.ok w.copies.length,
      { w.markCopying source target true with copies := w.copies ++ [copy] })

def copy (w : World σ) (id : CopyId) : Copy :=
  (w.copy? id).getD
    { source := 0, target := 0, limit? := none, savedModes := (true, true), phase := .done }

def fixChunk (w : World σ) (id : CopyId) : World σ :=
  let size := (w.channel (w.copy id).source).bufferSize
  w.modifyCopy id fun c =>
    { c with chunk := max size 1, phase := if c.onDone?.isSome then .resting else c.phase }

def ready (s : Surroundings σ) (w : World σ) (loop : LoopId) : List (Registration × Interest) :=
  (((w.loops.get loop).waiting.map fun r => (r, s.ready r.descriptor w.env ∩ r.mask))).filter
    fun (_, ready) => !ready.isEmpty

/-- The system is asked only if some registration waits for something. -/
def poll (s : Surroundings σ) (w : World σ) (loop : LoopId) :
    Except SystemError (List (Registration × Interest)) :=
  let waiting := (w.loops.get loop).waiting
  if waiting.isEmpty then .ok []
  else
    match s.pollError? (waiting.map (·.descriptor)) w.env with
    | some e => .error e
    | none => .ok (w.ready s loop)

end World

namespace Step

variable {σ : Type}

/-- What a step answers and what it leaves behind. -/
def run (s : Surroundings σ) : {α : Type} → Step σ α → World σ → α × World σ
  | _, .env f, w =>
    let (a, after) := f w.env
    (a, { w with env := after })
  | _, .look id, w => (w.channel id, w)
  | _, .open c, w => w.openChannel s c
  | _, .hold id op, w =>
    w.hold id fun h =>
      let (a, h) := h.perform (s.driver id) op
      let (raised, h) := h.release
      ((a, raised), h)
  | _, .grasp e, w => ((), w.grasp e)
  | _, .letGo e, w => ((), w.letGo e)
  | _, .raise id raised, w => w.raise s id raised
  | _, .handle id d, w =>
    if (w.channel id).isOpen then w.hold id (Held.drive (s.driver id) (.handle d)) else (none, w)
  | _, .takeCloseActions id, w =>
    let c := w.channel id
    if c.isOpen then (some c.closeActions, w.modifyChannel id ({ · with closeActions := [] }))
    else (none, w)
  | _, .addCloseAction id action, w =>
    ((), w.modifyChannel id fun c => { c with closeActions := c.closeActions ++ [action] })
  | _, .clearHandlers id, w => ((), w.modifyChannel id ({ · with handlers := [] }))
  | _, .dropReference id, w =>
    (decide ((w.channel id).references ≤ 1),
      w.modifyChannel id fun c => { c with references := c.references - 1 })
  | _, .isKept id, w => (w.keeps s.users id, w)
  | _, .newInterp, w => (w.interps.length, { w with interps := w.interps ++ [{}] })
  | _, .interp id, w => (w.interp id, w)
  | _, .register i id, w => ((), w.register i id)
  | _, .unregister i name, w => w.unregister i name
  | _, .setVariable i name value?, w => ((), w.modifyInterp i (·.setVariable name value?))
  | _, .addBackgroundError i r, w =>
    ((), w.modifyInterp i fun i => { i with backgroundErrors := i.backgroundErrors ++ [r] })
  | _, .takeBackgroundErrors i, w =>
    ((w.interp i).backgroundErrors, w.modifyInterp i ({ · with backgroundErrors := [] }))
  | _, .markDeleted i, w => w.markDeleted i
  | _, .newRecord i script, w =>
    (w.records.length,
      { w.modifyInterp i (fun i => { i with records := i.records ++ [w.records.length] }) with
        records := w.records ++ [⟨some i, script⟩] })
  | _, .detach r, w => ((), w.modifyRecord r ({ · with interp? := none }))
  | _, .countRecords i, w => ((w.liveRecords s.users i).length, w)
  | _, .recordTarget r, w =>
    ((w.recordInterp? s.users r).bind fun i => (w.record? r).map fun record => (i, record.script),
      w)
  | _, .beginCopy source target limit? onDone?, w => w.beginCopy source target limit? onDone?
  | _, .copy id, w => (w.copy id, w)
  | _, .fixChunk id, w => ((), w.fixChunk id)
  | _, .enterCopy id, w =>
    if (w.copy id).phase = .resting then (true, w.modifyCopy id ({ · with phase := .moving }))
    else (false, w)
  | _, .restCopy id, w => ((), w.modifyCopy id ({ · with phase := .resting }))
  | _, .countCopied id n, w => ((), w.modifyCopy id fun c => { c with total := c.total + n })
  | _, .setCopyHandlers id source? target?, w =>
    ((), w.modifyCopy id ({ · with sourceHandler? := source?, targetHandler? := target? }))
  | _, .endCopying id, w => ((), w.modifyCopy id ({ · with phase := .ending }))
  | _, .finishCopy id, w =>
    let c := w.copy id
    ((), (w.markCopying c.source c.target false).modifyCopy id ({ · with phase := .done }))
  | _, .newLoop, w => (w.loops.length, { w with loops := w.loops ++ [{}] })
  | _, .loop id, w => (w.loops.get id, w)
  | _, .command c, w => ((), { w with loops := w.loops.apply c })
  | _, .poll id, w => (w.poll s id, w)
  | _, .takeHandler id fd generation, w =>
    let (handler?, l) := (w.loops.get id).take fd generation
    (handler?, w.modifyLoop id fun _ => l)
  | _, .putBack id fd generation handler, w =>
    ((), w.modifyLoop id (·.putBack fd generation handler))

end Step

end EventChannel
