import EventChannel.Program.Setting
import EventChannel.Tcp.Transport

/-! Some steps make sense only together with others, as parts of an operation. So a program is
described by the steps and calls that it makes on its own and by the operations that it carries out
as a whole. What holds of the parts then holds of the program, whatever order they come in. The
operations on channels, copies, interpreters and stream channels are described here once, for all
parts that they need. -/

namespace EventChannel

variable {σ α β γ : Type}

/-- What programs may be made of: steps and calls of their own, and whole operations. -/
structure Parts (σ : Type) where
  step : {α : Type} → Step σ α → Prop
  call : Call → Prop
  whole : {α : Type} → Program σ α → Prop

/-- The step is neither a part of an operation on a channel, nor of a copy, nor of a pass over an
event loop. A channel that is opened is not taken and has no handlers. -/
def Step.Common : {α : Type} → Step σ α → Prop
  | _, .hold .. | _, .raise .. | _, .takeCloseActions _ | _, .clearHandlers _
  | _, .dropReference _ | _, .unregister .. => False
  | _, .beginCopy .. | _, .fixChunk _ | _, .enterCopy _ | _, .restCopy _ | _, .countCopied ..
  | _, .setCopyHandlers .. | _, .endCopying _ | _, .finishCopy _ => False
  | _, .takeHandler .. | _, .putBack .. => False
  | _, .open c => c.copying = false ∧ c.handlers = []
  | _, _ => True

/-- The call does not belong to a copy, unless it lets one go on. -/
def Call.Common : Call → Prop
  | .moveAll _ | .user (.completed ..) => False
  | _ => True

/-- The step is one that copies make. -/
def Step.OfCopies : {α : Type} → Step σ α → Prop
  | _, .look _ | _, .grasp _ | _, .letGo _ | _, .copy _ => True
  | _, .beginCopy .. | _, .fixChunk _ | _, .enterCopy _ | _, .restCopy _ | _, .countCopied ..
  | _, .setCopyHandlers .. | _, .endCopying _ | _, .finishCopy _ => True
  | _, _ => False

/-- The step puts a copy to rest. -/
def Step.Rests : Step σ α → Prop
  | .restCopy _ => True
  | _ => False

/-- The call is one that copies make. -/
def Call.OfCopies : Call → Prop
  | .moveAll _ | .user (.completed ..) => True
  | _ => False

/-- The call is one by which a handler is called for conditions that have come up. -/
def Call.Alerts : Call → Prop
  | .user (.event ..) | .advance _ => True
  | _ => False

/-- The operation makes no handler by which a copy goes on. -/
def ChannelOp.Common : ChannelOp → Prop
  | .createHandler _ (.copy _) | .shut => False
  | _ => True

/-- The operation moves bytes, or switches between the blocking modes. What reads has room. -/
def ChannelOp.Transports : ChannelOp → Prop
  | .read n => n ≠ 0
  | .write .. | .setBlocking _ => True
  | _ => False

theorem ChannelOp.Transports.common {op : ChannelOp} (transports : op.Transports) : op.Common := by
  cases op with
  | read | write | setBlocking => trivial
  | _ => cases transports

/-- The step belongs neither to a copy nor to a pass over an event loop. -/
def Step.Basic : {α : Type} → Step σ α → Prop
  | _, .hold _ op => op.Common ∨ op = .shut
  | _, .raise .. | _, .takeCloseActions _ | _, .clearHandlers _ | _, .dropReference _
  | _, .unregister .. => True
  | _, t => t.Common

/-- The step takes a handler out of a loop or puts it back. -/
def Step.Dispatches : Step σ α → Prop
  | .takeHandler .. | .putBack .. => True
  | _ => False

/-- The step clears the handlers of a channel away. -/
def Step.ClearsAway : Step σ α → Prop
  | .clearHandlers _ => True
  | _ => False

theorem Step.Common.not_clearsAway {t : Step σ α} (common : t.Common) : ¬t.ClearsAway := by
  cases t with
  | clearHandlers j => cases common
  | _ => exact not_false

theorem Step.Common.basic {t : Step σ α} (common : t.Common) : t.Basic := by
  cases t with
  | hold | raise | takeCloseActions | clearHandlers | dropReference | unregister => cases common
  | _ => exact common

namespace Program

theorem bind_done (p : Program σ α) : p.bind .done = p := by
  induction p with
  | done a => rfl
  | step t next ih => exact congrArg (Program.step t) (funext ih)
  | call c next ih => exact congrArg (Program.call c) (funext ih)

theorem bind_assoc (p : Program σ α) (f : α → Program σ β) (g : β → Program σ γ) :
    (p.bind f).bind g = p.bind fun a => (f a).bind g := by
  induction p with
  | done a => rfl
  | step t next ih => exact congrArg (Program.step t) (funext ih)
  | call c next ih => exact congrArg (Program.call c) (funext ih)

/-- The program is made of some parts. -/
inductive MadeOf (parts : Parts σ) : {α : Type} → Program σ α → Prop
  | done {α : Type} (a : α) : MadeOf parts (.done a)
  | step {α β : Type} {t : Step σ β} {next : β → Program σ α} (allowed : parts.step t)
      (rest : ∀ b, MadeOf parts (next b)) : MadeOf parts (.step t next)
  | call {α : Type} {c : Call} {next : c.Answer → Program σ α} (allowed : parts.call c)
      (rest : ∀ b, MadeOf parts (next b)) : MadeOf parts (.call c next)
  | whole {α β : Type} {p : Program σ β} {next : β → Program σ α} (allowed : parts.whole p)
      (rest : ∀ b, MadeOf parts (next b)) : MadeOf parts (p.bind next)

/-- One pass over an event loop that visits the ready descriptors in an order of its own. -/
def passInOrder (order : List (Registration × Interest) → List (Registration × Interest))
    (loop : LoopId) : Program σ (Except Report Nat) := do
  match ← act (.poll loop) with
  | .error e => return unpolled e
  | .ok ready => return .ok (← dispatch loop (order ready))

namespace MadeOf

variable {parts : Parts σ}

/-- Programs one after the other are made of the parts of both. -/
theorem bind {p : Program σ α} {f : α → Program σ β} (first : p.MadeOf parts)
    (second : ∀ a, (f a).MadeOf parts) : (p >>= f).MadeOf parts := by
  show (p.bind f).MadeOf parts
  induction first with
  | done a => exact second a
  | step allowed rest ih => exact .step allowed fun b => ih b
  | call allowed rest ih => exact .call allowed fun b => ih b
  | whole allowed rest ih =>
    rw [bind_assoc]
    exact .whole allowed fun b => ih b

theorem act {t : Step σ α} (allowed : parts.step t) : (act t).MadeOf parts := .step allowed .done

theorem act_bind {t : Step σ α} {f : α → Program σ β} (allowed : parts.step t)
    (second : ∀ a, (f a).MadeOf parts) : (Program.act t >>= f).MadeOf parts :=
  .step allowed second

theorem invoke {c : Call} (allowed : parts.call c) :
    (invoke c : Program σ c.Answer).MadeOf parts :=
  .call allowed .done

theorem of_whole {p : Program σ α} (allowed : parts.whole p) : p.MadeOf parts := by
  rw [← bind_done p]
  exact .whole allowed .done

theorem referring {e : Entity} {p : Program σ α} (grasp : parts.step (.grasp e))
    (letGo : parts.step (.letGo e)) (made : p.MadeOf parts) : (referring e p).MadeOf parts :=
  .act_bind grasp fun _ => made.bind fun a => .act_bind letGo fun _ => .done a

/-- What comes out of a channel is let out, or there is nothing. -/
theorem letOut {j : ChannelId} (notify : ∀ raised, (notify j raised : Program σ Unit).MadeOf parts)
    (answer : α) (raised : Interest) :
    (if raised.isEmpty then .done answer
      else (Program.notify j raised).bind fun _ => .done answer : Program σ α).MadeOf parts := by
  split
  · exact .done answer
  · exact (notify raised).bind fun _ => .done answer

theorem hold {j : ChannelId} {op : ChannelOp}
    (notify : ∀ raised, (notify j raised : Program σ Unit).MadeOf parts)
    (allowed : parts.step (.hold j op)) :
    (Program.hold j op : Program σ op.Answer).MadeOf parts :=
  .step allowed fun (answer, raised) => .letOut notify answer raised

/-- What is made of some parts is made of what contains them. -/
theorem mono {more : Parts σ} {p : Program σ α} (made : p.MadeOf parts)
    (hStep : ∀ {α : Type} (t : Step σ α), parts.step t → more.step t)
    (hCall : ∀ c, parts.call c → more.call c)
    (hWhole : ∀ {α : Type} (p : Program σ α), parts.whole p → p.MadeOf more) :
    p.MadeOf more := by
  induction made with
  | done a => exact .done a
  | step allowed rest ih => exact .step (hStep _ allowed) ih
  | call allowed rest ih => exact .call (hCall _ allowed) ih
  | whole allowed rest ih => exact (hWhole _ allowed).bind ih

end MadeOf

end Program

open Program

namespace Parts

/-- The parts that moving bytes on a channel is made of. -/
structure Transfers (parts : Parts σ) : Prop where
  hold : ∀ j op, op.Transports → (hold j op : Program σ op.Answer).MadeOf parts
  look : ∀ j, parts.step (.look j)
  readAll : ∀ j chunk sofar, parts.call (.readAll j chunk sofar)

/-- The parts by which a copy moves its bytes. -/
structure Moving (parts : Parts σ) (k : CopyId) : Prop extends Transfers parts where
  copy : parts.step (.copy k)
  count : ∀ n, parts.step (.countCopied k n)
  moveAll : parts.call (.moveAll k)

/-- The parts by which a copy moves its bytes, and waits for more. -/
structure Working (parts : Parts σ) (k : CopyId) : Prop extends Moving parts k where
  note : ∀ source? target?, parts.step (.setCopyHandlers k source? target?)
  leaving : ∀ j handler, (deleteHandler j handler : Program σ Unit).MadeOf parts
  waiting : ∀ j mask, (createHandler j mask (.copy k) : Program σ HandlerId).MadeOf parts

/-- The parts that copies are made of. -/
structure Copying (parts : Parts σ) : Prop extends Transfers parts where
  step : ∀ {α : Type} (t : Step σ α), t.OfCopies → parts.step t
  call : ∀ c, c.OfCopies → parts.call c
  leaving : ∀ j handler, (deleteHandler j handler : Program σ Unit).MadeOf parts
  waiting : ∀ j mask k, (createHandler j mask (.copy k) : Program σ HandlerId).MadeOf parts

/-- The parts that copies are made of which end by an operation that is a part itself. -/
structure Undertaking (parts : Parts σ) : Prop extends Transfers parts where
  step : ∀ {α : Type} (t : Step σ α), t.OfCopies → parts.step t
  working : ∀ k, parts.Working k
  ending : ∀ k error?, (endCopy k error? : Program σ Unit).MadeOf parts

/-- The parts that copies are begun and ended with, when they go on by an operation that is a part
itself. -/
structure Starting (parts : Parts σ) : Prop extends Transfers parts where
  step : ∀ {α : Type} (t : Step σ α), t.OfCopies → ¬t.Rests → parts.step t
  moveChunks : ∀ k, (moveChunks k : Program σ (Except Report Unit)).MadeOf parts
  advance : ∀ k, (advance k : Program σ Unit).MadeOf parts

/-- The parts that all other operations are made of. -/
structure Operating (parts : Parts σ) : Prop extends Transfers parts where
  step : ∀ {α : Type} (t : Step σ α), t.Common → parts.step t
  call : ∀ c, c.Common → ¬c.Alerts → parts.call c
  operate : ∀ j (op : ChannelOp), op.Common → (Program.hold j op : Program σ op.Answer).MadeOf parts
  notify : ∀ j raised, (notify j raised : Program σ Unit).MadeOf parts
  close : ∀ j, (close j : Program σ (Except Report Unit)).MadeOf parts
  unregister : ∀ interp name,
    (unregister interp name : Program σ (Except Report Unit)).MadeOf parts

/-- The parts that the deletion of an interpreter is made of. -/
structure Deleting (parts : Parts σ) : Prop where
  mark : ∀ interp, parts.step (.markDeleted interp)
  interp : ∀ interp, parts.step (.interp interp)
  unregister : ∀ interp name,
    (unregister interp name : Program σ (Except Report Unit)).MadeOf parts

variable {parts : Parts σ}

namespace Transfers

variable (transfers : parts.Transfers)

include transfers

theorem look_bind {j : ChannelId} {f : Channel → Program σ β}
    (second : ∀ c, (f c).MadeOf parts) : (Program.look j >>= f).MadeOf parts :=
  .act_bind (transfers.look j) second

theorem readBytes (j : ChannelId) (n : Nat) :
    (readBytes j n : Program σ (Except TransferFailure Bytes)).MadeOf parts := by
  unfold Program.readBytes
  split
  · exact .done _
  · next hRoom => exact transfers.hold j (.read n) hRoom

theorem writeBytes (j : ChannelId) (bytes : Bytes) (force : Bool) :
    (writeBytes j bytes force : Program σ (Except TransferFailure Unit)).MadeOf parts :=
  transfers.hold j (.write bytes force) trivial

theorem reported {j : ChannelId} {code doing : String}
    {p : Program σ (Except TransferFailure α)} (made : p.MadeOf parts) :
    (reported j code doing p).MadeOf parts :=
  made.bind fun _ => transfers.look_bind fun _ => .done _

theorem read (j : ChannelId) (n : Nat) :
    (read j n : Program σ (Except Report Bytes)).MadeOf parts :=
  transfers.reported (transfers.readBytes j n)

theorem write (j : ChannelId) (bytes : Bytes) :
    (write j bytes : Program σ (Except Report Nat)).MadeOf parts :=
  (transfers.reported (transfers.writeBytes j bytes false)).bind fun _ => .done _

theorem flush (j : ChannelId) : (flush j : Program σ (Except Report Unit)).MadeOf parts :=
  transfers.reported (transfers.writeBytes j [] true)

theorem readChunks (j : ChannelId) (chunk : Nat) (sofar : ByteQueue) :
    (readChunks j chunk sofar : Program σ (Except TransferFailure Bytes)).MadeOf parts := by
  apply (transfers.readBytes j chunk).bind
  intro answer
  obtain f | _ | ⟨byte, rest⟩ := answer
  · exact .done _
  · exact .done _
  · exact .call (transfers.readAll ..) .done

theorem captureOutput (j : ChannelId) :
    (captureOutput j : Program σ (Except Report Bytes)).MadeOf parts := by
  refine transfers.look_bind fun c => ?_
  exact (transfers.readChunks j _ _).bind fun _ => .done _

theorem switchMode (j : ChannelId) (on : Bool) :
    (switchMode j on : Program σ (Except Report Unit)).MadeOf parts := by
  refine transfers.look_bind fun c => ?_
  split
  · exact .done _
  · exact transfers.hold j (.setBlocking on) trivial

theorem switchModes (source target : ChannelId) (modes : Bool × Bool) :
    (switchModes source target modes : Program σ (Except Report Unit)).MadeOf parts := by
  apply (transfers.switchMode source modes.1).bind
  intro answer
  cases answer with
  | error r => exact .done _
  | ok done =>
    dsimp only
    split
    · exact .done _
    · exact transfers.switchMode target modes.2

theorem finishMoving (target : ChannelId) :
    (finishMoving target : Program σ (Except Report Unit)).MadeOf parts := by
  apply (transfers.writeBytes target [] true).bind
  intro answer
  cases answer with
  | error f => exact transfers.look_bind fun _ => .done _
  | ok done => exact .done _

end Transfers

namespace Moving

variable {k : CopyId} (moving : parts.Moving k)

include moving

theorem moveChunks :
    (moveChunks k : Program σ (Except Report Unit)).MadeOf parts := by
  refine .act_bind moving.copy fun c => ?_
  split
  · exact moving.finishMoving c.target
  · apply (moving.readBytes c.source c.want).bind
    intro answer
    obtain f | _ | ⟨byte, rest⟩ := answer
    · exact moving.look_bind fun _ => .done _
    · exact moving.finishMoving c.target
    · apply (moving.writeBytes c.target _ false).bind
      intro answer
      cases answer with
      | error f => exact moving.look_bind fun _ => .done _
      | ok done =>
        exact .act_bind (moving.count _) fun _ => .call moving.moveAll .done

theorem moveChunk (c : Copy) :
    (moveChunk k c : Program σ CopyStep).MadeOf parts := by
  unfold Program.moveChunk
  split
  · exact .done _
  · apply (moving.readBytes c.source c.want).bind
    intro answer
    obtain f | _ | ⟨byte, rest⟩ := answer
    · exact moving.look_bind fun _ => .done _
    · refine moving.look_bind fun source => ?_
      split <;> exact .done _
    · apply (moving.writeBytes c.target _ true).bind
      intro answer
      cases answer with
      | error f => exact moving.look_bind fun _ => .done _
      | ok done =>
        refine .act_bind (moving.count _) fun _ => moving.look_bind fun target => ?_
        split
        · exact .done _
        · refine .act_bind moving.copy fun c => ?_
          split <;> exact .done _

theorem copyStep : (copyStep k : Program σ CopyStep).MadeOf parts := by
  refine .act_bind moving.copy fun c => moving.look_bind fun target => ?_
  split
  · exact moving.moveChunk c
  · apply (moving.writeBytes c.target [] true).bind
    intro answer
    cases answer with
    | error f => exact moving.look_bind fun _ => .done _
    | ok done =>
      refine moving.look_bind fun target => ?_
      split
      · exact moving.moveChunk c
      · exact .done _

end Moving

namespace Working

variable {k : CopyId} (working : parts.Working k)

include working

theorem deleteHandler? (j : ChannelId) (id? : Option HandlerId) :
    (deleteHandler? j id? : Program σ Unit).MadeOf parts := by
  cases id? with
  | none => exact .done ()
  | some handler => exact working.leaving j handler

theorem waitForSource : (waitForSource k : Program σ Unit).MadeOf parts := by
  refine .act_bind working.copy fun c => .act_bind (working.note _ _) fun _ => ?_
  apply (working.deleteHandler? c.target c.targetHandler?).bind
  intro _
  split
  · apply (working.waiting c.source .reading).bind
    exact fun _ => .act (working.note _ _)
  · exact .done ()

theorem waitForTarget : (waitForTarget k : Program σ Unit).MadeOf parts := by
  refine .act_bind working.copy fun c => .act_bind (working.note _ _) fun _ => ?_
  apply (working.deleteHandler? c.source c.sourceHandler?).bind
  intro _
  split
  · apply (working.waiting c.target .writing).bind
    exact fun _ => .act (working.note _ _)
  · exact .done ()

theorem endCopy (ending : parts.step (.endCopying k)) (finish : parts.step (.finishCopy k))
    (completes : ∀ r total error?, parts.call (.user (.completed r total error?)))
    (error? : Option Report) : (endCopy k error? : Program σ Unit).MadeOf parts := by
  refine .act_bind ending fun _ => .act_bind working.copy fun c => ?_
  refine .act_bind (working.note _ _) fun _ => ?_
  apply (working.deleteHandler? c.source c.sourceHandler?).bind
  intro _
  apply (working.deleteHandler? c.target c.targetHandler?).bind
  intro _
  apply (working.switchModes c.source c.target c.savedModes).bind
  intro _
  refine .act_bind finish fun _ => ?_
  cases c.onDone? with
  | some r => exact .invoke (completes r c.total error?)
  | none => exact .done ()

end Working

namespace Starting

variable (starting : parts.Starting)

include starting

theorem step_bind {t : Step σ α} {f : α → Program σ β} (ofCopies : t.OfCopies) (hNot : ¬t.Rests)
    (second : ∀ a, (f a).MadeOf parts) : (Program.act t >>= f).MadeOf parts :=
  .act_bind (starting.step t ofCopies hNot) second

theorem referring {e : Entity} {p : Program σ α} (made : p.MadeOf parts) :
    (referring e p).MadeOf parts :=
  made.referring (starting.step _ trivial not_false) (starting.step _ trivial not_false)

theorem copy (source target : ChannelId) (limit? : Option Nat) :
    (copy source target limit? : Program σ (Except Report Nat)).MadeOf parts := by
  refine starting.step_bind trivial not_false fun begun => ?_
  cases begun with
  | error m => exact .done _
  | ok k =>
    refine starting.step_bind trivial not_false fun c => ?_
    apply (starting.switchModes source target (true, true)).bind
    intro answer
    extract_lets finish
    have hFinish (moved : Except Report Unit) : (finish moved).MadeOf parts := by
      apply (starting.switchModes source target c.savedModes).bind
      intro _
      refine starting.step_bind trivial not_false fun c => ?_
      exact starting.step_bind trivial not_false fun _ => .done _
    cases answer with
    | error r => exact hFinish (.error r)
    | ok done =>
      refine starting.step_bind trivial not_false fun _ => ?_
      exact (starting.moveChunks k).bind hFinish

theorem copyInBackground (source target : ChannelId) (limit? : Option Nat) (onDone : RoutineId) :
    (copyInBackground source target limit? onDone :
      Program σ (Except Report Unit)).MadeOf parts := by
  refine starting.step_bind trivial not_false fun begun => ?_
  cases begun with
  | error m => exact .done _
  | ok k =>
    apply (starting.switchModes source target (false, false)).bind
    intro answer
    cases answer with
    | error r =>
      refine starting.step_bind trivial not_false fun c => ?_
      apply (starting.switchModes source target c.savedModes).bind
      intro _
      exact starting.step_bind trivial not_false fun _ => .done _
    | ok done =>
      refine starting.step_bind trivial not_false fun _ => ?_
      exact (starting.referring (starting.advance k)).bind fun _ => .done _

end Starting

namespace Undertaking

variable (undertaking : parts.Undertaking)

include undertaking

theorem advance (k : CopyId) : (advance k : Program σ Unit).MadeOf parts := by
  refine .act_bind (undertaking.step _ trivial) fun entered => ?_
  cases entered with
  | false => exact .done ()
  | true =>
    apply (undertaking.working k).copyStep.bind
    intro step
    cases step with
    | waitReadable =>
      exact (undertaking.working k).waitForSource.bind fun _ => .act (undertaking.step _ trivial)
    | waitWritable =>
      exact (undertaking.working k).waitForTarget.bind fun _ => .act (undertaking.step _ trivial)
    | ended error? => exact undertaking.ending k error?

theorem starting : parts.Starting where
  toTransfers := undertaking.toTransfers
  step t ofCopies _ := undertaking.step t ofCopies
  moveChunks k := (undertaking.working k).moveChunks
  advance := undertaking.advance

end Undertaking

namespace Copying

variable (copying : parts.Copying)

include copying

theorem working (k : CopyId) : parts.Working k where
  toTransfers := copying.toTransfers
  copy := copying.step _ trivial
  count _ := copying.step _ trivial
  moveAll := copying.call _ trivial
  note _ _ := copying.step _ trivial
  leaving := copying.leaving
  waiting j mask := copying.waiting j mask k

theorem undertaking : parts.Undertaking :=
  ⟨copying.toTransfers, copying.step, copying.working, fun k error? =>
    (copying.working k).endCopy (copying.step _ trivial) (copying.step _ trivial)
      (fun _ _ _ => copying.call _ trivial) error?⟩

theorem starting : parts.Starting := copying.undertaking.starting

end Copying

namespace Deleting

variable (deleting : parts.Deleting)

include deleting

theorem unregisterAll (interp : InterpId) (names : List String) :
    (unregisterAll interp names : Program σ (Except Report Unit)).MadeOf parts := by
  induction names with
  | nil => exact .done _
  | cons name rest ih =>
    exact (deleting.unregister interp name).bind fun _ => ih.bind fun _ => .done _

theorem releaseAll (interp : InterpId) :
    (releaseAll interp : Program σ (Except Report Unit)).MadeOf parts :=
  .act_bind (deleting.interp interp) fun _ => deleting.unregisterAll interp _

theorem deleteInterp (interp : InterpId) :
    (deleteInterp interp : Program σ (Except Report Unit)).MadeOf parts := by
  refine .act_bind (deleting.mark interp) fun marked => ?_
  cases marked with
  | false => exact .done _
  | true => exact deleting.releaseAll interp

end Deleting

namespace Operating

variable (operating : parts.Operating)

include operating

theorem step_bind {t : Step σ α} {f : α → Program σ β} (common : t.Common)
    (second : ∀ a, (f a).MadeOf parts) : (Program.act t >>= f).MadeOf parts :=
  .act_bind (operating.step t common) second

theorem referring {e : Entity} {p : Program σ α} (made : p.MadeOf parts) :
    (referring e p).MadeOf parts :=
  made.referring (operating.step _ trivial) (operating.step _ trivial)

theorem notifyFromDriver (j : ChannelId) (raised : Interest) :
    (notifyFromDriver j raised : Program σ Unit).MadeOf parts := by
  refine .step (operating.step _ trivial) fun kept => ?_
  cases kept with
  | false => exact .done ()
  | true => exact operating.referring (operating.notify j raised)

theorem closeHalf (j : ChannelId) (d : Direction) :
    (closeHalf j d : Program σ (Except Report Unit)).MadeOf parts := by
  apply (operating.operate j (.closeHalf d) trivial).bind
  intro answer
  obtain r | _ | _ := answer
  · exact .done _
  · exact .done _
  · exact operating.close j

theorem register (interp : InterpId) (j : ChannelId) :
    (register interp j : Program σ Unit).MadeOf parts :=
  .act (operating.step _ trivial)

theorem deleting : parts.Deleting where
  mark _ := operating.step _ trivial
  interp _ := operating.step _ trivial
  unregister := operating.unregister

theorem welcome (interp : InterpId) (script : RoutineId) (j : ChannelId) (host : String)
    (port : Port) : (welcome interp script j host port : Program σ Unit).MadeOf parts := by
  apply (operating.register interp j).bind
  intro _
  have allowed := operating.call (.user (.script script interp j host port)) trivial not_false
  apply (MadeOf.invoke allowed).bind
  intro answer
  cases answer with
  | ok done => exact .done ()
  | error r =>
    refine operating.step_bind trivial fun _ => operating.look_bind fun c => ?_
    exact (operating.unregister interp c.name).bind fun _ => .done ()

theorem accept (record : RecordId) (j : ChannelId) (host : String) (port : Port) :
    (accept record j host port : Program σ Unit).MadeOf parts := by
  apply operating.referring
  refine operating.step_bind trivial fun target? => ?_
  obtain _ | ⟨interp, script⟩ := target?
  · exact (operating.close j).bind fun _ => .done ()
  · exact operating.referring (operating.welcome interp script j host port)

end Operating

/-- The steps and calls by which conditions of one channel are let out. -/
structure Alerting (parts : Parts σ) (j : ChannelId) : Prop where
  raise : ∀ raised, parts.step (.raise j raised)
  letGo : ∀ k, parts.step (.letGo (.copy k))
  event : ∀ r ready, parts.call (.user (.event r j ready))
  advance : ∀ k, parts.call (.advance k)

/-- The steps and calls by which what was asked for on closing is done. -/
structure Parting (parts : Parts σ) : Prop where
  detach : ∀ record, parts.step (.detach record)
  closing : ∀ r, parts.call (.user (.closing r))

/-- The parts that closing one channel is made of. -/
structure Shutting (parts : Parts σ) (j : ChannelId) : Prop extends Parting parts where
  take : parts.step (.takeCloseActions j)
  shut : (Program.hold j .shut).MadeOf parts
  clear : parts.step (.clearHandlers j)

/-- The parts that the removal of a name is made of. -/
structure Removing (parts : Parts σ) : Prop where
  remove : ∀ interp name, parts.step (.unregister interp name)
  grasp : ∀ j, parts.step (.grasp (.channel j))
  drop : ∀ j, parts.step (.dropReference j)
  letGo : ∀ j, parts.step (.letGo (.channel j))
  close : ∀ j, (close j : Program σ (Except Report Unit)).MadeOf parts

/-- The steps and calls by which conditions that come up are let out. -/
structure Notifying (parts : Parts σ) : Prop where
  raise : ∀ j raised, parts.step (.raise j raised)
  letGo : ∀ e, parts.step (.letGo e)
  call : ∀ c, c.Common → parts.call c

/-- The single steps and calls that all operations but copies are made of, except that no handlers
are cleared away, and none called but where conditions come up. -/
structure Ordinary (parts : Parts σ) : Prop where
  step : ∀ {α : Type} (t : Step σ α), t.Basic → ¬t.ClearsAway → parts.step t
  call : ∀ c, c.Common → ¬c.Alerts → parts.call c
  notify : ∀ j raised, (notify j raised : Program σ Unit).MadeOf parts

/-- The single steps and calls that all operations but copies are made of, except that no handlers
are cleared away. -/
structure Simple (parts : Parts σ) : Prop where
  step : ∀ {α : Type} (t : Step σ α), t.Basic → ¬t.ClearsAway → parts.step t
  call : ∀ c, c.Common → parts.call c

/-- The steps of closing a channel are made together, or there is no need for that. -/
structure Closing (parts : Parts σ) : Prop extends Simple parts where
  close : ∀ j, (close j : Program σ (Except Report Unit)).MadeOf parts

/-- The single steps and calls that all operations but copies are made of. -/
structure Basic (parts : Parts σ) : Prop where
  step : ∀ {α : Type} (t : Step σ α), t.Basic → parts.step t
  call : ∀ c, c.Common → parts.call c

namespace Alerting

variable {j : ChannelId} (alerting : parts.Alerting j)

include alerting

theorem deliver (targets : List (Interest × Callback)) :
    (deliver j targets : Program σ Unit).MadeOf parts := by
  induction targets with
  | nil => exact .done ()
  | cons target rest ih =>
    obtain ⟨ready, r | k⟩ := target
    · exact .call (alerting.event r ready) fun _ => ih
    · exact .call (alerting.advance k) fun _ => .step (alerting.letGo k) fun _ => ih

theorem notify (raised : Interest) : (notify j raised : Program σ Unit).MadeOf parts :=
  .step (alerting.raise raised) fun targets => alerting.deliver targets

theorem hold (op : ChannelOp) (allowed : parts.step (.hold j op)) :
    (hold j op : Program σ op.Answer).MadeOf parts :=
  .hold alerting.notify allowed

end Alerting

theorem Parting.runCloseActions (parting : parts.Parting) (actions : List CloseAction) :
    (runCloseActions actions : Program σ Unit).MadeOf parts := by
  induction actions with
  | nil => exact .done ()
  | cons action rest ih =>
    cases action with
    | routine r => exact .call (parting.closing r) fun _ => ih
    | detach record => exact .step (parting.detach record) fun _ => ih

theorem Shutting.close {j : ChannelId} (shutting : parts.Shutting j) :
    (close j : Program σ (Except Report Unit)).MadeOf parts := by
  refine .act_bind shutting.take fun actions? => ?_
  cases actions? with
  | none => exact .done _
  | some actions =>
    apply (shutting.runCloseActions actions).bind
    intro _
    apply shutting.shut.bind
    exact fun _ => .act_bind shutting.clear fun _ => .done _

theorem Removing.unregister (removing : parts.Removing) (interp : InterpId) (name : String) :
    (unregister interp name : Program σ (Except Report Unit)).MadeOf parts := by
  refine .act_bind (removing.remove interp name) fun channel? => ?_
  cases channel? with
  | none => exact .done _
  | some j =>
    apply MadeOf.referring (removing.grasp j) (removing.letGo j)
    refine .act_bind (removing.drop j) fun last => ?_
    cases last with
    | false => exact .done _
    | true => exact removing.close j

namespace Notifying

variable (notifying : parts.Notifying)

include notifying

theorem alerting (j : ChannelId) : parts.Alerting j where
  raise := notifying.raise j
  letGo _ := notifying.letGo _
  event _ _ := notifying.call _ trivial
  advance _ := notifying.call _ trivial

theorem notify (j : ChannelId) (raised : Interest) :
    (notify j raised : Program σ Unit).MadeOf parts :=
  (notifying.alerting j).notify raised

theorem hold (j : ChannelId) (op : ChannelOp) (allowed : parts.step (.hold j op)) :
    (hold j op : Program σ op.Answer).MadeOf parts :=
  (notifying.alerting j).hold op allowed

end Notifying

namespace Ordinary

variable (ordinary : parts.Ordinary)

include ordinary

theorem hold (j : ChannelId) (op : ChannelOp) (basic : op.Common ∨ op = .shut) :
    (hold j op : Program σ op.Answer).MadeOf parts :=
  .hold (ordinary.notify j) (ordinary.step _ basic not_false)

theorem parting : parts.Parting where
  detach _ := ordinary.step _ trivial not_false
  closing _ := ordinary.call _ trivial not_false

theorem runCloseActions (actions : List CloseAction) :
    (runCloseActions actions : Program σ Unit).MadeOf parts :=
  ordinary.parting.runCloseActions actions

theorem close (clear : ∀ j, parts.step (.clearHandlers j)) (j : ChannelId) :
    (close j : Program σ (Except Report Unit)).MadeOf parts := by
  have shutting : parts.Shutting j :=
    { ordinary.parting with
      take := ordinary.step _ trivial not_false
      shut := ordinary.hold j .shut (.inr rfl)
      clear := clear j }
  exact shutting.close

variable (closes : ∀ j, (Program.close j : Program σ (Except Report Unit)).MadeOf parts)

include closes

theorem removing : parts.Removing where
  remove _ _ := ordinary.step _ trivial not_false
  grasp _ := ordinary.step _ trivial not_false
  drop _ := ordinary.step _ trivial not_false
  letGo _ := ordinary.step _ trivial not_false
  close := closes

/-- All operations but copies are made of them. -/
theorem operating : parts.Operating where
  hold j op transports := ordinary.hold j op (.inl transports.common)
  operate j op common := ordinary.hold j op (.inl common)
  look _ := ordinary.step _ trivial not_false
  readAll _ _ _ := ordinary.call _ trivial not_false
  step _ common := ordinary.step _ common.basic common.not_clearsAway
  call := ordinary.call
  notify := ordinary.notify
  close := closes
  unregister := (ordinary.removing closes).unregister

end Ordinary

namespace Simple

variable (simple : parts.Simple)

include simple

theorem notifying : parts.Notifying where
  raise _ _ := simple.step _ trivial not_false
  letGo _ := simple.step _ trivial not_false
  call := simple.call

theorem ordinary : parts.Ordinary where
  step := simple.step
  call c common _ := simple.call c common
  notify := simple.notifying.notify

end Simple

namespace Closing

variable (closing : parts.Closing)

include closing

theorem operating : parts.Operating := closing.toSimple.ordinary.operating closing.close

end Closing

namespace Basic

variable (basic : parts.Basic)

include basic

theorem simple : parts.Simple where
  step t isBasic _ := basic.step t isBasic
  call := basic.call

theorem close (j : ChannelId) : (close j : Program σ (Except Report Unit)).MadeOf parts :=
  basic.simple.ordinary.close (fun _ => basic.step _ trivial) j

theorem closing : parts.Closing where
  toSimple := basic.simple
  close := basic.close

theorem operating : parts.Operating := basic.closing.operating

end Basic

/-- The parts that a pass over an event loop is made of. -/
structure Passing (parts : Parts σ) : Prop where
  poll : ∀ loop, parts.step (.poll loop)
  takeHandler : ∀ loop fd generation, parts.step (.takeHandler loop fd generation)
  putBack : ∀ loop fd generation handler, parts.step (.putBack loop fd generation handler)
  fire : ∀ handler ready, parts.call (.fire handler ready)

namespace Passing

variable (passing : parts.Passing)

include passing

theorem dispatch (loop : LoopId) (ready : List (Registration × Interest)) :
    (dispatch loop ready : Program σ Nat).MadeOf parts := by
  induction ready with
  | nil => exact .done _
  | cons entry rest ih =>
    obtain ⟨r, raised⟩ := entry
    refine .act_bind (passing.takeHandler ..) fun handler? => ?_
    cases handler? with
    | none => exact ih
    | some handler =>
      apply (MadeOf.invoke (passing.fire handler raised)).bind
      intro _
      exact .act_bind (passing.putBack ..) fun _ => ih.bind fun _ => .done _

theorem passInOrder (order : List (Registration × Interest) → List (Registration × Interest))
    (loop : LoopId) : (passInOrder order loop : Program σ (Except Report Nat)).MadeOf parts := by
  refine .act_bind (passing.poll loop) fun polled => ?_
  cases polled with
  | error e => exact .done _
  | ok ready => exact (passing.dispatch loop (order ready)).bind fun _ => .done _

end Passing

end Parts

namespace TcpSite

variable {ν : Type} (site : TcpSite σ ν) {parts : Parts σ} (operating : parts.Operating)

include operating

theorem madeOf_runCommands (commands : List LoopCommand) :
    (runCommands commands : Program σ Unit).MadeOf parts := by
  induction commands with
  | nil => exact .done ()
  | cons c rest ih => exact .step (operating.step _ trivial) fun _ => ih

theorem madeOf_onNet (f : ν → α × ν) : (site.onNet f).MadeOf parts :=
  .act (operating.step _ trivial)

theorem madeOf_work (self : ChannelId) (f : TcpHeld ν → α × TcpHeld ν) :
    (site.work self f).MadeOf parts := by
  refine operating.step_bind trivial fun worked => ?_
  obtain _ | ⟨answer, raised, commands⟩ := worked
  · exact .done _
  · apply (madeOf_runCommands operating commands).bind
    intro _
    dsimp only
    split
    · exact (operating.notifyFromDriver self raised).bind fun _ => .done _
    · exact .done _

theorem madeOf_newChannel (mode : Mode) (t : TcpState)
    (prepare : ChannelId → TcpHeld ν → TcpHeld ν) :
    (site.newChannel mode t prepare).MadeOf parts := by
  refine operating.step_bind trivial fun made => ?_
  refine operating.step_bind ⟨rfl, rfl⟩ fun self => ?_
  refine operating.step_bind trivial fun _ => ?_
  exact (site.madeOf_work operating self _).bind fun _ => .done _

theorem madeOf_adopt (loop : LoopId) (socket : Socket) (mode : Mode) :
    (site.adopt loop socket mode).MadeOf parts :=
  (site.madeOf_onNet operating _).bind fun _ => site.madeOf_newChannel operating mode _ _

theorem madeOf_welcome (a : Accepted) : (site.welcome a).MadeOf parts := by
  apply (site.madeOf_onNet operating _).bind
  intro _
  apply (site.madeOf_adopt operating a.loop a.socket .both).bind
  intro channel
  obtain _ | ⟨r | record⟩ := a.target?
  · exact (operating.close channel).bind fun _ => .done ()
  · exact operating.referring (.invoke (operating.call _ trivial not_false))
  · exact operating.referring (operating.accept record channel _ _)

/-- What the handlers of stream channels are made of. -/
theorem madeOf_fire (handler : FileHandler) (ready : Interest) :
    (site.fire handler ready).MadeOf parts := by
  cases handler with
  | routine r => exact .done ()
  | connecting self epoch =>
    exact (site.madeOf_work operating self _).bind fun _ => .done ()
  | traffic self epoch =>
    apply (site.madeOf_work operating self _).bind
    intro mask?
    cases mask? with
    | none => exact .done ()
    | some mask =>
      dsimp only
      split
      · exact operating.notifyFromDriver self mask
      · exact .done ()
  | accepting self epoch index =>
    apply (site.madeOf_work operating self _).bind
    intro accepted?
    obtain _ | _ | accepted := accepted?
    · exact .done ()
    · exact .done ()
    · exact site.madeOf_welcome operating accepted

end TcpSite

namespace Setting

/-- The routines of the user and the handlers of drivers are made of some parts. -/
structure MadeOf (s : Setting σ) (parts : Parts σ) : Prop where
  routine : ∀ u, (s.routine u).MadeOf parts
  fire : ∀ handler ready, (s.fire handler ready).MadeOf parts

/-- So is all that is called, where copies are. -/
theorem MadeOf.body {s : Setting σ} {parts : Parts σ} (made : s.MadeOf parts)
    (starting : parts.Starting) (ready : ∀ r raised, parts.call (.user (.ready r raised)))
    (c : Call) : (s.body c).MadeOf parts := by
  cases c with
  | user u => exact made.routine u
  | fire handler raised =>
    cases handler with
    | routine r => exact .invoke (ready r raised)
    | _ => exact made.fire _ raised
  | advance k => exact starting.advance k
  | moveAll k => exact starting.moveChunks k
  | readAll j chunk sofar => exact starting.readChunks j chunk sofar

end Setting

end EventChannel
