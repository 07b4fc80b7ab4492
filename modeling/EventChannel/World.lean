import EventChannel.Channel.Operation
import EventChannel.Copy
import EventChannel.Interp

/-! All channels, copies, interpreters, accept records and event loops together, with the
environment of the drivers. Each is found by its identifier. -/

namespace EventChannel

/-- Everything there is. -/
structure World (σ : Type) where
  channels : List Channel := []
  copies : List Copy := []
  interps : List Interp := []
  records : List AcceptRecord := []
  loops : EventLoops := []
  /-- What programs under way refer to, once for each reference, the latest first. -/
  inUse : List Entity := []
  env : σ

namespace World

variable {σ : Type}

def channel (w : World σ) (id : ChannelId) : Channel := w.channels[id]?.getD .absent

def copy? (w : World σ) (id : CopyId) : Option Copy := w.copies[id]?

def interp (w : World σ) (id : InterpId) : Interp := w.interps[id]?.getD {}

def record? (w : World σ) (id : RecordId) : Option AcceptRecord := w.records[id]?

def modifyChannel (w : World σ) (id : ChannelId) (f : Channel → Channel) : World σ :=
  { w with channels := w.channels.modify id f }

def modifyCopy (w : World σ) (id : CopyId) (f : Copy → Copy) : World σ :=
  { w with copies := w.copies.modify id f }

def modifyInterp (w : World σ) (id : InterpId) (f : Interp → Interp) : World σ :=
  { w with interps := w.interps.modify id f }

def modifyRecord (w : World σ) (id : RecordId) (f : AcceptRecord → AcceptRecord) : World σ :=
  { w with records := w.records.modify id f }

def modifyLoop (w : World σ) (id : LoopId) (f : EventLoop → EventLoop) : World σ :=
  { w with loops := w.loops.modify id f }

/-- Does something with a channel held. -/
def hold {α : Type} (w : World σ) (id : ChannelId) (f : Held σ → α × Held σ) : α × World σ :=
  let (a, h) := f ⟨w.channel id, w.loops, w.env⟩
  (a, { w.modifyChannel id (fun _ => h.channel) with loops := h.loops, env := h.env })

def grasp (w : World σ) (e : Entity) : World σ := { w with inUse := e :: w.inUse }

def letGo (w : World σ) (e : Entity) : World σ := { w with inUse := w.inUse.erase e }

/-- Whether a program under way refers to something, or one of the users of the world does. -/
def isReferredTo (w : World σ) (users : σ → Entity → Bool) (e : Entity) : Bool :=
  w.inUse.contains e || users w.env e

/-- The interpreter that a record still leads to. -/
def recordInterp? (w : World σ) (users : σ → Entity → Bool) (id : RecordId) : Option InterpId :=
  ((w.record? id).bind (·.interp?)).filter fun i =>
    w.isReferredTo users (.interp i) && !(w.interp i).deleted

/-- The records of an interpreter that are still there. -/
def liveRecords (w : World σ) (users : σ → Entity → Bool) (id : InterpId) : List RecordId :=
  (w.interp id).records.filter fun r => w.isReferredTo users (.record r)

/-- A copy that is at rest hangs on the handlers it has left behind. -/
def copyHangs (w : World σ) (c : Copy) : Bool :=
  match c.phase with
  | .done => false
  | .resting =>
    let left := fun (channel : ChannelId) (id? : Option HandlerId) =>
      (w.channel channel).handlers.any fun h => some h.id == id?
    left c.source c.sourceHandler? || left c.target c.targetHandler?
  | .begun | .moving | .ending => true

/-- Whether a channel stands in the table of an interpreter that is still there. -/
def isTabled (w : World σ) (users : σ → Entity → Bool) (id : ChannelId) : Bool :=
  w.interps.zipIdx.any fun (interp, i) =>
    interp.channels.any (·.2 == id) && w.isReferredTo users (.interp i)

/-- Whether a channel has its part in a copy that is still there. -/
def isCopied (w : World σ) (id : ChannelId) : Bool :=
  w.copies.zipIdx.any fun (c, k) =>
    c.involves id && (w.inUse.contains (.copy k) || w.copyHangs c)

/-- Whether anything keeps a channel: a reference to it, the table of an interpreter, or a copy. -/
def keeps (w : World σ) (users : σ → Entity → Bool) (id : ChannelId) : Bool :=
  w.isReferredTo users (.channel id) || w.isTabled users id || w.isCopied id

end World

end EventChannel
