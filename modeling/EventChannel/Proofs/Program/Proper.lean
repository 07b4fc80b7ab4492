import EventChannel.Proofs.Program.Parts

/-! Some steps belong together: what comes out of a channel that is let go of is delivered, the
handlers of a channel are taken away when it has been closed, and a reference is given back where an
entry was removed. A program is proper if it makes such steps only as parts of the operations that
they belong to. All operations are proper, and so is what is made of proper programs. A program is
mild if it also closes nothing and enters nothing in tables; reading, writing and copying are
mild. -/

namespace EventChannel

variable {σ α β : Type}

/-- The step stands on its own: it is not one that an operation begins or ends with others. -/
def Step.Plain : {α : Type} → Step σ α → Prop
  | _, .hold .. | _, .raise .. | _, .takeCloseActions _ | _, .clearHandlers _
  | _, .dropReference _ | _, .unregister .. => False
  | _, _ => True

/-- The step is plain and makes no entry in a table. -/
def Step.Mild : {α : Type} → Step σ α → Prop
  | _, .register .. => False
  | _, t => t.Plain

theorem Step.Mild.plain {t : Step σ α} (mild : t.Mild) : t.Plain := by
  cases t with
  | register i j => cases mild
  | _ => exact mild

/-- What is called are not the handlers of a descriptor. -/
def Call.Inner : Call → Prop
  | .fire .. => False
  | _ => True

namespace Program

/-- The program is made of plain steps, of calls and of whole operations. -/
inductive Proper : {α : Type} → Program σ α → Prop
  | done {α : Type} (a : α) : Proper (.done a)
  | step {α β : Type} {t : Step σ β} {next : β → Program σ α} (plain : t.Plain)
      (rest : ∀ b, Proper (next b)) : Proper (.step t next)
  | call {α : Type} {c : Call} {next : c.Answer → Program σ α} (rest : ∀ b, Proper (next b)) :
      Proper (.call c next)
  | held {α : Type} {j : ChannelId} {op : ChannelOp} {next : op.Answer → Program σ α}
      (stays : op ≠ .shut) (rest : ∀ b, Proper (next b)) : Proper ((hold j op).bind next)
  | notified {α : Type} {j : ChannelId} {raised : Interest} {next : Unit → Program σ α}
      (rest : ∀ b, Proper (next b)) : Proper ((notify j raised).bind next)
  | closed {α : Type} {j : ChannelId} {next : Except Report Unit → Program σ α}
      (rest : ∀ b, Proper (next b)) : Proper ((close j).bind next)
  | unregistered {α : Type} {interp : InterpId} {name : String}
      {next : Except Report Unit → Program σ α} (rest : ∀ b, Proper (next b)) :
      Proper ((unregister interp name).bind next)

/-- The program closes nothing, and neither makes nor removes an entry, unless in calls. It calls no
handlers of descriptors. -/
inductive Mild : {α : Type} → Program σ α → Prop
  | done {α : Type} (a : α) : Mild (.done a)
  | step {α β : Type} {t : Step σ β} {next : β → Program σ α} (mild : t.Mild)
      (rest : ∀ b, Mild (next b)) : Mild (.step t next)
  | call {α : Type} {c : Call} {next : c.Answer → Program σ α} (inner : c.Inner)
      (rest : ∀ b, Mild (next b)) : Mild (.call c next)
  | held {α : Type} {j : ChannelId} {op : ChannelOp} {next : op.Answer → Program σ α}
      (stays : op ≠ .shut) (rest : ∀ b, Mild (next b)) : Mild ((hold j op).bind next)

/-- What is mild is proper. -/
theorem Mild.proper {p : Program σ α} (mild : p.Mild) : p.Proper := by
  induction mild with
  | done a => exact .done a
  | step mild rest ih => exact .step mild.plain ih
  | call inner rest ih => exact .call ih
  | held stays rest ih => exact .held stays ih

/-- The operations that mild programs carry out as a whole. -/
inductive MildWhole : {α : Type} → Program σ α → Prop
  | held {j : ChannelId} {op : ChannelOp} (stays : op ≠ .shut) : MildWhole (hold j op)

/-- What mild programs are made of. -/
def mildParts : Parts σ where
  step := Step.Mild
  call := Call.Inner
  whole := MildWhole

theorem MadeOf.mild {p : Program σ α} (made : p.MadeOf mildParts) : p.Mild := by
  induction made with
  | done a => exact .done a
  | step allowed rest ih => exact .step allowed ih
  | call allowed rest ih => exact .call allowed ih
  | whole allowed rest ih =>
    cases allowed with
    | held stays => exact .held stays ih

theorem ne_shut_of_common {op : ChannelOp} (common : op.Common) : op ≠ .shut := by
  rintro rfl
  exact common

theorem mildParts_copying : (mildParts : Parts σ).Copying where
  hold _ _ transports := .of_whole (.held (ne_shut_of_common transports.common))
  look _ := trivial
  readAll _ _ _ := trivial
  step t ofCopies := by
    cases t with
    | look | grasp | letGo | copy | beginCopy | fixChunk | enterCopy | restCopy => trivial
    | countCopied | setCopyHandlers | endCopying | finishCopy => trivial
    | _ => cases ofCopies
  call c ofCopies := by
    cases c with
    | fire handler ready => cases ofCopies
    | _ => trivial
  leaving _ _ := .of_whole (.held nofun)
  waiting j mask k := .of_whole (.held nofun)

theorem mild_readChunks (j : ChannelId) (chunk : Nat) (sofar : ByteQueue) :
    (readChunks j chunk sofar : Program σ (Except TransferFailure Bytes)).Mild :=
  (mildParts_copying.readChunks j chunk sofar).mild

theorem mild_moveChunks (k : CopyId) : (moveChunks k : Program σ (Except Report Unit)).Mild :=
  ((mildParts_copying.working k).moveChunks).mild

theorem mild_advance (k : CopyId) : (advance k : Program σ Unit).Mild :=
  (mildParts_copying.undertaking.advance k).mild

/-- The operations that proper programs carry out as a whole. -/
inductive ProperWhole : {α : Type} → Program σ α → Prop
  | held {j : ChannelId} {op : ChannelOp} (stays : op ≠ .shut) : ProperWhole (hold j op)
  | notified {j : ChannelId} {raised : Interest} : ProperWhole (notify j raised)
  | closed {j : ChannelId} : ProperWhole (close j)
  | unregistered {interp : InterpId} {name : String} : ProperWhole (unregister interp name)

/-- What proper programs are made of. -/
def properParts : Parts σ where
  step := Step.Plain
  call _ := True
  whole := ProperWhole

theorem MadeOf.proper {p : Program σ α} (made : p.MadeOf properParts) : p.Proper := by
  induction made with
  | done a => exact .done a
  | step allowed rest ih => exact .step allowed ih
  | call allowed rest ih => exact .call ih
  | whole allowed rest ih =>
    cases allowed with
    | held stays => exact .held stays ih
    | notified => exact .notified ih
    | closed => exact .closed ih
    | unregistered => exact .unregistered ih

theorem Proper.madeOf {p : Program σ α} (proper : p.Proper) : p.MadeOf properParts := by
  induction proper with
  | done a => exact .done a
  | step plain rest ih => exact .step plain ih
  | call rest ih => exact .call trivial ih
  | held stays rest ih => exact .whole (.held stays) ih
  | notified rest ih => exact .whole .notified ih
  | closed rest ih => exact .whole .closed ih
  | unregistered rest ih => exact .whole .unregistered ih

theorem Step.Common.plain {t : Step σ α} (common : t.Common) : t.Plain := by
  cases t with
  | hold | raise | takeCloseActions | clearHandlers | dropReference | unregister => cases common
  | _ => trivial

/-- All operations are made of what proper programs are made of. -/
theorem properParts_operating : (properParts : Parts σ).Operating where
  hold _ _ transports := .of_whole (.held (ne_shut_of_common transports.common))
  operate _ _ common := .of_whole (.held (ne_shut_of_common common))
  look _ := trivial
  readAll _ _ _ := trivial
  step _ common := Step.Common.plain common
  call _ _ _ := trivial
  notify _ _ := .of_whole .notified
  close _ := .of_whole .closed
  unregister _ _ := .of_whole .unregistered

theorem properParts_copying : (properParts : Parts σ).Copying where
  toTransfers := properParts_operating.toTransfers
  step t ofCopies := (mildParts_copying.step t ofCopies).plain
  call _ _ := trivial
  leaving _ _ := .of_whole (.held nofun)
  waiting _ _ _ := .of_whole (.held nofun)

/-- Passes over event loops are proper, too. -/
theorem properParts_passing : (properParts : Parts σ).Passing where
  poll _ := trivial
  takeHandler _ _ _ := trivial
  putBack _ _ _ _ := trivial
  fire _ _ := trivial

/-- Proper programs one after the other are proper. -/
theorem proper_bind {p : Program σ α} {f : α → Program σ β} (first : p.Proper)
    (second : ∀ a, (f a).Proper) : (p >>= f).Proper :=
  (first.madeOf.bind fun a => (second a).madeOf).proper

/-- A plain step is followed by what is proper. -/
theorem proper_act_bind {t : Step σ α} {f : α → Program σ β} (plain : t.Plain)
    (second : ∀ a, (f a).Proper) : (act t >>= f).Proper :=
  .step plain second

theorem proper_hold (j : ChannelId) (op : ChannelOp) (stays : op ≠ .shut) :
    (hold j op : Program σ op.Answer).Proper := by
  have made : (hold j op : Program σ op.Answer).MadeOf properParts := .of_whole (.held stays)
  exact made.proper

theorem proper_notify (j : ChannelId) (raised : Interest) :
    (notify j raised : Program σ Unit).Proper :=
  (properParts_operating.notify j raised).proper

theorem proper_write (j : ChannelId) (bytes : Bytes) :
    (write j bytes : Program σ (Except Report Nat)).Proper :=
  (properParts_operating.write j bytes).proper

theorem proper_flush (j : ChannelId) : (flush j : Program σ (Except Report Unit)).Proper :=
  (properParts_operating.flush j).proper

theorem proper_register (interp : InterpId) (j : ChannelId) :
    (register interp j : Program σ Unit).Proper :=
  (properParts_operating.register interp j).proper

theorem proper_unregister (interp : InterpId) (name : String) :
    (unregister interp name : Program σ (Except Report Unit)).Proper :=
  (properParts_operating.unregister interp name).proper

end Program

/-- The handlers of stream channels are proper. -/
theorem TcpSite.proper_fire {ν : Type} (site : TcpSite σ ν) (handler : FileHandler)
    (ready : Interest) : (site.fire handler ready).Proper :=
  (site.madeOf_fire Program.properParts_operating handler ready).proper

namespace Setting

/-- The routines of the user and the handlers of drivers are proper. -/
structure Proper (s : Setting σ) : Prop where
  routine : ∀ u, (s.routine u).Proper
  fire : ∀ handler ready, (s.fire handler ready).Proper

/-- Where these are proper, so is all that is called. -/
theorem Proper.body {s : Setting σ} (proper : s.Proper) (c : Call) : (s.body c).Proper := by
  have made : s.MadeOf Program.properParts :=
    ⟨fun u => (proper.routine u).madeOf, fun handler ready => (proper.fire handler ready).madeOf⟩
  exact (made.body Program.properParts_copying.starting (fun _ _ => trivial) c).proper

end Setting

end EventChannel
