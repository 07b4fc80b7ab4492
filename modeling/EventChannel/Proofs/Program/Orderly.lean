import EventChannel.Proofs.Program.Proper
import EventChannel.Proofs.World.Watch

/-! The handlers of a channel are taken away at once as the last act of closing it, when its driver
is closed already. A program is orderly if it does so at no other time. Whatever is made of whole
operations is orderly. -/

namespace EventChannel

variable {σ α β : Type} {id : ChannelId} {closed : Prop}

namespace Program

/-- The program takes the handlers of a channel away only after it has closed it, unless the channel
is closed when the program begins. -/
def Orderly (id : ChannelId) (closed : Prop) : Program σ α → Prop
  | .done _ => True
  | .step t next => (t.Clears id → closed) ∧ ∀ b, (next b).Orderly id (closed ∨ t.Shuts id)
  | .call _ next => ∀ b, (next b).Orderly id closed

/-- What is orderly on an open channel is so on a closed one. -/
theorem Orderly.mono {p : Program σ α} {later : Prop} (orderly : p.Orderly id closed)
    (hLater : closed → later) : p.Orderly id later := by
  induction p generalizing closed later with
  | done a => trivial
  | step t next ih =>
    constructor
    · intro hClears
      exact hLater (orderly.1 hClears)
    · intro b
      exact ih b (orderly.2 b) (Or.imp_left hLater)
  | call c next ih =>
    intro b
    exact ih b (orderly b) hLater

/-- Orderly programs one after the other are orderly. -/
theorem orderly_bind {p : Program σ α} {f : α → Program σ β} (first : p.Orderly id closed)
    (second : ∀ a, (f a).Orderly id closed) : (p >>= f).Orderly id closed := by
  induction p generalizing closed with
  | done a => exact second a
  | step t next ih =>
    constructor
    · exact first.1
    · intro b
      apply ih b (first.2 b)
      intro a
      exact (second a).mono .inl
  | call c next ih =>
    intro b
    exact ih b (first b) second

theorem orderly_pure (a : α) : (pure a : Program σ α).Orderly id closed := trivial

theorem orderly_act {t : Step σ α} (hClears : ¬t.Clears id) : (act t).Orderly id closed :=
  ⟨fun hIs => absurd hIs hClears, fun _ => trivial⟩

/-- A step that takes no handlers away is followed by what is orderly after it. -/
theorem orderly_act_bind {t : Step σ α} {f : α → Program σ β} (hClears : ¬t.Clears id)
    (second : ∀ a, (f a).Orderly id closed) : (act t >>= f).Orderly id closed :=
  orderly_bind (orderly_act hClears) second

theorem orderly_referring {e : Entity} {p : Program σ α} (orderly : p.Orderly id closed) :
    (referring e p).Orderly id closed := by
  refine orderly_act_bind not_false fun _ => ?_
  apply orderly_bind orderly
  intro a
  refine orderly_act_bind not_false fun _ => ?_
  trivial

theorem orderly_deliver (j : ChannelId) (targets : List (Interest × Callback)) :
    (deliver j targets : Program σ Unit).Orderly id closed := by
  induction targets generalizing closed with
  | nil => trivial
  | cons target rest ih =>
    obtain ⟨ready, r | k⟩ := target
    · exact fun _ => ih
    · exact fun _ => ⟨False.elim, fun _ => ih⟩

theorem orderly_notify (j : ChannelId) (raised : Interest) :
    (notify j raised : Program σ Unit).Orderly id closed :=
  ⟨False.elim, orderly_deliver j⟩

/-- What follows an operation may rely on the channel being closed if that was the operation. -/
theorem orderly_hold_bind {j : ChannelId} {op : ChannelOp} {f : op.Answer → Program σ β}
    (second : ∀ answer, (f answer).Orderly id (closed ∨ (Step.hold (σ := σ) j op).Shuts id)) :
    (hold j op >>= f).Orderly id closed := by
  refine ⟨False.elim, fun (answer, raised) => ?_⟩
  by_cases hEmpty : raised.isEmpty
  · simp only [hEmpty]
    exact second answer
  · simp only [hEmpty]
    have hDelivered : (notify j raised >>= fun _ => pure answer : Program σ op.Answer).Orderly id
        (closed ∨ (Step.hold (σ := σ) j op).Shuts id) :=
      orderly_bind (orderly_notify j raised) fun _ => orderly_pure answer
    exact orderly_bind hDelivered second

theorem orderly_runCloseActions (actions : List CloseAction) :
    (runCloseActions actions : Program σ Unit).Orderly id closed := by
  induction actions generalizing closed with
  | nil => trivial
  | cons action rest ih =>
    cases action with
    | routine r => exact fun _ => ih
    | detach record => exact ⟨False.elim, fun _ => ih⟩

/-- Closing takes the handlers away when the driver is closed. -/
theorem orderly_close (j : ChannelId) :
    (close j : Program σ (Except Report Unit)).Orderly id closed := by
  refine orderly_act_bind not_false fun actions? => ?_
  cases actions? with
  | none => trivial
  | some actions =>
    apply orderly_bind (orderly_runCloseActions actions)
    intro _
    apply orderly_hold_bind
    intro answer
    apply orderly_bind
    · exact ⟨fun hIs => .inr ⟨hIs, rfl⟩, fun _ => trivial⟩
    · exact fun _ => trivial

theorem orderly_unregister (interp : InterpId) (name : String) :
    (unregister interp name : Program σ (Except Report Unit)).Orderly id closed := by
  refine orderly_act_bind not_false fun channel? => ?_
  cases channel? with
  | none => trivial
  | some j =>
    apply orderly_referring
    refine orderly_act_bind not_false fun last => ?_
    cases last with
    | false => trivial
    | true => exact orderly_close j

/-- What is made of whole operations is orderly, for closing is one of them. -/
theorem Proper.orderly {p : Program σ α} (proper : p.Proper) : p.Orderly id closed := by
  induction proper generalizing closed with
  | done a => trivial
  | @step _ t next plain rest ih =>
    refine orderly_act_bind ?_ fun b => ih b
    cases t with
    | clearHandlers j => cases plain
    | _ => exact not_false
  | call rest ih => exact fun b => ih b
  | held stays rest ih => exact orderly_hold_bind fun answer => ih answer
  | notified rest ih => exact orderly_bind (orderly_notify _ _) fun b => ih b
  | closed rest ih => exact orderly_bind (orderly_close _) fun b => ih b
  | unregistered rest ih => exact orderly_bind (orderly_unregister _ _) fun b => ih b

end Program

namespace Setting

variable {s : Setting σ} {w w' : World σ} {events : List (Event σ)}

/-- The routines of the user and the handlers of drivers are orderly. -/
structure Orderly (s : Setting σ) (id : ChannelId) : Prop where
  routine : ∀ u, (s.routine u).Orderly id False
  fire : ∀ handler ready, (s.fire handler ready).Orderly id False

/-- Proper routines and handlers are orderly on every channel. -/
theorem Proper.orderly (proper : s.Proper) : s.Orderly id where
  routine u := (proper.routine u).orderly
  fire handler ready := (proper.fire handler ready).orderly

/-- Where these are orderly, so is all that is called. -/
theorem Orderly.body (orderly : s.Orderly id) (c : Call) : (s.body c).Orderly id False := by
  cases c with
  | user u => exact orderly.routine u
  | fire handler ready =>
    cases handler with
    | routine r => exact fun _ => trivial
    | _ => exact orderly.fire _ ready
  | advance k => exact (Program.mild_advance k).proper.orderly
  | moveAll k => exact (Program.mild_moveChunks k).proper.orderly
  | readAll j chunk sofar => exact (Program.mild_readChunks j chunk sofar).proper.orderly

/-- After a step a channel is closed if it was so before, or if the step has closed it. -/
theorem shut_of_step {t : Step σ α} (hClosed : closed → (w.channel id).isOpen = false)
    (hExists : id < w.channels.length) (hAfter : closed ∨ t.Shuts id) :
    ((t.run s.toSurroundings w).2.channel id).isOpen = false := by
  rcases hAfter with hBefore | hShuts
  · exact t.shut_run hExists (hClosed hBefore)
  · exact hShuts.shut hExists

theorem Runs.clears_shut {p : Program σ α} {a : α} (run : s.Runs p w events a w')
    (orderly : s.Orderly id) (hOrderly : p.Orderly id closed)
    (hClosed : closed → (w.channel id).isOpen = false) (hExists : id < w.channels.length) :
    ∀ e ∈ events, e.Clears id → (e.before.channel id).isOpen = false := by
  induction run generalizing closed with
  | done a w =>
    intro e hMem
    cases hMem
  | @step _ _ t next w _ _ _ rest ih =>
    have hRest := ih (hOrderly.2 _) (shut_of_step hClosed hExists)
      (Nat.lt_of_lt_of_le hExists (t.length_run _ w))
    exact List.forall_mem_cons.2 ⟨fun hClears => hClosed (hOrderly.1 hClears), hRest⟩
  | call body rest ihBody ihRest =>
    have hInner := ihBody (orderly.body _) False.elim hExists
    have hOuter := ihRest (hOrderly _) (fun hBefore => body.leads.shut hExists (hClosed hBefore))
      (Nat.lt_of_lt_of_le hExists body.leads.length)
    exact List.forall_mem_cons.2 ⟨False.elim, List.forall_mem_append.2 ⟨hInner, hOuter⟩⟩

/-- While an orderly program runs, whatever it calls, the handlers of a channel are taken away only
when it is closed. -/
theorem Begins.clears_shut {p : Program σ α} (run : s.Begins p w events w')
    (orderly : s.Orderly id) (hOrderly : p.Orderly id closed)
    (hClosed : closed → (w.channel id).isOpen = false) (hExists : id < w.channels.length) :
    ∀ e ∈ events, e.Clears id → (e.before.channel id).isOpen = false := by
  induction run generalizing closed with
  | stop p w =>
    intro e hMem
    cases hMem
  | @step _ _ t next w _ _ rest ih =>
    have hRest := ih (hOrderly.2 _) (shut_of_step hClosed hExists)
      (Nat.lt_of_lt_of_le hExists (t.length_run _ w))
    exact List.forall_mem_cons.2 ⟨fun hClears => hClosed (hOrderly.1 hClears), hRest⟩
  | inside body ih =>
    have hInner := ih (orderly.body _) False.elim hExists
    exact List.forall_mem_cons.2 ⟨False.elim, hInner⟩
  | after body rest ih =>
    have hInner := body.clears_shut orderly (orderly.body _) False.elim hExists
    have hOuter := ih (hOrderly _) (fun hBefore => body.leads.shut hExists (hClosed hBefore))
      (Nat.lt_of_lt_of_le hExists body.leads.length)
    exact List.forall_mem_cons.2 ⟨False.elim, List.forall_mem_append.2 ⟨hInner, hOuter⟩⟩

end Setting

end EventChannel
