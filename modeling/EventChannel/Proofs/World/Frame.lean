import EventChannel.Proofs.Channel.Effect
import EventChannel.Proofs.Execution

/-! A step holds at most one channel. Every other channel keeps all but what is noted about it: its
handlers, its close actions, its references, and whether it is being copied. -/

namespace EventChannel

/-- A channel without what is noted about it by others than its own transfers. -/
def Channel.bare (c : Channel) : Channel :=
  { c with
    closeActions := [], handlers := [], references := 0, copying := false, deferred := .none }

/-- A view of channels that is not changed by what is noted about them. Handlers are noted too, but
not every view leaves them out. -/
structure Channel.Unnoted {β : Type} (view : Channel → β) : Prop where
  closeActions : ∀ c actions, view { c with closeActions := actions } = view c
  references : ∀ c n, view { c with references := n } = view c
  copying : ∀ c on, view { c with copying := on } = view c
  deferred : ∀ c raised, view { c with deferred := raised } = view c

theorem Channel.unnoted_bare : Unnoted bare :=
  ⟨fun _ _ => rfl, fun _ _ => rfl, fun _ _ => rfl, fun _ _ => rfl⟩

/-- Channels that differ in no more than what is noted about them. -/
theorem Channel.of_bare {c c' : Channel} (hBare : c'.bare = c.bare) :
    c' = { c with
      closeActions := c'.closeActions, handlers := c'.handlers, references := c'.references
      copying := c'.copying, deferred := c'.deferred } := by
  cases c
  cases c'
  simp only [bare, mk.injEq] at hBare ⊢
  simp [hBare]

namespace World

variable {σ α : Type} {w : World σ} {id j : ChannelId}

/-- A channel of the world as an operation holds it. -/
def held (w : World σ) (id : ChannelId) : Held σ := ⟨w.channel id, w.loops, w.env⟩

/-- A channel that is not in the world is not open. -/
theorem exists_of_isOpen (hOpen : (w.channel id).isOpen = true) : id < w.channels.length := by
  apply Nat.lt_of_not_le
  intro hNot
  rw [channel, List.getElem?_eq_none hNot] at hOpen
  cases hOpen

theorem channel_modifyChannel_self (f : Channel → Channel) (hExists : id < w.channels.length) :
    (w.modifyChannel id f).channel id = f (w.channel id) := by
  simp [modifyChannel, channel, List.getElem?_eq_getElem hExists]

theorem channel_modifyChannel_ne (f : Channel → Channel) (hNe : j ≠ id) :
    (w.modifyChannel j f).channel id = w.channel id := by
  simp [modifyChannel, channel, hNe]

theorem modifyChannel_channel (w : World σ) (id : ChannelId) (f : Channel → Channel) :
    w.modifyChannel id (fun _ => f (w.channel id)) = w.modifyChannel id f := by
  have hSame : w.channels.modify id (fun _ => f (w.channel id)) = w.channels.modify id f := by
    refine List.ext_getElem? fun i => ?_
    by_cases hId : id = i
    · subst hId
      cases hThere : w.channels[id]? <;> simp [channel, hThere]
    · simp [hId]
  exact congrArg (fun channels => { w with channels }) hSame

theorem modifyChannel_same {f : Channel → Channel} (hSame : f (w.channel id) = w.channel id) :
    w.modifyChannel id f = w := by
  rw [← modifyChannel_channel, hSame, modifyChannel_channel w id fun c => c]
  exact congrArg (fun channels => { w with channels }) (List.modify_id id w.channels)

theorem view_modifyChannel {β : Type} {view : Channel → β} {f : Channel → Channel}
    (hView : ∀ c, view (f c) = view c) :
    view ((w.modifyChannel j f).channel id) = view (w.channel id) := by
  by_cases hId : j = id
  · subst hId
    by_cases hExists : j < w.channels.length
    · rw [channel_modifyChannel_self f hExists, hView]
    · simp [modifyChannel, channel, List.getElem?_eq_none (Nat.le_of_not_lt hExists)]
  · rw [channel_modifyChannel_ne f hId]

@[simp] theorem length_modifyChannel (f : Channel → Channel) :
    (w.modifyChannel j f).channels.length = w.channels.length := by
  simp [modifyChannel]

theorem hold_channel_self (f : Held σ → α × Held σ) (hExists : id < w.channels.length) :
    (w.hold id f).2.channel id = (f (w.held id)).2.channel :=
  channel_modifyChannel_self (fun _ => (f (w.held id)).2.channel) hExists

theorem hold_channel_ne (f : Held σ → α × Held σ) (hNe : j ≠ id) :
    (w.hold j f).2.channel id = w.channel id :=
  channel_modifyChannel_ne (fun _ => (f (w.held j)).2.channel) hNe

/-- A channel that has been opened is as it was made, except that its driver may have raised
conditions. -/
theorem channel_openChannel (s : Surroundings σ) (w : World σ) (c : Channel) :
    ∃ deferred, (w.openChannel s c).2.channel (w.openChannel s c).1 = { c with deferred } := by
  let made : World σ := { w with channels := w.channels ++ [c] }
  have hExists : w.channels.length < made.channels.length := by simp [made]
  have hMade : made.channel w.channels.length = c := by simp [made, channel]
  have hOpened : (w.openChannel s c).2.channel (w.openChannel s c).1 =
      (Held.drive (s.driver w.channels.length) .attach (made.held w.channels.length)).2.channel :=
    hold_channel_self (Held.drive (s.driver w.channels.length) .attach) hExists
  rw [hOpened, Held.drive_channel, held, hMade]
  exact ⟨_, rfl⟩

@[simp] theorem length_hold (f : Held σ → α × Held σ) :
    (w.hold id f).2.channels.length = w.channels.length :=
  length_modifyChannel (fun _ => (f (w.held id)).2.channel)

/-- What each step of a fold leaves alone, the fold leaves alone. -/
theorem foldl_keeps {β γ : Type} (part : World σ → γ) {f : World σ → β → World σ}
    (hStep : ∀ w b, part (f w b) = part w) (bs : List β) : part (bs.foldl f w) = part w := by
  induction bs generalizing w with
  | nil => rfl
  | cons b rest ih => rw [List.foldl_cons, ih, hStep]

@[simp] theorem channels_graspCopies (targets : List (Interest × Callback)) :
    (w.graspCopies targets).channels = w.channels := by
  refine foldl_keeps channels (fun w target => ?_) targets
  obtain ⟨ready, _ | k⟩ := target <;> rfl

theorem interps_graspCopies (targets : List (Interest × Callback)) :
    (w.graspCopies targets).interps = w.interps := by
  refine foldl_keeps interps (fun w target => ?_) targets
  obtain ⟨ready, _ | k⟩ := target <;> rfl

/-- Records that are detached leave channels and interpreters alone. -/
theorem channels_detachAll (records : List RecordId) :
    (records.foldl (fun w r => w.modifyRecord r ({ · with interp? := none })) w).channels =
      w.channels := by
  refine foldl_keeps channels ?_ records
  exact fun _ _ => rfl

theorem interps_detachAll (records : List RecordId) :
    (records.foldl (fun w r => w.modifyRecord r ({ · with interp? := none })) w).interps =
      w.interps := by
  refine foldl_keeps interps ?_ records
  exact fun _ _ => rfl

theorem channel_congr {w w' : World σ} (h : w.channels = w'.channels) :
    w.channel id = w'.channel id := by
  rw [channel, channel, h]

/-- No channel has been taken away, and a view of one of them is as it was. -/
structure Keeps {β : Type} (view : Channel → β) (id : ChannelId) (w w' : World σ) : Prop where
  length : w.channels.length ≤ w'.channels.length
  same : id < w.channels.length → view (w'.channel id) = view (w.channel id)

namespace Keeps

variable {β : Type} {view : Channel → β}

theorem of_channels {w w' : World σ} (h : w'.channels = w.channels) : Keeps view id w w' :=
  ⟨Nat.le_of_eq (congrArg List.length h).symm, fun _ => congrArg view (channel_congr h)⟩

theorem refl (w : World σ) : Keeps view id w w := of_channels rfl

theorem trans {w₁ w₂ w₃ : World σ} (left : Keeps view id w₁ w₂) (right : Keeps view id w₂ w₃) :
    Keeps view id w₁ w₃ where
  length := Nat.le_trans left.length right.length
  same hExists :=
    (right.same (Nat.lt_of_lt_of_le hExists left.length)).trans (left.same hExists)

theorem modifyChannel {f : Channel → Channel} (hView : ∀ c, view (f c) = view c) :
    Keeps view id w (w.modifyChannel j f) :=
  ⟨Nat.le_of_eq (length_modifyChannel f).symm, fun _ => view_modifyChannel hView⟩

theorem modifyOther {f : Channel → Channel} (hNe : j ≠ id) :
    Keeps view id w (w.modifyChannel j f) :=
  ⟨Nat.le_of_eq (length_modifyChannel f).symm, fun _ =>
    congrArg view (channel_modifyChannel_ne f hNe)⟩

theorem markCopying (hCopying : ∀ c on, view { c with copying := on } = view c)
    {source target : ChannelId} {on : Bool} :
    Keeps view id w (w.markCopying source target on) :=
  (modifyChannel (hCopying · on)).trans (modifyChannel (hCopying · on))

/-- An operation on another channel leaves this one alone. -/
theorem hold {f : Held σ → α × Held σ} (hNe : j ≠ id) : Keeps view id w (w.hold j f).2 :=
  ⟨Nat.le_of_eq (length_hold f).symm, fun _ => congrArg view (hold_channel_ne f hNe)⟩

/-- A single call to a driver does no more than put conditions off. -/
theorem drive (hDeferred : (∀ c raised, view { c with deferred := raised } = view c) ∨ j ≠ id)
    (driver : Driver σ) (call : DriverCall) :
    Keeps view id w (w.hold j (Held.drive driver call)).2 := by
  rcases hDeferred with hView | hNe
  · refine ⟨Nat.le_of_eq (length_hold _).symm, fun hExists => ?_⟩
    by_cases hId : j = id
    · subst hId
      rw [hold_channel_self _ hExists]
      exact hView _ _
    · rw [hold_channel_ne _ hId]
  · exact hold hNe

/-- A new channel is none of those that were there before. -/
theorem openChannel (s : Surroundings σ) (c : Channel) :
    Keeps view id w (w.openChannel s c).2 := by
  let made : World σ := { w with channels := w.channels ++ [c] }
  have hLength : (w.openChannel s c).2.channels.length = w.channels.length + 1 := by
    simp [World.openChannel]
  refine ⟨by rw [hLength]; exact Nat.le_succ _, fun hExists => ?_⟩
  have hOpened : (w.openChannel s c).2.channel id = made.channel id :=
    hold_channel_ne (Held.drive (s.driver w.channels.length) .attach) (Nat.ne_of_gt hExists)
  have hMade : made.channel id = w.channel id := by
    simp [made, channel, List.getElem?_append_left hExists]
  rw [hOpened, hMade]

end Keeps

end World

namespace Step

variable {σ α : Type}

/-- The step is one that may move bytes of a channel. -/
def Moves (id : ChannelId) : {α : Type} → Step σ α → Prop
  | _, .hold j _ | _, .raise j _ => j = id
  | _, _ => False

/-- The step takes the handlers of a channel away. -/
def Clears (id : ChannelId) : {α : Type} → Step σ α → Prop
  | _, .clearHandlers j => j = id
  | _, _ => False

/-- The calls that a step makes to the driver of a channel. -/
def calls (s : Surroundings σ) (id : ChannelId) : {α : Type} → Step σ α → World σ → List DriverEvent
  | _, .hold j op, w =>
    if j = id then ((w.held id).recording.perform (s.driver id).traced op).2.calls else []
  | _, .raise j raised, w =>
    if j = id then ((w.held id).recording.flushInBackground (s.driver id).traced raised).calls
    else []
  | _, .handle j d, w =>
    if j = id ∧ (w.channel id).isOpen then
      ((w.held id).recording.drive (s.driver id).traced (.handle d)).2.calls
    else []
  | _, .open _, w => if w.channels.length = id then [⟨.attach, ()⟩] else []
  | _, _, _ => []

/-- A channel is left as the operation leaves it with its driver recorded, except that nothing is
put off any more. -/
theorem channel_hold (s : Surroundings σ) (w : World σ) {id : ChannelId} (op : ChannelOp)
    (hExists : id < w.channels.length) :
    ((Step.hold id op).run s w).2.channel id =
      { ((w.held id).recording.perform (s.driver id).traced op).2.channel with
        deferred := .none } := by
  have hErase := Held.erase_perform (s.driver id) (w.held id).recording op
  rw [Held.erase_recording] at hErase
  have hChannel : ((Step.hold id op).run s w).2.channel id =
      { ((w.held id).perform (s.driver id) op).2.channel with deferred := .none } :=
    World.hold_channel_self _ hExists
  rw [hChannel, hErase]
  rfl

theorem channel_raise (s : Surroundings σ) (w : World σ) {id : ChannelId} (raised : Interest)
    (hExists : id < w.channels.length) :
    ((Step.raise id raised).run s w).2.channel id =
      ((w.held id).recording.flushInBackground (s.driver id).traced raised).channel := by
  have hErase := Held.erase_flushInBackground (s.driver id) (w.held id).recording raised
  rw [Held.erase_recording] at hErase
  have hChannel : ((Step.raise id raised).run s w).2.channel id =
      ((w.held id).flushInBackground (s.driver id) raised).channel := by
    apply (World.channel_congr (World.channels_graspCopies _)).trans
    exact World.hold_channel_self (fun h =>
      let h := h.flushInBackground (s.driver id) raised
      (h.channel.targets raised, h)) hExists
  rw [hChannel, hErase]
  rfl

/-- An operation that comes to an answer and leaves the channel as it is lets go of it, and that is
all. -/
theorem run_hold_idle {s : Surroundings σ} {w : World σ} {id : ChannelId} {op : ChannelOp}
    {answer : op.Answer} (hIdle : (w.held id).perform (s.driver id) op = (answer, w.held id)) :
    (Step.hold id op).run s w = ((answer, (w.channel id).deferred),
      w.modifyChannel id ({ · with deferred := .none })) := by
  have hRun := congrArg (fun r : op.Answer × Held σ =>
    (((r.1, r.2.channel.deferred),
      { w.modifyChannel id (fun _ => { r.2.channel with deferred := .none }) with
        loops := r.2.loops, env := r.2.env }) : (op.Answer × Interest) × World σ)) hIdle
  refine hRun.trans (congrArg (Prod.mk (answer, (w.channel id).deferred)) ?_)
  exact World.modifyChannel_channel w id ({ · with deferred := .none })

/-- What a step that holds a channel may come to. When it ends nothing is put off any more. -/
theorem hold_shows (s : Surroundings σ) (w : World σ) {id : ChannelId} (op : ChannelOp)
    (hExists : id < w.channels.length) :
    ∃ c', (w.channel id).Effect op ((Step.hold id op).calls s id w)
        ((Step.hold id op).run s w).1.1 c' ∧
      ((Step.hold id op).run s w).2.channel id = { c' with deferred := .none } := by
  obtain ⟨calls, hCalls, hEffect⟩ :=
    Held.perform_shows (s.driver id) (w.held id).recording op
  have hErase := Held.erase_perform (s.driver id) (w.held id).recording op
  rw [Held.erase_recording] at hErase
  refine ⟨_, ?_, channel_hold s w op hExists⟩
  have hMade : (Step.hold id op).calls s id w = calls := by
    simpa [Step.calls] using hCalls
  show (w.channel id).Effect op _ ((w.held id).perform (s.driver id) op).1 _
  rw [hMade, hErase]
  exact hEffect

/-- What conditions that come up may lead to. -/
theorem raise_shows (s : Surroundings σ) (w : World σ) {id : ChannelId} (raised : Interest)
    (hExists : id < w.channels.length) :
    (w.channel id).RaiseEffect ((Step.raise id raised).calls s id w)
        (((Step.raise id raised).run s w).2.channel id) ∧
      ((Step.raise id raised).run s w).1 =
        (((Step.raise id raised).run s w).2.channel id).targets raised := by
  obtain ⟨calls, hCalls, hEffect⟩ :=
    Held.flushInBackground_shows (s.driver id) (w.held id).recording raised
  have hErase := Held.erase_flushInBackground (s.driver id) (w.held id).recording raised
  rw [Held.erase_recording] at hErase
  have hMade : (Step.raise id raised).calls s id w = calls := by
    simpa [Step.calls] using hCalls
  rw [channel_raise s w raised hExists]
  constructor
  · rw [hMade]
    exact hEffect
  · show ((w.held id).flushInBackground (s.driver id) raised).channel.targets raised = _
    rw [hErase]
    rfl

/-- Who closes an open channel takes what is to be done on closing. -/
theorem takeCloseActions_of_open {s : Surroundings σ} {w : World σ} {id : ChannelId}
    (hOpen : (w.channel id).isOpen = true) :
    (Step.takeCloseActions id).run s w =
      (some (w.channel id).closeActions, w.modifyChannel id ({ · with closeActions := [] })) :=
  if_pos hOpen

theorem takeCloseActions_of_shut {s : Surroundings σ} {w : World σ} {id : ChannelId}
    (hShut : (w.channel id).isOpen = false) :
    (Step.takeCloseActions id).run s w = (none, w) :=
  if_neg (Bool.eq_false_iff.1 hShut)

/-- The step calls the driver of a channel but moves no bytes. -/
def Asks (id : ChannelId) : {α : Type} → Step σ α → Prop
  | _, .handle j _ => j = id
  | _, _ => False

/-- The step may change what is to be done when a channel is closed. -/
def Concludes (id : ChannelId) : {α : Type} → Step σ α → Prop
  | _, .takeCloseActions j | _, .addCloseAction j _ => j = id
  | _, _ => False

/-- The step may change how many references there are to a channel. -/
def Counts (id : ChannelId) : {α : Type} → Step σ α → Prop
  | _, .register _ j | _, .dropReference j => j = id
  | _, _ => False

/-- A step that moves none of its bytes keeps a view of a channel, as far as the view leaves out
what is noted about it or the step does not note it. -/
theorem keeps_view (s : Surroundings σ) (t : Step σ α) (w : World σ) {id : ChannelId} {β : Type}
    {view : Channel → β} (hCopying : ∀ c on, view { c with copying := on } = view c)
    (hMoves : ¬t.Moves id)
    (hActions : (∀ c actions, view { c with closeActions := actions } = view c) ∨ ¬t.Concludes id)
    (hHandlers : (∀ c handlers, view { c with handlers } = view c) ∨ ¬t.Clears id)
    (hDeferred : (∀ c raised, view { c with deferred := raised } = view c) ∨ ¬t.Asks id)
    (hReferences : (∀ c n, view { c with references := n } = view c) ∨ ¬t.Counts id) :
    World.Keeps view id w (t.run s w).2 := by
  cases t with
  | hold j op => exact .hold hMoves
  | raise j raised =>
    exact (World.Keeps.hold (f := fun h =>
      let h := h.flushInBackground (s.driver j) raised
      (h.channel.targets raised, h)) hMoves).trans (.of_channels (World.channels_graspCopies _))
  | handle j d =>
    rw [Step.run]
    split
    · exact .drive hDeferred _ _
    · exact .refl w
  | «open» c => exact .openChannel s c
  | takeCloseActions j =>
    rw [Step.run]
    split
    · rcases hActions with hView | hConcludes
      · exact .modifyChannel (hView · [])
      · exact .modifyOther hConcludes
    · exact .refl w
  | addCloseAction j action =>
    rcases hActions with hView | hConcludes
    · exact .modifyChannel fun c => hView c _
    · exact .modifyOther hConcludes
  | dropReference j =>
    rcases hReferences with hView | hCounts
    · exact .modifyChannel fun c => hView c _
    · exact .modifyOther hCounts
  | clearHandlers j =>
    rcases hHandlers with hView | hClears
    · exact .modifyChannel (hView · [])
    · exact .modifyOther hClears
  | register i j =>
    simp only [Step.run, World.register]
    split
    · exact .refl w
    · have hEntered : World.Keeps view id w (w.modifyInterp i (·.enter (w.channel j).name j)) :=
        .of_channels rfl
      rcases hReferences with hView | hCounts
      · exact hEntered.trans (.modifyChannel fun c => hView c _)
      · exact hEntered.trans (.modifyOther hCounts)
  | unregister i name =>
    simp only [Step.run, World.unregister]
    split
    · exact .refl w
    · exact .of_channels rfl
  | markDeleted i =>
    simp only [Step.run, World.markDeleted]
    split
    · exact .refl w
    · refine .of_channels (World.foldl_keeps World.channels ?_ _)
      exact fun _ _ => rfl
  | beginCopy source target limit? onDone? =>
    simp only [Step.run, World.beginCopy]
    split
    · exact .refl w
    · exact (World.Keeps.markCopying hCopying).trans (.of_channels rfl)
  | enterCopy k =>
    rw [Step.run]
    split
    · exact .of_channels rfl
    · exact .refl w
  | finishCopy k => exact (World.Keeps.markCopying hCopying).trans (.of_channels rfl)
  | _ => exact .of_channels rfl

/-- A step that moves none of its bytes keeps a view of a channel that leaves out what is noted
about it. -/
theorem keeps (s : Surroundings σ) (t : Step σ α) (w : World σ) {id : ChannelId} {β : Type}
    {view : Channel → β} (hView : Channel.Unnoted view) (hMoves : ¬t.Moves id)
    (hHandlers : (∀ c handlers, view { c with handlers } = view c) ∨ ¬t.Clears id) :
    World.Keeps view id w (t.run s w).2 :=
  t.keeps_view s w hView.copying hMoves (.inl hView.closeActions) hHandlers (.inl hView.deferred)
    (.inl hView.references)

/-- What is noted about a channel aside, it changes by transfers only. -/
theorem bare_run (s : Surroundings σ) (t : Step σ α) (w : World σ) {id : ChannelId}
    (hExists : id < w.channels.length) (hMoves : ¬t.Moves id) :
    ((t.run s w).2.channel id).bare = (w.channel id).bare :=
  (t.keeps s w Channel.unnoted_bare hMoves (.inl fun _ _ => rfl)).same hExists

/-- Without a transfer the calls to the driver are control calls. -/
theorem calls_control (s : Surroundings σ) (t : Step σ α) (w : World σ) {id : ChannelId}
    (hMoves : ¬t.Moves id) : Control (t.calls s id w) := by
  cases t with
  | hold j op =>
    rw [Step.calls, if_neg (show j ≠ id from hMoves)]
    exact control_nil
  | raise j raised =>
    rw [Step.calls, if_neg (show j ≠ id from hMoves)]
    exact control_nil
  | handle j d =>
    rw [Step.calls]
    split
    · exact control_single rfl rfl
    · exact control_nil
  | «open» c =>
    rw [Step.calls]
    split
    · exact control_single rfl rfl
    · exact control_nil
  | _ => exact control_nil

/-- No step takes channels away. -/
theorem length_run (s : Surroundings σ) (t : Step σ α) (w : World σ) :
    w.channels.length ≤ (t.run s w).2.channels.length := by
  obtain ⟨id, hMoves⟩ : ∃ id, ¬t.Moves id := by
    cases t with
    | hold j | raise j => exact ⟨j + 1, fun hEq => by cases hEq⟩
    | _ => exact ⟨0, fun hFalse => hFalse⟩
  exact (t.keeps s w Channel.unnoted_bare hMoves (.inl fun _ _ => rfl)).length

/-- No step opens a direction of a channel. -/
theorem isOpenFor_run (s : Surroundings σ) (t : Step σ α) {w : World σ} {id : ChannelId}
    {d : Direction} (hExists : id < w.channels.length)
    (hOpen : ((t.run s w).2.channel id).isOpenFor d = true) :
    (w.channel id).isOpenFor d = true := by
  by_cases hMoves : t.Moves id
  · cases t with
    | hold j op =>
      obtain rfl : j = id := hMoves
      obtain ⟨c', hEffect, hChannel⟩ := hold_shows s w op hExists
      rw [hChannel] at hOpen
      exact hEffect.isOpenFor hOpen
    | raise j raised =>
      obtain rfl : j = id := hMoves
      exact (raise_shows s w raised hExists).1.isOpenFor (d := d) ▸ hOpen
    | _ => exact hMoves.elim
  · have hRest := Channel.of_bare (t.bare_run s w hExists hMoves)
    rw [hRest] at hOpen
    exact hOpen

end Step

namespace Event

variable {σ : Type} {s : Surroundings σ}

/-- The calls to the driver of a channel in an event. -/
def calls (s : Surroundings σ) (id : ChannelId) : Event σ → List DriverEvent
  | made t w => t.calls s id w
  | called _ _ => []

/-- No channel is ever taken away. -/
theorem length_after (e : Event σ) : e.before.channels.length ≤ (e.after s).channels.length := by
  cases e with
  | made t w => exact t.length_run s w
  | called c w => exact Nat.le_refl _

/-- No direction of a channel is ever opened again. -/
theorem isOpenFor_after (e : Event σ) {id : ChannelId} {d : Direction}
    (hExists : id < e.before.channels.length)
    (hOpen : ((e.after s).channel id).isOpenFor d = true) :
    (e.before.channel id).isOpenFor d = true := by
  cases e with
  | made t w => exact t.isOpenFor_run s hExists hOpen
  | called c w => exact hOpen

end Event

theorem Surroundings.Leads.length {σ : Type} {s : Surroundings σ} {w w' : World σ}
    {events : List (Event σ)} (history : s.Leads w events w') :
    w.channels.length ≤ w'.channels.length := by
  induction history with
  | refl => exact Nat.le_refl _
  | snoc e prior ih => exact Nat.le_trans ih e.length_after

end EventChannel
