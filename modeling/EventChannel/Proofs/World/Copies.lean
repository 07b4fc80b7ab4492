import EventChannel.Proofs.Channel.Ledger
import EventChannel.Proofs.Program.Parts
import EventChannel.Proofs.World.Apart

/-! What a step does to the part that channels have in copies: the records of the copies, the marks
of the channels that are taken, and the handlers by which copies go on. Most steps do nothing to
it. -/

namespace EventChannel

variable {σ α : Type} {s : Surroundings σ} {w : World σ} {j id : ChannelId}

/-- The handlers of a channel, and the number of the last one that was made. -/
def Channel.roster (c : Channel) : List Handler × HandlerId := (c.handlers, c.lastHandler)

/-- Whether a channel is taken by a copy, and its handlers. -/
def Channel.stake (c : Channel) : Bool × List Handler × HandlerId := (c.copying, c.roster)

theorem persists_stake (driver : Driver σ) (stake : Bool × List Handler × HandlerId) :
    Held.Persists driver fun h => h.channel.stake = stake where
  drive _ h := h
  update := by
    intro h f hLedger hStake
    have hKept : (f h.channel).stake = h.channel.stake :=
      congrArg (fun l => l.2.2.2.2) (hLedger h.channel)
    exact hKept.trans hStake

theorem persists_copying (driver : Driver σ) (copying : Bool) :
    Held.Persists driver fun h => h.channel.copying = copying where
  drive _ h := h
  update := by
    intro h f hLedger hCopying
    have hKept : (f h.channel).copying = h.channel.copying :=
      congrArg (fun l => l.2.2.2.2.1) (hLedger h.channel)
    exact hKept.trans hCopying

theorem Channel.copying_of_stake {c c' : Channel} (hStake : c'.stake = c.stake) :
    c'.copying = c.copying :=
  congrArg Prod.fst hStake

theorem Channel.roster_of_stake {c c' : Channel} (hStake : c'.stake = c.stake) :
    c'.roster = c.roster :=
  congrArg Prod.snd hStake

theorem Channel.handlers_of_stake {c c' : Channel} (hStake : c'.stake = c.stake) :
    c'.handlers = c.handlers :=
  congrArg Prod.fst (roster_of_stake hStake)

/-- What the channel that is held keeps, every channel keeps. -/
theorem World.view_hold {β γ : Type} {view : Channel → γ} {f : Held σ → β × Held σ}
    (hView : view (f (w.held j)).2.channel = view (w.channel j)) :
    view ((w.hold j f).2.channel id) = view (w.channel id) := by
  by_cases hId : j = id
  · subst hId
    by_cases hExists : j < w.channels.length
    · rw [hold_channel_self f hExists, hView]
    · have hAbsent := Nat.le_of_not_lt hExists
      rw [channel, channel, List.getElem?_eq_none hAbsent, List.getElem?_eq_none]
      rwa [length_hold]
  · rw [hold_channel_ne f hId]

/-- So it is when conditions come up on it. -/
theorem Step.view_raise {γ : Type} {view : Channel → γ} {raised : Interest}
    (hView : view ((w.held j).flushInBackground (s.driver j) raised).channel =
      view (w.channel j)) :
    view (((Step.raise j raised).run s w).2.channel id) = view (w.channel id) := by
  refine (congrArg view (World.channel_congr (World.channels_graspCopies _))).trans ?_
  exact World.view_hold (f := fun h =>
    let h := h.flushInBackground (s.driver j) raised
    (h.channel.targets raised, h)) hView

/-- What has nothing to do with the marks, taking and giving free leave alone. -/
theorem World.view_markCopying {β : Type} {view : Channel → β}
    (hView : ∀ c on, view { c with copying := on } = view c) {source target : ChannelId}
    (on : Bool) :
    view ((w.markCopying source target on).channel j) = view (w.channel j) := by
  rw [markCopying]
  exact (view_modifyChannel fun c => hView c on).trans (view_modifyChannel fun c => hView c on)

namespace Step

/-- The step makes or changes the record of a copy. -/
def Records : {α : Type} → Step σ α → Prop
  | _, .beginCopy .. | _, .fixChunk _ | _, .enterCopy _ | _, .restCopy _ | _, .countCopied ..
  | _, .setCopyHandlers .. | _, .endCopying _ | _, .finishCopy _ => True
  | _, _ => False

/-- The step makes a channel, changes which handlers a channel has, or takes channels for a copy or
gives them free. -/
def Restakes : {α : Type} → Step σ α → Prop
  | _, .hold _ op => op.Enlists
  | _, .clearHandlers _ | _, .open _ | _, .beginCopy .. | _, .finishCopy _ => True
  | _, _ => False

/-- No other step changes the records. -/
theorem copies_same (t : Step σ α) (hNot : ¬t.Records) : (t.run s w).2.copies = w.copies := by
  cases t with
  | beginCopy | fixChunk | enterCopy | restCopy => exact absurd trivial hNot
  | countCopied | setCopyHandlers | endCopying | finishCopy => exact absurd trivial hNot
  | raise j raised => exact World.copies_graspCopies _
  | handle j d =>
    rw [Step.run]
    split <;> rfl
  | takeCloseActions j =>
    rw [Step.run]
    split <;> rfl
  | register i j =>
    simp only [Step.run, World.register]
    split <;> rfl
  | unregister i name =>
    simp only [Step.run, World.unregister]
    split <;> rfl
  | markDeleted i =>
    simp only [Step.run, World.markDeleted]
    split
    · rfl
    · refine (World.foldl_keeps World.copies ?_ _).trans rfl
      exact fun _ _ => rfl
  | _ => rfl

/-- No other step changes who is taken, or the handlers. -/
theorem stake_same (t : Step σ α) (hNot : ¬t.Restakes) :
    ((t.run s w).2.channel id).stake = (w.channel id).stake := by
  have hSame {w' : World σ} (hChannels : w'.channels = w.channels) :
      (w'.channel id).stake = (w.channel id).stake :=
    congrArg Channel.stake (World.channel_congr hChannels)
  cases t with
  | clearHandlers | «open» | beginCopy | finishCopy => exact absurd trivial hNot
  | hold j op =>
    refine World.view_hold ?_
    exact (persists_stake (s.driver j) _).perform (h := w.held j) rfl op fun hIs => absurd hIs hNot
  | raise j raised =>
    refine view_raise ?_
    exact (persists_stake (s.driver j) _).flushInBackground (h := w.held j) rfl raised
  | handle j d =>
    rw [Step.run]
    split
    · exact World.view_hold rfl
    · rfl
  | takeCloseActions j =>
    rw [Step.run]
    split
    · exact World.view_modifyChannel fun _ => rfl
    · rfl
  | addCloseAction | dropReference => exact World.view_modifyChannel fun _ => rfl
  | register i j =>
    simp only [Step.run, World.register]
    split
    · rfl
    · exact World.view_modifyChannel fun _ => rfl
  | unregister i name =>
    refine hSame ?_
    simp only [Step.run, World.unregister]
    split <;> rfl
  | markDeleted i =>
    refine hSame ?_
    simp only [Step.run, World.markDeleted]
    split
    · rfl
    · refine (World.foldl_keeps World.channels ?_ _).trans rfl
      exact fun _ _ => rfl
  | enterCopy k =>
    refine hSame ?_
    simp only [Step.run]
    split <;> rfl
  | _ => exact hSame rfl

/-- The step makes a channel, or takes channels for a copy or gives them free. -/
def Retakes : {α : Type} → Step σ α → Prop
  | _, .open _ | _, .beginCopy .. | _, .finishCopy _ => True
  | _, _ => False

/-- No other step changes who is taken. -/
theorem copying_same (t : Step σ α) (hNot : ¬t.Retakes) :
    ((t.run s w).2.channel id).copying = (w.channel id).copying := by
  by_cases hRestakes : t.Restakes
  · cases t with
    | «open» | beginCopy | finishCopy => exact absurd trivial hNot
    | clearHandlers j => exact World.view_modifyChannel fun _ => rfl
    | hold j op =>
      refine World.view_hold ?_
      exact (persists_copying (s.driver j) _).perform (h := w.held j) rfl op fun _ _ _ => rfl
    | _ => cases hRestakes
  · exact Channel.copying_of_stake (t.stake_same hRestakes)

/-- A handler is made as the last one of its channel. -/
theorem roster_createHandler (mask : Interest) (callback : Callback)
    (hExists : j < w.channels.length) :
    (((Step.hold j (.createHandler mask callback)).run s w).2.channel j).roster =
      ((w.channel j).handlers ++ [⟨(w.channel j).lastHandler + 1, mask, callback⟩],
        (w.channel j).lastHandler + 1) := by
  refine (congrArg Channel.roster (World.hold_channel_self _ hExists)).trans ?_
  exact Channel.roster_of_stake ((persists_stake (s.driver j) _).applyWatch rfl)

theorem roster_deleteHandler (handler : HandlerId) :
    (((Step.hold j (.deleteHandler handler)).run s w).2.channel j).roster =
      ((w.channel j).handlers.filter (·.id != handler), (w.channel j).lastHandler) := by
  by_cases hExists : j < w.channels.length
  · refine (congrArg Channel.roster (World.hold_channel_self _ hExists)).trans ?_
    exact Channel.roster_of_stake ((persists_stake (s.driver j) _).applyWatch rfl)
  · have hAbsent := Nat.le_of_not_lt hExists
    rw [World.channel, World.channel, List.getElem?_eq_none hAbsent, List.getElem?_eq_none]
    · rfl
    · exact Nat.le_trans (Nat.le_of_eq (World.length_hold _)) hAbsent

theorem handlers_createHandler (mask : Interest) (callback : Callback)
    (hExists : j < w.channels.length) :
    (((Step.hold j (.createHandler mask callback)).run s w).2.channel j).handlers =
      (w.channel j).handlers ++ [⟨(w.channel j).lastHandler + 1, mask, callback⟩] :=
  congrArg Prod.fst (roster_createHandler mask callback hExists)

theorem handlers_deleteHandler (handler : HandlerId) :
    (((Step.hold j (.deleteHandler handler)).run s w).2.channel j).handlers =
      (w.channel j).handlers.filter (·.id != handler) :=
  congrArg Prod.fst (roster_deleteHandler handler)

/-- Other channels keep their handlers. -/
theorem handlers_beside (op : ChannelOp) (hNe : j ≠ id) :
    (((Step.hold j op).run s w).2.channel id).handlers = (w.channel id).handlers :=
  congrArg Channel.handlers (World.hold_channel_ne _ hNe)

theorem mem_createHandler {mask : Interest} {callback : Callback} {h : Handler}
    (hMem : h ∈ (((Step.hold j (.createHandler mask callback)).run s w).2.channel id).handlers) :
    h ∈ (w.channel id).handlers ∨
      j = id ∧ h = ⟨(w.channel j).lastHandler + 1, mask, callback⟩ := by
  by_cases hNe : j = id
  · subst hNe
    by_cases hExists : j < w.channels.length
    · rw [handlers_createHandler mask callback hExists] at hMem
      simpa using hMem
    · rw [World.channel, List.getElem?_eq_none] at hMem
      · cases hMem
      · exact Nat.le_trans (Nat.le_of_eq (World.length_hold _)) (Nat.le_of_not_lt hExists)
  · rw [handlers_beside _ hNe] at hMem
    exact .inl hMem

theorem mem_deleteHandler {handler : HandlerId} {h : Handler} :
    h ∈ (((Step.hold j (.deleteHandler handler)).run s w).2.channel id).handlers ↔
      h ∈ (w.channel id).handlers ∧ ¬(j = id ∧ h.id = handler) := by
  by_cases hNe : j = id
  · subst hNe
    rw [handlers_deleteHandler]
    simp
  · rw [handlers_beside _ hNe]
    simp [hNe]

/-- What a channel that is opened has in common with one that there is not, all channels keep. -/
theorem view_open {β : Type} {view : Channel → β} {c : Channel}
    (hDeferred : ∀ c raised, view { c with deferred := raised } = view c)
    (hNew : view c = view .absent) (j : ChannelId) :
    view (((Step.open c).run s w).2.channel j) = view (w.channel j) := by
  have hKeeps : World.Keeps view j w ((Step.open c).run s w).2 := .openChannel s c
  have hAbsent (w : World σ) (hBeyond : w.channels.length ≤ j) :
      view (w.channel j) = view .absent := by
    rw [World.channel, List.getElem?_eq_none hBeyond]
    rfl
  have hLength : ((Step.open c).run s w).2.channels.length = w.channels.length + 1 := by
    simp [Step.run, World.openChannel]
  rcases Nat.lt_trichotomy j w.channels.length with hOld | rfl | hBeyond
  · exact hKeeps.same hOld
  · obtain ⟨deferred, hMade⟩ := World.channel_openChannel s w c
    rw [hAbsent w (Nat.le_refl _)]
    exact (congrArg view hMade).trans ((hDeferred c deferred).trans hNew)
  · rw [hAbsent w (Nat.le_of_lt hBeyond), hAbsent _ (hLength ▸ Nat.succ_le_of_lt hBeyond)]

/-- A step that belongs neither to a copy nor to a pass makes no handler by which a copy goes on. -/
theorem mem_of_basic {t : Step σ α} (basic : t.Basic ∨ t.Dispatches) {h : Handler} {k : CopyId}
    (hMem : h ∈ ((t.run s w).2.channel id).handlers) (hCopy : h.callback = .copy k) :
    h ∈ (w.channel id).handlers := by
  by_cases hRestakes : t.Restakes
  · cases t with
    | hold j op =>
      cases op with
      | createHandler mask callback =>
        rcases mem_createHandler hMem with hOld | ⟨-, rfl⟩
        · exact hOld
        · obtain rfl : callback = .copy k := hCopy
          rcases basic with (hBasic | hBasic) | hBasic <;> cases hBasic
      | deleteHandler handler => exact (mem_deleteHandler.1 hMem).1
      | _ => cases hRestakes
    | clearHandlers j =>
      by_cases hIs : j = id
      · subst hIs
        by_cases hExists : j < w.channels.length
        · rw [Step.run, World.channel_modifyChannel_self _ hExists] at hMem
          cases hMem
        · rw [World.channel, List.getElem?_eq_none] at hMem
          · cases hMem
          · exact Nat.le_trans (Nat.le_of_eq (World.length_modifyChannel _))
              (Nat.le_of_not_lt hExists)
      · rwa [Step.run, World.channel_modifyChannel_ne _ hIs] at hMem
    | «open» c =>
      rcases basic with ⟨-, hNone⟩ | hBasic
      · rwa [view_open (fun _ _ => rfl) hNone] at hMem
      · cases hBasic
    | beginCopy | finishCopy => rcases basic with hBasic | hBasic <;> cases hBasic
    | _ => cases hRestakes
  · rwa [Channel.handlers_of_stake (t.stake_same hRestakes)] at hMem

end Step

end EventChannel
