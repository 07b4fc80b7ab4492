import EventChannel.Proofs.World.Copies
import EventChannel.Proofs.World.Watch

/-! A handler gets a number that no handler of its channel has had before. From then on it is in the
table, until it is deleted by that number or the table is cleared. -/

namespace EventChannel

variable {σ α : Type} {s : Surroundings σ} {w w' : World σ} {j : ChannelId}

/-- The numbers of the handlers tell them apart and have all been counted. -/
structure Channel.Numbered (c : Channel) : Prop where
  once : (c.handlers.map (·.id)).Nodup
  counted : ∀ h ∈ c.handlers, h.id ≤ c.lastHandler

/-- The numbers of the handlers stand in such an order and have all been counted. -/
structure Channel.Listed (R : HandlerId → HandlerId → Prop) (c : Channel) : Prop where
  order : (c.handlers.map (·.id)).Pairwise R
  counted : ∀ h ∈ c.handlers, h.id ≤ c.lastHandler

/-- The handlers stand in the order in which they were made. -/
def Channel.Ordered (c : Channel) : Prop := c.Listed (· < ·)

/-- The number was given to a handler that is not there any more. -/
structure Channel.Spent (id : HandlerId) (c : Channel) : Prop where
  counted : id ≤ c.lastHandler
  gone : ∀ h ∈ c.handlers, h.id ≠ id

namespace Channel

variable {R : HandlerId → HandlerId → Prop} {c c' : Channel}

theorem handlers_of_roster {handlers : List Handler} {last : HandlerId}
    (hRoster : c.roster = (handlers, last)) : c.handlers = handlers :=
  congrArg Prod.fst hRoster

theorem lastHandler_of_roster {handlers : List Handler} {last : HandlerId}
    (hRoster : c.roster = (handlers, last)) : c.lastHandler = last :=
  congrArg Prod.snd hRoster

/-- To tell handlers apart is to list them in some order or other. -/
theorem numbered_iff : c.Numbered ↔ c.Listed (· ≠ ·) :=
  ⟨fun numbered => ⟨numbered.once, numbered.counted⟩, fun listed => ⟨listed.order, listed.counted⟩⟩

theorem listed_of_none (hNone : c.handlers = []) : c.Listed R where
  order := by rw [hNone]; exact .nil
  counted h hMem := by rw [hNone] at hMem; cases hMem

theorem numbered_of_none (hNone : c.handlers = []) : c.Numbered :=
  numbered_iff.2 (listed_of_none hNone)

/-- Handlers that are left out leave the others in order. -/
theorem Listed.sublist (listed : c.Listed R) {handlers : List Handler}
    (hSublist : handlers.Sublist c.handlers) (hRoster : c'.roster = (handlers, c.lastHandler)) :
    c'.Listed R := by
  constructor
  · rw [handlers_of_roster hRoster]
    exact listed.order.sublist (hSublist.map _)
  · rw [handlers_of_roster hRoster, lastHandler_of_roster hRoster]
    exact fun h hMem => listed.counted h (hSublist.subset hMem)

/-- The next number is a new one. -/
theorem Listed.added (listed : c.Listed R) (hNew : ∀ a b, a < b → R a b) {mask : Interest}
    {callback : Callback}
    (hRoster : c'.roster =
      (c.handlers ++ [⟨c.lastHandler + 1, mask, callback⟩], c.lastHandler + 1)) :
    c'.Listed R := by
  constructor
  · rw [handlers_of_roster hRoster, List.map_append, List.map_singleton]
    refine List.pairwise_append.2 ⟨listed.order, List.pairwise_singleton _ _, ?_⟩
    intro id hOld id' hLast
    obtain ⟨h, hMem, rfl⟩ := List.mem_map.1 hOld
    rw [List.mem_singleton.1 hLast]
    exact hNew _ _ (Nat.lt_succ_of_le (listed.counted h hMem))
  · rw [handlers_of_roster hRoster, lastHandler_of_roster hRoster]
    intro h hMem
    rcases List.mem_append.1 hMem with hOld | hLast
    · exact Nat.le_succ_of_le (listed.counted h hOld)
    · exact Nat.le_of_eq (congrArg Handler.id (List.mem_singleton.1 hLast))

/-- Handlers that are alike in all are one and the same, and there is one of them. -/
theorem Numbered.filter_eq (numbered : c.Numbered) {h : Handler} (hMem : h ∈ c.handlers)
    {p : Handler → Bool} (hIs : p h = true) (hOnly : ∀ h' ∈ c.handlers, p h' = true → h' = h) :
    c.handlers.filter p = [h] := by
  have hHandlers : c.handlers.Nodup :=
    List.Pairwise.of_map _ (fun _ _ hNe hEq => hNe (congrArg _ hEq)) numbered.once
  have hFiltered : ∀ h' ∈ c.handlers.filter p, h' = h := fun h' hKept =>
    hOnly h' (List.mem_filter.1 hKept).1 (List.mem_filter.1 hKept).2
  have hThere : h ∈ c.handlers.filter p := List.mem_filter.2 ⟨hMem, hIs⟩
  have hNodup := hHandlers.filter p
  cases hList : c.handlers.filter p with
  | nil =>
    rw [hList] at hThere
    cases hThere
  | cons first rest =>
    rw [hList] at hFiltered hNodup
    obtain ⟨hFirst, hRest⟩ := List.forall_mem_cons.1 hFiltered
    cases rest with
    | nil => rw [hFirst]
    | cons second rest =>
      have hSecond := hRest second List.mem_cons_self
      rw [hFirst, hSecond] at hNodup
      exact absurd List.mem_cons_self (List.nodup_cons.1 hNodup).1

end Channel

/-- A channel that there is not has no handlers. -/
theorem World.handlers_absent (hAbsent : w.channels.length ≤ j) :
    (w.channel j).handlers = [] := by
  rw [World.channel, List.getElem?_eq_none hAbsent]
  rfl

/-- A channel that has a handler is there. -/
theorem World.exists_of_handler {h : Handler} (hMem : h ∈ (w.channel j).handlers) :
    j < w.channels.length := by
  refine Nat.lt_of_not_le fun hAbsent => ?_
  rw [handlers_absent hAbsent] at hMem
  cases hMem

namespace Step

/-- The step makes a channel, or changes which handlers a channel has. -/
def Enlists : {α : Type} → Step σ α → Prop
  | _, .hold _ op => op.Enlists
  | _, .clearHandlers _ | _, .open _ => True
  | _, _ => False

/-- If the step makes a channel, that has no handlers. -/
def OpensBare : {α : Type} → Step σ α → Prop
  | _, .open c => c.handlers = []
  | _, _ => True

/-- The step deletes a handler of a channel by its number. -/
def Strikes (j : ChannelId) (handler : HandlerId) : {α : Type} → Step σ α → Prop
  | _, .hold i (.deleteHandler id) => i = j ∧ id = handler
  | _, _ => False

theorem roster_same (t : Step σ α) (hNot : ¬t.Enlists) :
    ((t.run s w).2.channel j).roster = (w.channel j).roster := by
  by_cases hRestakes : t.Restakes
  · cases t with
    | beginCopy source target limit? onDone? =>
      simp only [Step.run, World.beginCopy]
      split
      · rfl
      · exact World.view_markCopying (fun _ _ => rfl) true
    | finishCopy k =>
      show ((w.markCopying _ _ false).channel j).roster = (w.channel j).roster
      exact World.view_markCopying (fun _ _ => rfl) false
    | hold | clearHandlers | «open» => exact absurd hRestakes hNot
    | _ => cases hRestakes
  · exact Channel.roster_of_stake (t.stake_same hRestakes)

/-- What becomes of the handlers of a channel in a step: nothing, or another one is made, or one is
deleted by its number, or the table is cleared. -/
theorem roster_run (t : Step σ α) (hExists : j < w.channels.length) :
    ((t.run s w).2.channel j).roster = (w.channel j).roster ∨
      (∃ mask callback, ((t.run s w).2.channel j).roster =
        ((w.channel j).handlers ++ [⟨(w.channel j).lastHandler + 1, mask, callback⟩],
          (w.channel j).lastHandler + 1)) ∨
      (∃ id, t.Strikes j id ∧ ((t.run s w).2.channel j).roster =
        ((w.channel j).handlers.filter (·.id != id), (w.channel j).lastHandler)) ∨
      (t.Clears j ∧ ((t.run s w).2.channel j).roster = ([], (w.channel j).lastHandler)) := by
  by_cases hEnlists : t.Enlists
  · cases t with
    | hold i op =>
      by_cases hIs : i = j
      · subst hIs
        cases op with
        | createHandler mask callback =>
          exact .inr (.inl ⟨mask, callback, roster_createHandler mask callback hExists⟩)
        | deleteHandler handler =>
          exact .inr (.inr (.inl ⟨handler, ⟨rfl, rfl⟩, roster_deleteHandler handler⟩))
        | _ => cases hEnlists
      · exact .inl (congrArg Channel.roster (World.hold_channel_ne _ hIs))
    | clearHandlers i =>
      by_cases hIs : i = j
      · subst hIs
        refine .inr (.inr (.inr ⟨rfl, ?_⟩))
        exact congrArg Channel.roster (World.channel_modifyChannel_self _ hExists)
      · exact .inl (congrArg Channel.roster (World.channel_modifyChannel_ne _ hIs))
    | «open» c =>
      have hKeeps : World.Keeps Channel.roster j w ((Step.open c).run s w).2 := .openChannel s c
      exact .inl (hKeeps.same hExists)
    | _ => cases hEnlists
  · exact .inl (t.roster_same hEnlists)

/-- A channel gets no handlers by being made. -/
theorem handlers_of_absent (t : Step σ α) (bare : t.OpensBare) (hAbsent : w.channels.length ≤ j) :
    ((t.run s w).2.channel j).handlers = [] := by
  by_cases hEnlists : t.Enlists
  · cases t with
    | hold i op =>
      exact World.handlers_absent (Nat.le_trans (Nat.le_of_eq (World.length_hold _)) hAbsent)
    | clearHandlers i =>
      refine World.handlers_absent ?_
      exact Nat.le_trans (Nat.le_of_eq (World.length_modifyChannel _)) hAbsent
    | «open» c =>
      have hSame : (((Step.open c).run s w).2.channel j).handlers = (w.channel j).handlers :=
        view_open (fun _ _ => rfl) bare j
      exact hSame.trans (World.handlers_absent hAbsent)
    | _ => cases hEnlists
  · exact (congrArg Prod.fst (t.roster_same hEnlists)).trans (World.handlers_absent hAbsent)

/-- Every step keeps the handlers in order. -/
theorem listed_run {R : HandlerId → HandlerId → Prop} (hNew : ∀ a b, a < b → R a b)
    (t : Step σ α) (bare : t.OpensBare) (listed : (w.channel j).Listed R) :
    ((t.run s w).2.channel j).Listed R := by
  rcases Nat.lt_or_ge j w.channels.length with hExists | hAbsent
  · rcases t.roster_run (s := s) hExists with
      hSame | ⟨mask, callback, hMade⟩ | ⟨id, -, hStruck⟩ | ⟨-, hCleared⟩
    · exact listed.sublist (List.Sublist.refl _) hSame
    · exact listed.added hNew hMade
    · exact listed.sublist List.filter_sublist hStruck
    · exact listed.sublist (List.nil_sublist _) hCleared
  · exact Channel.listed_of_none (t.handlers_of_absent bare hAbsent)

/-- A handler stays in its table, unless it is deleted or the table is cleared. -/
theorem mem_run (t : Step σ α) {h : Handler} (hMem : h ∈ (w.channel j).handlers)
    (hClears : ¬t.Clears j) (hStrikes : ¬t.Strikes j h.id) :
    h ∈ ((t.run s w).2.channel j).handlers := by
  rcases t.roster_run (s := s) (World.exists_of_handler hMem) with
    hSame | ⟨mask, callback, hMade⟩ | ⟨id, hStruck, hLeft⟩ | ⟨hCleared, -⟩
  · rwa [Channel.handlers_of_roster hSame]
  · rw [Channel.handlers_of_roster hMade]
    exact List.mem_append_left _ hMem
  · rw [Channel.handlers_of_roster hLeft]
    refine List.mem_filter.2 ⟨hMem, bne_iff_ne.2 ?_⟩
    rintro rfl
    exact hStrikes hStruck
  · exact absurd hCleared hClears

/-- Numbers are counted upwards only. -/
theorem lastHandler_run (t : Step σ α) (hExists : j < w.channels.length) :
    (w.channel j).lastHandler ≤ ((t.run s w).2.channel j).lastHandler := by
  rcases t.roster_run (s := s) hExists with
    hSame | ⟨mask, callback, hMade⟩ | ⟨id, -, hStruck⟩ | ⟨-, hCleared⟩
  · exact Nat.le_of_eq (Channel.lastHandler_of_roster hSame).symm
  · rw [Channel.lastHandler_of_roster hMade]
    exact Nat.le_succ _
  · exact Nat.le_of_eq (Channel.lastHandler_of_roster hStruck).symm
  · exact Nat.le_of_eq (Channel.lastHandler_of_roster hCleared).symm

/-- A number that was given is not given again. -/
theorem spent_run (t : Step σ α) {id : HandlerId} (hExists : j < w.channels.length)
    (spent : (w.channel j).Spent id) : ((t.run s w).2.channel j).Spent id := by
  refine ⟨Nat.le_trans spent.counted (t.lastHandler_run hExists), ?_⟩
  rcases t.roster_run (s := s) hExists with
    hSame | ⟨mask, callback, hMade⟩ | ⟨id', -, hStruck⟩ | ⟨-, hCleared⟩
  · rw [Channel.handlers_of_roster hSame]
    exact spent.gone
  · rw [Channel.handlers_of_roster hMade]
    refine List.forall_mem_append.2 ⟨spent.gone, List.forall_mem_singleton.2 ?_⟩
    exact Nat.ne_of_gt (Nat.lt_succ_of_le spent.counted)
  · rw [Channel.handlers_of_roster hStruck]
    exact fun h hMem => spent.gone h (List.mem_filter.1 hMem).1
  · rw [Channel.handlers_of_roster hCleared]
    exact nofun

/-- A handler that is deleted, or cleared away, is gone. -/
theorem spent_of_removal (t : Step σ α) {id : HandlerId} (hExists : j < w.channels.length)
    (hCounted : id ≤ (w.channel j).lastHandler) (hRemoves : t.Clears j ∨ t.Strikes j id) :
    ((t.run s w).2.channel j).Spent id := by
  refine ⟨Nat.le_trans hCounted (t.lastHandler_run hExists), ?_⟩
  rcases hRemoves with hClears | hStrikes
  · cases t with
    | clearHandlers i =>
      obtain rfl : i = j := hClears
      rw [Step.run, World.channel_modifyChannel_self _ hExists]
      exact List.forall_mem_nil _
    | _ => cases hClears
  · cases t with
    | hold i op =>
      cases op with
      | deleteHandler id' =>
        obtain ⟨rfl, rfl⟩ := hStrikes
        exact fun h hMem hIs => (mem_deleteHandler.1 hMem).2 ⟨rfl, hIs⟩
      | _ => cases hStrikes
    | _ => cases hStrikes

end Step

namespace Event

/-- If the event makes a channel, that has no handlers. -/
def OpensBare : Event σ → Prop
  | made t _ => t.OpensBare
  | called _ _ => True

/-- In the event a handler of a channel is deleted by its number. -/
def Strikes (j : ChannelId) (handler : HandlerId) : Event σ → Prop
  | made t _ => t.Strikes j handler
  | called _ _ => False

theorem of_strikes {e : Event σ} {handler : HandlerId} (strikes : e.Strikes j handler) :
    ∃ v, e = .made (.hold j (.deleteHandler handler)) v := by
  cases e with
  | called c v => cases strikes
  | made t v =>
    cases t with
    | hold i op =>
      cases op with
      | deleteHandler id =>
        obtain ⟨rfl, rfl⟩ := strikes
        exact ⟨v, rfl⟩
      | _ => cases strikes
    | _ => cases strikes

end Event

namespace Surroundings.Leads

variable {events : List (Event σ)}

theorem listed {R : HandlerId → HandlerId → Prop} (history : s.Leads w events w')
    (hNew : ∀ a b, a < b → R a b) (bare : ∀ e ∈ events, e.OpensBare)
    (listed : (w.channel j).Listed R) : (w'.channel j).Listed R := by
  induction history with
  | refl => exact listed
  | snoc e prior ih =>
    obtain ⟨hPrior, hLast⟩ := List.forall_mem_append.1 bare
    have hBefore := ih hPrior
    cases e with
    | made t v => exact t.listed_run hNew (hLast _ (List.mem_singleton_self _)) hBefore
    | called c v => exact hBefore

theorem numbered (history : s.Leads w events w') (bare : ∀ e ∈ events, e.OpensBare)
    (numbered : (w.channel j).Numbered) : (w'.channel j).Numbered :=
  Channel.numbered_iff.2
    (history.listed (fun _ _ => Nat.ne_of_lt) bare (Channel.numbered_iff.1 numbered))

theorem ordered (history : s.Leads w events w') (bare : ∀ e ∈ events, e.OpensBare)
    (ordered : (w.channel j).Ordered) : (w'.channel j).Ordered :=
  history.listed (fun _ _ => id) bare ordered

theorem lastHandler (history : s.Leads w events w') (hExists : j < w.channels.length) :
    (w.channel j).lastHandler ≤ (w'.channel j).lastHandler := by
  induction history with
  | refl => exact Nat.le_refl _
  | snoc e prior ih =>
    cases e with
    | made t v =>
      exact Nat.le_trans ih (t.lastHandler_run (Nat.lt_of_lt_of_le hExists prior.length))
    | called c v => exact ih

theorem spent (history : s.Leads w events w') {id : HandlerId} (hExists : j < w.channels.length)
    (spent : (w.channel j).Spent id) : (w'.channel j).Spent id := by
  induction history with
  | refl => exact spent
  | snoc e prior ih =>
    cases e with
    | made t v => exact t.spent_run (Nat.lt_of_lt_of_le hExists prior.length) ih
    | called c v => exact ih

/-- A handler is still in its table when it has not been deleted from there and the table not been
cleared. -/
theorem mem_handlers (history : s.Leads w events w') {h : Handler}
    (hMem : h ∈ (w.channel j).handlers)
    (hKept : ∀ e ∈ events, h ∈ (e.before.channel j).handlers →
      ¬e.Clears j ∧ ¬e.Strikes j h.id) : h ∈ (w'.channel j).handlers := by
  induction history with
  | refl => exact hMem
  | snoc e prior ih =>
    obtain ⟨hPrior, hLast⟩ := List.forall_mem_append.1 hKept
    have hBefore := ih hPrior
    obtain ⟨hClears, hStrikes⟩ := hLast e (List.mem_singleton_self _) hBefore
    cases e with
    | made t v => exact t.mem_run hBefore hClears hStrikes
    | called c v => exact hBefore

/-- A handler that is deleted, or cleared away, does not come back. -/
theorem spent_of_removal (history : s.Leads w events w') {id : HandlerId}
    (hExists : j < w.channels.length) (hCounted : id ≤ (w.channel j).lastHandler) {e : Event σ}
    (hMem : e ∈ events) (hRemoves : e.Clears j ∨ e.Strikes j id) : (w'.channel j).Spent id := by
  obtain ⟨before, after, rfl⟩ := List.append_of_mem hMem
  have prior := history.up_to
  have hThere := Nat.lt_of_lt_of_le hExists prior.length
  have hBefore := Nat.le_trans hCounted (prior.lastHandler hExists)
  cases e with
  | made t v =>
    have spent := t.spent_of_removal (s := s) hThere hBefore hRemoves
    exact history.beyond.spent (Nat.lt_of_lt_of_le hThere (t.length_run s v)) spent
  | called c v => rcases hRemoves with hClears | hStrikes <;> contradiction

/-- No handler of the number of one that is there has been deleted, or cleared away. -/
theorem ne_of_removal {R : HandlerId → HandlerId → Prop} (history : s.Leads w events w')
    (hNew : ∀ a b, a < b → R a b) (bare : ∀ e ∈ events, e.OpensBare)
    (listed : (w.channel j).Listed R) {h : Handler} (hThere : h ∈ (w'.channel j).handlers)
    {e : Event σ} (hEvent : e ∈ events) (hRemoves : e.Clears j ∨ e.Strikes j h.id) :
    ∀ h' ∈ (e.before.channel j).handlers, h'.id ≠ h.id := by
  intro h' hBefore hIs
  obtain ⟨before, after, rfl⟩ := List.append_of_mem hEvent
  have listedThen := history.up_to.listed hNew (List.forall_mem_append.1 bare).1 listed
  have since : s.Leads e.before (e :: after) w' := .cons e history.beyond
  have spent := since.spent_of_removal (World.exists_of_handler hBefore)
    (hIs ▸ listedThen.counted h' hBefore) List.mem_cons_self hRemoves
  exact spent.gone h hThere rfl

/-- A handler is in its table as long as it is not deleted from there and the table not cleared. -/
theorem mem_handlers_iff (history : s.Leads w events w') {h : Handler}
    (hMem : h ∈ (w.channel j).handlers) (hCounted : h.id ≤ (w.channel j).lastHandler) :
    h ∈ (w'.channel j).handlers ↔ ∀ e ∈ events, ¬e.Clears j ∧ ¬e.Strikes j h.id := by
  constructor
  · intro hThere e hEvent
    refine not_or.1 fun hRemoves => ?_
    have hExists := World.exists_of_handler hMem
    exact (history.spent_of_removal hExists hCounted hEvent hRemoves).gone h hThere rfl
  · exact fun hKept => history.mem_handlers hMem fun e hEvent _ => hKept e hEvent

end Surroundings.Leads

end EventChannel
