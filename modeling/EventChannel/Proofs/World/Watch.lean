import EventChannel.Proofs.Channel.Watch
import EventChannel.Proofs.World.Frame

/-! Whatever happens, the driver of an open channel was told last what it is to be told, and one
that is closed was told last to wait for nothing. Steps that do not concern the channel tell its
driver nothing. All this is so as long as the handlers of a channel are taken away at once only when
it is closed. -/

namespace EventChannel

theorem Channel.unnoted_outlook : Unnoted outlook :=
  ⟨fun _ _ => rfl, fun _ _ => rfl, fun _ _ => rfl, fun _ _ => rfl⟩

variable {σ α : Type} {s : Surroundings σ} {w w' : World σ} {id : ChannelId} {mask : Interest}

namespace Step

/-- The step tells the driver of a channel to wait for something even if that is nothing new. -/
def Retells (id : ChannelId) : {α : Type} → Step σ α → Prop
  | _, .hold j op => j = id ∧ op.retells = true
  | _, _ => False

/-- The step closes a channel. -/
def Shuts (id : ChannelId) : {α : Type} → Step σ α → Prop
  | _, .hold j op => j = id ∧ op = .shut
  | _, _ => False

/-- A step that moves no bytes of a channel tells its driver no mask. -/
theorem calls_silent (t : Step σ α) (hMoves : ¬t.Moves id) :
    ∀ e ∈ t.calls s id w, e.call.mask? = none := by
  intro e hMem
  cases t with
  | hold j op | raise j raised =>
    rw [Step.calls, if_neg (show j ≠ id from hMoves)] at hMem
    cases hMem
  | handle j d =>
    rw [Step.calls] at hMem
    split at hMem
    · rw [List.mem_singleton.1 hMem]
      rfl
    · cases hMem
  | «open» c =>
    rw [Step.calls] at hMem
    split at hMem
    · rw [List.mem_singleton.1 hMem]
      rfl
    · cases hMem
  | _ => cases hMem

/-- A step that moves no bytes of a channel leaves all that decides what its driver is told. -/
theorem outlook_run (t : Step σ α) (hExists : id < w.channels.length) (hMoves : ¬t.Moves id)
    (hClears : ¬t.Clears id) :
    ((t.run s w).2.channel id).outlook = (w.channel id).outlook :=
  (t.keeps s w Channel.unnoted_outlook hMoves (.inr hClears)).same hExists

/-- Every step leaves the driver of a channel told what it is to be told. -/
theorem follows_run (t : Step σ α) (hExists : id < w.channels.length)
    (hClears : t.Clears id → (w.channel id).isOpen = false)
    (follows : (w.channel id).Follows mask) :
    ((t.run s w).2.channel id).Follows (lastMask mask (t.calls s id w)) ∧
      (¬t.Retells id → Changing mask (t.calls s id w)) := by
  have hApart (hMoves : ¬t.Moves id) (hNot : ¬t.Clears id) :
      ((t.run s w).2.channel id).Follows (lastMask mask (t.calls s id w)) ∧
        (¬t.Retells id → Changing mask (t.calls s id w)) := by
    obtain ⟨hLast, hChanging⟩ := lastMask_of_silent mask (t.calls_silent hMoves)
    rw [hLast]
    exact ⟨follows.of_outlook (t.outlook_run hExists hMoves hNot), fun _ => hChanging⟩
  cases t with
  | hold j op =>
    by_cases hId : j = id
    · subst hId
      have hCalls : (Step.hold j op).calls s j w =
          ((w.held j).recording.perform (s.driver j).traced op).2.calls := if_pos rfl
      obtain ⟨hFollows, hChanging⟩ :=
        Held.perform_follows (s.driver j) (h := w.held j) follows op
      rw [hCalls, channel_hold s w op hExists]
      refine ⟨hFollows.of_outlook rfl, fun hNot => hChanging ?_⟩
      exact Bool.eq_false_iff.2 fun hRetells => hNot ⟨rfl, hRetells⟩
    · exact hApart hId fun hFalse => hFalse
  | raise j raised =>
    by_cases hId : j = id
    · subst hId
      have hCalls : (Step.raise j raised).calls s j w =
          ((w.held j).recording.flushInBackground (s.driver j).traced raised).calls := if_pos rfl
      obtain ⟨hFollows, hChanging⟩ :=
        Held.flushInBackground_follows (s.driver j) (h := w.held j) follows raised
      rw [hCalls, channel_raise s w raised hExists]
      exact ⟨hFollows, fun _ => hChanging⟩
    · exact hApart hId fun hFalse => hFalse
  | clearHandlers j =>
    by_cases hId : j = id
    · subst hId
      have hShut := hClears rfl
      have hChannel : ((Step.clearHandlers j).run s w).2.channel j =
          { w.channel j with handlers := [] } := World.channel_modifyChannel_self _ hExists
      rw [hChannel]
      exact ⟨.of_shut hShut (follows.closed hShut), fun _ => trivial⟩
    · exact hApart (fun hFalse => hFalse) hId
  | _ => exact hApart (fun hFalse => hFalse) fun hFalse => hFalse

/-- A closed channel is not opened again. -/
theorem shut_run (t : Step σ α) (hExists : id < w.channels.length)
    (hShut : (w.channel id).isOpen = false) : ((t.run s w).2.channel id).isOpen = false := by
  by_cases hMoves : t.Moves id
  · cases t with
    | hold j op =>
      obtain rfl : j = id := hMoves
      rw [channel_hold s w op hExists]
      exact (Held.perform_shut (h := (w.held j).recording) (s.driver j) hShut op).1
    | raise j raised =>
      obtain rfl : j = id := hMoves
      rw [channel_raise s w raised hExists]
      exact (Held.flushInBackground_shut (h := (w.held j).recording) (s.driver j) hShut raised).1
    | _ => cases hMoves
  · exact (congrArg Channel.isOpen (t.bare_run s w hExists hMoves)).trans hShut

/-- Where there is no open channel, no driver is called except when a channel is made there. -/
theorem calls_closed (t : Step σ α) (hShut : (w.channel id).isOpen = false) :
    ∀ e ∈ t.calls s id w, e.call = .attach ∧ w.channels.length = id := by
  intro e hMem
  cases t with
  | hold j op =>
    rw [calls] at hMem
    split at hMem
    · rw [(Held.perform_shut (h := (w.held id).recording) (s.driver id) hShut op).2] at hMem
      cases hMem
    · cases hMem
  | raise j raised =>
    have hNone :=
      (Held.flushInBackground_shut (h := (w.held id).recording) (s.driver id) hShut raised).2
    rw [calls] at hMem
    split at hMem
    · rw [hNone] at hMem
      cases hMem
    · cases hMem
  | handle j d =>
    rw [calls, if_neg fun hBoth => Bool.eq_false_iff.1 hShut hBoth.2] at hMem
    cases hMem
  | «open» c =>
    rw [calls] at hMem
    split at hMem
    · next hNew =>
      rw [List.mem_singleton.1 hMem]
      exact ⟨rfl, hNew⟩
    · cases hMem
  | _ => cases hMem

/-- The driver of a closed channel is not called. -/
theorem calls_shut (t : Step σ α) (hExists : id < w.channels.length)
    (hShut : (w.channel id).isOpen = false) : t.calls s id w = [] :=
  List.eq_nil_iff_forall_not_mem.2 fun e hMem =>
    Nat.ne_of_gt hExists (t.calls_closed hShut e hMem).2

/-- Only closing closes a channel. -/
theorem isOpen_run (t : Step σ α) (hExists : id < w.channels.length)
    (hStays : ¬t.Shuts id) : ((t.run s w).2.channel id).isOpen = (w.channel id).isOpen := by
  by_cases hMoves : t.Moves id
  · cases t with
    | hold j op =>
      obtain rfl : j = id := hMoves
      obtain ⟨c', hEffect, hChannel⟩ := hold_shows s w op hExists
      rw [hChannel]
      exact hEffect.isOpen_of_ne_shut fun hShut => hStays ⟨rfl, hShut⟩
    | raise j raised =>
      obtain rfl : j = id := hMoves
      exact (raise_shows s w raised hExists).1.isOpen
    | _ => exact hMoves.elim
  · have hKept : ((t.run s w).2.channel id).bare.isOpen = (w.channel id).bare.isOpen :=
      congrArg Channel.isOpen (t.bare_run s w hExists hMoves)
    exact hKept

theorem Shuts.shut {t : Step σ α} (shuts : t.Shuts id) (hExists : id < w.channels.length) :
    ((t.run s w).2.channel id).isOpen = false := by
  cases t with
  | hold j op =>
    obtain ⟨rfl, rfl⟩ := shuts
    obtain ⟨c', hEffect, hChannel⟩ := hold_shows s w .shut hExists
    rw [hChannel]
    exact hEffect.isOpen
  | _ => cases shuts

end Step

namespace Event

/-- The event takes the handlers of a channel away. -/
def Clears (id : ChannelId) : Event σ → Prop
  | made t _ => t.Clears id
  | called _ _ => False

/-- The event closes a channel. -/
def Shuts (id : ChannelId) : Event σ → Prop
  | made t _ => t.Shuts id
  | called _ _ => False

/-- In the event the driver of a channel is told to wait for something even if that is nothing
new: it is put into another event loop, or closed. -/
def Retells (id : ChannelId) : Event σ → Prop
  | made t _ => t.Retells id
  | called _ _ => False

/-- Every event leaves the driver of a channel told what it is to be told. -/
theorem follows_after (e : Event σ) (hExists : id < e.before.channels.length)
    (hClears : e.Clears id → (e.before.channel id).isOpen = false)
    (follows : (e.before.channel id).Follows mask) :
    ((e.after s).channel id).Follows (lastMask mask (e.calls s id)) ∧
      (¬e.Retells id → Changing mask (e.calls s id)) := by
  cases e with
  | made t w => exact t.follows_run hExists hClears follows
  | called c w => exact ⟨follows, fun _ => trivial⟩

theorem isOpen_after (e : Event σ) (hExists : id < e.before.channels.length) :
    ((e.after s).channel id).isOpen = true ↔
      (e.before.channel id).isOpen = true ∧ ¬e.Shuts id := by
  cases e with
  | called c w => exact (and_iff_left not_false).symm
  | made t w =>
    by_cases hShuts : t.Shuts id
    · have hShut : ((t.run s w).2.channel id).isOpen = false := hShuts.shut hExists
      refine ⟨fun hOpen => ?_, fun hBoth => absurd hShuts hBoth.2⟩
      exact Bool.noConfusion (hShut.symm.trans hOpen)
    · have hSame : ((t.run s w).2.channel id).isOpen = (w.channel id).isOpen :=
        t.isOpen_run hExists hShuts
      show ((t.run s w).2.channel id).isOpen = true ↔ _
      rw [hSame]
      exact (and_iff_left hShuts).symm

theorem shut_after (e : Event σ) (hExists : id < e.before.channels.length)
    (hShut : (e.before.channel id).isOpen = false) : ((e.after s).channel id).isOpen = false := by
  cases e with
  | made t w => exact t.shut_run hExists hShut
  | called c w => exact hShut

end Event

namespace Surroundings.Leads

variable {events : List (Event σ)}

/-- A closed channel stays closed. -/
theorem shut (history : s.Leads w events w') (hExists : id < w.channels.length)
    (hShut : (w.channel id).isOpen = false) : (w'.channel id).isOpen = false := by
  induction history with
  | refl => exact hShut
  | snoc e prior ih => exact e.shut_after (Nat.lt_of_lt_of_le hExists prior.length) ih

/-- A channel is open as long as it is not closed. -/
theorem isOpen_iff (history : s.Leads w events w') (hExists : id < w.channels.length) :
    (w'.channel id).isOpen = true ↔
      (w.channel id).isOpen = true ∧ ∀ e ∈ events, ¬e.Shuts id := by
  induction history with
  | refl => exact ⟨fun hOpen => ⟨hOpen, fun _ hMem => nomatch hMem⟩, And.left⟩
  | snoc e prior ih =>
    rw [e.isOpen_after (Nat.lt_of_lt_of_le hExists prior.length), ih, and_assoc,
      List.forall_mem_append, List.forall_mem_singleton]

/-- The driver of a channel is kept told what it is to be told. -/
theorem follows (history : s.Leads w events w') (hExists : id < w.channels.length)
    (hClears : ∀ e ∈ events, e.Clears id → (e.before.channel id).isOpen = false)
    (start : (w.channel id).Follows mask) :
    (w'.channel id).Follows (lastMask mask (events.flatMap (·.calls s id))) := by
  induction history with
  | refl => exact start
  | snoc e prior ih =>
    have hBefore := ih fun e' hMem => hClears e' (List.mem_append_left _ hMem)
    have hThere := Nat.lt_of_lt_of_le hExists prior.length
    have hLast := hClears e (List.mem_append_right _ (List.mem_singleton_self e))
    simpa using (e.follows_after hThere hLast hBefore).1

/-- It is told to wait for what it waits for already only when it is put into another event loop or
closed. -/
theorem changing (history : s.Leads w events w') (hExists : id < w.channels.length)
    (hClears : ∀ e ∈ events, e.Clears id → (e.before.channel id).isOpen = false)
    (start : (w.channel id).Follows mask) {before after : List (Event σ)} {e : Event σ}
    (hSplit : events = before ++ e :: after) (hRetells : ¬e.Retells id) :
    Changing (lastMask mask (before.flatMap (·.calls s id))) (e.calls s id) := by
  subst hSplit
  have prior := history.up_to
  have hBefore := prior.follows hExists (fun e' hMem => hClears e' (List.mem_append_left _ hMem))
    start
  have hThere := Nat.lt_of_lt_of_le hExists prior.length
  exact (e.follows_after hThere (hClears e (by simp)) hBefore).2 hRetells

end Surroundings.Leads

end EventChannel
