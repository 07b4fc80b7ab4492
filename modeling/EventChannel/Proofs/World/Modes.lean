import EventChannel.Proofs.Channel.Sequence
import EventChannel.Proofs.Channel.Watch
import EventChannel.Proofs.World.Copies
import EventChannel.Proofs.World.Watch

/-! What the choice of a mode does to a channel: its driver agrees, and the channel is in that mode,
or nothing has changed. All else that may be different afterwards is what it waits for. -/

namespace EventChannel

/-- A channel without its mode and what follows from that: what is written in the background, and
what the driver waits for. -/
def Channel.modeless (c : Channel) : Channel :=
  { c with blocking := true, flushPending := false, watched := .none, deferred := .none }

/-- Channels that differ in no more than their modes and what follows from that. -/
theorem Channel.of_modeless {c c' : Channel} (hModeless : c'.modeless = c.modeless) :
    c' = { c with
      blocking := c'.blocking, flushPending := c'.flushPending, watched := c'.watched
      deferred := c'.deferred } := by
  cases c
  cases c'
  simp only [modeless, mk.injEq] at hModeless ⊢
  simp [hModeless]

theorem Channel.copying_of_modeless {c c' : Channel} (hModeless : c'.modeless = c.modeless) :
    c'.copying = c.copying := by
  rw [of_modeless hModeless]

namespace Held

variable {σ : Type} (driver : Driver σ) (h : Held σ)

theorem applyWatch_channel : ∃ deferred watched,
    (h.applyWatch driver).channel = { h.channel with deferred, watched } := by
  by_cases hSame : h.channel.wantedMask = h.channel.watched
  · rw [applyWatch_same hSame]
    exact ⟨_, _, rfl⟩
  · cases hOpen : h.channel.isOpen with
    | true =>
      rw [applyWatch_open hSame hOpen]
      exact ⟨_, _, rfl⟩
    | false =>
      rw [applyWatch_closed hSame hOpen]
      exact ⟨_, _, rfl⟩

/-- The mode is chosen, or it is as it was. -/
theorem setBlocking_channel (on : Bool) :
    (h.setBlocking driver on).2.channel.modeless = h.channel.modeless ∧
      ((h.setBlocking driver on).1 = .ok () → (h.setBlocking driver on).2.channel.blocking = on) ∧
      ∀ r, (h.setBlocking driver on).1 = .error r →
        (h.setBlocking driver on).2.channel.blocking = h.channel.blocking := by
  unfold setBlocking
  split
  · exact ⟨rfl, fun hOk => (by cases hOk), fun _ _ => rfl⟩
  have hChannel : (h.drive driver (.setBlocking on)).2.channel =
      { h.channel with deferred := h.channel.deferred ∪ (driver (.setBlocking on) h.env).raised } :=
    rfl
  generalize h.drive driver (.setBlocking on) = driven at hChannel ⊢
  obtain ⟨e | done, h₁⟩ := driven
  · dsimp only at hChannel ⊢
    rw [hChannel]
    exact ⟨rfl, fun hOk => (by cases hOk), fun _ _ => rfl⟩
  · obtain ⟨deferred, watched, hTold⟩ := applyWatch_channel driver (h₁.update fun c =>
      { c with blocking := on, flushPending := if on then false else c.flushPending })
    dsimp only at hChannel ⊢
    rw [hTold, update_channel, hChannel]
    exact ⟨rfl, fun _ => rfl, fun r hError => by cases hError⟩

end Held

namespace Step

variable {σ : Type} {s : Surroundings σ} {w : World σ} {id j : ChannelId} {on : Bool}

/-- A channel that was never made is closed. -/
theorem setBlocking_absent (hAbsent : w.channels.length ≤ id) :
    ∃ r, ((Step.hold id (.setBlocking on)).run s w).1.1 = .error r := by
  have hChannel : w.channel id = .absent := by
    rw [World.channel, List.getElem?_eq_none hAbsent]
    rfl
  refine ⟨.ofMisuse (w.channel id).closed, ?_⟩
  show ((w.held id).setBlocking (s.driver id) on).1 = _
  rw [Held.setBlocking, World.held, hChannel]
  rfl

theorem modeless_setBlocking :
    (((Step.hold id (.setBlocking on)).run s w).2.channel j).modeless =
      (w.channel j).modeless :=
  World.view_hold (Held.setBlocking_channel (s.driver id) (w.held id) on).1

theorem blocking_of_set (hOk : ((Step.hold id (.setBlocking on)).run s w).1.1 = .ok ()) :
    (((Step.hold id (.setBlocking on)).run s w).2.channel id).blocking = on := by
  have hExists : id < w.channels.length := by
    refine Nat.lt_of_not_le fun hAbsent => ?_
    obtain ⟨r, hError⟩ : ∃ r, ((Step.hold id (.setBlocking on)).run s w).1.1 = .error r :=
      setBlocking_absent hAbsent
    rw [hError] at hOk
    cases hOk
  exact (congrArg Channel.blocking (World.hold_channel_self _ hExists)).trans
    ((Held.setBlocking_channel (s.driver id) (w.held id) on).2.1 hOk)

/-- A step leaves a channel in the mode that its driver agreed to last, and closed if its driver was
closed. -/
theorem agrees_run {α : Type} (t : Step σ α) (hExists : j < w.channels.length) :
    ((t.run s w).2.channel j).blocking = lastMode (w.channel j).blocking (t.calls s j w) ∧
      ((t.run s w).2.channel j).isOpen =
        ((w.channel j).isOpen && !closesDriver (t.calls s j w)) := by
  by_cases hMoves : t.Moves j
  · cases t with
    | hold i op =>
      obtain rfl : i = j := hMoves
      have hAgrees := Held.perform_agrees (s.driver i) (w.held i) op
      rw [channel_hold s w op hExists, calls, if_pos rfl]
      exact ⟨hAgrees.mode, hAgrees.isOpen⟩
    | raise i raised =>
      obtain rfl : i = j := hMoves
      have hAgrees := Held.flushInBackground_agrees (s.driver i) (w.held i) raised
      rw [channel_raise s w raised hExists, calls, if_pos rfl]
      exact ⟨hAgrees.mode, hAgrees.isOpen⟩
    | _ => exact hMoves.elim
  · have hCalls : t.calls s j w = [] ∨ ∃ d answer, t.calls s j w = [⟨.handle d, answer⟩] := by
      cases t with
      | hold i op => exact .inl (if_neg hMoves)
      | raise i raised => exact .inl (if_neg hMoves)
      | handle i d =>
        rw [calls]
        split
        · exact .inr ⟨d, _, rfl⟩
        · exact .inl rfl
      | «open» c => exact .inl (if_neg (Nat.ne_of_gt hExists))
      | _ => exact .inl rfl
    rw [Channel.of_bare (t.bare_run s w hExists hMoves)]
    rcases hCalls with hCalls | ⟨d, answer, hCalls⟩
    · simp [hCalls, lastMode, closesDriver]
    · simp [hCalls, lastMode, closesDriver, DriverEvent.mode?]

/-- A channel that is closed stays in its mode. -/
theorem mode_shut {α : Type} (t : Step σ α) (hExists : j < w.channels.length)
    (hShut : (w.channel j).isOpen = false) :
    ((t.run s w).2.channel j).blocking = (w.channel j).blocking := by
  rw [(t.agrees_run hExists).1, t.calls_shut hExists hShut]
  rfl

/-- A channel that is open goes to a mode unless its driver refuses. -/
theorem set_of_open (hOpen : (w.channel id).isOpen = true)
    (hAgrees : ∀ e, ⟨.setBlocking on, .error e⟩ ∉ (Step.hold id (.setBlocking on)).calls s id w) :
    ((Step.hold id (.setBlocking on)).run s w).1.1 = .ok () := by
  obtain ⟨c', effect, -⟩ := hold_shows s w (.setBlocking on) (World.exists_of_isOpen hOpen)
  cases hAnswer : ((Step.hold id (.setBlocking on)).run s w).1.1 with
  | ok done => rfl
  | error r =>
    rcases effect.2.2 r hAnswer with hShut | ⟨e, hMem⟩
    · rw [hOpen] at hShut
      cases hShut
    · exact absurd hMem (hAgrees e)

/-- To choose a mode moves no bytes. -/
theorem control_setBlocking :
    Control ((Step.hold id (.setBlocking on)).calls s j w) := by
  rw [Step.calls]
  split
  · next hIs =>
    subst hIs
    obtain ⟨calls, hCalls, hCalm, -⟩ :=
      Held.setBlocking_shows (s.driver id) (w.held id).recording on
    rw [Held.calls_recording, List.nil_append] at hCalls
    exact hCalls ▸ hCalm.control
  · exact control_nil

end Step

end EventChannel
