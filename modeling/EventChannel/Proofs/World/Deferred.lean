import EventChannel.Proofs.Channel.Ledger
import EventChannel.Proofs.World.Frame

/-! A driver may raise conditions of its channel whenever it is called. What it raises while an
operation holds the channel comes out when the operation ends, together with what was put off
before. What it raises in any other call stays put off until then. -/

namespace EventChannel

variable {σ α : Type} {s : Surroundings σ} {w w' : World σ} {id : ChannelId}

namespace Step

/-- The step ends with the conditions of a channel that were put off. -/
def drains (id : ChannelId) : {α : Type} → Step σ α → Bool
  | _, .hold j _ => j == id
  | _, _ => false

/-- What comes out when an operation ends: what was put off before, and what the driver has raised
meanwhile. -/
theorem released_hold (op : ChannelOp) :
    ((Step.hold id op).run s w).1.2 = (w.channel id).deferred ∪
      ((s.driver id).replay w.env ((Step.hold id op).calls s id w)).1 := by
  rw [Step.calls, if_pos rfl]
  exact Held.deferred_perform (s.driver id) (w.held id) op

/-- What is put off after a step. -/
theorem deferred_run (t : Step σ α) (hExists : id < w.channels.length) :
    ((t.run s w).2.channel id).deferred =
      if t.drains id then .none
      else (w.channel id).deferred ∪ ((s.driver id).replay w.env (t.calls s id w)).1 := by
  have hSilent (hMoves : ¬t.Moves id) (hAsks : ¬t.Asks id) (hDrains : t.drains id = false)
      (hCalls : t.calls s id w = []) :
      ((t.run s w).2.channel id).deferred = if t.drains id then .none
        else (w.channel id).deferred ∪ ((s.driver id).replay w.env (t.calls s id w)).1 := by
    have hKept : World.Keeps Channel.deferred id w (t.run s w).2 :=
      t.keeps_view s w (fun _ _ => rfl) hMoves (.inl fun _ _ => rfl) (.inl fun _ _ => rfl)
        (.inr hAsks) (.inl fun _ _ => rfl)
    rw [hDrains, hCalls, hKept.same hExists]
    exact (Interest.union_none _).symm
  cases t with
  | hold j op =>
    by_cases hId : j = id
    · subst hId
      rw [channel_hold s w op hExists, drains, beq_self_eq_true, if_pos rfl]
    · exact hSilent hId not_false (beq_false_of_ne hId) (if_neg hId)
  | raise j raised =>
    by_cases hId : j = id
    · subst hId
      have hDeferred := Held.deferred_flushInBackground (s.driver j) (w.held j) raised
      have hErase := Held.erase_flushInBackground (s.driver j) (w.held j).recording raised
      rw [Held.erase_recording] at hErase
      rw [channel_raise s w raised hExists, Step.calls, if_pos rfl]
      rw [hErase] at hDeferred
      exact hDeferred
    · exact hSilent hId not_false rfl (if_neg hId)
  | handle j d =>
    by_cases hId : j = id
    · subst hId
      cases hOpen : (w.channel j).isOpen with
      | false => simp [Step.run, Step.calls, drains, hOpen, Driver.replay]
      | true =>
        have hCalls : (Step.handle j d).calls s j w =
            [⟨.handle d, (s.driver j (.handle d) w.env).answer⟩] := if_pos ⟨rfl, hOpen⟩
        have hRun : ((Step.handle j d).run s w).2 =
            (w.hold j (Held.drive (s.driver j) (.handle d))).2 :=
          congrArg Prod.snd (if_pos hOpen)
        rw [hRun, hCalls, World.hold_channel_self _ hExists]
        exact congrArg ((w.channel j).deferred ∪ ·) (Interest.none_union _).symm
    · exact hSilent not_false hId rfl (if_neg fun hBoth => hId hBoth.1)
  | «open» c =>
    exact hSilent not_false not_false rfl (if_neg (Nat.ne_of_gt hExists))
  | _ => exact hSilent not_false not_false rfl rfl

end Step

namespace Event

/-- The event ends with the conditions of a channel that were put off. -/
def drains (id : ChannelId) : Event σ → Bool
  | made t _ => t.drains id
  | called _ _ => false

/-- The conditions that the driver of a channel raises in the event. -/
def raised (s : Surroundings σ) (id : ChannelId) (e : Event σ) : Interest :=
  ((s.driver id).replay e.before.env (e.calls s id)).1

theorem deferred_after (e : Event σ) (hExists : id < e.before.channels.length) :
    ((e.after s).channel id).deferred =
      if e.drains id then .none else (e.before.channel id).deferred ∪ e.raised s id := by
  cases e with
  | made t w => exact t.deferred_run hExists
  | called c w => exact (Interest.union_none _).symm

end Event

/-- The conditions that are put off after some events: those that the driver of a channel has raised
since an operation held the channel last, and if none did, those put off earlier. -/
def putOff (s : Surroundings σ) (id : ChannelId) (earlier : Interest) (events : List (Event σ)) :
    Interest :=
  events.foldl (fun conditions e => if e.drains id then .none else conditions ∪ e.raised s id)
    earlier

theorem Surroundings.Leads.deferred {events : List (Event σ)} (history : s.Leads w events w')
    (hExists : id < w.channels.length) :
    (w'.channel id).deferred = putOff s id (w.channel id).deferred events := by
  induction history with
  | refl => rfl
  | snoc e prior ih =>
    rw [e.deferred_after (Nat.lt_of_lt_of_le hExists prior.length), ih, putOff, putOff,
      List.foldl_append]
    rfl

end EventChannel
