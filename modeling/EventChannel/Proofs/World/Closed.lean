import EventChannel.Proofs.Stream.Inlet
import EventChannel.Proofs.World.Copies
import EventChannel.Proofs.World.Deferred
import EventChannel.Proofs.World.Modes

/-! The driver of a channel is closed in the last of the calls that are made to it, whatever happens
to the channel before and afterwards. What is left of a closed channel has no bytes and is open in
no direction, and all operations leave it so. What is to be done on closing waits in a queue:
whoever closes the channel takes it from there, all at once. -/

namespace EventChannel

variable {σ α : Type}

/-- The driver is closed at most once, and called no more after that. -/
def ClosesLast (calls : List DriverEvent) : Prop :=
  closesDriver calls = false ∨
    ∃ earlier answer, calls = earlier ++ [⟨.close, answer⟩] ∧ closesDriver earlier = false

theorem ClosesLast.prepend {first second : List DriverEvent} (closes : ClosesLast second)
    (hFirst : closesDriver first = false) : ClosesLast (first ++ second) := by
  rcases closes with hNone | ⟨earlier, answer, rfl, hNone⟩
  · exact .inl (by rw [closesDriver_append, hFirst, hNone]; rfl)
  · refine .inr ⟨first ++ earlier, answer, (List.append_assoc _ _ _).symm, ?_⟩
    rw [closesDriver_append, hFirst, hNone]
    rfl

/-- The channel is closed: open in no direction, without bytes, and with nothing put off. -/
structure Channel.Gone (c : Channel) : Prop where
  isOpen : c.isOpen = false
  mode : c.mode = .none
  input : c.input = []
  output : c.output = .empty
  pending : c.flushPending = false
  deferred : c.deferred = .none

namespace Held

variable {driver : Driver σ} {h : Held σ}

theorem sustains_unclosed (driver : Driver σ) :
    Sustains driver.traced fun h => closesDriver h.calls = false where
  drive {h} call hSteady hNone := by
    have hCalls : (h.drive driver.traced call).2.calls =
        h.calls ++ [⟨call, (driver call h.env.1).answer⟩] := rfl
    rw [hCalls, closesDriver_append, hNone]
    cases call <;> simp_all [closesDriver, DriverCall.isSteady]
  update _ _ hNone := hNone

/-- The output that waits may be written first. Then the driver of an open channel is closed. -/
theorem shut_closesLast (hOpen : h.channel.isOpen = true) :
    ∃ earlier answer, (h.recording.shut driver.traced).2.calls = earlier ++ [⟨.close, answer⟩] ∧
      closesDriver earlier = false := by
  have hGivenUp {h₁ : Held (σ × List DriverEvent)} (hNone : closesDriver h₁.calls = false) :
      ∃ earlier answer,
        (((h₁.update Channel.givenUp).drive driver.traced (.watch .none)).2.drive driver.traced
          .close).2.calls = earlier ++ [⟨.close, answer⟩] ∧ closesDriver earlier = false := by
    refine ⟨_, _, rfl, ?_⟩
    exact (sustains_unclosed driver).drive (.watch .none) rfl hNone
  have hOpen' : h.recording.channel.isOpen = true := hOpen
  cases hEmpty : h.recording.channel.output.isEmpty with
  | true =>
    simp only [shut, hOpen', hEmpty]
    exact hGivenUp rfl
  | false =>
    simp only [shut, hOpen', hEmpty]
    exact hGivenUp ((sustains_unclosed driver).flush rfl)

/-- On a closed channel, handlers are made and deleted and the size of the buffers is chosen. That
is all that an operation does to it. -/
theorem perform_closed (driver : Driver σ) (hShut : h.channel.isOpen = false) (op : ChannelOp) :
    ∃ handlers last size watched, (h.perform driver op).2 = h.update ({ · with
      handlers := handlers, lastHandler := last, bufferSize := size, watched := watched }) := by
  have hSame : ∃ handlers last size watched, h = h.update ({ · with
      handlers := handlers, lastHandler := last, bufferSize := size, watched := watched }) :=
    ⟨_, _, _, _, rfl⟩
  have hWatch (handlers : List Handler) (last : HandlerId) :
      ∃ watched, (h.update ({ · with handlers := handlers, lastHandler := last })).applyWatch
        driver = h.update ({ · with
          handlers := handlers, lastHandler := last, watched := watched }) := by
    generalize hNoted : h.update ({ · with handlers := handlers, lastHandler := last }) = h₁
    by_cases hWanted : h₁.channel.wantedMask = h₁.channel.watched
    · rw [applyWatch_same hWanted, ← hNoted]
      exact ⟨_, rfl⟩
    · rw [applyWatch_closed hWanted (hNoted ▸ hShut), ← hNoted]
      exact ⟨_, rfl⟩
  cases op with
  | read n =>
    rw [perform, read_closed hShut]
    exact hSame
  | write bytes force =>
    rw [perform, write_closed hShut]
    exact hSame
  | seek target =>
    rw [perform, seek_closed hShut]
    exact hSame
  | setBlocking on =>
    rw [perform, setBlocking_closed hShut]
    exact hSame
  | createHandler mask callback =>
    obtain ⟨watched, hNoted⟩ := hWatch
      (h.channel.handlers ++ [⟨h.channel.lastHandler + 1, mask, callback⟩])
      (h.channel.lastHandler + 1)
    exact ⟨_, _, _, _, hNoted⟩
  | deleteHandler id =>
    obtain ⟨watched, hNoted⟩ :=
      hWatch (h.channel.handlers.filter (·.id != id)) h.channel.lastHandler
    exact ⟨_, _, _, _, hNoted⟩
  | getOption dns name =>
    simp only [perform, getOption, hShut]
    split <;> exact hSame
  | setOption name value =>
    simp only [perform, setOption, setBlocking, hShut]
    split
    · split <;> exact hSame
    · split
      · exact hSame
      · exact ⟨_, _, _, _, rfl⟩
    · exact hSame
  | closeHalf d =>
    rw [perform, closeHalf_closed hShut]
    exact hSame
  | tell => simpa [perform, tell, hShut] using hSame
  | getOptions dns =>
    rw [perform, getOptions_closed hShut]
    exact hSame
  | cut => simpa [perform, cut, hShut] using hSame
  | splice loop => simpa [perform, splice, hShut] using hSame
  | shut => simpa [perform, shut, hShut] using hSame

end Held

namespace Step

variable {s : Surroundings σ} {w : World σ} {id : ChannelId}

/-- A step that closes the driver closes the channel. -/
theorem shut_of_closes (t : Step σ α) (hCloses : closesDriver (t.calls s id w) = true) :
    id < w.channels.length ∧ ((t.run s w).2.channel id).isOpen = false := by
  rcases Nat.lt_or_ge id w.channels.length with hExists | hAbsent
  · refine ⟨hExists, ?_⟩
    rw [(t.agrees_run hExists).2, hCloses]
    exact Bool.and_false _
  · have hShut : (w.channel id).isOpen = false := by
      rw [World.channel, List.getElem?_eq_none hAbsent]
      rfl
    obtain ⟨e, hMem, hClose⟩ := List.any_eq_true.1 hCloses
    rw [(t.calls_closed hShut e hMem).1] at hClose
    cases hClose

/-- A step that closes the driver calls it no more. -/
theorem closesLast_calls (t : Step σ α) : ClosesLast (t.calls s id w) := by
  by_cases hCloses : closesDriver (t.calls s id w) = true
  · obtain ⟨hExists, hAfter⟩ := t.shut_of_closes hCloses
    have hOpen : (w.channel id).isOpen = true := by
      cases hOpen : (w.channel id).isOpen with
      | true => rfl
      | false =>
        rw [t.calls_shut hExists hOpen] at hCloses
        cases hCloses
    by_cases hShuts : t.Shuts id
    · cases t with
      | hold j op =>
        obtain ⟨rfl, rfl⟩ := hShuts
        rw [calls, if_pos rfl]
        exact .inr (Held.shut_closesLast (h := w.held j) hOpen)
      | _ => cases hShuts
    · rw [t.isOpen_run hExists hShuts, hOpen] at hAfter
      cases hAfter
  · exact .inl (Bool.eq_false_iff.2 hCloses)

/-- What is left of a closed channel no step changes. -/
theorem gone_run (t : Step σ α) (hExists : id < w.channels.length)
    (gone : (w.channel id).Gone) : ((t.run s w).2.channel id).Gone := by
  by_cases hMoves : t.Moves id
  · cases t with
    | hold j op =>
      obtain rfl : j = id := hMoves
      obtain ⟨handlers, last, size, watched, hSame⟩ :=
        Held.perform_closed (h := (w.held j).recording) (s.driver j).traced gone.isOpen op
      rw [channel_hold s w op hExists, hSame]
      exact ⟨gone.isOpen, gone.mode, gone.input, gone.output, gone.pending, rfl⟩
    | raise j raised =>
      obtain rfl : j = id := hMoves
      have hIdle : (raised.writable && (w.held j).recording.channel.flushPending) = false :=
        (congrArg (raised.writable && ·) gone.pending).trans (Bool.and_false _)
      rw [channel_raise s w raised hExists, Held.flushInBackground_idle hIdle]
      exact gone
    | _ => exact hMoves.elim
  · have hDeferred : ((t.run s w).2.channel id).deferred = .none := by
      rw [t.deferred_run hExists, t.calls_shut hExists gone.isOpen, gone.deferred]
      split <;> rfl
    rw [Channel.of_bare (t.bare_run s w hExists hMoves)]
    exact ⟨gone.isOpen, gone.mode, gone.input, gone.output, gone.pending, hDeferred⟩

/-- A channel that a step closes is left with nothing, and its driver is closed. -/
theorem gone_of_closed (t : Step σ α) (hOpen : (w.channel id).isOpen = true)
    (hShut : ((t.run s w).2.channel id).isOpen = false) :
    ((t.run s w).2.channel id).Gone ∧ closesDriver (t.calls s id w) = true := by
  have hExists := World.exists_of_isOpen hOpen
  have hCloses : closesDriver (t.calls s id w) = true := by
    have hAgrees := (t.agrees_run (s := s) hExists).2
    rw [hShut, hOpen] at hAgrees
    simpa using hAgrees
  refine ⟨?_, hCloses⟩
  by_cases hShuts : t.Shuts id
  · cases t with
    | hold j op =>
      obtain ⟨rfl, rfl⟩ := hShuts
      have hRead : ChannelOp.shut.room? = none := rfl
      have hInput : (((Step.hold j .shut).run s w).2.channel j).input = [] :=
        (congrArg Inlet.input (inlet_hold hRead hExists)).trans (if_pos hOpen)
      obtain ⟨c', effect, hChannel⟩ := hold_shows s w .shut hExists
      rw [hChannel] at hInput ⊢
      cases effect with
      | already hClosed =>
        rw [hOpen] at hClosed
        cases hClosed
      | went isOpen mode output pending => exact ⟨isOpen, mode, hInput, output, pending, rfl⟩
    | _ => cases hShuts
  · rw [t.isOpen_run hExists hShuts, hOpen] at hShut
    cases hShut

/-- What the step adds to what is to be done when a channel is closed. -/
def enlists (id : ChannelId) : {α : Type} → Step σ α → List CloseAction
  | _, .addCloseAction j action => if j = id then [action] else []
  | _, _ => []

/-- What the step takes of what is to be done when a channel is closed. -/
def takes (id : ChannelId) : {α : Type} → Step σ α → World σ → List CloseAction
  | _, .takeCloseActions j, w =>
    if j = id ∧ (w.channel id).isOpen = true then (w.channel id).closeActions else []
  | _, _, _ => []

/-- Nothing else changes what is to be done on closing. -/
theorem closeActions_same (t : Step σ α) (hExists : id < w.channels.length)
    (hNot : ¬t.Concludes id) :
    ((t.run s w).2.channel id).closeActions = (w.channel id).closeActions := by
  by_cases hMoves : t.Moves id
  · have persists (actions : List CloseAction) (j : ChannelId) :
        Held.Persists (s.driver j) fun h => h.channel.closeActions = actions :=
      ⟨fun _ hSame => hSame, fun f hLedger hSame =>
        (congrArg (fun l => l.2.1) (hLedger _)).trans hSame⟩
    cases t with
    | hold j op =>
      refine World.view_hold ?_
      exact (persists _ j).perform (h := w.held j) rfl op fun _ _ _ => rfl
    | raise j raised =>
      refine view_raise ?_
      exact (persists _ j).flushInBackground (h := w.held j) rfl raised
    | _ => exact hMoves.elim
  · have hKept : World.Keeps Channel.closeActions id w (t.run s w).2 :=
      t.keeps_view s w (fun _ _ => rfl) hMoves (.inr hNot) (.inl fun _ _ => rfl)
        (.inl fun _ _ => rfl) (.inl fun _ _ => rfl)
    exact hKept.same hExists

/-- What is to be done on closing is a queue. -/
theorem closeActions_run (t : Step σ α) (hExists : id < w.channels.length) :
    (w.channel id).closeActions ++ t.enlists id =
      t.takes id w ++ ((t.run s w).2.channel id).closeActions := by
  have hOther (hNot : ¬t.Concludes id) (hEnlists : t.enlists id = []) (hTakes : t.takes id w = []) :
      (w.channel id).closeActions ++ t.enlists id =
        t.takes id w ++ ((t.run s w).2.channel id).closeActions := by
    rw [hEnlists, hTakes, t.closeActions_same hExists hNot, List.append_nil, List.nil_append]
  cases t with
  | takeCloseActions j =>
    by_cases hId : j = id
    · subst hId
      cases hOpen : (w.channel j).isOpen with
      | true =>
        rw [takeCloseActions_of_open hOpen, World.channel_modifyChannel_self _ hExists]
        simp [enlists, takes, hOpen]
      | false =>
        rw [takeCloseActions_of_shut hOpen]
        simp [enlists, takes, hOpen]
    · exact hOther hId rfl (if_neg fun hBoth => hId hBoth.1)
  | addCloseAction j action =>
    by_cases hId : j = id
    · subst hId
      simp [enlists, takes, Step.run, World.channel_modifyChannel_self _ hExists]
    · exact hOther hId (if_neg hId) rfl
  | _ => exact hOther not_false rfl rfl

end Step

namespace Event

/-- What the event adds to what is to be done when a channel is closed. -/
def enlists (id : ChannelId) : Event σ → List CloseAction
  | made t _ => t.enlists id
  | called _ _ => []

/-- What is taken in the event of what is to be done when a channel is closed. -/
def takes (id : ChannelId) : Event σ → List CloseAction
  | made t w => t.takes id w
  | called _ _ => []

variable {s : Surroundings σ} {id : ChannelId}

theorem calls_shut (e : Event σ) (hExists : id < e.before.channels.length)
    (hShut : (e.before.channel id).isOpen = false) : e.calls s id = [] := by
  cases e with
  | made t w => exact t.calls_shut hExists hShut
  | called c w => rfl

theorem gone_after (e : Event σ) (hExists : id < e.before.channels.length)
    (gone : (e.before.channel id).Gone) : ((e.after s).channel id).Gone := by
  cases e with
  | made t w => exact t.gone_run hExists gone
  | called c w => exact gone

theorem gone_of_closed (e : Event σ) (hOpen : (e.before.channel id).isOpen = true)
    (hShut : ((e.after s).channel id).isOpen = false) :
    ((e.after s).channel id).Gone ∧ closesDriver (e.calls s id) = true := by
  cases e with
  | made t w => exact t.gone_of_closed hOpen hShut
  | called c w => exact absurd (hOpen.symm.trans hShut) Bool.noConfusion

theorem closesLast_calls (e : Event σ) : ClosesLast (e.calls s id) := by
  cases e with
  | made t w => exact t.closesLast_calls
  | called c w => exact .inl rfl

theorem shut_of_closes (e : Event σ) (hCloses : closesDriver (e.calls s id) = true) :
    ((e.after s).channel id).isOpen = false ∧ id < e.before.channels.length := by
  cases e with
  | made t w => exact (t.shut_of_closes hCloses).symm
  | called c w => cases hCloses

end Event

namespace Surroundings.Leads

variable {s : Surroundings σ} {w w' : World σ} {id : ChannelId} {events : List (Event σ)}

/-- What is asked for to be done on closing is taken in the order in which it was asked for, and
each but once, or is still there. -/
theorem closeActions (history : s.Leads w events w') (hExists : id < w.channels.length) :
    (w.channel id).closeActions ++ events.flatMap (·.enlists id) =
      events.flatMap (·.takes id) ++ (w'.channel id).closeActions := by
  refine history.balance (fun w => (w.channel id).closeActions) fun e hMem => ?_
  obtain ⟨before, after, rfl⟩ := List.append_of_mem hMem
  have hThere := Nat.lt_of_lt_of_le hExists history.up_to.length
  cases e with
  | made t w => exact t.closeActions_run hThere
  | called c w => exact List.append_nil _

/-- A closed channel is left as it is, and its driver alone. -/
theorem gone (history : s.Leads w events w') (hExists : id < w.channels.length)
    (gone : (w.channel id).Gone) :
    (w'.channel id).Gone ∧ events.flatMap (·.calls s id) = [] := by
  induction history with
  | refl => exact ⟨gone, rfl⟩
  | snoc e prior ih =>
    have hThere := Nat.lt_of_lt_of_le hExists prior.length
    refine ⟨e.gone_after hThere ih.1, ?_⟩
    rw [List.flatMap_append, ih.2, List.flatMap_singleton, e.calls_shut hThere ih.1.isOpen]
    rfl

/-- A channel that has been closed is left with nothing, and its driver was closed. -/
theorem gone_of_closed (history : s.Leads w events w') (hOpen : (w.channel id).isOpen = true)
    (hShut : (w'.channel id).isOpen = false) :
    (w'.channel id).Gone ∧ closesDriver (events.flatMap (·.calls s id)) = true := by
  induction history with
  | refl => exact absurd (hOpen.symm.trans hShut) Bool.noConfusion
  | snoc e prior ih =>
    rw [List.flatMap_append, closesDriver_append, List.flatMap_singleton]
    cases hBefore : (e.before.channel id).isOpen with
    | false =>
      have hThere := Nat.lt_of_lt_of_le (World.exists_of_isOpen hOpen) prior.length
      obtain ⟨gone, hCloses⟩ := ih hBefore
      exact ⟨e.gone_after hThere gone, by rw [hCloses, Bool.true_or]⟩
    | true =>
      obtain ⟨gone, hCloses⟩ := e.gone_of_closed hBefore hShut
      exact ⟨gone, by rw [hCloses, Bool.or_true]⟩

/-- Whatever happens, the driver of a channel is closed at most once and called no more after that;
and where it is closed, so is the channel. -/
theorem closesLast (history : s.Leads w events w') :
    ClosesLast (events.flatMap (·.calls s id)) ∧
      (closesDriver (events.flatMap (·.calls s id)) = true →
        (w'.channel id).isOpen = false ∧ id < w'.channels.length) := by
  induction history with
  | refl => exact ⟨.inl rfl, fun hCloses => by cases hCloses⟩
  | @snoc events e prior ih =>
    obtain ⟨closes, hClosed⟩ := ih
    rw [List.flatMap_append, List.flatMap_singleton]
    cases hCloses : closesDriver (events.flatMap (·.calls s id)) with
    | true =>
      obtain ⟨hShut, hThere⟩ := hClosed hCloses
      rw [e.calls_shut hThere hShut, List.append_nil]
      exact ⟨closes, fun _ => ⟨e.shut_after hThere hShut, Nat.lt_of_lt_of_le hThere e.length_after⟩⟩
    | false =>
      refine ⟨e.closesLast_calls.prepend hCloses, fun hLast => ?_⟩
      rw [closesDriver_append, hCloses, Bool.false_or] at hLast
      obtain ⟨hShut, hThere⟩ := e.shut_of_closes hLast
      exact ⟨hShut, Nat.lt_of_lt_of_le hThere e.length_after⟩

end Surroundings.Leads

end EventChannel
