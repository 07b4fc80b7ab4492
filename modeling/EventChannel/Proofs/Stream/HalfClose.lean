import EventChannel.Proofs.Stream.Barrier
import EventChannel.Proofs.Stream.Inlet
import EventChannel.Proofs.World.Modes

/-! A channel that is open in both directions gives one of them up when its driver has closed it.
Output that waits is written before the driver is asked to close the writing direction. A failure on
the way leaves the direction as it was. No other operation has a driver close a direction, so each
is closed at most once, and always while the other is open. -/

namespace EventChannel

namespace Channel

/-- What waits has been written, if it is the writing direction that is to be closed. -/
def Written (c : Channel) : Direction → List DriverEvent → Channel → Prop
  | .read => fun calls c' => calls = [] ∧ c' = c
  | .write => fun calls c' => c.Flushed calls none c'

/-- The channel with one direction less. No input is left where that is the reading one. -/
def narrowed (c : Channel) : Direction → Channel
  | .read => { c with mode := c.mode.without .read, input := [], eof := true }
  | .write => { c with mode := c.mode.without .write }

/-- The report of a driver that failed to close one direction. -/
def closeHalfReport (c : Channel) (d : Direction) (e : SystemError) : Report :=
  .ofSystem "conduit.channel.io"
    ("error closing " ++ d.name ++ " side of " ++ Held.quoted c.name) e

/-- What closing one of two open directions comes to: what waits fails to be written, and the driver
is not asked; or the driver refuses to close the direction; or it closes it, and may then be told
what to wait for. -/
inductive Narrowing (c : Channel) (d : Direction) :
    List DriverEvent → Except Report HalfClosed → Channel → Prop
  | unwritten {calls : List DriverEvent} {c' : Channel} (f : DriverFailure) (hWrite : d = .write)
      (flushed : c.Flushed calls (some f) c') (stays : ∀ e ∈ calls, e.call.passes = false) :
      Narrowing c d calls (.error (c.writeReport f)) c'
  | refused {first : List DriverEvent} {c₁ : Channel} (e : SystemError) (deferred : Interest)
      (written : c.Written d first c₁) (stays : ∀ e ∈ first, e.call.passes = false) :
      Narrowing c d (first ++ [⟨.closeHalf d, .error e⟩]) (.error (c.closeHalfReport d e))
        { c₁ with deferred }
  | done {first told : List DriverEvent} {c₁ : Channel} (deferred watched : Interest)
      (written : c.Written d first c₁) (stays : ∀ e ∈ first, e.call.passes = false)
      (later : ∀ e ∈ told, e.call.passes = false) :
      Narrowing c d (first ++ ⟨.closeHalf d, .ok ()⟩ :: told) (.ok .done)
        { c₁.narrowed d with deferred, watched }

end Channel

/-- Why a direction that is not open cannot be closed. -/
def Channel.halfCloseRefusal (c : Channel) (d : Direction) : Misuse :=
  if c.isOpen then .halfCloseNotOpened d.name else c.closed

/-- The driver has closed a direction. -/
def DriverEvent.closesHalf (d : Direction) : DriverEvent → Bool
  | ⟨.closeHalf side, .ok ()⟩ => side = d
  | _ => false

namespace Channel

variable {c c' c₁ : Channel} {d : Direction} {calls : List DriverEvent}
  {answer : Except Report HalfClosed}

theorem Written.rest (written : c.Written d calls c') :
    c'.name = c.name ∧ c'.isOpen = c.isOpen ∧ c'.mode = c.mode ∧ c'.inlet = c.inlet := by
  cases d with
  | read =>
    obtain ⟨-, rfl⟩ := written
    exact ⟨rfl, rfl, rfl, rfl⟩
  | write =>
    have flushed : c.Flushed calls none c' := written
    rw [flushed.rest]
    exact ⟨rfl, rfl, rfl, rfl⟩

theorem narrowed_rest (c : Channel) (d : Direction) :
    (c.narrowed d).isOpen = c.isOpen ∧ (c.narrowed d).mode = c.mode.without d ∧
      (c.narrowed d).inlet = c.inlet.sideClosed d (.ok .done) := by
  cases d <;> exact ⟨rfl, rfl, rfl⟩

theorem closesHalf_of_stays {side : Direction} (stays : ∀ e ∈ calls, e.call.passes = false) :
    calls.countP (·.closesHalf side) = 0 := by
  refine List.countP_eq_zero.2 fun ⟨call, answer⟩ hMem hCloses => ?_
  have hStays := stays _ hMem
  cases call with
  | closeHalf d => cases hStays
  | _ => cases hCloses

namespace Narrowing

/-- Whatever fails, the direction is open as before and its input is still there. -/
theorem failed {r : Report} (narrowing : c.Narrowing d calls (.error r) c') :
    c'.isOpen = c.isOpen ∧ c'.mode = c.mode ∧ c'.inlet = c.inlet ∧
      ∀ side, calls.countP (·.closesHalf side) = 0 := by
  cases narrowing with
  | unwritten f hWrite flushed stays =>
    rw [flushed.rest]
    exact ⟨rfl, rfl, rfl, fun side => closesHalf_of_stays stays⟩
  | refused e deferred written stays =>
    obtain ⟨-, hOpen, hMode, hInlet⟩ := written.rest
    refine ⟨hOpen, hMode, hInlet, fun side => ?_⟩
    rw [List.countP_append, closesHalf_of_stays stays]
    rfl

/-- Otherwise the channel is open in one direction less. Its driver has closed that one once, and no
other. -/
theorem succeeded {closed : HalfClosed} (narrowing : c.Narrowing d calls (.ok closed) c') :
    closed = .done ∧ c'.isOpen = c.isOpen ∧ c'.mode = c.mode.without d ∧
      c'.inlet = c.inlet.sideClosed d (.ok .done) ∧
      ∀ side, calls.countP (·.closesHalf side) = if side = d then 1 else 0 := by
  cases narrowing with
  | @done first told c₁ deferred watched written stays later =>
    obtain ⟨-, hOpen, hMode, hInlet⟩ := written.rest
    obtain ⟨hIsOpen, hNarrowed, hSide⟩ := c₁.narrowed_rest d
    refine ⟨rfl, hIsOpen.trans hOpen, ?_, ?_, fun side => ?_⟩
    · rw [← hMode]
      exact hNarrowed
    · rw [← hInlet]
      exact hSide
    · rw [List.countP_append, closesHalf_of_stays stays, List.countP_cons,
        closesHalf_of_stays later]
      by_cases hSame : side = d
      · simp [hSame, DriverEvent.closesHalf]
      · simp [hSame, Ne.symm hSame, DriverEvent.closesHalf]

end Narrowing

end Channel

namespace Held

variable {σ : Type} (driver : Driver σ) {h : Held (σ × List DriverEvent)}

/-- When what waits has been written, the driver is asked to close the direction. -/
theorem closeSide_narrows {c : Channel} {d : Direction} (hWritten : c.Written d h.calls h.channel)
    (stays : h.Stays) :
    c.Narrowing d (h.closeSide driver.traced d).2.calls (h.closeSide driver.traced d).1
      (h.closeSide driver.traced d).2.channel := by
  have hName := hWritten.rest.1
  unfold closeSide
  rcases hDriven : h.drive driver.traced (.closeHalf d) with ⟨answer, h₁⟩
  obtain ⟨hCalls, deferred, hChannel⟩ := drive_traced driver h hDriven
  cases answer with
  | error e =>
    dsimp only
    have hReport : c.closeHalfReport d e = h₁.channel.closeHalfReport d e := by
      rw [Channel.closeHalfReport, Channel.closeHalfReport, hChannel, ← hName]
    rw [hCalls, hChannel]
    have hRefused := Channel.Narrowing.refused e deferred hWritten stays
    rw [hReport, hChannel] at hRefused
    exact hRefused
  | ok done =>
    dsimp only
    obtain ⟨h₂, hNarrowed, hSame⟩ : ∃ h₂ : Held (σ × List DriverEvent),
        (if d = .read then
          (h₁.update fun c => { c with mode := c.mode.without d }).update
            ({ · with input := [], eof := true })
        else h₁.update fun c => { c with mode := c.mode.without d }) = h₂ ∧
        h₂.calls = h₁.calls ∧ h₂.channel = h₁.channel.narrowed d := by
      refine ⟨_, rfl, ?_⟩
      cases d <;> exact ⟨rfl, rfl⟩
    obtain ⟨told, hTold, hEach⟩ := calls_applyWatch driver (h := h₂)
    obtain ⟨deferred', watched, hLast⟩ := applyWatch_channel driver.traced h₂
    rw [hNarrowed, hTold, hLast, hSame.1, hSame.2, hCalls, hChannel, List.append_assoc]
    have hDone := Channel.Narrowing.done deferred' watched hWritten stays
      fun e hMem => (hEach e hMem).1
    have hDeferred : { h.channel.narrowed d with deferred := deferred', watched } =
        { Channel.narrowed { h.channel with deferred } d with deferred := deferred', watched } := by
      cases d <;> rfl
    rw [hDeferred] at hDone
    exact hDone

/-- What closing one of two open directions comes to. -/
theorem closeHalf_narrows {d : Direction} (hNone : h.calls = [])
    (hOpen : h.channel.isOpen = true) (hHas : h.channel.mode.has d = true)
    (hLast : h.channel.mode.without d ≠ .none) :
    h.channel.Narrowing d (h.closeHalf driver.traced d).2.calls (h.closeHalf driver.traced d).1
      (h.closeHalf driver.traced d).2.channel := by
  have stays : h.Stays := fun e hMem => by
    rw [hNone] at hMem
    cases hMem
  cases d with
  | read =>
    rw [closeHalf_read hOpen hHas hLast]
    exact closeSide_narrows driver ⟨hNone, rfl⟩ stays
  | write =>
    obtain ⟨first, hFirst, flushed⟩ := flush_traced driver h hOpen
    have hStays := stays.flush driver
    rw [hNone, List.nil_append] at hFirst
    rw [closeHalf_write hOpen hHas hLast]
    generalize h.flush driver.traced = r at hFirst flushed hStays ⊢
    obtain ⟨_ | f, h₁⟩ := r
    · exact closeSide_narrows driver (hFirst ▸ flushed) hStays
    · have hName : h₁.channel.name = h.channel.name := by rw [flushed.rest]
      have hUnwritten := Channel.Narrowing.unwritten f rfl flushed (hFirst ▸ hStays)
      rw [Channel.writeReport, ← hName, ← hFirst] at hUnwritten
      exact hUnwritten

namespace Stays

theorem asked (stays : h.Stays) (call : DriverCall) (hStays : call.passes = false) :
    (h.drive driver.traced call).2.Stays :=
  stays.drive driver hStays

/-- Only the calls matter. -/
theorem of_calls (stays : h.Stays) {h' : Held (σ × List DriverEvent)}
    (hCalls : h'.calls = h.calls) : h'.Stays :=
  fun e hMem => stays e (hCalls ▸ hMem)

theorem read (stays : h.Stays) (n : Nat) : (h.read driver.traced n).2.Stays := by
  obtain ⟨calls, hCalls, effect⟩ := read_shows driver h n
  have hEach : ∀ e ∈ calls, e.call.passes = false := by
    intro e hMem
    generalize (h.read driver.traced n).1 = answer,
      (h.read driver.traced n).2.channel = c' at effect
    cases effect with
    | misused | buffered => cases hMem
    | given | waits | fails => rw [List.mem_singleton.1 hMem]; rfl
  intro e hMem
  rw [hCalls] at hMem
  exact (List.mem_append.1 hMem).elim (stays e) (hEach e)

theorem write (stays : h.Stays) (bytes : Bytes) (force : Bool) :
    (h.write driver.traced bytes force).2.Stays := by
  unfold Held.write
  split
  · exact stays
  split
  · exact stays
  split
  · exact stays.of_calls rfl
  have hPushed : (h.update fun c => { c with output := c.output.push bytes }).Stays :=
    stays.of_calls rfl
  dsimp only
  split
  · have hFlushed := hPushed.flush driver
    generalize Held.flush driver.traced _ = r at hFlushed ⊢
    obtain ⟨_ | f, h₁⟩ := r
    · exact hFlushed
    · exact hFlushed
  · exact hPushed

theorem flushInBackground (stays : h.Stays) (raised : Interest) :
    (h.flushInBackground driver.traced raised).Stays := by
  unfold Held.flushInBackground
  split
  · have hFlushed := stays.flush driver
    generalize h.flush driver.traced = r at hFlushed ⊢
    obtain ⟨_ | f, h₁⟩ := r
    · exact hFlushed
    · exact hFlushed.of_calls rfl
  · exact stays

theorem setBlocking (stays : h.Stays) (on : Bool) :
    (h.setBlocking driver.traced on).2.Stays := by
  unfold Held.setBlocking
  split
  · exact stays
  have hAsked := stays.asked driver (.setBlocking on) rfl
  generalize h.drive driver.traced _ = r at hAsked ⊢
  obtain ⟨e | done, h₁⟩ := r
  · exact hAsked
  · exact applyWatch driver (hAsked.of_calls rfl)

theorem getOption (stays : h.Stays) (dns : Bool) (name : String) :
    (h.getOption driver.traced dns name).2.Stays := by
  unfold Held.getOption
  split
  · exact stays
  · exact stays
  · split
    · exact stays
    have hAsked := stays.asked driver (.getOption dns (some name)) rfl
    generalize h.drive driver.traced _ = r at hAsked ⊢
    obtain ⟨_ | _, h₁⟩ := r
    · exact hAsked
    · exact hAsked

theorem getOptions (stays : h.Stays) (dns : Bool) :
    (h.getOptions driver.traced dns).2.Stays := by
  unfold Held.getOptions
  split
  · exact stays
  have hAsked := stays.asked driver (.getOption dns none) rfl
  generalize h.drive driver.traced _ = r at hAsked ⊢
  obtain ⟨_ | _, h₁⟩ := r
  · exact hAsked
  · exact hAsked

theorem setOption (stays : h.Stays) (name value : String) :
    (h.setOption driver.traced name value).2.Stays := by
  unfold Held.setOption
  split
  · split
    · exact stays
    · exact stays.setBlocking driver _
  · split
    · exact stays
    · exact stays.of_calls rfl
  · split
    · exact stays
    have hAsked := stays.asked driver (.setOption name value) rfl
    generalize h.drive driver.traced _ = r at hAsked ⊢
    obtain ⟨_ | _, h₁⟩ := r
    · exact hAsked
    · exact hAsked

theorem shut (stays : h.Stays) : (h.shut driver.traced).2.Stays := by
  have hGivenUp {h₁ : Held (σ × List DriverEvent)} (hWritten : h₁.Stays) :
      (((h₁.update Channel.givenUp).drive driver.traced (.watch .none)).2.drive driver.traced
        .close).2.Stays := by
    have hDropped : (h₁.update Channel.givenUp).Stays := hWritten.of_calls rfl
    exact (hDropped.asked driver (.watch .none) rfl).asked driver .close rfl
  unfold Held.shut
  split
  · exact stays
  · refine hGivenUp ?_
    split
    · exact stays
    · exact stays.flush driver

end Stays

/-- An operation that closes no direction does not have the driver do so. -/
theorem perform_closesHalf {op : ChannelOp} (hOther : ∀ d, op ≠ .closeHalf d) (hNone : h.calls = [])
    (d : Direction) : (h.perform driver.traced op).2.calls.countP (·.closesHalf d) = 0 := by
  have stays : h.Stays := fun e hMem => by
    rw [hNone] at hMem
    cases hMem
  cases op with
  | seek target =>
    obtain ⟨failure?, passage, -⟩ :=
      perform_passage driver h (show (ChannelOp.seek target).passage? = some _ from rfl) hNone
    generalize (h.perform driver.traced (.seek target)).2.calls = calls at passage ⊢
    cases passage with
    | kept => rfl
    | failed f flushed stays => exact Channel.closesHalf_of_stays stays
    | went answer left stream refused failures stays rest =>
      rw [List.countP_append, List.countP_cons, Channel.closesHalf_of_stays stays,
        Channel.closesHalf_of_stays fun e hMem => (rest e hMem).1]
      rfl
  | tell =>
    show (h.tell driver.traced).2.calls.countP (·.closesHalf d) = 0
    have hAsked : (h.drive driver.traced (.seek (.current 0))).2.calls =
        h.calls ++ [⟨.seek (.current 0), (driver (.seek (.current 0)) h.env.1).answer⟩] := rfl
    unfold tell
    split
    · rw [hNone]
      rfl
    · rw [hNone] at hAsked
      generalize h.drive driver.traced _ = r at hAsked ⊢
      obtain ⟨_ | _, h₁⟩ := r <;> exact hAsked ▸ rfl
  | closeHalf side => exact absurd rfl (hOther side)
  | read n => exact Channel.closesHalf_of_stays (stays.read driver n)
  | write bytes force => exact Channel.closesHalf_of_stays (stays.write driver bytes force)
  | setBlocking on => exact Channel.closesHalf_of_stays (stays.setBlocking driver on)
  | createHandler mask callback =>
    exact Channel.closesHalf_of_stays (Stays.applyWatch driver (stays.of_calls rfl))
  | deleteHandler id =>
    exact Channel.closesHalf_of_stays (Stays.applyWatch driver (stays.of_calls rfl))
  | getOption dns name => exact Channel.closesHalf_of_stays (stays.getOption driver dns name)
  | getOptions dns => exact Channel.closesHalf_of_stays (stays.getOptions driver dns)
  | setOption name value => exact Channel.closesHalf_of_stays (stays.setOption driver name value)
  | cut =>
    show (h.cut driver.traced).calls.countP (·.closesHalf d) = 0
    unfold cut
    split
    · exact Channel.closesHalf_of_stays (stays.asked driver .cut rfl)
    · exact Channel.closesHalf_of_stays stays
  | splice loop =>
    show (h.splice driver.traced loop).calls.countP (·.closesHalf d) = 0
    unfold splice
    split
    · have hMoved := stays.asked driver (.splice loop) rfl
      exact Channel.closesHalf_of_stays (hMoved.asked driver (.watch _) rfl)
    · exact Channel.closesHalf_of_stays stays
  | shut => exact Channel.closesHalf_of_stays (stays.shut driver)

/-- A direction that is not open is not closed. -/
theorem closeHalf_refused {driver : Driver σ} {h : Held σ} {d : Direction}
    (hNot : h.channel.isOpenFor d = false) :
    h.closeHalf driver d = (.error (.ofMisuse (h.channel.halfCloseRefusal d)), h) := by
  unfold closeHalf Channel.halfCloseRefusal
  cases hOpen : h.channel.isOpen with
  | false => rfl
  | true =>
    have hHas : h.channel.mode.has d = false := by
      rw [Channel.isOpenFor, hOpen] at hNot
      exact hNot
    rw [hHas]
    rfl

/-- The last direction is left to be closed with the channel. -/
theorem closeHalf_last {driver : Driver σ} {h : Held σ} {d : Direction}
    (hOpen : h.channel.isOpenFor d = true) (hLast : h.channel.mode.without d = .none) :
    h.closeHalf driver d = (.ok .last, h) := by
  obtain ⟨hIsOpen, hHas⟩ := (Bool.and_eq_true _ _ ▸ hOpen :
    h.channel.isOpen = true ∧ h.channel.mode.has d = true)
  unfold closeHalf
  rw [hIsOpen, hHas, hLast]
  rfl

end Held

namespace Step

variable {σ α : Type} {s : Surroundings σ} {w : World σ} {id : ChannelId} {d : Direction}

/-- What closing one of two open directions comes to. -/
theorem closeHalf_narrows (hOpen : (w.channel id).isOpenFor d = true)
    (hLast : (w.channel id).mode.without d ≠ .none) :
    ∃ c', (w.channel id).Narrowing d ((Step.hold id (.closeHalf d)).calls s id w)
        ((Step.hold id (.closeHalf d)).run s w).1.1 c' ∧
      ((Step.hold id (.closeHalf d)).run s w).2.channel id = { c' with deferred := .none } := by
  obtain ⟨hIsOpen, hHas⟩ := (Bool.and_eq_true _ _ ▸ hOpen :
    (w.channel id).isOpen = true ∧ (w.channel id).mode.has d = true)
  have narrowing := Held.closeHalf_narrows (s.driver id) (h := (w.held id).recording) rfl
    hIsOpen hHas hLast
  have hErase := Held.erase_perform (s.driver id) (w.held id).recording (.closeHalf d)
  rw [Held.erase_recording] at hErase
  refine ⟨_, ?_, channel_hold s w (.closeHalf d) (World.exists_of_isOpen hIsOpen)⟩
  have hAnswer : ((Step.hold id (.closeHalf d)).run s w).1.1 =
      ((w.held id).recording.closeHalf (s.driver id).traced d).1 := congrArg Prod.fst hErase
  rw [calls, if_pos rfl, hAnswer]
  exact narrowing

/-- Where nothing is closed, what was put off comes out, and that is all. -/
theorem closeHalf_released {answer : Except Report HalfClosed}
    (hSame : ∀ {σ : Type} {driver : Driver σ} {h : Held σ}, h.channel = w.channel id →
      h.closeHalf driver d = (answer, h)) :
    (Step.hold id (.closeHalf d)).run s w = ((answer, (w.channel id).deferred),
        w.modifyChannel id ({ · with deferred := .none })) ∧
      ∀ j, (Step.hold id (.closeHalf d)).calls s j w = [] := by
  refine ⟨run_hold_idle (hSame rfl), fun j => ?_⟩
  rw [calls]
  split
  · next hId =>
    subst hId
    have hKept : (w.held id).recording.closeHalf (s.driver id).traced d =
        (answer, (w.held id).recording) := hSame rfl
    rw [Held.perform, hKept]
    rfl
  · rfl

theorem closeHalf_refused (hNot : (w.channel id).isOpenFor d = false) :
    (Step.hold id (.closeHalf d)).run s w =
        ((.error (.ofMisuse ((w.channel id).halfCloseRefusal d)), (w.channel id).deferred),
          w.modifyChannel id ({ · with deferred := .none })) ∧
      ∀ j, (Step.hold id (.closeHalf d)).calls s j w = [] := by
  refine closeHalf_released fun {σ driver h} hChannel => ?_
  rw [← hChannel] at hNot ⊢
  exact Held.closeHalf_refused hNot

theorem closeHalf_last (hOpen : (w.channel id).isOpenFor d = true)
    (hLast : (w.channel id).mode.without d = .none) :
    (Step.hold id (.closeHalf d)).run s w = ((.ok .last, (w.channel id).deferred),
        w.modifyChannel id ({ · with deferred := .none })) ∧
      ∀ j, (Step.hold id (.closeHalf d)).calls s j w = [] := by
  refine closeHalf_released fun {σ driver h} hChannel => ?_
  rw [← hChannel] at hOpen hLast
  exact Held.closeHalf_last hOpen hLast

/-- A driver closes a direction when it is to be closed and the other one stays open. Then it is
closed for good. -/
theorem closesHalf_run (t : Step σ α) (hExists : id < w.channels.length) (d : Direction) :
    (t.calls s id w).countP (·.closesHalf d) = 0 ∨
      (t.calls s id w).countP (·.closesHalf d) = 1 ∧ (w.channel id).isOpenFor d = true ∧
        (w.channel id).mode.without d ≠ .none ∧
        ((t.run s w).2.channel id).isOpenFor d = false := by
  by_cases hMoves : t.Moves id
  · cases t with
    | raise j raised =>
      obtain rfl : j = id := hMoves
      have stays : (w.held j).recording.Stays := fun e hMem => by cases hMem
      rw [calls, if_pos rfl]
      exact .inl (Channel.closesHalf_of_stays (stays.flushInBackground (s.driver j) raised))
    | hold j op =>
      obtain rfl : j = id := hMoves
      by_cases hOther : ∀ side, op ≠ .closeHalf side
      · rw [calls, if_pos rfl]
        exact .inl (Held.perform_closesHalf (s.driver j) hOther rfl d)
      obtain ⟨side, rfl⟩ : ∃ side, op = .closeHalf side := by simpa using hOther
      by_cases hOpen : (w.channel j).isOpenFor side = true
      · by_cases hLast : (w.channel j).mode.without side = .none
        · rw [(closeHalf_last (s := s) hOpen hLast).2]
          exact .inl rfl
        obtain ⟨c', narrowing, hChannel⟩ := closeHalf_narrows (s := s) hOpen hLast
        rw [hChannel]
        generalize ((Step.hold j (.closeHalf side)).run s w).1.1 = answer at narrowing
        cases answer with
        | error r => exact .inl (narrowing.failed.2.2.2 d)
        | ok closed =>
          obtain ⟨-, -, hMode, -, hCount⟩ := narrowing.succeeded
          by_cases hSide : d = side
          · subst hSide
            refine .inr ⟨(hCount d).trans (if_pos rfl), hOpen, hLast, ?_⟩
            show (c'.isOpen && c'.mode.has d) = false
            rw [hMode, Mode.has_without_self, Bool.and_false]
          · exact .inl ((hCount d).trans (if_neg hSide))
      · rw [(closeHalf_refused (s := s) (Bool.eq_false_iff.2 hOpen)).2]
        exact .inl rfl
    | _ => exact hMoves.elim
  · refine .inl (Channel.closesHalf_of_stays fun e hMem => ?_)
    cases t with
    | hold j op =>
      rw [calls, if_neg (show j ≠ id from hMoves)] at hMem
      cases hMem
    | raise j raised =>
      rw [calls, if_neg (show j ≠ id from hMoves)] at hMem
      cases hMem
    | handle j side =>
      rw [calls] at hMem
      split at hMem
      · rw [List.mem_singleton.1 (show e ∈ [_] from hMem)]
        rfl
      · cases hMem
    | «open» c =>
      rw [calls] at hMem
      split at hMem
      · rw [List.mem_singleton.1 hMem]
        rfl
      · cases hMem
    | _ => cases hMem

end Step

/-- Along a history each direction is closed once at most, and always while the other is open. -/
theorem Surroundings.Leads.closesHalf {σ : Type} {s : Surroundings σ} {w w' : World σ}
    {id : ChannelId} {events : List (Event σ)} (history : s.Leads w events w')
    (hExists : id < w.channels.length) (d : Direction) :
    (events.flatMap (·.calls s id)).countP (·.closesHalf d) ≤ 1 ∧
      ((w'.channel id).isOpenFor d = true →
        (events.flatMap (·.calls s id)).countP (·.closesHalf d) = 0) ∧
      ∀ e ∈ events, 0 < (e.calls s id).countP (·.closesHalf d) →
        (e.before.channel id).isOpenFor d = true ∧
          (e.before.channel id).mode.without d ≠ .none := by
  induction history with
  | refl => exact ⟨Nat.zero_le _, fun _ => rfl, fun e hMem => by cases hMem⟩
  | @snoc events e prior ih =>
    obtain ⟨hOnce, hNone, hEach⟩ := ih
    have hThere := Nat.lt_of_lt_of_le hExists prior.length
    rw [List.flatMap_append, List.countP_append, List.flatMap_singleton]
    have hLast : (e.calls s id).countP (·.closesHalf d) = 0 ∨
        (e.calls s id).countP (·.closesHalf d) = 1 ∧ (e.before.channel id).isOpenFor d = true ∧
          (e.before.channel id).mode.without d ≠ .none ∧
          ((e.after s).channel id).isOpenFor d = false := by
      cases e with
      | made t v => exact t.closesHalf_run hThere d
      | called c v => exact .inl rfl
    have hBefore (hOpen : ((e.after s).channel id).isOpenFor d = true) :=
      e.isOpenFor_after hThere hOpen
    rcases hLast with hLast | ⟨hLast, hOpen, hOther, hShut⟩
    · rw [hLast]
      refine ⟨hOnce, fun hOpen => hNone (hBefore hOpen), fun e' hMem hCloses => ?_⟩
      rcases List.mem_append.1 hMem with hMem | hMem
      · exact hEach e' hMem hCloses
      · rw [List.mem_singleton.1 hMem, hLast] at hCloses
        cases hCloses
    · rw [hNone hOpen, hLast]
      refine ⟨Nat.le_refl _, fun hOpen => ?_, fun e' hMem hCloses => ?_⟩
      · rw [hShut] at hOpen
        cases hOpen
      · rcases List.mem_append.1 hMem with hMem | hMem
        · exact hEach e' hMem hCloses
        · rw [List.mem_singleton.1 hMem]
          exact ⟨hOpen, hOther⟩

end EventChannel
