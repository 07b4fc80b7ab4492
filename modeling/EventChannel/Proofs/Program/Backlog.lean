import EventChannel.Proofs.Program.Watch
import EventChannel.Proofs.Stream.Output

/-! Output that the driver did not take when it was offered is written in the background, as long as
it is not all taken and the channel does not wait for its driver. A switch to blocking mode ends
this, and a switch back does not take it up again: what was left then waits for the next attempt. -/

namespace EventChannel

variable {σ α : Type}

namespace Channel

/-- Output is left, and the channel does not wait until its driver takes it. -/
structure Backlog (c : Channel) : Prop where
  left : c.output.toBytes ≠ []
  blocking : c.blocking = false

instance (c : Channel) : Decidable c.Backlog :=
  decidable_of_iff (c.output.toBytes ≠ [] ∧ c.blocking = false)
    ⟨fun ⟨left, blocking⟩ => ⟨left, blocking⟩, fun backlog => ⟨backlog.left, backlog.blocking⟩⟩

/-- Only a backlog is written in the background. -/
def Mindful (c : Channel) : Prop := c.flushPending = true → c.Backlog

/-- A backlog is written in the background exactly if it was so before or has just been offered to
the driver. -/
def Minds (c : Channel) (calls : List DriverEvent) (c' : Channel) : Prop :=
  c'.flushPending = true ↔ c'.Backlog ∧ (c.flushPending = true ∨ calls.any (·.isOutput) = true)

variable {c c₁ c' : Channel} {calls first second : List DriverEvent}

theorem backlog_congr (hOutput : c'.output = c.output) (hBlocking : c'.blocking = c.blocking) :
    c'.Backlog ↔ c.Backlog := by
  constructor
  · exact fun backlog => ⟨hOutput ▸ backlog.left, hBlocking ▸ backlog.blocking⟩
  · exact fun backlog => ⟨hOutput ▸ backlog.left, hBlocking ▸ backlog.blocking⟩

theorem Minds.mindful (minds : c.Minds calls c') : c'.Mindful :=
  fun hPending => (minds.1 hPending).1

theorem any_isOutput_control (control : Control calls) : calls.any (·.isOutput) = false :=
  List.any_eq_false.2 fun e hMem => by simp [(control e hMem).2]

/-- Where nothing is offered and the output is kept, all stays as it was. -/
theorem minds_of_kept (mindful : c.Mindful) (hSilent : calls.any (·.isOutput) = false)
    (hPending : c'.flushPending = c.flushPending) (hKept : c.Backlog → c'.Backlog) :
    c.Minds calls c' := by
  rw [Minds, hSilent, hPending]
  constructor
  · exact fun hBefore => ⟨hKept (mindful hBefore), .inl hBefore⟩
  · rintro ⟨-, hBefore | hNot⟩
    · exact hBefore
    · cases hNot

theorem Minds.congr (minds : c.Minds calls c₁) (hPending : c'.flushPending = c₁.flushPending)
    (hOutput : c'.output = c₁.output) (hBlocking : c'.blocking = c₁.blocking) :
    c.Minds calls c' := by
  rw [Minds, hPending, backlog_congr hOutput hBlocking]
  exact minds

/-- Calls that offer nothing may follow. -/
theorem Minds.append (minds : c.Minds first c₁) (control : Control second) :
    c.Minds (first ++ second) c₁ := by
  rw [Minds, List.any_append, any_isOutput_control control, Bool.or_false]
  exact minds

/-- An attempt to write output has offered whatever it leaves. -/
theorem Flushed.minds {failure? : Option DriverFailure} (flushed : c.Flushed calls failure? c') :
    c.Minds calls c' := by
  have hBlocking : c'.blocking = c.blocking := by rw [flushed.rest]
  have hPending : c'.flushPending = true ↔ c'.Backlog := by
    rw [flushed.pending, Bool.and_eq_true, Bool.not_eq_true', Bool.not_eq_true',
      ← Bool.not_eq_true, ByteQueue.isEmpty_iff, ← hBlocking]
    exact ⟨fun ⟨hLeft, hMode⟩ => ⟨hLeft, hMode⟩, fun backlog => ⟨backlog.left, backlog.blocking⟩⟩
  constructor
  · intro hAfter
    have backlog := hPending.1 hAfter
    refine ⟨backlog, .inr ?_⟩
    cases failure? with
    | some f => exact absurd (flushed.emptied rfl) backlog.left
    | none =>
      obtain ⟨e, hMem, hRefuses⟩ := flushed.refused rfl backlog.left
      refine List.any_eq_true.2 ⟨e, hMem, ?_⟩
      obtain ⟨call, answer⟩ := e
      cases call with
      | output bytes => rfl
      | _ => cases hRefuses
  · exact fun h => hPending.2 h.1

theorem Cleared.minds (mindful : c.Mindful) (cleared : c.Cleared calls c') : c.Minds calls c' := by
  rcases cleared with ⟨rfl, rfl⟩ | flushed
  · exact minds_of_kept mindful rfl rfl id
  · exact flushed.minds

/-- A switch to blocking mode ends the writing in the background; nothing else does that moves no
bytes. -/
theorem Calm.minds {callback? : Option Callback} (mindful : c.Mindful)
    (calm : c.Calm callback? calls c') : c.Minds calls c' := by
  have hOutput : c'.output = c.output := by rw [calm.rest]
  have hSilent := any_isOutput_control calm.control
  rcases calm.minded with ⟨hPending, hBlocking⟩ | hPending
  · exact minds_of_kept mindful hSilent hPending (backlog_congr hOutput hBlocking).2
  · rw [Minds, hSilent, hPending, Bool.and_eq_true, Bool.not_eq_true']
    constructor
    · rintro ⟨hBefore, hBlocking⟩
      exact ⟨⟨hOutput ▸ (mindful hBefore).left, hBlocking⟩, .inl hBefore⟩
    · rintro ⟨backlog, hBefore | hNot⟩
      · exact ⟨hBefore, backlog.blocking⟩
      · cases hNot

theorem WriteEffect.minds {bytes : Bytes} {force : Bool} {answer : Except TransferFailure Unit}
    (mindful : c.Mindful) (effect : c.WriteEffect bytes force calls answer c') :
    c.Minds calls c' := by
  cases effect with
  | misused m hNot => exact minds_of_kept mindful rfl rfl id
  | unreported f hParked =>
    exact minds_of_kept mindful rfl rfl fun backlog => ⟨backlog.left, backlog.blocking⟩
  | kept hParked hForce =>
    refine minds_of_kept mindful rfl rfl fun backlog => ⟨?_, backlog.blocking⟩
    simp [backlog.left]
  | written hParked flushed => exact flushed.minds
  | failed f hParked flushed => exact flushed.minds

/-- Every operation that leaves the channel open minds the output that it leaves. -/
theorem Effect.minds {op : ChannelOp} {answer : op.Answer} (mindful : c.Mindful)
    (effect : c.Effect op calls answer c') (hOpen : c'.isOpen = true) : c.Minds calls c' := by
  cases op with
  | read n =>
    have hKept (input : Bytes) (eof blocked : Bool) (deferred : Interest) :
        c.Backlog → Backlog { c with input, eof, blocked, deferred } :=
      fun backlog => ⟨backlog.left, backlog.blocking⟩
    cases effect with
    | misused m hNot => exact minds_of_kept mindful rfl rfl id
    | buffered hInput => exact minds_of_kept mindful rfl rfl (hKept _ _ _ _)
    | given hInput bytes deferred => exact minds_of_kept mindful rfl rfl (hKept _ _ _ _)
    | waits hInput f hWait deferred => exact minds_of_kept mindful rfl rfl (hKept _ _ _ _)
    | fails hInput f hWait deferred => exact minds_of_kept mindful rfl rfl (hKept _ _ _ _)
  | write bytes force => exact WriteEffect.minds mindful effect
  | seek target =>
    cases effect with
    | failed f flushed => exact flushed.minds
    | went answer input eof deferred cleared control =>
      exact ((cleared.minds mindful).append control).congr rfl rfl rfl
  | closeHalf d =>
    cases effect with
    | unchanged => exact minds_of_kept mindful rfl rfl id
    | failed f hWrite flushed => exact flushed.minds
    | went answer cleared control kept mode rest =>
      exact ((cleared.minds mindful).append control).congr (by rw [rest]) (by rw [rest])
        (by rw [rest])
  | shut =>
    have hShut : c'.isOpen = false := ShutEffect.isOpen effect
    rw [hShut] at hOpen
    cases hOpen
  | setBlocking | createHandler | deleteHandler => exact effect.1.minds mindful
  | tell | getOption | getOptions | setOption | cut | splice => exact Calm.minds mindful effect

theorem RaiseEffect.minds (mindful : c.Mindful) (effect : c.RaiseEffect calls c') :
    c.Minds calls c' := by
  cases effect with
  | idle => exact minds_of_kept mindful rfl rfl id
  | written hPending flushed => exact flushed.minds
  | failed f hPending flushed => exact flushed.minds.congr rfl rfl rfl

end Channel

variable {s : Surroundings σ} {w w' : World σ} {id : ChannelId} {events : List (Event σ)}

/-- Every step that leaves a channel open minds the output that it leaves. -/
theorem Step.minds_run (t : Step σ α) (hExists : id < w.channels.length)
    (hOpen : ((t.run s w).2.channel id).isOpen = true) (mindful : (w.channel id).Mindful) :
    (w.channel id).Minds (t.calls s id w) ((t.run s w).2.channel id) := by
  have hApart (hMoves : ¬t.Moves id) :
      (w.channel id).Minds (t.calls s id w) ((t.run s w).2.channel id) := by
    have hRest := Channel.of_bare (t.bare_run s w hExists hMoves)
    refine Channel.minds_of_kept mindful
      (Channel.any_isOutput_control (t.calls_control s w hMoves)) (by rw [hRest]) ?_
    exact (Channel.backlog_congr (by rw [hRest]) (by rw [hRest])).2
  cases t with
  | hold j op =>
    by_cases hId : j = id
    · subst hId
      obtain ⟨c', hEffect, hChannel⟩ := Step.hold_shows s w op hExists
      rw [hChannel] at hOpen ⊢
      have minds := hEffect.minds mindful hOpen
      exact minds.congr rfl rfl rfl
    · exact hApart hId
  | raise j raised =>
    by_cases hId : j = id
    · subst hId
      exact (Step.raise_shows s w raised hExists).1.minds mindful
    · exact hApart hId
  | _ => exact hApart fun hMoves => hMoves

namespace Event

/-- In the event the driver of a channel is offered output. -/
def Offers (s : Surroundings σ) (id : ChannelId) (e : Event σ) : Prop :=
  (e.calls s id).any (·.isOutput) = true

instance (e : Event σ) : Decidable (e.Offers s id) :=
  inferInstanceAs (Decidable ((e.calls s id).any (·.isOutput) = true))

theorem minds_after (e : Event σ) (hExists : id < e.before.channels.length)
    (hOpen : ((e.after s).channel id).isOpen = true) (mindful : (e.before.channel id).Mindful) :
    (e.before.channel id).Minds (e.calls s id) ((e.after s).channel id) := by
  cases e with
  | made t w => exact t.minds_run hExists hOpen mindful
  | called c w => exact Channel.minds_of_kept mindful rfl rfl fun backlog => backlog

end Event

/-- The driver of a channel was offered output and did not take all of it, and ever since then some
is left and the channel does not wait for its driver. -/
def LeftOver (s : Surroundings σ) (id : ChannelId) (events : List (Event σ)) : Prop :=
  ∃ before e after, events = before ++ e :: after ∧ e.Offers s id ∧
    ∀ e' ∈ e :: after, ((e'.after s).channel id).Backlog

/-- What is left over after one more event was so before or is so since that event. -/
theorem leftOver_concat (e : Event σ) :
    LeftOver s id (events ++ [e]) ↔
      ((e.after s).channel id).Backlog ∧ (LeftOver s id events ∨ e.Offers s id) := by
  constructor
  · rintro ⟨before, first, after, hSplit, hOffers, hSince⟩
    rcases List.eq_nil_or_concat after with rfl | ⟨rest, last, rfl⟩
    · obtain ⟨-, hLast⟩ := List.append_inj' hSplit rfl
      obtain rfl : e = first := by simpa using hLast
      exact ⟨hSince e (List.mem_singleton_self e), .inr hOffers⟩
    · rw [List.concat_eq_append, ← List.cons_append, ← List.append_assoc] at hSplit
      obtain ⟨hEvents, hLast⟩ := List.append_inj' hSplit rfl
      obtain rfl : e = last := by simpa using hLast
      refine ⟨hSince e (by simp), .inl ⟨before, first, rest, hEvents, hOffers, fun e' hMem => ?_⟩⟩
      exact hSince e' (by simpa using (List.mem_cons.1 hMem).imp_right .inl)
  · rintro ⟨backlog, ⟨before, first, after, rfl, hOffers, hSince⟩ | hOffers⟩
    · refine ⟨before, first, after ++ [e], by simp, hOffers, fun e' hMem => ?_⟩
      rcases List.mem_append.1 (List.cons_append .. ▸ hMem) with hMem | hMem
      · exact hSince e' hMem
      · rwa [List.mem_singleton.1 hMem]
    · refine ⟨events, e, [], rfl, hOffers, fun e' hMem => ?_⟩
      rwa [List.mem_singleton.1 hMem]

/-- As long as a channel is open, output is to be written in the background exactly if some is left
over. -/
theorem Surroundings.Leads.pending_iff (history : s.Leads w events w')
    (hExists : id < w.channels.length) (hStart : (w.channel id).flushPending = false)
    (hOpen : (w'.channel id).isOpen = true) :
    (w'.channel id).Mindful ∧ ((w'.channel id).flushPending = true ↔ LeftOver s id events) := by
  induction history with
  | refl =>
    constructor
    · intro hPending
      rw [hStart] at hPending
      cases hPending
    · rw [hStart]
      constructor
      · exact fun hNot => by cases hNot
      · rintro ⟨before, e, after, hSplit, -⟩
        simp at hSplit
  | snoc e prior ih =>
    have hThere := Nat.lt_of_lt_of_le hExists prior.length
    have hBefore : (e.before.channel id).isOpen = true := by
      cases hShut : (e.before.channel id).isOpen with
      | true => rfl
      | false => exact (e.shut_after hThere hShut).symm.trans hOpen
    obtain ⟨mindful, hPending⟩ := ih hBefore
    have minds := e.minds_after hThere hOpen mindful
    refine ⟨minds.mindful, ?_⟩
    rw [leftOver_concat, ← hPending]
    exact minds

/-- From the time a channel is opened on, and as long as it is open and handlers are taken away by
closing alone, its driver was told last to wait for writing exactly if a handler waits for it or
output is left over: once it has been offered to the driver, and as long as some of it is left and
the channel has not been made to wait for its driver. -/
theorem leftover_awaited {s : Setting σ} {p : Program σ α} (unused : (w.channel id).Unused)
    (orderly : s.Orderly id) (hOrderly : p.Orderly id False) (run : s.Begins p w events w')
    (hOpen : (w'.channel id).isOpen = true) :
    (toldMask s.toSurroundings id events).writable = true ↔
      (w'.channel id).handlerMask.writable = true ∨ LeftOver s.toSurroundings id events := by
  have hExists := World.exists_of_isOpen unused.isOpen
  have hClears := run.clears_shut orderly hOrderly False.elim hExists
  obtain ⟨-, hWanted⟩ := (run.leads.follows hExists hClears unused.follows).opened hOpen
  obtain ⟨-, hPending⟩ := run.leads.pending_iff hExists unused.flushPending hOpen
  rw [toldMask, ← hWanted, Channel.wantedMask, ← hPending]
  cases (w'.channel id).flushPending <;> simp [Interest.writing]

/-- The driver that does not take the byte is left to wait for room for it. -/
theorem leftover_awaited_reluctant :
    ∃ events w', reluctantSetting.Begins reluctantProgram
        (World.openChannel reluctantSetting.toSurroundings { env := () } reluctantChannel).2
        events w' ∧
      (toldMask reluctantSetting.toSurroundings 0 events).writable = true ∧
      LeftOver reluctantSetting.toSurroundings 0 events := by
  let opened := World.openChannel reluctantSetting.toSurroundings { env := () } reluctantChannel
  have hTrace : (reluctantSetting.trace 3 reluctantProgram opened.2).any (fun r =>
      decide ((r.2.2.channel 0).isOpen = true ∧ (r.2.2.channel 0).handlerMask.writable = false ∧
        (toldMask reluctantSetting.toSurroundings 0 r.1).writable = true)) = true := by
    decide +kernel
  obtain ⟨events, answer, w', run, hChecked⟩ := Setting.exists_runs hTrace
  obtain ⟨hOpen, hHandlers, hTold⟩ := of_decide_eq_true hChecked
  have unused : (opened.2.channel 0).Unused :=
    World.unused_openChannel (c := reluctantChannel) ⟨rfl, rfl, rfl, rfl⟩
  have awaited :=
    leftover_awaited unused orderly_reluctantSetting orderly_reluctantProgram run.begins hOpen
  refine ⟨events, w', run.begins, hTold, ?_⟩
  rcases awaited.1 hTold with hHandled | leftOver
  · rw [hHandlers] at hHandled
    cases hHandled
  · exact leftOver

/-- The channel is made to wait for its driver and then not to wait, while a byte is left. -/
def togglingProgram : Program Unit (Except Report Unit) := do
  let _ ← Program.setBlocking 0 false
  let _ ← Program.write 0 [1]
  let _ ← Program.flush 0
  let _ ← Program.setBlocking 0 true
  Program.setBlocking 0 false

/-- A flush without waiting has left a byte, which is there to the end. The channel is open for
writing and does not wait for its driver, but its driver is not to wait for room. -/
theorem leftover_forgotten :
    ∃ before e after w', reluctantSetting.Begins togglingProgram
        (World.openChannel reluctantSetting.toSurroundings { env := () } reluctantChannel).2
        (before ++ e :: after) w' ∧
      e.Offers reluctantSetting.toSurroundings 0 ∧
      ((e.after reluctantSetting.toSurroundings).channel 0).Backlog ∧
      (∀ e' ∈ after,
        ((e'.after reluctantSetting.toSurroundings).channel 0).output.toBytes ≠ []) ∧
      (w'.channel 0).isOpenFor .write = true ∧ (w'.channel 0).blocking = false ∧
      (toldMask reluctantSetting.toSurroundings 0 (before ++ e :: after)).writable = false := by
  let opened := World.openChannel reluctantSetting.toSurroundings { env := () } reluctantChannel
  have hTrace : (reluctantSetting.trace 1 togglingProgram opened.2).any (fun r =>
      match r.1.drop 3 with
      | [] => false
      | e :: after => decide (
        e.Offers reluctantSetting.toSurroundings 0 ∧
        ((e.after reluctantSetting.toSurroundings).channel 0).Backlog ∧
        (∀ e' ∈ after,
          ((e'.after reluctantSetting.toSurroundings).channel 0).output.toBytes ≠ []) ∧
        (r.2.2.channel 0).isOpenFor .write = true ∧ (r.2.2.channel 0).blocking = false ∧
        (toldMask reluctantSetting.toSurroundings 0 r.1).writable = false)) = true := by
    decide +kernel
  obtain ⟨events, answer, w', run, hChecked⟩ := Setting.exists_runs hTrace
  cases hSince : events.drop 3 with
  | nil =>
    rw [hSince] at hChecked
    cases hChecked
  | cons e after =>
    rw [hSince] at hChecked
    have hEvents : events = events.take 3 ++ e :: after := by
      rw [← hSince, List.take_append_drop]
    refine ⟨events.take 3, e, after, w', hEvents ▸ run.begins, ?_⟩
    rw [← hEvents]
    exact of_decide_eq_true hChecked

end EventChannel
