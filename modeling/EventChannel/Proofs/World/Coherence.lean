import EventChannel.Proofs.Program.Backlog
import EventChannel.Proofs.Stream.HalfClose
import EventChannel.Proofs.World.Closed
import EventChannel.Proofs.World.Sound

/-! The parts of the record of a channel depend on one another. Output is written in the background
only where some waits and the channel does not; a failure of that waits to be told only where no
output does; input waits only where it can still be read and the last read was given it; and a
closed channel has nothing left. However drivers behave, no operation breaks any of this. -/

namespace EventChannel

variable {σ α : Type}

/-- The channel can be read from, and the latest read was given bytes. -/
structure Channel.Supplied (c : Channel) : Prop where
  isOpen : c.isOpenFor .read = true
  eof : c.eof = false
  blocked : c.blocked = false

/-- The record of a channel is coherent. -/
structure Channel.Coherent (c : Channel) : Prop where
  size : 1 ≤ c.bufferSize ∧ c.bufferSize ≤ maxBufferSize
  pending : c.flushPending = true → c.isOpen = true ∧ c.blocking = false ∧ c.output.toBytes ≠ []
  parked : c.unreported?.isSome → c.output.toBytes = []
  waiting : c.input ≠ [] → c.Supplied
  shut : c.isOpen = false → c.mode = .none ∧ c.input = [] ∧ c.output.toBytes = []

/-- The channel has just been made: it is open, nothing waits, and its buffers have a size that can
be chosen. -/
structure Channel.Fresh (c : Channel) : Prop where
  isOpen : c.isOpen = true
  input : c.input = []
  output : c.output.toBytes = []
  pending : c.flushPending = false
  unreported : c.unreported? = none
  size : 1 ≤ c.bufferSize ∧ c.bufferSize ≤ maxBufferSize

example : maxBufferSize = 2 ^ 20 := rfl

namespace Channel

variable {c c' : Channel} {calls : List DriverEvent}

theorem clampBufferSize_bounds (n : Int) :
    1 ≤ clampBufferSize n ∧ clampBufferSize n ≤ maxBufferSize := by
  simp only [clampBufferSize, maxBufferSize]
  omega

theorem Fresh.coherent (fresh : c.Fresh) : c.Coherent where
  size := fresh.size
  pending hPending := by rw [fresh.pending] at hPending; cases hPending
  parked _ := fresh.output
  waiting hInput := absurd fresh.input hInput
  shut hShut := by rw [fresh.isOpen] at hShut; cases hShut

/-- Only the input side matters, and where the channel is open. -/
theorem Supplied.of_same (supplied : c.Supplied) (hOpen : c'.isOpen = c.isOpen)
    (hMode : c'.mode = c.mode) (hInlet : c'.inlet = c.inlet) : c'.Supplied where
  isOpen := (isOpenFor_congr hOpen hMode).trans supplied.isOpen
  eof := (congrArg Inlet.eof hInlet).trans supplied.eof
  blocked := (congrArg Inlet.blocked hInlet).trans supplied.blocked

namespace Coherent

/-- Input that has waited since before is as well supplied as it was then. -/
theorem supplied_of_same (coherent : c.Coherent) (hInput : c'.input ≠ [])
    (hOpen : c'.isOpen = c.isOpen) (hMode : c'.mode = c.mode) (hInlet : c'.inlet = c.inlet) :
    c'.Supplied := by
  have hSame : c'.input = c.input := congrArg Inlet.input hInlet
  exact (coherent.waiting (hSame ▸ hInput)).of_same hOpen hMode hInlet

theorem sound (coherent : c.Coherent) : c.Sound where
  output := coherent.parked
  pending hSome := by
    cases hPending : c.flushPending with
    | false => rfl
    | true => exact absurd (coherent.parked hSome) (coherent.pending hPending).2.2
  shut hShut := (coherent.shut hShut).1

theorem mindful (coherent : c.Coherent) : c.Mindful := fun hPending =>
  ⟨(coherent.pending hPending).2.2, (coherent.pending hPending).2.1⟩

end Coherent

theorem Cleared.bufferSize (cleared : c.Cleared calls c') : c'.bufferSize = c.bufferSize := by
  rcases cleared with ⟨-, rfl⟩ | flushed
  · rfl
  · rw [flushed.rest]

theorem Cleared.mode (cleared : c.Cleared calls c') : c'.mode = c.mode := by
  rcases cleared with ⟨-, rfl⟩ | flushed
  · rfl
  · rw [flushed.rest]

/-- Only closing a direction, and closing, change the mode. -/
theorem Effect.mode {op : ChannelOp} {answer : op.Answer} (effect : c.Effect op calls answer c')
    (hShut : op ≠ .shut) (hHalf : ∀ d, op ≠ .closeHalf d) : c'.mode = c.mode := by
  cases op with
  | read n => cases effect <;> rfl
  | write bytes force =>
    cases effect with
    | misused | unreported | kept => rfl
    | written hParked flushed => rw [flushed.rest]
    | failed f hParked flushed => rw [flushed.rest]
  | seek target =>
    cases effect with
    | failed f flushed => rw [flushed.rest]
    | @went first second c₁ answer input eof deferred cleared control =>
      have hMode : c₁.mode = c.mode := cleared.mode
      exact hMode
  | closeHalf d => exact absurd rfl (hHalf d)
  | shut => exact absurd rfl hShut
  | setBlocking | createHandler | deleteHandler => rw [effect.1.rest]
  | tell | getOption | getOptions | setOption | cut | splice => rw [Calm.rest effect]

theorem RaiseEffect.mode (effect : c.RaiseEffect calls c') : c'.mode = c.mode := by
  cases effect with
  | idle => rfl
  | written hPending flushed => rw [flushed.rest]
  | @failed calls c₁ f hPending flushed =>
    have hMode : c₁.mode = c.mode := by rw [flushed.rest]
    exact hMode

end Channel

namespace Held

variable (driver : Driver σ) (h : Held (σ × List DriverEvent))

theorem bufferSize_applyWatch :
    (h.applyWatch driver.traced).channel.bufferSize = h.channel.bufferSize := by
  obtain ⟨deferred, watched, hChannel⟩ := applyWatch_channel driver.traced h
  rw [hChannel]

theorem bufferSize_setBlocking (on : Bool) :
    (h.setBlocking driver.traced on).2.channel.bufferSize = h.channel.bufferSize := by
  rw [Channel.of_modeless (setBlocking_channel driver.traced h on).1]

theorem bufferSize_getOption (dns : Bool) (name : String) :
    (h.getOption driver.traced dns name).2.channel.bufferSize = h.channel.bufferSize := by
  unfold Held.getOption
  split
  · rfl
  · rfl
  · split
    · rfl
    have hAsked : (h.drive driver.traced (.getOption dns (some name))).2.channel.bufferSize =
        h.channel.bufferSize := rfl
    generalize h.drive driver.traced _ = r at hAsked ⊢
    obtain ⟨_ | _, h₁⟩ := r <;> exact hAsked

theorem bufferSize_setOption (name value : String) :
    (h.setOption driver.traced name value).2.channel.bufferSize = h.channel.bufferSize ∨
      ∃ n, (h.setOption driver.traced name value).2.channel.bufferSize = clampBufferSize n := by
  unfold Held.setOption
  split
  · split
    · exact .inl rfl
    · exact .inl (bufferSize_setBlocking driver h _)
  · split
    · exact .inl rfl
    · exact .inr ⟨_, rfl⟩
  · split
    · exact .inl rfl
    have hAsked : (h.drive driver.traced (.setOption name value)).2.channel.bufferSize =
        h.channel.bufferSize := rfl
    generalize h.drive driver.traced _ = r at hAsked ⊢
    obtain ⟨_ | _, h₁⟩ := r <;> exact .inl hAsked

theorem bufferSize_shut :
    (h.shut driver.traced).2.channel.bufferSize = h.channel.bufferSize := by
  cases hOpen : h.channel.isOpen with
  | false => simp [shut, hOpen]
  | true =>
    cases hEmpty : h.channel.output.isEmpty with
    | true =>
      simp only [shut, hOpen, hEmpty]
      rfl
    | false =>
      obtain ⟨calls, -, flushed⟩ := flush_traced driver h hOpen
      simp only [shut, hOpen, hEmpty]
      show (h.flush driver.traced).2.channel.bufferSize = _
      rw [flushed.rest]

/-- An operation leaves the size of the buffers as it is, or one is chosen. -/
theorem bufferSize_perform (op : ChannelOp) :
    (h.perform driver.traced op).2.channel.bufferSize = h.channel.bufferSize ∨
      ∃ n, (h.perform driver.traced op).2.channel.bufferSize = clampBufferSize n := by
  obtain ⟨calls, -, effect⟩ := perform_shows driver h op
  cases op with
  | setBlocking on => exact .inl (bufferSize_setBlocking driver h on)
  | createHandler | deleteHandler => exact .inl (bufferSize_applyWatch driver (h.update _))
  | getOption dns name => exact .inl (bufferSize_getOption driver h dns name)
  | setOption name value => exact bufferSize_setOption driver h name value
  | shut => exact .inl (bufferSize_shut driver h)
  | read n =>
    generalize (h.perform driver.traced (.read n)).1 = answer,
      (h.perform driver.traced (.read n)).2.channel = c' at effect ⊢
    cases effect <;> exact .inl rfl
  | write bytes force =>
    generalize (h.perform driver.traced (.write bytes force)).1 = answer,
      (h.perform driver.traced (.write bytes force)).2.channel = c' at effect ⊢
    refine .inl ?_
    cases effect with
    | misused | unreported | kept => rfl
    | written hParked flushed => rw [flushed.rest]
    | failed f hParked flushed => rw [flushed.rest]
  | seek target =>
    generalize (h.perform driver.traced (.seek target)).1 = answer,
      (h.perform driver.traced (.seek target)).2.channel = c' at effect ⊢
    refine .inl ?_
    cases effect with
    | failed f flushed => rw [flushed.rest]
    | @went first second c₁ answer input eof deferred cleared control =>
      have hSize : c₁.bufferSize = h.channel.bufferSize := cleared.bufferSize
      exact hSize
  | closeHalf d =>
    generalize (h.perform driver.traced (.closeHalf d)).1 = answer,
      (h.perform driver.traced (.closeHalf d)).2.channel = c' at effect ⊢
    refine .inl ?_
    cases effect with
    | unchanged => rfl
    | failed f hWrite flushed => rw [flushed.rest]
    | @went first second c₁ _ answer cleared control kept mode rest =>
      have hSize : c₁.bufferSize = h.channel.bufferSize := cleared.bufferSize
      rw [rest]
      exact hSize
  | tell =>
    refine .inl (show (h.tell driver.traced).2.channel.bufferSize = _ from ?_)
    unfold Held.tell
    split
    · rfl
    have hAsked : (h.drive driver.traced (.seek (.current 0))).2.channel.bufferSize =
        h.channel.bufferSize := rfl
    generalize h.drive driver.traced _ = r at hAsked ⊢
    obtain ⟨_ | _, h₁⟩ := r <;> exact hAsked
  | getOptions dns =>
    refine .inl (show (h.getOptions driver.traced dns).2.channel.bufferSize = _ from ?_)
    unfold Held.getOptions
    split
    · rfl
    have hAsked : (h.drive driver.traced (.getOption dns none)).2.channel.bufferSize =
        h.channel.bufferSize := rfl
    generalize h.drive driver.traced _ = r at hAsked ⊢
    obtain ⟨_ | _, h₁⟩ := r <;> exact hAsked
  | cut =>
    refine .inl (show (h.cut driver.traced).channel.bufferSize = _ from ?_)
    unfold Held.cut
    split <;> rfl
  | splice loop =>
    refine .inl (show (h.splice driver.traced loop).channel.bufferSize = _ from ?_)
    unfold Held.splice
    split <;> rfl

end Held

namespace Step

variable {s : Surroundings σ} {w : World σ} {id : ChannelId}

/-- A step leaves the size of the buffers as it is, or one is chosen. -/
theorem bufferSize_run (t : Step σ α) (hExists : id < w.channels.length) :
    ((t.run s w).2.channel id).bufferSize = (w.channel id).bufferSize ∨
      ∃ n, ((t.run s w).2.channel id).bufferSize = clampBufferSize n := by
  by_cases hMoves : t.Moves id
  · cases t with
    | hold j op =>
      obtain rfl : j = id := hMoves
      rw [channel_hold s w op hExists]
      exact Held.bufferSize_perform (s.driver j) (w.held j).recording op
    | raise j raised =>
      obtain rfl : j = id := hMoves
      refine .inl ?_
      have effect := (raise_shows s w raised hExists).1
      generalize (Step.raise j raised).calls s j w = calls,
        ((Step.raise j raised).run s w).2.channel j = c' at effect ⊢
      cases effect with
      | idle => rfl
      | written hPending flushed => rw [flushed.rest]
      | @failed calls c₁ f hPending flushed =>
        have hSize : c₁.bufferSize = (w.channel j).bufferSize := by rw [flushed.rest]
        exact hSize
    | _ => exact hMoves.elim
  · rw [Channel.of_bare (t.bare_run s w hExists hMoves)]
    exact .inl rfl

/-- The step reads from a channel without room for a byte. -/
def ReadsNothing (id : ChannelId) : {α : Type} → Step σ α → Prop
  | _, .hold j (.read n) => j = id ∧ n = 0
  | _, _ => False

/-- What a read leaves waiting it had no room for. -/
theorem supplied_read {n : Nat} (hExists : id < w.channels.length) (hRoom : n ≠ 0)
    (coherent : (w.channel id).Coherent)
    (hInput : (((Step.hold id (.read n)).run s w).2.channel id).input ≠ []) :
    (((Step.hold id (.read n)).run s w).2.channel id).Supplied := by
  cases hOpen : (w.channel id).isOpenFor .read with
  | false =>
    obtain ⟨m, hRefused⟩ := read_refused (s := s) (n := n) hOpen
    have hRun := congrArg Prod.snd hRefused
    rw [hRun, World.channel_modifyChannel_self _ hExists] at hInput ⊢
    exact coherent.supplied_of_same hInput rfl rfl rfl
  | true =>
    obtain ⟨c', effect, hChannel⟩ := hold_shows s w (.read n) hExists
    rw [hChannel] at hInput ⊢
    have hLeft : c'.input ≠ [] := hInput
    generalize (Step.hold id (.read n)).calls s id w = calls,
      ((Step.hold id (.read n)).run s w).1.1 = answer at effect
    cases effect with
    | misused m hNot => exact coherent.supplied_of_same hInput rfl rfl rfl
    | buffered hSome =>
      have supplied := coherent.waiting hSome
      exact ⟨supplied.isOpen, supplied.eof, supplied.blocked⟩
    | given hNone bytes deferred =>
      refine ⟨hOpen, ?_, rfl⟩
      have hMore : n < bytes.1.length := by simpa using hLeft
      cases hBytes : bytes.1 with
      | nil => rw [hBytes] at hMore; cases hMore
      | cons byte rest =>
        obtain ⟨n, rfl⟩ := Nat.exists_eq_succ_of_ne_zero hRoom
        rfl
    | waits hNone f hWait deferred => exact absurd hNone hLeft
    | fails hNone f hWait deferred => exact absurd hNone hLeft

theorem supplied_closeHalf {d : Direction} (hExists : id < w.channels.length)
    (coherent : (w.channel id).Coherent)
    (hInput : (((Step.hold id (.closeHalf d)).run s w).2.channel id).input ≠ []) :
    (((Step.hold id (.closeHalf d)).run s w).2.channel id).Supplied := by
  have hReleased (hRun : ((Step.hold id (.closeHalf d)).run s w).2 =
      w.modifyChannel id ({ · with deferred := .none })) :
      (((Step.hold id (.closeHalf d)).run s w).2.channel id).Supplied := by
    rw [hRun, World.channel_modifyChannel_self _ hExists] at hInput ⊢
    exact coherent.supplied_of_same hInput rfl rfl rfl
  cases hOpen : (w.channel id).isOpenFor d with
  | false => exact hReleased (congrArg Prod.snd (closeHalf_refused hOpen).1)
  | true =>
  by_cases hLast : (w.channel id).mode.without d = .none
  · exact hReleased (congrArg Prod.snd (closeHalf_last hOpen hLast).1)
  obtain ⟨c', narrowing, hChannel⟩ := closeHalf_narrows (s := s) hOpen hLast
  rw [hChannel] at hInput ⊢
  have hStart : c'.input ≠ [] := hInput
  generalize ((Step.hold id (.closeHalf d)).run s w).1.1 = answer at narrowing
  cases answer with
  | error r =>
    obtain ⟨hKept, hMode, hInlet, -⟩ := narrowing.failed
    exact coherent.supplied_of_same hInput hKept hMode hInlet
  | ok closed =>
    obtain ⟨-, hKept, hMode, hInlet, -⟩ := narrowing.succeeded
    cases d with
    | read => exact absurd (congrArg Inlet.input hInlet) hStart
    | write =>
      have hSame : c'.input = (w.channel id).input := congrArg Inlet.input hInlet
      have supplied := coherent.waiting (hSame ▸ hStart)
      refine ⟨?_, (congrArg Inlet.eof hInlet).trans supplied.eof,
        (congrArg Inlet.blocked hInlet).trans supplied.blocked⟩
      show (c'.isOpen && c'.mode.readable) = true
      rw [hKept, hMode]
      exact supplied.isOpen

/-- Input that waits after a step can still be read, and has been given to the latest read. -/
theorem supplied_run (t : Step σ α) (hExists : id < w.channels.length) (hRoom : ¬t.ReadsNothing id)
    (coherent : (w.channel id).Coherent) (hInput : ((t.run s w).2.channel id).input ≠ []) :
    ((t.run s w).2.channel id).Supplied := by
  by_cases hMoves : t.Moves id
  · cases t with
    | hold j op =>
      obtain rfl : j = id := hMoves
      have hOther (hRead : op.room? = none) (hShut : op ≠ .shut) (hHalf : ∀ d, op ≠ .closeHalf d)
          (hInlet : op.inlet (w.channel j) ((Step.hold j op).run s w).1.1 = (w.channel j).inlet) :
          (((Step.hold j op).run s w).2.channel j).Supplied := by
        have hKept := (inlet_hold (s := s) hRead hExists).trans hInlet
        obtain ⟨c', effect, hChannel⟩ := hold_shows s w op hExists
        rw [hChannel] at hInput hKept ⊢
        exact coherent.supplied_of_same hInput (effect.isOpen_of_ne_shut hShut)
          (effect.mode hShut hHalf) hKept
      cases op with
      | read n => exact supplied_read hExists (fun hZero => hRoom ⟨rfl, hZero⟩) coherent hInput
      | closeHalf d => exact supplied_closeHalf hExists coherent hInput
      | shut =>
        have hRead : ChannelOp.shut.room? = none := rfl
        have hLeft := congrArg Inlet.input (inlet_hold (s := s) hRead hExists)
        refine absurd (hLeft.trans ?_) hInput
        show (if (w.channel j).isOpen then [] else (w.channel j).input) = []
        cases hOpen : (w.channel j).isOpen with
        | true => rfl
        | false => exact (coherent.shut hOpen).2.1
      | seek target =>
        have hRead : (ChannelOp.seek target).room? = none := rfl
        have hLeft := congrArg Inlet.input (inlet_hold (s := s) hRead hExists)
        refine hOther rfl nofun nofun ?_
        generalize ((Step.hold j (.seek target)).run s w).1.1 = answer at hLeft
        cases answer with
        | error r => rfl
        | ok position => exact absurd hLeft hInput
      | _ => exact hOther rfl nofun nofun rfl
    | raise j raised =>
      obtain rfl : j = id := hMoves
      have effect := (raise_shows s w raised hExists).1
      exact coherent.supplied_of_same hInput effect.isOpen effect.mode
        (inlet_of_not_holds (.raise j raised) hExists not_false)
    | _ => exact hMoves.elim
  · have hRest := Channel.of_bare (t.bare_run s w hExists hMoves)
    exact coherent.supplied_of_same hInput (by rw [hRest]) (by rw [hRest]) (by rw [hRest]; rfl)

/-- A closed channel has nothing left after a step either. -/
theorem nothing_run (t : Step σ α) (hExists : id < w.channels.length)
    (hShut : (w.channel id).isOpen = false) (coherent : (w.channel id).Coherent) :
    ((t.run s w).2.channel id).flushPending = false ∧ ((t.run s w).2.channel id).input = [] ∧
      ((t.run s w).2.channel id).output.toBytes = [] := by
  obtain ⟨-, hInput, hOutput⟩ := coherent.shut hShut
  have hPending : (w.channel id).flushPending = false := by
    cases hPending : (w.channel id).flushPending with
    | false => rfl
    | true => exact absurd hOutput (coherent.pending hPending).2.2
  by_cases hMoves : t.Moves id
  · cases t with
    | hold j op =>
      obtain rfl : j = id := hMoves
      obtain ⟨handlers, last, size, watched, hSame⟩ :=
        Held.perform_closed (h := (w.held j).recording) (s.driver j).traced hShut op
      rw [channel_hold s w op hExists, hSame]
      exact ⟨hPending, hInput, hOutput⟩
    | raise j raised =>
      obtain rfl : j = id := hMoves
      have hIdle : (raised.writable && (w.held j).recording.channel.flushPending) = false :=
        (congrArg (raised.writable && ·) hPending).trans (Bool.and_false _)
      rw [channel_raise s w raised hExists, Held.flushInBackground_idle hIdle]
      exact ⟨hPending, hInput, hOutput⟩
    | _ => exact hMoves.elim
  · rw [Channel.of_bare (t.bare_run s w hExists hMoves)]
    exact ⟨hPending, hInput, hOutput⟩

/-- What a step leaves is coherent. -/
theorem coherent_run (t : Step σ α) (hExists : id < w.channels.length)
    (hRoom : ¬t.ReadsNothing id) (coherent : (w.channel id).Coherent) :
    ((t.run s w).2.channel id).Coherent := by
  have hSize : 1 ≤ ((t.run s w).2.channel id).bufferSize ∧
      ((t.run s w).2.channel id).bufferSize ≤ maxBufferSize := by
    rcases t.bufferSize_run (s := s) hExists with hSame | ⟨n, hChosen⟩
    · rw [hSame]
      exact coherent.size
    · rw [hChosen]
      exact Channel.clampBufferSize_bounds n
  have sound := t.sound_run (s := s) hExists coherent.sound
  have hGone (hShut : ((t.run s w).2.channel id).isOpen = false) :
      ((t.run s w).2.channel id).flushPending = false ∧
        ((t.run s w).2.channel id).input = [] ∧
        ((t.run s w).2.channel id).output.toBytes = [] := by
    cases hOpen : (w.channel id).isOpen with
    | true =>
      have gone := (t.gone_of_closed hOpen hShut).1
      exact ⟨gone.pending, gone.input, by rw [gone.output, ByteQueue.toBytes_empty]⟩
    | false => exact t.nothing_run hExists hOpen coherent
  refine ⟨hSize, fun hPending => ?_, sound.output, t.supplied_run hExists hRoom coherent,
    fun hShut => ⟨sound.shut hShut, (hGone hShut).2⟩⟩
  cases hOpen : ((t.run s w).2.channel id).isOpen with
  | false =>
    rw [(hGone hOpen).1] at hPending
    cases hPending
  | true =>
    have backlog := (t.minds_run hExists hOpen coherent.mindful).mindful hPending
    exact ⟨rfl, backlog.blocking, backlog.left⟩

/-- The channel that the step makes. -/
def opened? : {α : Type} → Step σ α → Option Channel
  | _, .open c => some c
  | _, _ => none

/-- Only a step that makes a channel adds to the channels. -/
theorem length_same (t : Step σ α) (hNone : t.opened? = none) :
    (t.run s w).2.channels.length = w.channels.length := by
  have hMarked (source target : ChannelId) (on : Bool) :
      (w.markCopying source target on).channels.length = w.channels.length := by
    simp [World.markCopying]
  cases t with
  | «open» c => cases hNone
  | hold j op => exact World.length_hold _
  | raise j raised =>
    refine (congrArg List.length (World.channels_graspCopies _)).trans ?_
    exact World.length_hold fun h =>
      ((), h.flushInBackground (s.driver j) raised)
  | handle j d =>
    rw [Step.run]
    split
    · exact World.length_hold _
    · rfl
  | takeCloseActions j =>
    rw [Step.run]
    split
    · exact World.length_modifyChannel _
    · rfl
  | addCloseAction | clearHandlers | dropReference => exact World.length_modifyChannel _
  | register i j =>
    simp only [Step.run, World.register]
    split
    · rfl
    · exact World.length_modifyChannel _
  | unregister i name =>
    simp only [Step.run, World.unregister]
    split <;> rfl
  | markDeleted i =>
    simp only [Step.run, World.markDeleted]
    split
    · rfl
    · refine congrArg List.length (World.foldl_keeps World.channels ?_ _)
      exact fun _ _ => rfl
  | beginCopy source target limit? onDone? =>
    simp only [Step.run, World.beginCopy]
    split
    · rfl
    · exact hMarked source target true
  | enterCopy k =>
    rw [Step.run]
    split <;> rfl
  | finishCopy k => exact hMarked _ _ false
  | _ => rfl

/-- If the step makes a channel, that is fresh; if it reads, there is room for a byte. -/
def Regular : {α : Type} → Step σ α → Prop
  | _, .open c => c.Fresh
  | _, .hold _ (.read n) => n ≠ 0
  | _, _ => True

theorem Regular.not_readsNothing {t : Step σ α} (regular : t.Regular) : ¬t.ReadsNothing id := by
  cases t with
  | hold j op =>
    cases op with
    | read n => exact fun reads => regular reads.2
    | _ => exact not_false
  | _ => exact not_false

end Step

/-- What there is not is as coherent as what has been closed. -/
theorem Channel.coherent_absent : Channel.absent.Coherent where
  size := by decide
  pending hPending := by cases hPending
  parked hParked := by cases hParked
  waiting hInput := absurd rfl hInput
  shut _ := ⟨rfl, rfl, rfl⟩

/-- All channels of the world are coherent. -/
def World.Coherent (w : World σ) : Prop := ∀ j, (w.channel j).Coherent

/-- A world without channels is coherent. -/
theorem World.coherent_of_none {w : World σ} (hNone : w.channels = []) : w.Coherent := by
  intro j
  rw [channel, hNone]
  exact Channel.coherent_absent

namespace Step

variable {s : Surroundings σ} {w : World σ}

/-- Every step of an operation leaves the world coherent. -/
theorem world_run (t : Step σ α) (regular : t.Regular) (coherent : w.Coherent) :
    (t.run s w).2.Coherent := by
  intro j
  rcases Nat.lt_or_ge j w.channels.length with hExists | hAbsent
  · exact t.coherent_run hExists regular.not_readsNothing (coherent j)
  cases hOpened : t.opened? with
  | none =>
    have hStill : (t.run s w).2.channels.length ≤ j :=
      Nat.le_trans (Nat.le_of_eq (t.length_same hOpened)) hAbsent
    rw [World.channel, List.getElem?_eq_none hStill]
    exact Channel.coherent_absent
  | some c =>
    cases t with
    | «open» c' =>
      rcases Nat.eq_or_lt_of_le hAbsent with rfl | hBeyond
      · obtain ⟨deferred, hMade⟩ := World.channel_openChannel s w c'
        have fresh : c'.Fresh := regular
        have hFresh : ({ c' with deferred } : Channel).Fresh :=
          ⟨fresh.isOpen, fresh.input, fresh.output, fresh.pending, fresh.unreported, fresh.size⟩
        show ((w.openChannel s c').2.channel (w.openChannel s c').1).Coherent
        rw [hMade]
        exact hFresh.coherent
      · have hStill : ((Step.open c').run s w).2.channels.length ≤ j := by
          show (w.openChannel s c').2.channels.length ≤ j
          simpa [World.openChannel] using Nat.succ_le_of_lt hBeyond
        rw [World.channel, List.getElem?_eq_none hStill]
        exact Channel.coherent_absent
    | _ => cases hOpened

end Step

/-- Channels are made fresh in the event, and read from with room for a byte. -/
def Event.Regular : Event σ → Prop
  | .made t _ => t.Regular
  | .called _ _ => True

/-- Whatever is done in a coherent world leaves it coherent. -/
theorem Surroundings.Leads.coherent {s : Surroundings σ} {w w' : World σ} {events : List (Event σ)}
    (history : s.Leads w events w') (regular : ∀ e ∈ events, e.Regular) (coherent : w.Coherent) :
    w'.Coherent := by
  induction history with
  | refl => exact coherent
  | snoc e prior ih =>
    obtain ⟨hPrior, hLast⟩ := List.forall_mem_append.1 regular
    have hBefore := ih hPrior
    cases e with
    | made t v => exact t.world_run (hLast _ (List.mem_singleton_self _)) hBefore
    | called c v => exact hBefore

end EventChannel
