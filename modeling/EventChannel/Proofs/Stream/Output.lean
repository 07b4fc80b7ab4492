import EventChannel.Proofs.Execution
import EventChannel.Proofs.World.Frame

/-! What is written to a channel leaves it in order: the driver takes it, or a failure makes the
channel drop what is left of it. Each failure is told once, by the operation that has met it or,
when it was met in the background, by the next operation that writes. -/

namespace EventChannel

/-- While a failure waits to be told, no output waits that could fail. -/
structure Channel.ParkedAlone (c : Channel) : Prop where
  output : c.unreported?.isSome → c.output.toBytes = []
  pending : c.unreported?.isSome → c.flushPending = false

/-- Nothing is asked of a channel on which no failure waits. -/
theorem Channel.parkedAlone_of_none {c : Channel} (hNone : c.unreported? = none) :
    c.ParkedAlone := by
  constructor <;> simp [hNone]

namespace ChannelOp

/-- The operation tells a failure that waits. -/
def collects : ChannelOp → Bool
  | write .. => true
  | _ => false

/-- The bytes that an operation adds to the output. -/
def appended (c : Channel) : ChannelOp → Bytes
  | write bytes _ => if c.isOpenFor .write && c.unreported?.isNone then bytes else []
  | _ => []

/-- The failures to write that an answer tells. -/
def told (c : Channel) (calls : List DriverEvent) : (op : ChannelOp) → op.Answer →
    List DriverFailure
  | write .., .error (.driver f) => [f]
  | seek _, .error r => (failures c.blocking calls).filter (c.seekReport · = r)
  | closeHalf _, .error r => (failures c.blocking calls).filter (c.writeReport · = r)
  | _, _ => []

/-- How an operation deals with the output of a channel and with failures to write it. -/
structure Handles (op : ChannelOp) (c : Channel) (calls : List DriverEvent) (answer : op.Answer)
    (c' : Channel) : Prop where
  stream : c.output.toBytes ++ op.appended c = spentBytes c.blocking calls ++ c'.output.toBytes
  /-- Failing drops all that is left. -/
  emptied : failures c.blocking calls ≠ [] → c'.output.toBytes = []
  /-- An operation that writes tells the failure that waits; all tell what they have met. -/
  told : op.told c calls answer =
    (if op.collects then c.unreported?.toList else []) ++ failures c.blocking calls
  collected : c'.unreported? = if op.collects then none else c.unreported?
  /-- Nothing fails while a failure waits. -/
  apart : c.unreported?.isSome → failures c.blocking calls = []
  /-- While a failure is told that has waited, nothing is written and the driver is not called. -/
  silent : op.collects → c.unreported?.isSome → calls = [] ∧ c'.output = c.output
  alone : c'.ParkedAlone

end ChannelOp

namespace Channel

variable {c c' : Channel} {calls : List DriverEvent}

/-- Without transfers of output, nothing changes for what waits or for what is to be told. -/
theorem ParkedAlone.of_kept (alone : c.ParkedAlone) (hOutput : c'.output = c.output)
    (hParked : c'.unreported? = c.unreported?)
    (hPending : c'.flushPending = true → c.flushPending = true) : c'.ParkedAlone where
  output hSome := by rw [hOutput]; exact alone.output (hParked ▸ hSome)
  pending hSome := by
    have hIdle := alone.pending (hParked ▸ hSome)
    cases hBack : c'.flushPending with
    | false => rfl
    | true => rw [hPending hBack] at hIdle; cases hIdle

/-- Nothing fails while a failure waits to be told. -/
theorem ParkedAlone.not_failed {f : DriverFailure} (alone : c.ParkedAlone)
    (flushed : c.Flushed calls (some f) c') : c.unreported? = none := by
  cases hParked : c.unreported? with
  | none => rfl
  | some g => exact absurd (alone.output (by simp [hParked])) (flushed.waited rfl)

theorem Flushed.unreported {failure? : Option DriverFailure}
    (flushed : c.Flushed calls failure? c') : c'.unreported? = c.unreported? := by
  rw [flushed.rest]

/-- Where nothing is left, nothing is left to be written in the background. -/
theorem Flushed.idle {failure? : Option DriverFailure} (flushed : c.Flushed calls failure? c')
    (hEmpty : c'.output.toBytes = []) : c'.flushPending = false := by
  rw [flushed.pending, (ByteQueue.isEmpty_iff _).2 hEmpty]
  rfl

/-- Writing what waits keeps a failure apart from output that could fail. -/
theorem Flushed.parkedAlone {failure? : Option DriverFailure} (alone : c.ParkedAlone)
    (flushed : c.Flushed calls failure? c') : c'.ParkedAlone := by
  have hEmpty (hSome : c'.unreported?.isSome) : c'.output.toBytes = [] := by
    have hStream := flushed.stream
    rw [alone.output (flushed.unreported ▸ hSome)] at hStream
    exact (List.append_eq_nil_iff.1 hStream.symm).2
  exact ⟨hEmpty, fun hSome => flushed.idle (hEmpty hSome)⟩

/-- Where output was cleared nothing has failed. -/
theorem Cleared.output (cleared : c.Cleared calls c') :
    c.output.toBytes = spentBytes c.blocking calls ++ c'.output.toBytes ∧
      failures c.blocking calls = [] ∧ c'.unreported? = c.unreported? ∧
      (c.ParkedAlone → c'.ParkedAlone) := by
  rcases cleared with ⟨rfl, rfl⟩ | flushed
  · exact ⟨rfl, rfl, rfl, id⟩
  · exact ⟨flushed.stream, flushed.failures, flushed.unreported, flushed.parkedAlone⟩

/-- An operation that moves no output handles it. -/
theorem handles_of_kept {op : ChannelOp} {answer : op.Answer} (alone : c.ParkedAlone)
    (hCollects : op.collects = false) (hAppended : op.appended c = [])
    (hTold : op.told c calls answer = []) (hCalls : ∀ e ∈ calls, e.isOutput = false)
    (hOutput : c'.output = c.output) (hParked : c'.unreported? = c.unreported?)
    (hPending : c'.flushPending = true → c.flushPending = true) :
    op.Handles c calls answer c' := by
  obtain ⟨hSpent, -, hFailures⟩ := spentBytes_of_noOutput c.blocking hCalls
  exact
    { stream := by rw [hAppended, hSpent, hOutput, List.append_nil, List.nil_append]
      emptied := fun hFailed => absurd hFailures hFailed
      told := by simp [hTold, hCollects, hFailures]
      collected := by rw [hCollects]; exact hParked
      apart := fun _ => hFailures
      silent := fun hCollected => by simp [hCollects] at hCollected
      alone := alone.of_kept hOutput hParked hPending }

theorem Calm.handles {op : ChannelOp} {answer : op.Answer} {callback? : Option Callback}
    (alone : c.ParkedAlone) (hCollects : op.collects = false) (hAppended : op.appended c = [])
    (hTold : op.told c calls answer = []) (calm : c.Calm callback? calls c') :
    op.Handles c calls answer c' :=
  handles_of_kept alone hCollects hAppended hTold (fun e hMem => (calm.control e hMem).2)
    (by rw [calm.rest]) (by rw [calm.rest]) calm.pending

theorem ReadEffect.handles {n : Nat} {answer : Except TransferFailure Bytes}
    (alone : c.ParkedAlone) (effect : c.ReadEffect n calls answer c') :
    (ChannelOp.read n).Handles c calls answer c' := by
  refine handles_of_kept alone rfl rfl rfl ?_ ?_ ?_ ?_
  · intro e hMem
    cases effect with
    | misused | buffered => cases hMem
    | given | waits | fails => rw [List.mem_singleton.1 hMem]; rfl
  · cases effect <;> rfl
  · cases effect <;> rfl
  · cases effect <;> exact id

theorem WriteEffect.handles {bytes : Bytes} {force : Bool} {answer : Except TransferFailure Unit}
    (hOpen : c.isOpenFor .write = true) (effect : c.WriteEffect bytes force calls answer c') :
    (ChannelOp.write bytes force).Handles c calls answer c' := by
  cases effect with
  | misused m hNot => rw [hNot] at hOpen; cases hOpen
  | unreported f hParked =>
    have hAppended : (ChannelOp.write bytes force).appended c = [] := by
      simp [ChannelOp.appended, hParked]
    exact
      { stream := by rw [hAppended, List.append_nil]; rfl
        emptied := fun hFailed => absurd rfl hFailed
        told := by rw [hParked]; rfl
        collected := rfl
        apart := fun _ => rfl
        silent := fun _ _ => ⟨rfl, rfl⟩
        alone := parkedAlone_of_none rfl }
  | kept hParked hForce =>
    have hAppended : (ChannelOp.write bytes force).appended c = bytes := by
      simp [ChannelOp.appended, hOpen, hParked]
    exact
      { stream := by rw [hAppended]; exact (ByteQueue.toBytes_push _ _).symm
        emptied := fun hFailed => absurd rfl hFailed
        told := by rw [hParked]; rfl
        collected := hParked
        apart := fun hSome => by simp [hParked] at hSome
        silent := fun _ hSome => by simp [hParked] at hSome
        alone := parkedAlone_of_none hParked }
  | written hParked flushed =>
    have hAppended : (ChannelOp.write bytes force).appended c = bytes := by
      simp [ChannelOp.appended, hOpen, hParked]
    have hNone := flushed.unreported.trans hParked
    exact
      { stream := by rw [hAppended, ← ByteQueue.toBytes_push]; exact flushed.stream
        emptied := fun hFailed => absurd flushed.failures hFailed
        told := by rw [hParked]; exact flushed.failures.symm
        collected := hNone
        apart := fun hSome => by simp [hParked] at hSome
        silent := fun _ hSome => by simp [hParked] at hSome
        alone := parkedAlone_of_none hNone }
  | failed f hParked flushed =>
    have hAppended : (ChannelOp.write bytes force).appended c = bytes := by
      simp [ChannelOp.appended, hOpen, hParked]
    have hNone := flushed.unreported.trans hParked
    exact
      { stream := by rw [hAppended, ← ByteQueue.toBytes_push]; exact flushed.stream
        emptied := fun _ => flushed.emptied rfl
        told := by rw [hParked]; exact flushed.failures.symm
        collected := hNone
        apart := fun hSome => by simp [hParked] at hSome
        silent := fun _ hSome => by simp [hParked] at hSome
        alone := parkedAlone_of_none hNone }

theorem SeekEffect.handles {target : SeekTarget} {answer : Except Report Nat}
    (alone : c.ParkedAlone) (effect : c.SeekEffect calls answer c') :
    (ChannelOp.seek target).Handles c calls answer c' := by
  cases effect with
  | failed f flushed =>
    have hFailures : failures c.blocking calls = [f] := flushed.failures
    exact
      { stream := by simpa [ChannelOp.appended] using flushed.stream
        emptied := fun _ => flushed.emptied rfl
        told := by simp [ChannelOp.told, ChannelOp.collects, hFailures]
        collected := flushed.unreported
        apart := fun hSome => by simp [alone.not_failed flushed] at hSome
        silent := fun hCollects => by cases hCollects
        alone := flushed.parkedAlone alone }
  | @went first second c₁ answer input eof deferred cleared control =>
    obtain ⟨hStream, hFailures, hParked, hAlone⟩ := cleared.output
    obtain ⟨hSpent, -, hNone⟩ := spentBytes_of_noOutput c.blocking fun e hMem =>
      (control e hMem).2
    have hMet : failures c.blocking (first ++ second) = [] := by
      rw [failures_append, hFailures, hNone]; rfl
    exact
      { stream := by
          rw [spentBytes_append, hSpent, List.append_nil]
          simpa [ChannelOp.appended] using hStream
        emptied := fun hFailed => absurd hMet hFailed
        told := by cases answer <;> simp [ChannelOp.told, ChannelOp.collects, hMet]
        collected := hParked
        apart := fun _ => hMet
        silent := fun hCollects => by cases hCollects
        alone := (hAlone alone).of_kept rfl rfl id }

theorem CloseHalfEffect.handles {d : Direction} {answer : Except Report HalfClosed}
    (alone : c.ParkedAlone) (effect : c.CloseHalfEffect d calls answer c') :
    (ChannelOp.closeHalf d).Handles c calls answer c' := by
  cases effect with
  | unchanged answer =>
    refine handles_of_kept alone rfl rfl ?_ (fun e hMem => by cases hMem) rfl rfl id
    cases answer <;> rfl
  | failed f hWrite flushed =>
    have hFailures : failures c.blocking calls = [f] := flushed.failures
    exact
      { stream := by simpa [ChannelOp.appended] using flushed.stream
        emptied := fun _ => flushed.emptied rfl
        told := by simp [ChannelOp.told, ChannelOp.collects, hFailures]
        collected := flushed.unreported
        apart := fun hSome => by simp [alone.not_failed flushed] at hSome
        silent := fun hCollects => by cases hCollects
        alone := flushed.parkedAlone alone }
  | @went first second c₁ _ answer cleared control kept mode rest =>
    obtain ⟨hStream, hFailures, hParked, hAlone⟩ := cleared.output
    obtain ⟨hSpent, -, hNone⟩ := spentBytes_of_noOutput c.blocking fun e hMem =>
      (control e hMem).2
    have hMet : failures c.blocking (first ++ second) = [] := by
      rw [failures_append, hFailures, hNone]; rfl
    have hOutput : c'.output = c₁.output := by rw [rest]
    have hUnreported : c'.unreported? = c₁.unreported? := by rw [rest]
    have hPending : c'.flushPending = c₁.flushPending := by rw [rest]
    exact
      { stream := by
          rw [spentBytes_append, hSpent, List.append_nil, hOutput]
          simpa [ChannelOp.appended] using hStream
        emptied := fun hFailed => absurd hMet hFailed
        told := by cases answer <;> simp [ChannelOp.told, ChannelOp.collects, hMet]
        collected := hUnreported.trans hParked
        apart := fun _ => hMet
        silent := fun hCollects => by cases hCollects
        alone := (hAlone alone).of_kept hOutput hUnreported (hPending ▸ id) }

/-- Every operation on a channel that stays open for writing handles its output. -/
theorem Effect.handles {op : ChannelOp} {answer : op.Answer} (alone : c.ParkedAlone)
    (effect : c.Effect op calls answer c') (hOpen : c'.isOpenFor .write = true) :
    op.Handles c calls answer c' := by
  have hBefore := effect.isOpenFor hOpen
  cases op with
  | read n => exact ReadEffect.handles alone effect
  | write bytes force => exact WriteEffect.handles hBefore effect
  | seek target => exact SeekEffect.handles alone effect
  | closeHalf d => exact CloseHalfEffect.handles alone effect
  | shut =>
    rw [Channel.isOpenFor, ShutEffect.isOpen effect] at hOpen
    cases hOpen
  | setBlocking | createHandler | deleteHandler => exact Calm.handles alone rfl rfl rfl effect.1
  | tell | getOption | getOptions | setOption | cut | splice =>
    exact Calm.handles alone rfl rfl rfl effect

/-- Where writing has failed, some bytes have left the buffer that the driver has not taken. -/
theorem Effect.loses {op : ChannelOp} {answer : op.Answer} (effect : c.Effect op calls answer c')
    (hOpen : c'.isOpenFor .write = true) (hFailed : failures c.blocking calls ≠ []) :
    (sentBytes calls).length < (spentBytes c.blocking calls).length := by
  have hNotControl (control : Control calls) : False :=
    hFailed (spentBytes_of_noOutput c.blocking fun e hMem => (control e hMem).2).2.2
  have hNotCleared {first second : List DriverEvent} {c₁ : Channel}
      (cleared : c.Cleared first c₁) (control : Control second) (hCalls : calls = first ++ second) :
      False := by
    have hSecond := (spentBytes_of_noOutput c.blocking fun e hMem => (control e hMem).2).2.2
    rw [hCalls, failures_append, cleared.output.2.1, hSecond] at hFailed
    exact hFailed rfl
  cases op with
  | read n =>
    refine absurd (spentBytes_of_noOutput c.blocking fun e hMem => ?_).2.2 hFailed
    cases effect with
    | misused | buffered => cases hMem
    | given | waits | fails => rw [List.mem_singleton.1 hMem]; rfl
  | write bytes force =>
    cases effect with
    | misused | unreported | kept => exact absurd rfl hFailed
    | written hParked flushed => exact absurd flushed.failures hFailed
    | failed f hParked flushed => exact flushed.loses rfl
  | seek target =>
    cases effect with
    | failed f flushed => exact flushed.loses rfl
    | went answer input eof deferred cleared control =>
      exact (hNotCleared cleared control rfl).elim
  | closeHalf d =>
    cases effect with
    | unchanged => exact absurd rfl hFailed
    | failed f hWrite flushed => exact flushed.loses rfl
    | went answer cleared control kept mode rest => exact (hNotCleared cleared control rfl).elim
  | shut =>
    rw [Channel.isOpenFor, ShutEffect.isOpen effect] at hOpen
    cases hOpen
  | setBlocking | createHandler | deleteHandler => exact (hNotControl effect.1.control).elim
  | tell | getOption | getOptions | setOption | cut | splice =>
    exact (hNotControl (Calm.control effect)).elim

theorem RaiseEffect.loses (effect : c.RaiseEffect calls c')
    (hFailed : failures c.blocking calls ≠ []) :
    (sentBytes calls).length < (spentBytes c.blocking calls).length := by
  cases effect with
  | idle => exact absurd rfl hFailed
  | written hPending flushed => exact absurd flushed.failures hFailed
  | failed f hPending flushed => exact flushed.loses rfl

/-- How conditions that come up deal with the output of a channel: nobody is told, so a failure
waits from then on. -/
structure RaiseHandles (c : Channel) (calls : List DriverEvent) (c' : Channel) : Prop where
  stream : c.output.toBytes = spentBytes c.blocking calls ++ c'.output.toBytes
  emptied : failures c.blocking calls ≠ [] → c'.output.toBytes = []
  parked : c'.unreported?.toList = c.unreported?.toList ++ failures c.blocking calls
  alone : c'.ParkedAlone

theorem RaiseEffect.handles (alone : c.ParkedAlone) (effect : c.RaiseEffect calls c') :
    c.RaiseHandles calls c' := by
  cases effect with
  | idle =>
    exact ⟨rfl, fun hFailed => absurd rfl hFailed, (List.append_nil _).symm, alone⟩
  | written hPending flushed =>
    have hFailures : failures c.blocking calls = [] := flushed.failures
    exact
      { stream := flushed.stream
        emptied := fun hFailed => absurd hFailures hFailed
        parked := by rw [flushed.unreported, hFailures, List.append_nil]
        alone := flushed.parkedAlone alone }
  | @failed _ c₁ f hPending flushed =>
    have hFailures : failures c.blocking calls = [f] := flushed.failures
    have hEmpty : c₁.output.toBytes = [] := flushed.emptied rfl
    exact
      { stream := flushed.stream
        emptied := fun _ => hEmpty
        parked := by rw [alone.not_failed flushed, hFailures]; rfl
        alone := ⟨fun _ => hEmpty, fun _ => flushed.idle hEmpty⟩ }

end Channel

namespace Step

variable {σ α : Type}

/-- The bytes that a step adds to the output of a channel. -/
def appended (id : ChannelId) : {α : Type} → Step σ α → World σ → Bytes
  | _, .hold j op, w => if j = id then op.appended (w.channel id) else []
  | _, _, _ => []

/-- The failures to write that a step tells. -/
def told (s : Surroundings σ) (id : ChannelId) :
    {α : Type} → Step σ α → World σ → List DriverFailure
  | _, .hold j op, w =>
    if j = id then
      op.told (w.channel id) ((Step.hold j op).calls s id w) ((Step.hold j op).run s w).1.1
    else []
  | _, _, _ => []

/-- What a step does to the output of a channel. -/
structure Delivers (s : Surroundings σ) (id : ChannelId) (t : Step σ α) (w : World σ) : Prop where
  stream : (w.channel id).output.toBytes ++ t.appended id w =
    spentBytes (w.channel id).blocking (t.calls s id w) ++
      ((t.run s w).2.channel id).output.toBytes
  reports : (w.channel id).unreported?.toList ++ failures (w.channel id).blocking (t.calls s id w) =
    t.told s id w ++ ((t.run s w).2.channel id).unreported?.toList
  alone : ((t.run s w).2.channel id).ParkedAlone

variable {s : Surroundings σ} {w : World σ} {id : ChannelId}

/-- An operation handles the output of the channel that it holds. -/
theorem handles_hold {op : ChannelOp} (hExists : id < w.channels.length)
    (alone : (w.channel id).ParkedAlone)
    (hOpen : (((Step.hold id op).run s w).2.channel id).isOpenFor .write = true) :
    op.Handles (w.channel id) ((Step.hold id op).calls s id w) ((Step.hold id op).run s w).1.1
      (((Step.hold id op).run s w).2.channel id) := by
  obtain ⟨c', hEffect, hChannel⟩ := hold_shows s w op hExists
  rw [hChannel] at hOpen ⊢
  obtain ⟨stream, emptied, told, collected, apart, silent, hAlone⟩ :=
    hEffect.handles alone hOpen
  exact ⟨stream, emptied, told, collected, apart, silent, hAlone.of_kept rfl rfl fun h => h⟩

theorem handles_raise (raised : Interest) (hExists : id < w.channels.length)
    (alone : (w.channel id).ParkedAlone) :
    (w.channel id).RaiseHandles ((Step.raise id raised).calls s id w)
      (((Step.raise id raised).run s w).2.channel id) :=
  (raise_shows s w raised hExists).1.handles alone

/-- A step that moves none of its bytes leaves the output of a channel alone. -/
theorem delivers_of_keeps {t : Step σ α} (hExists : id < w.channels.length)
    (alone : (w.channel id).ParkedAlone) (hMoves : ¬t.Moves id) : t.Delivers s id w := by
  have hRest := Channel.of_bare (t.bare_run s w hExists hMoves)
  obtain ⟨hSpent, -, hFailures⟩ := spentBytes_of_noOutput (w.channel id).blocking fun e hMem =>
    (t.calls_control s w hMoves e hMem).2
  have hOutput : ((t.run s w).2.channel id).output = (w.channel id).output := by rw [hRest]
  have hParked : ((t.run s w).2.channel id).unreported? = (w.channel id).unreported? := by
    rw [hRest]
  have hPending : ((t.run s w).2.channel id).flushPending = (w.channel id).flushPending := by
    rw [hRest]
  obtain ⟨hAppended, hTold⟩ : t.appended id w = [] ∧ t.told s id w = [] := by
    cases t with
    | hold j op => exact ⟨if_neg hMoves, if_neg hMoves⟩
    | _ => exact ⟨rfl, rfl⟩
  exact
    { stream := by rw [hAppended, hSpent, hOutput, List.append_nil, List.nil_append]
      reports := by rw [hTold, hFailures, hParked, List.append_nil, List.nil_append]
      alone := alone.of_kept hOutput hParked (hPending ▸ fun h => h) }

/-- What a step adds to the output of a channel that stays open for writing leaves it in order, and
each failure is told or waits to be told. -/
theorem delivers (t : Step σ α) (hExists : id < w.channels.length)
    (alone : (w.channel id).ParkedAlone)
    (hOpen : ((t.run s w).2.channel id).isOpenFor .write = true) : t.Delivers s id w := by
  cases t with
  | hold j op =>
    by_cases hId : j = id
    · subst hId
      obtain ⟨stream, -, told, collected, apart, -, hAlone⟩ := handles_hold hExists alone hOpen
      refine ⟨?_, ?_, hAlone⟩
      · rw [Step.appended, if_pos rfl]
        exact stream
      · rw [Step.told, if_pos rfl, told, collected]
        by_cases hCollects : op.collects
        · simp [hCollects]
        · simp only [hCollects]
          cases hParked : (w.channel j).unreported? with
          | none => simp
          | some f => rw [apart (by simp [hParked])]; rfl
    · exact delivers_of_keeps hExists alone hId
  | raise j raised =>
    by_cases hId : j = id
    · subst hId
      have hRaise := handles_raise (s := s) raised hExists alone
      refine ⟨?_, hRaise.parked.symm, hRaise.alone⟩
      exact (List.append_nil _).trans hRaise.stream
    · exact delivers_of_keeps hExists alone hId
  | _ => exact delivers_of_keeps hExists alone fun hMoves => hMoves

end Step

namespace Event

variable {σ : Type}

/-- The bytes that an event adds to the output of a channel. -/
def appended (id : ChannelId) : Event σ → Bytes
  | made t w => t.appended id w
  | called _ _ => []

/-- The failures to write that are told in an event. -/
def told (s : Surroundings σ) (id : ChannelId) : Event σ → List DriverFailure
  | made t w => t.told s id w
  | called _ _ => []

/-- The bytes that leave the output buffer of a channel in an event. -/
def spent (s : Surroundings σ) (id : ChannelId) (e : Event σ) : Bytes :=
  spentBytes (e.before.channel id).blocking (e.calls s id)

/-- The failures to write that are met in an event. -/
def met (s : Surroundings σ) (id : ChannelId) (e : Event σ) : List DriverFailure :=
  failures (e.before.channel id).blocking (e.calls s id)

/-- The bytes that the driver of a channel takes in an event. -/
def sent (s : Surroundings σ) (id : ChannelId) (e : Event σ) : Bytes :=
  sentBytes (e.calls s id)

variable {s : Surroundings σ} {id : ChannelId}

/-- Where writing does not fail, all that leaves the buffer is taken. -/
theorem spent_of_noFailure {e : Event σ} (hNone : e.met s id = []) :
    e.spent s id = e.sent s id :=
  spentBytes_of_noFailure _ hNone

/-- Where writing fails, something is not taken. -/
theorem loses (e : Event σ) (hExists : id < e.before.channels.length)
    (hOpen : ((e.after s).channel id).isOpenFor .write = true) (hFailed : e.met s id ≠ []) :
    (e.sent s id).length < (e.spent s id).length := by
  cases e with
  | called c w => exact absurd rfl hFailed
  | made t w =>
    by_cases hMoves : t.Moves id
    · cases t with
      | hold j op =>
        obtain rfl : j = id := hMoves
        obtain ⟨c', hEffect, hChannel⟩ := Step.hold_shows s w op hExists
        rw [show (Event.made (.hold j op) w).after s = ((Step.hold j op).run s w).2 from rfl,
          hChannel] at hOpen
        exact hEffect.loses hOpen hFailed
      | raise j raised =>
        obtain rfl : j = id := hMoves
        exact (Step.raise_shows s w raised hExists).1.loses hFailed
      | _ => exact hMoves.elim
    · have hOutput := spentBytes_of_noOutput (w.channel id).blocking fun call hMem =>
        (t.calls_control s w hMoves call hMem).2
      exact absurd hOutput.2.2 hFailed

/-- What an event adds to the output of a channel leaves it in order, and each failure is told or
waits to be told. -/
theorem delivers (e : Event σ) (hExists : id < e.before.channels.length)
    (alone : (e.before.channel id).ParkedAlone)
    (hOpen : ((e.after s).channel id).isOpenFor .write = true) :
    (e.before.channel id).output.toBytes ++ e.appended id =
        e.spent s id ++ ((e.after s).channel id).output.toBytes ∧
      (e.before.channel id).unreported?.toList ++ e.met s id =
        e.told s id ++ ((e.after s).channel id).unreported?.toList ∧
      ((e.after s).channel id).ParkedAlone := by
  cases e with
  | made t w =>
    obtain ⟨stream, reports, hAlone⟩ := t.delivers (s := s) hExists alone hOpen
    exact ⟨stream, reports, hAlone⟩
  | called c w => exact ⟨List.append_nil _, List.append_nil _, alone⟩

end Event

/-- Along events that leave a channel open for writing, each event keeps its output in order. -/
theorem Surroundings.Leads.each_delivers {σ : Type} {s : Surroundings σ} {id : ChannelId}
    {w w' : World σ} {events : List (Event σ)} (history : s.Leads w events w')
    (hExists : id < w.channels.length) (alone : (w.channel id).ParkedAlone)
    (hOpen : (w'.channel id).isOpenFor .write = true) :
    (w'.channel id).ParkedAlone ∧ ∀ e ∈ events, id < e.before.channels.length ∧
      (e.before.channel id).ParkedAlone ∧ ((e.after s).channel id).isOpenFor .write = true :=
  history.along
    (fun w => id < w.channels.length) (fun w => (w.channel id).ParkedAlone)
    (fun w => (w.channel id).isOpenFor .write = true)
    (fun e hThere => Nat.lt_of_lt_of_le hThere e.length_after)
    (fun e hThere hAfter => e.isOpenFor_after hThere hAfter)
    (fun e hThere hBefore hAfter => (e.delivers hThere hBefore hAfter).2.2)
    hExists alone hOpen

/-- What is written along events and what is told of it. -/
theorem Surroundings.Leads.output {σ : Type} {s : Surroundings σ} {id : ChannelId}
    {w w' : World σ} {events : List (Event σ)} (history : s.Leads w events w')
    (hExists : id < w.channels.length) (alone : (w.channel id).ParkedAlone)
    (hOpen : (w'.channel id).isOpenFor .write = true) :
    (w.channel id).output.toBytes ++ events.flatMap (·.appended id) =
        events.flatMap (·.spent s id) ++ (w'.channel id).output.toBytes ∧
      (w.channel id).unreported?.toList ++ events.flatMap (·.met s id) =
        events.flatMap (·.told s id) ++ (w'.channel id).unreported?.toList := by
  obtain ⟨-, hEach⟩ := history.each_delivers hExists alone hOpen
  constructor
  · refine history.balance (fun w => (w.channel id).output.toBytes) fun e hMem => ?_
    obtain ⟨hThere, hBefore, hAfter⟩ := hEach e hMem
    exact (e.delivers hThere hBefore hAfter).1
  · refine history.balance (fun w => (w.channel id).unreported?.toList) fun e hMem => ?_
    obtain ⟨hThere, hBefore, hAfter⟩ := hEach e hMem
    exact (e.delivers hThere hBefore hAfter).2.1

/-- The output of a channel that stays open for writing, whatever else happens and however its
driver behaves. What is written goes through the buffer in order; only what a failure leaves there
is lost. The failures that are met are told in their order, each once: an operation tells the one
that waited, if it writes, and the one that it meets itself; one met in the background waits. -/
theorem output_in_order {σ : Type} {s : Surroundings σ} {id : ChannelId} {w w' : World σ}
    {events : List (Event σ)} (history : s.Leads w events w') (hExists : id < w.channels.length)
    (alone : (w.channel id).ParkedAlone)
    (hOpen : (w'.channel id).isOpenFor .write = true) :
    (w.channel id).output.toBytes ++ events.flatMap (·.appended id) =
        events.flatMap (·.spent s id) ++ (w'.channel id).output.toBytes ∧
      (w.channel id).unreported?.toList ++ events.flatMap (·.met s id) =
        events.flatMap (·.told s id) ++ (w'.channel id).unreported?.toList ∧
      (∀ op w₁, .made (.hold id op) w₁ ∈ events →
        op.Handles (w₁.channel id) ((Step.hold id op).calls s id w₁)
          ((Step.hold id op).run s w₁).1.1 (((Step.hold id op).run s w₁).2.channel id)) ∧
      (∀ raised w₁, .made (.raise id raised) w₁ ∈ events →
        (w₁.channel id).RaiseHandles ((Step.raise id raised).calls s id w₁)
          (((Step.raise id raised).run s w₁).2.channel id)) ∧
      (w'.channel id).ParkedAlone := by
  obtain ⟨hAlone, hEach⟩ := history.each_delivers hExists alone hOpen
  obtain ⟨hStream, hReports⟩ := history.output hExists alone hOpen
  refine ⟨hStream, hReports, ?_, ?_, hAlone⟩
  · intro op w₁ hMem
    obtain ⟨hThere, hBefore, hAfter⟩ := hEach _ hMem
    exact Step.handles_hold hThere hBefore hAfter
  · intro raised w₁ hMem
    obtain ⟨hThere, hBefore, -⟩ := hEach _ hMem
    exact Step.handles_raise raised hThere hBefore

/-- A channel with two bytes to be written in the background, on a driver that fails to write
whatever it is offered. The driver is ready, then a third byte is written. -/
def brokenSurroundings : Surroundings Unit where
  driver _ call env :=
    { answer := match call with
        | .output _ => .error ⟨.number Errno.brokenPipe, none⟩
        | call => call.unsupported
      env }
  ready _ _ := .none
  users _ _ := false

def brokenWorld : World Unit where
  channels := [{
    name := "pipe", type := "file", mode := .writeOnly, blocking := false
    output := ByteQueue.empty.push [1, 2], flushPending := true }]
  env := ()

def brokenRaise : Event Unit := .made (.raise 0 .writing) brokenWorld

def brokenWrite : Event Unit :=
  .made (.hold 0 (.write [3] true)) (brokenRaise.after brokenSurroundings)

/-- The two bytes are lost in the background; the write that follows tells it and adds nothing. -/
theorem output_in_order_broken :
    [1, 2] = [brokenRaise, brokenWrite].flatMap (·.spent brokenSurroundings 0) ∧
      [brokenRaise, brokenWrite].flatMap (·.met brokenSurroundings 0) =
        [brokenRaise, brokenWrite].flatMap (·.told brokenSurroundings 0) := by
  have history : brokenSurroundings.Leads brokenWorld [brokenRaise, brokenWrite]
      (brokenWrite.after brokenSurroundings) := .cons brokenRaise (.cons brokenWrite .refl)
  obtain ⟨hStream, hReports, -⟩ := output_in_order history
    (by decide : 0 < brokenWorld.channels.length)
    (Channel.parkedAlone_of_none rfl) (by decide)
  exact ⟨hStream.trans (List.append_nil _), hReports.trans (List.append_nil _)⟩

end EventChannel
