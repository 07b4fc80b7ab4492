import EventChannel.Proofs.Stream.Output
import EventChannel.Proofs.World.Watch

/-! Two operations take a driver past its output: one to another position, the other to the end of
what is written. Both write first what waits. A driver may take nothing without failing, so that
this succeeds does not say that nothing is left; the operation looks only at the failure. -/

namespace EventChannel

/-- The call takes the driver to another position, or closes one of its directions. -/
def DriverCall.passes : DriverCall → Bool
  | .seek _ | .closeHalf _ => true
  | _ => false

/-- The call by which an operation takes the driver past its output. -/
def ChannelOp.passage? : ChannelOp → Option DriverCall
  | .seek target => some (.seek target)
  | .closeHalf .write => some (.closeHalf .write)
  | _ => none

/-- The answer of an operation that takes the driver past its output is a failure to write. -/
def ChannelOp.Reports (c : Channel) (f : DriverFailure) : (op : ChannelOp) → op.Answer → Prop
  | .seek _, answer => answer = .error (c.seekReport f)
  | .closeHalf _, answer => answer = .error (c.writeReport f)
  | _, _ => False

theorem ChannelOp.passes_passage {op : ChannelOp} {call : DriverCall}
    (hPasses : op.passage? = some call) : call.passes = true := by
  cases op with
  | seek target =>
    cases hPasses
    rfl
  | closeHalf d =>
    cases d with
    | read => cases hPasses
    | write =>
      cases hPasses
      rfl
  | _ => cases hPasses

namespace Held

variable {σ : Type} (driver : Driver σ) {h : Held (σ × List DriverEvent)}

/-- The driver has not been taken anywhere so far. -/
def Stays (h : Held (σ × List DriverEvent)) : Prop := ∀ e ∈ h.calls, e.call.passes = false

/-- Telling the driver what to wait for neither takes it anywhere nor offers it output. -/
theorem calls_applyWatch : ∃ told, (h.applyWatch driver.traced).calls = h.calls ++ told ∧
    ∀ e ∈ told, e.call.passes = false ∧ e.isOutput = false := by
  by_cases hSame : h.channel.wantedMask = h.channel.watched
  · rw [applyWatch_same hSame]
    exact ⟨[], (List.append_nil _).symm, fun e hMem => by cases hMem⟩
  · cases hOpen : h.channel.isOpen with
    | true =>
      rw [applyWatch_open hSame hOpen]
      refine ⟨[⟨.watch h.channel.wantedMask, ()⟩], rfl, fun e hMem => ?_⟩
      rw [List.mem_singleton.1 hMem]
      exact ⟨rfl, rfl⟩
    | false =>
      rw [applyWatch_closed hSame hOpen]
      exact ⟨[], (List.append_nil _).symm, fun e hMem => by cases hMem⟩

namespace Stays

theorem drive (stays : h.Stays) {call : DriverCall} (hStays : call.passes = false) :
    (h.drive driver.traced call).2.Stays := by
  intro e hMem
  rcases List.mem_append.1 hMem with hBefore | hLast
  · exact stays e hBefore
  · rw [List.mem_singleton.1 hLast]
    exact hStays

theorem applyWatch (stays : h.Stays) : (h.applyWatch driver.traced).Stays := by
  obtain ⟨told, hTold, hEach⟩ := calls_applyWatch driver (h := h)
  intro e hMem
  rw [hTold] at hMem
  rcases List.mem_append.1 hMem with hBefore | hLast
  · exact stays e hBefore
  · exact (hEach e hLast).1

theorem emit (stays : h.Stays) (offers : Nat) : (h.emit driver.traced offers).2.Stays := by
  induction offers generalizing h with
  | zero => exact stays
  | succ offers ih =>
    unfold Held.emit
    split
    · exact stays
    have hStays : (DriverCall.output h.channel.output.toBytes).passes = false := rfl
    have hOffered := stays.drive driver hStays
    generalize h.drive driver.traced _ = r at hOffered ⊢
    obtain ⟨⟨f⟩ | ⟨_ | n, _⟩, h₁⟩ := r
    · dsimp only
      split
      · exact hOffered
      · exact hOffered
    · exact hOffered
    · exact ih (h := h₁.dropOutput (n + 1)) hOffered

theorem settleBackground (stays : h.Stays) : (h.settleBackground driver.traced).Stays := by
  unfold Held.settleBackground
  dsimp only
  split
  · exact stays
  · exact applyWatch driver (h := h.update _) stays

/-- Writing what waits takes the driver nowhere. -/
theorem flush (stays : h.Stays) : (h.flush driver.traced).2.Stays := by
  unfold Held.flush
  split
  · exact stays
  have hEmitted := stays.emit driver h.channel.output.size
  generalize h.emit driver.traced _ = r at hEmitted ⊢
  obtain ⟨_ | f, h₁⟩ := r
  · exact hEmitted.settleBackground driver
  · exact settleBackground driver (h := h₁.update _) hEmitted

end Stays

end Held

/-- What an operation comes to that is to take the driver past its output by a call: it is kept from
it, it fails to write what waits and leaves it at that, or it goes on, with what the driver has not
taken still to be written. -/
inductive Channel.Passage (c : Channel) (call : DriverCall) :
    List DriverEvent → Option DriverFailure → Prop
  | kept : Passage c call [] none
  | failed {calls : List DriverEvent} {c' : Channel} (f : DriverFailure)
      (flushed : c.Flushed calls (some f) c') (stays : ∀ e ∈ calls, e.call.passes = false) :
      Passage c call calls (some f)
  | went {before after : List DriverEvent} (answer : call.Answer) (left : Bytes)
      (stream : c.output.toBytes = sentBytes before ++ left)
      (refused : left ≠ [] → ∃ e ∈ before, e.refuses = true)
      (failures : failures c.blocking before = [])
      (stays : ∀ e ∈ before, e.call.passes = false)
      (rest : ∀ e ∈ after, e.call.passes = false ∧ e.isOutput = false) :
      Passage c call (before ++ ⟨call, answer⟩ :: after) none

namespace Channel

variable {c : Channel} {call : DriverCall} {calls : List DriverEvent}

/-- Once what waits has been written without a failure, the operation goes on. -/
theorem Flushed.went {c' : Channel} (flushed : c.Flushed calls none c')
    (stays : ∀ e ∈ calls, e.call.passes = false) (answer : call.Answer) {after : List DriverEvent}
    (rest : ∀ e ∈ after, e.call.passes = false ∧ e.isOutput = false) :
    c.Passage call (calls ++ ⟨call, answer⟩ :: after) none := by
  have hFailures : EventChannel.failures c.blocking calls = [] := flushed.failures
  refine .went answer c'.output.toBytes ?_ (flushed.refused rfl) hFailures stays rest
  rw [← spentBytes_of_noFailure c.blocking hFailures]
  exact flushed.stream

/-- Where nothing waits, the operation goes on at once. -/
theorem passage_of_empty (hEmpty : c.output.toBytes = []) (answer : call.Answer) :
    c.Passage call [⟨call, answer⟩] none := by
  have hStream : c.output.toBytes = sentBytes [] ++ [] := hEmpty
  have hStays : ∀ e ∈ ([] : List DriverEvent), e.call.passes = false := fun e hMem => by cases hMem
  exact .went answer [] hStream (fun hLeft => absurd rfl hLeft) rfl hStays
    fun e hMem => by cases hMem

variable {failure? : Option DriverFailure}

/-- The call by which the driver goes on comes after all output, and no output has failed. -/
theorem Passage.before (passage : c.Passage call calls failure?) (hPasses : call.passes = true)
    {before after : List DriverEvent} {answer : call.Answer}
    (hCalls : calls = before ++ ⟨call, answer⟩ :: after) :
    (∀ e ∈ after, e.isOutput = false) ∧ EventChannel.failures c.blocking before = [] ∧
      ∃ left, c.output.toBytes = sentBytes before ++ left ∧
        (left ≠ [] → ∃ e ∈ before, e.refuses = true) := by
  have hNone {events : List DriverEvent} (stays : ∀ e ∈ events, e.call.passes = false) :
      (⟨call, answer⟩ : DriverEvent) ∉ events := fun hMem => by
    have hCall := stays _ hMem
    rw [hPasses] at hCall
    cases hCall
  cases passage with
  | kept => simp at hCalls
  | failed f flushed stays => exact absurd (by simp [hCalls]) (hNone stays)
  | @went first last answer' left stream refused failures stays rest =>
    -- there is one way only to cut the calls at the one that passes
    rcases List.append_eq_append_iff.1 hCalls with ⟨middle, rfl, hTail⟩ | ⟨middle, rfl, hTail⟩
    · cases middle with
      | nil =>
        obtain ⟨-, rfl⟩ := List.cons.inj hTail
        rw [List.append_nil]
        exact ⟨fun e hMem => (rest e hMem).2, failures, left, stream, refused⟩
      | cons e middle =>
        obtain ⟨-, rfl⟩ := List.cons.inj hTail
        exact absurd (List.mem_append_right middle List.mem_cons_self)
          (hNone fun e hMem => (rest e hMem).1)
    · cases middle with
      | nil =>
        obtain ⟨-, rfl⟩ := List.cons.inj hTail
        rw [List.append_nil] at stream refused failures
        exact ⟨fun e hMem => (rest e hMem).2, failures, left, stream, refused⟩
      | cons e middle =>
        obtain ⟨rfl, -⟩ := List.cons.inj hTail
        exact absurd (List.mem_append_right before List.mem_cons_self) (hNone stays)

/-- After a failure to write, the driver is not called upon to go on. -/
theorem Passage.of_failed (passage : c.Passage call calls failure?) (hPasses : call.passes = true)
    {f : DriverFailure} (hFailed : f ∈ EventChannel.failures c.blocking calls) :
    failure? = some f ∧ ∀ e ∈ calls, e.call.passes = false := by
  cases passage with
  | kept => cases hFailed
  | failed g flushed stays =>
    have hFailures : EventChannel.failures c.blocking calls = [g] := flushed.failures
    rw [hFailures] at hFailed
    exact ⟨congrArg some (List.mem_singleton.1 hFailed).symm, stays⟩
  | @went before after answer left stream refused failures stays rest =>
    have hOutput : ∀ e ∈ ⟨call, answer⟩ :: after, e.isOutput = false := by
      intro e hMem
      rcases List.mem_cons.1 hMem with rfl | hMem
      · cases call <;> first | rfl | cases hPasses
      · exact (rest e hMem).2
    rw [failures_append, failures, (spentBytes_of_noOutput c.blocking hOutput).2.2] at hFailed
    cases hFailed

end Channel

namespace Held

variable {σ : Type} (driver : Driver σ) {h : Held (σ × List DriverEvent)}

/-- Going to a position calls the driver once. -/
theorem calls_goTo (target : SeekTarget) (hOpen : h.channel.isOpen = true) :
    ∃ answer, (h.goTo driver.traced target).2.calls = h.calls ++ [⟨.seek target, answer⟩] := by
  unfold goTo
  rcases hDriven : h.drive driver.traced (.seek target) with ⟨answer, h₁⟩
  have hCalls := (drive_traced driver h hDriven).1
  rw [if_neg (by simp [hOpen])]
  cases answer <;> exact ⟨_, hCalls⟩

/-- Closing a direction calls the driver once, and may then tell it what to wait for. -/
theorem calls_closeSide (d : Direction) :
    ∃ answer after, (h.closeSide driver.traced d).2.calls =
        h.calls ++ ⟨.closeHalf d, answer⟩ :: after ∧
      ∀ e ∈ after, e.call.passes = false ∧ e.isOutput = false := by
  unfold closeSide
  rcases hDriven : h.drive driver.traced (.closeHalf d) with ⟨answer, h₁⟩
  have hCalls := (drive_traced driver h hDriven).1
  cases answer with
  | error e => exact ⟨_, [], hCalls, fun e hMem => by cases hMem⟩
  | ok done =>
    obtain ⟨told, hTold, hEach⟩ := calls_applyWatch driver (h := if d = .read then
        (h₁.update fun c => { c with mode := c.mode.without d }).update
          ({ · with input := [], eof := true })
      else h₁.update fun c => { c with mode := c.mode.without d })
    refine ⟨.ok done, told, ?_, hEach⟩
    rw [List.append_cons, ← hCalls]
    refine hTold.trans (congrArg (· ++ told) ?_)
    split <;> rfl

variable (h)

/-- Writes what waits, and goes on unless that fails. -/
def writeFirst {σ α : Type} (driver : Driver σ) (report : Held σ → DriverFailure → Report)
    (next : Held σ → Except Report α × Held σ) (h : Held σ) : Except Report α × Held σ :=
  match h.flush driver with
  | (some f, h) => (.error (report h f), h)
  | (none, h) => next h

/-- If what waits fails to be written, nothing else is done, and the failure is reported. -/
theorem writeFirst_passage {α : Type} {call : DriverCall}
    {next : Held (σ × List DriverEvent) → Except Report α × Held (σ × List DriverEvent)}
    {report : Held (σ × List DriverEvent) → DriverFailure → Report} (hNone : h.calls = [])
    (hOpen : h.channel.isOpen = true)
    (hReport : ∀ {h₁ : Held (σ × List DriverEvent)} (f : DriverFailure),
      h₁.channel.name = h.channel.name → report h₁ f = report h f)
    (hNext : ∀ {h₁ : Held (σ × List DriverEvent)}, h₁.channel.isOpen = true →
      ∃ answer after, (next h₁).2.calls = h₁.calls ++ ⟨call, answer⟩ :: after ∧
        ∀ e ∈ after, e.call.passes = false ∧ e.isOutput = false) :
    ∃ failure?,
      h.channel.Passage call (h.writeFirst driver.traced report next).2.calls failure? ∧
      ∀ f, failure? = some f →
        (h.writeFirst driver.traced report next).1 = .error (report h f) := by
  have stays : h.Stays := fun e hMem => by
    rw [hNone] at hMem
    cases hMem
  obtain ⟨first, hFirst, flushed⟩ := flush_traced driver h hOpen
  have hStays := stays.flush driver
  rw [hNone, List.nil_append] at hFirst
  rw [Stays, hFirst] at hStays
  unfold writeFirst
  generalize h.flush driver.traced = r at hFirst flushed ⊢
  obtain ⟨_ | f, h₁⟩ := r
  · obtain ⟨answer, after, hCalls, hAfter⟩ := hNext (flushed.isOpen.trans hOpen)
    refine ⟨none, ?_, fun f hFailed => by cases hFailed⟩
    dsimp only at hFirst hCalls ⊢
    rw [hCalls, hFirst]
    exact flushed.went hStays answer hAfter
  · have hName : h₁.channel.name = h.channel.name := by rw [flushed.rest]
    refine ⟨some f, ?_, fun g hFailed => ?_⟩
    · dsimp only at hFirst ⊢
      rw [hFirst]
      exact .failed f flushed hStays
    · cases hFailed
      exact congrArg Except.error (hReport f hName)

theorem seek_passage (target : SeekTarget) (hNone : h.calls = [])
    (hOpen : h.channel.isOpen = true) :
    ∃ failure?, h.channel.Passage (.seek target) (h.seek driver.traced target).2.calls failure? ∧
      ∀ f, failure? = some f →
        (h.seek driver.traced target).1 = .error (h.seekReport f) := by
  have hThere {h₁ : Held (σ × List DriverEvent)} (hOpen : h₁.channel.isOpen = true) :
      ∃ answer after, (h₁.goTo driver.traced target).2.calls =
          h₁.calls ++ ⟨.seek target, answer⟩ :: after ∧
        ∀ e ∈ after, e.call.passes = false ∧ e.isOutput = false := by
    obtain ⟨answer, hCalls⟩ := calls_goTo driver target hOpen
    exact ⟨answer, [], hCalls, fun e hMem => by cases hMem⟩
  cases hEmpty : h.channel.output.isEmpty with
  | true =>
    rw [seek_empty hEmpty]
    obtain ⟨answer, hCalls⟩ := calls_goTo driver target hOpen
    rw [hCalls, hNone]
    exact ⟨none, Channel.passage_of_empty (by simpa using hEmpty) answer,
      fun f hFailed => by cases hFailed⟩
  | false =>
    have hSeek : h.seek driver.traced target =
        h.writeFirst driver.traced seekReport (·.goTo driver.traced target) :=
      seek_waiting hEmpty
    rw [hSeek]
    refine writeFirst_passage driver h hNone hOpen ?_ hThere
    intro h₁ f hName
    rw [seekReport, hName, ← seekReport]

theorem closeHalf_passage (hNone : h.calls = []) (hOpen : h.channel.isOpen = true) :
    ∃ failure?,
      h.channel.Passage (.closeHalf .write) (h.closeHalf driver.traced .write).2.calls failure? ∧
      ∀ f, failure? = some f →
        (h.closeHalf driver.traced .write).1 = .error (h.writeReport f) := by
  by_cases hNot : h.channel.mode.has .write = false ∨ h.channel.mode.without .write = .none
  · rw [closeHalf_unchanged (.inr hNot), hNone]
    exact ⟨none, .kept, fun f hFailed => by cases hFailed⟩
  · obtain ⟨hHas, hLast⟩ : h.channel.mode.has .write = true ∧
        h.channel.mode.without .write ≠ .none := by simpa using hNot
    have hClose : h.closeHalf driver.traced .write =
        h.writeFirst driver.traced writeReport (·.closeSide driver.traced .write) :=
      closeHalf_write hOpen hHas hLast
    rw [hClose]
    refine writeFirst_passage driver h hNone hOpen ?_ fun _ => calls_closeSide driver .write
    intro h₁ f hName
    rw [writeReport, hName, ← writeReport]

/-- Whatever the driver answers, an operation that takes it past the output writes first. -/
theorem perform_passage {op : ChannelOp} {call : DriverCall} (hPasses : op.passage? = some call)
    (hNone : h.calls = []) :
    ∃ failure?, h.channel.Passage call (h.perform driver.traced op).2.calls failure? ∧
      ∀ f, failure? = some f → op.Reports h.channel f (h.perform driver.traced op).1 := by
  cases hOpen : h.channel.isOpen with
  | false =>
    rw [(perform_shut driver hOpen op).2, hNone]
    exact ⟨none, .kept, fun f hFailed => by cases hFailed⟩
  | true =>
    cases op with
    | seek target =>
      cases hPasses
      exact seek_passage driver h target hNone hOpen
    | closeHalf d =>
      cases d with
      | read => cases hPasses
      | write =>
        cases hPasses
        exact closeHalf_passage driver h hNone hOpen
    | _ => cases hPasses

end Held

namespace Channel

variable {c c' c₁ : Channel} {calls first second : List DriverEvent}

/-- Without output calls the output is as it was. -/
theorem stream_of_kept (hCalls : ∀ e ∈ calls, e.isOutput = false) (hOutput : c'.output = c.output) :
    c.output.toBytes = spentBytes c.blocking calls ++ c'.output.toBytes := by
  rw [(spentBytes_of_noOutput c.blocking hCalls).1, hOutput, List.nil_append]

theorem Cleared.stream (cleared : c.Cleared first c₁) (control : Control second)
    (hOutput : c'.output = c₁.output) :
    c.output.toBytes = spentBytes c.blocking (first ++ second) ++ c'.output.toBytes := by
  have hNone := (spentBytes_of_noOutput c.blocking fun e hMem => (control e hMem).2).1
  rw [spentBytes_append, hNone, List.append_nil, hOutput]
  exact cleared.output.1

theorem RaiseEffect.stream (effect : c.RaiseEffect calls c') :
    c.output.toBytes = spentBytes c.blocking calls ++ c'.output.toBytes := by
  cases effect with
  | idle => rfl
  | written hPending flushed => exact flushed.stream
  | failed f hPending flushed => exact flushed.stream

/-- As long as a channel is open, what an operation adds to its output leaves it in order, or still
waits. Here it does not matter whether a failure waits to be told. -/
theorem Effect.stream {op : ChannelOp} {answer : op.Answer} (effect : c.Effect op calls answer c')
    (hOpen : c'.isOpen = true) (hWrites : op.collects = true → c.isOpenFor .write = true) :
    c.output.toBytes ++ op.appended c = spentBytes c.blocking calls ++ c'.output.toBytes := by
  cases op with
  | write bytes force => exact (WriteEffect.handles (hWrites rfl) effect).stream
  | shut =>
    rw [ShutEffect.isOpen effect] at hOpen
    cases hOpen
  | read n =>
    refine (List.append_nil _).trans (stream_of_kept ?_ ?_)
    · intro e hMem
      cases effect with
      | misused | buffered => cases hMem
      | given | waits | fails => rw [List.mem_singleton.1 hMem]; rfl
    · cases effect <;> rfl
  | seek target =>
    refine (List.append_nil _).trans ?_
    cases effect with
    | failed f flushed => exact flushed.stream
    | went answer input eof deferred cleared control => exact cleared.stream control rfl
  | closeHalf d =>
    refine (List.append_nil _).trans ?_
    cases effect with
    | unchanged => rfl
    | failed f hWrite flushed => exact flushed.stream
    | went answer cleared control kept mode rest => exact cleared.stream control (by rw [rest])
  | setBlocking | createHandler | deleteHandler =>
    exact (List.append_nil _).trans
      (stream_of_kept (fun e hMem => (effect.1.control e hMem).2) (by rw [effect.1.rest]))
  | tell | getOption | getOptions | setOption | cut | splice =>
    exact (List.append_nil _).trans
      (stream_of_kept (fun e hMem => (Calm.control effect e hMem).2) (by rw [Calm.rest effect]))

end Channel

namespace Step

variable {σ α : Type} {s : Surroundings σ} {w : World σ} {id : ChannelId}

/-- A write on a channel that is not open for it does nothing. -/
theorem write_misused {bytes : Bytes} {force : Bool} (hExists : id < w.channels.length)
    (hNot : (w.channel id).isOpenFor .write = false) :
    (Step.hold id (.write bytes force)).calls s id w = [] ∧
      (((Step.hold id (.write bytes force)).run s w).2.channel id).output =
        (w.channel id).output := by
  let h := (w.held id).recording
  obtain ⟨m, hWrite⟩ : ∃ m, h.write (s.driver id).traced bytes force = (.error (.misuse m), h) := by
    cases hOpen : (w.channel id).isOpen with
    | false => exact ⟨_, Held.write_closed (h := h) hOpen⟩
    | true =>
      have hMode : (w.channel id).mode.writable = false := by
        rwa [Channel.isOpenFor, hOpen, Bool.true_and] at hNot
      exact ⟨_, Held.write_unwritable (h := h) hOpen hMode⟩
  have hPerform : h.perform (s.driver id).traced (.write bytes force) = (.error (.misuse m), h) :=
    hWrite
  refine ⟨?_, ?_⟩
  · rw [Step.calls, if_pos rfl]
    show (h.perform (s.driver id).traced (.write bytes force)).2.calls = []
    rw [hPerform]
    rfl
  · rw [channel_hold s w _ hExists]
    show (h.perform (s.driver id).traced (.write bytes force)).2.channel.output = _
    rw [hPerform]
    rfl

/-- As long as a channel is open, what a step adds to its output leaves it in order, or waits. -/
theorem stream (t : Step σ α) (hExists : id < w.channels.length)
    (hOpen : ((t.run s w).2.channel id).isOpen = true) :
    (w.channel id).output.toBytes ++ t.appended id w =
      spentBytes (w.channel id).blocking (t.calls s id w) ++
        ((t.run s w).2.channel id).output.toBytes := by
  by_cases hMoves : t.Moves id
  · cases t with
    | hold j op =>
      obtain rfl : j = id := hMoves
      rw [Step.appended, if_pos rfl]
      by_cases hWrites : op.collects = true → (w.channel j).isOpenFor .write = true
      · obtain ⟨c', hEffect, hChannel⟩ := hold_shows s w op hExists
        rw [hChannel] at hOpen ⊢
        exact hEffect.stream hOpen hWrites
      · obtain ⟨hCollects, hNot⟩ : op.collects = true ∧ (w.channel j).isOpenFor .write = false := by
          simpa using hWrites
        cases op with
        | write bytes force =>
          obtain ⟨hCalls, hOutput⟩ := write_misused (s := s) hExists hNot
          rw [hCalls, hOutput, ChannelOp.appended, hNot]
          exact List.append_nil _
        | _ => cases hCollects
    | raise j raised =>
      obtain rfl : j = id := hMoves
      exact (List.append_nil _).trans (raise_shows s w raised hExists).1.stream
    | _ => exact hMoves.elim
  · have hAppended : t.appended id w = [] := by
      cases t with
      | hold j op => exact if_neg hMoves
      | _ => rfl
    have hRest := Channel.of_bare (t.bare_run s w hExists hMoves)
    rw [hAppended, List.append_nil]
    exact Channel.stream_of_kept (fun e hMem => (t.calls_control s w hMoves e hMem).2)
      (by rw [hRest])

end Step

variable {σ : Type} {s : Surroundings σ} {id : ChannelId}

theorem Event.stream (e : Event σ) (hExists : id < e.before.channels.length)
    (hOpen : ((e.after s).channel id).isOpen = true) :
    (e.before.channel id).output.toBytes ++ e.appended id =
      e.spent s id ++ ((e.after s).channel id).output.toBytes := by
  cases e with
  | made t w => exact t.stream hExists hOpen
  | called c w => exact List.append_nil _

/-- What has been added to the output of an open channel has left it in order, or waits. -/
theorem Surroundings.Leads.stream {w w' : World σ} {events : List (Event σ)}
    (history : s.Leads w events w') (hExists : id < w.channels.length)
    (hOpen : (w'.channel id).isOpen = true) :
    (w.channel id).output.toBytes ++ events.flatMap (·.appended id) =
      events.flatMap (·.spent s id) ++ (w'.channel id).output.toBytes := by
  obtain ⟨-, hEach⟩ := history.along
    (fun w => id < w.channels.length) (fun _ => True) (fun w => (w.channel id).isOpen = true)
    (fun e hThere => Nat.lt_of_lt_of_le hThere e.length_after)
    (fun e hThere hAfter => by
      cases hBefore : (e.before.channel id).isOpen with
      | true => rfl
      | false => exact (e.shut_after hThere hBefore).symm.trans hAfter)
    (fun _ _ _ _ => trivial) hExists trivial hOpen
  refine history.balance (fun w => (w.channel id).output.toBytes) fun e hMem => ?_
  obtain ⟨hThere, -, hAfter⟩ := hEach e hMem
  exact e.stream hThere hAfter

/-- Nothing waits to be written where nothing did and nothing has been written since. -/
theorem Surroundings.Leads.unfilled {w w' : World σ}
    {events : List (Event σ)} (history : s.Leads w events w')
    (hExists : id < w.channels.length) (hOpen : (w'.channel id).isOpen = true)
    (hNone : ∀ e ∈ events, e.appended id = []) (hEmpty : (w.channel id).output.toBytes = []) :
    (w'.channel id).output.toBytes = [] := by
  have hStream := history.stream hExists hOpen
  rw [hEmpty, List.flatMap_eq_nil_iff.2 hNone] at hStream
  exact (List.append_eq_nil_iff.1 hStream.symm).2

/-- What an operation calls of the driver that takes it past the output, as a step. -/
theorem Step.hold_passage {v : World σ} {op : ChannelOp} {call : DriverCall}
    (hPasses : op.passage? = some call) :
    ∃ failure?, (v.channel id).Passage call ((Step.hold id op).calls s id v) failure? ∧
      ∀ f, failure? = some f → op.Reports (v.channel id) f ((Step.hold id op).run s v).1.1 := by
  let h := (v.held id).recording
  obtain ⟨failure?, passage, hReports⟩ :=
    Held.perform_passage (h := h) (s.driver id) hPasses rfl
  have hErase := Held.erase_perform (s.driver id) h op
  rw [Held.erase_recording] at hErase
  have hAnswer : (h.perform (s.driver id).traced op).1 = ((Step.hold id op).run s v).1.1 :=
    (congrArg Prod.fst hErase).symm
  rw [hAnswer] at hReports
  refine ⟨failure?, ?_, hReports⟩
  rw [Step.calls, if_pos rfl]
  exact passage

/-- The driver of a closed channel is not called. -/
theorem Step.isOpen_of_calls {v : World σ} {op : ChannelOp} {e : DriverEvent}
    (hMem : e ∈ (Step.hold id op).calls s id v) : (v.channel id).isOpen = true := by
  cases hShut : (v.channel id).isOpen with
  | true => rfl
  | false =>
    rw [Step.calls, if_pos rfl,
      (Held.perform_shut (h := (v.held id).recording) (s.driver id) hShut op).2] at hMem
    cases hMem

/-- What is done before a driver goes to another position, or to the end of what is written. When it
is called upon to do so, all output that was offered before has left the buffer, save what the
driver has refused just then: what left it was taken, as far as no write has failed. If what waits
fails to be written, the operation reports that, and the driver is not called upon. -/
theorem output_before_passage {w v : World σ} {events : List (Event σ)}
    (history : s.Leads w events v) (hExists : id < w.channels.length) {op : ChannelOp}
    {call : DriverCall} (hPasses : op.passage? = some call) :
    (∀ before answer after, (Step.hold id op).calls s id v = before ++ ⟨call, answer⟩ :: after →
      (∀ e ∈ after, e.isOutput = false) ∧
      ∃ left, (w.channel id).output.toBytes ++ events.flatMap (·.appended id) =
          events.flatMap (·.spent s id) ++ sentBytes before ++ left ∧
        ((∀ e ∈ before, e.refuses = false) → left = []) ∧
        ((∀ e ∈ events, e.met s id = []) → (∀ e ∈ before, e.refuses = false) →
          (w.channel id).output.toBytes ++ events.flatMap (·.appended id) =
            events.flatMap (·.sent s id) ++ sentBytes before)) ∧
    ∀ f ∈ failures (v.channel id).blocking ((Step.hold id op).calls s id v),
      op.Reports (v.channel id) f ((Step.hold id op).run s v).1.1 ∧
        ∀ e ∈ (Step.hold id op).calls s id v, e.call.passes = false := by
  have hCall := ChannelOp.passes_passage hPasses
  obtain ⟨failure?, passage, hReports⟩ := Step.hold_passage (s := s) (v := v) hPasses
  constructor
  · intro before answer after hSplit
    obtain ⟨hAfter, -, left, hStream, hRefused⟩ := passage.before hCall hSplit
    have hOpen : (v.channel id).isOpen = true :=
      Step.isOpen_of_calls (e := ⟨call, answer⟩) (by rw [hSplit]; simp)
    have hWaits (hNone : ∀ e ∈ before, e.refuses = false) : left = [] := by
      cases left with
      | nil => rfl
      | cons b rest =>
        obtain ⟨e, hMem, hRefuses⟩ := hRefused (List.cons_ne_nil b rest)
        rw [hNone e hMem] at hRefuses
        cases hRefuses
    have hAll : (w.channel id).output.toBytes ++ events.flatMap (·.appended id) =
        events.flatMap (·.spent s id) ++ sentBytes before ++ left := by
      rw [history.stream hExists hOpen, hStream, List.append_assoc]
    refine ⟨hAfter, left, hAll, hWaits, fun hMet hNone => ?_⟩
    have hTaken : events.flatMap (·.spent s id) = events.flatMap (·.sent s id) := by
      rw [List.flatMap_def, List.flatMap_def,
        List.map_congr_left fun e hMem => Event.spent_of_noFailure (hMet e hMem)]
    rw [hAll, hWaits hNone, List.append_nil, hTaken]
  · intro f hFailed
    obtain ⟨hFailure, hStays⟩ := passage.of_failed hCall hFailed
    exact ⟨hReports f hFailure, hStays⟩

/-- Two bytes have been written to a channel, then it is to go to another position, or to be closed
for writing. Drivers differ in what they take of an offer. -/
def sparingSurroundings
    (take : (bytes : Bytes) → Except DriverFailure { n : Nat // n ≤ bytes.length }) :
    Surroundings Unit where
  driver _ call env :=
    { answer := match call with
        | .output bytes => take bytes
        | .seek _ => .ok 0
        | .closeHalf _ => .ok ()
        | call => call.unsupported
      env }
  ready _ _ := .none
  users _ _ := false

/-- Of each offer, that many bytes at most are taken. -/
def takingAtMost (most : Nat) (bytes : Bytes) :
    Except DriverFailure { n : Nat // n ≤ bytes.length } :=
  .ok ⟨(bytes.take most).length, List.length_take_le' most bytes⟩

def wouldWait (bytes : Bytes) : Except DriverFailure { n : Nat // n ≤ bytes.length } :=
  .error .wouldBlock

def sparingWorld (blocking : Bool) : World Unit where
  channels := [{ name := "file", type := "file", mode := .both, blocking }]
  env := ()

def sparingWrite (blocking : Bool) : Event Unit :=
  .made (.hold 0 (.write [1, 2] false)) (sparingWorld blocking)

/-- A driver that takes one byte at a time has taken both before it is to go to the start. -/
theorem output_before_passage_single :
    ∃ before answer, (Step.hold 0 (.seek (.start 0))).calls (sparingSurroundings (takingAtMost 1)) 0
        ((sparingWrite true).after (sparingSurroundings (takingAtMost 1))) =
          before ++ [⟨.seek (.start 0), answer⟩] ∧
      sentBytes before = [1, 2] := by
  have history : (sparingSurroundings (takingAtMost 1)).Leads (sparingWorld true)
      [sparingWrite true] ((sparingWrite true).after (sparingSurroundings (takingAtMost 1))) :=
    .cons (sparingWrite true) .refl
  refine ⟨[⟨.output [1, 2], takingAtMost 1 [1, 2]⟩, ⟨.output [2], takingAtMost 1 [2]⟩], .ok 0,
    rfl, ?_⟩
  obtain ⟨-, left, -, -, hTaken⟩ :=
    (output_before_passage history (by decide : 0 < (sparingWorld true).channels.length)
      (rfl : (ChannelOp.seek (.start 0)).passage? = some _)).1
      [⟨.output [1, 2], takingAtMost 1 [1, 2]⟩, ⟨.output [2], takingAtMost 1 [2]⟩] (.ok 0) [] rfl
  have hAll := hTaken (by simp; rfl) (by simp; decide)
  exact hAll.symm

/-- A driver that cannot take anything for now is still sent to the start, and one that takes
nothing is still closed for writing. Both bytes wait, and the operations succeed. -/
theorem output_passed_over :
    (∃ before, (Step.hold 0 (.seek (.start 0))).calls (sparingSurroundings wouldWait) 0
        ((sparingWrite false).after (sparingSurroundings wouldWait)) =
          before ++ [⟨.seek (.start 0), .ok 0⟩] ∧
      (sparingWrite false).appended 0 = [1, 2] ∧
      (sparingWrite false).sent (sparingSurroundings wouldWait) 0 ++ sentBytes before = []) ∧
    ((Step.hold 0 (.seek (.start 0))).run (sparingSurroundings wouldWait)
      ((sparingWrite false).after (sparingSurroundings wouldWait))).1.1 = .ok 0 ∧
    (∃ before, (Step.hold 0 (.closeHalf .write)).calls (sparingSurroundings (takingAtMost 0)) 0
        ((sparingWrite true).after (sparingSurroundings (takingAtMost 0))) =
          before ++ [⟨.closeHalf .write, .ok ()⟩] ∧
      (sparingWrite true).appended 0 = [1, 2] ∧
      (sparingWrite true).sent (sparingSurroundings (takingAtMost 0)) 0 ++ sentBytes before = []) ∧
    ((Step.hold 0 (.closeHalf .write)).run (sparingSurroundings (takingAtMost 0))
      ((sparingWrite true).after (sparingSurroundings (takingAtMost 0)))).1.1 = .ok .done :=
  ⟨⟨[⟨.output [1, 2], wouldWait [1, 2]⟩, ⟨.watch .writing, ()⟩], rfl, rfl, rfl⟩, rfl,
    ⟨[⟨.output [1, 2], takingAtMost 0 [1, 2]⟩], rfl, rfl, rfl⟩, rfl⟩

end EventChannel
