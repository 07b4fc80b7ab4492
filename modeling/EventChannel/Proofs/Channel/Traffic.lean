import EventChannel.Proofs.Channel.Record

/-! What the calls to a driver say about the bytes that went through it: the bytes taken, the bytes
given, the failures, and the bytes that a failure has made the channel drop. Writing out the output
buffer is described here for every driver at once, by the answers that it may give. -/

namespace EventChannel

/-- The failure is no more than a wish to wait, and in this mode the channel can wait. -/
def DriverFailure.postpones (blocking : Bool) (f : DriverFailure) : Bool :=
  f.isWouldBlock && !blocking

namespace DriverEvent

/-- The bytes that the driver has taken. -/
def sent : DriverEvent → Bytes
  | ⟨.output bytes, .ok n⟩ => bytes.take n.1
  | _ => []

/-- The bytes that the driver has given. -/
def given : DriverEvent → Bytes
  | ⟨.input _, .ok bytes⟩ => bytes.1
  | _ => []

/-- The failure by which writing ends. Having to wait is one in blocking mode only. -/
def failure? (blocking : Bool) : DriverEvent → Option DriverFailure
  | ⟨.output _, .error f⟩ => if f.postpones blocking then none else some f
  | _ => none

/-- The bytes that were still to be written when writing failed. -/
def lost (blocking : Bool) : DriverEvent → Bytes
  | ⟨.output bytes, .error f⟩ => if f.postpones blocking then [] else bytes
  | _ => []

def isOutput : DriverEvent → Bool
  | ⟨.output _, _⟩ => true
  | _ => false

def isInput : DriverEvent → Bool
  | ⟨.input _, _⟩ => true
  | _ => false

/-- The driver takes nothing for now: it has to wait, or it answers that it has taken no bytes. -/
def refuses : DriverEvent → Bool
  | ⟨.output _, .ok n⟩ => n.1 == 0
  | ⟨.output _, .error f⟩ => f.isWouldBlock
  | _ => false

variable {e : DriverEvent}

/-- A call that is no output call takes nothing, loses nothing and does not fail to write. -/
theorem of_noOutput (blocking : Bool) (hNone : e.isOutput = false) :
    e.sent = [] ∧ e.lost blocking = [] ∧ e.failure? blocking = none := by
  obtain ⟨call, answer⟩ := e
  cases call with
  | output bytes => exact Bool.noConfusion hNone
  | _ => exact ⟨rfl, rfl, rfl⟩

theorem given_of_noInput (hNone : e.isInput = false) : e.given = [] := by
  obtain ⟨call, answer⟩ := e
  cases call with
  | input room => exact Bool.noConfusion hNone
  | _ => rfl

/-- What does not fail loses nothing. -/
theorem lost_of_noFailure {blocking : Bool} (hNone : e.failure? blocking = none) :
    e.lost blocking = [] := by
  obtain ⟨call, answer⟩ := e
  cases call with
  | output bytes =>
    cases answer with
    | ok n => rfl
    | error f =>
      by_cases hWait : f.postpones blocking
      · simp [lost, hWait]
      · simp [failure?, hWait] at hNone
  | _ => rfl

end DriverEvent

/-- The bytes that a driver has taken, in the order of its calls. -/
def sentBytes (calls : List DriverEvent) : Bytes := calls.flatMap (·.sent)

/-- The bytes that a driver has given, in the order of its calls. -/
def givenBytes (calls : List DriverEvent) : Bytes := calls.flatMap (·.given)

/-- The failures of writing, in the order of the calls. -/
def failures (blocking : Bool) (calls : List DriverEvent) : List DriverFailure :=
  calls.filterMap (·.failure? blocking)

/-- The bytes that have left the output buffer: those that the driver has taken and, where it has
failed, those that were left and have been dropped. -/
def spentBytes (blocking : Bool) (calls : List DriverEvent) : Bytes :=
  calls.flatMap fun e => e.sent ++ e.lost blocking

/-- Calls that move no bytes. -/
def Control (calls : List DriverEvent) : Prop :=
  ∀ e ∈ calls, e.isInput = false ∧ e.isOutput = false

section Calls

variable (blocking : Bool) (left right calls : List DriverEvent)

@[simp] theorem sentBytes_append : sentBytes (left ++ right) = sentBytes left ++ sentBytes right :=
  List.flatMap_append

@[simp] theorem givenBytes_append :
    givenBytes (left ++ right) = givenBytes left ++ givenBytes right :=
  List.flatMap_append

@[simp] theorem failures_append :
    failures blocking (left ++ right) = failures blocking left ++ failures blocking right :=
  List.filterMap_append

@[simp] theorem spentBytes_append :
    spentBytes blocking (left ++ right) = spentBytes blocking left ++ spentBytes blocking right :=
  List.flatMap_append

theorem control_nil : Control [] := by
  intro e hMem
  cases hMem

theorem control_single {e : DriverEvent} (hInput : e.isInput = false)
    (hOutput : e.isOutput = false) : Control [e] := by
  intro e' hMem
  rw [List.mem_singleton.1 hMem]
  exact ⟨hInput, hOutput⟩

theorem Control.append {left right : List DriverEvent} (hLeft : Control left)
    (hRight : Control right) : Control (left ++ right) := by
  intro e hMem
  rcases List.mem_append.1 hMem with hMem | hMem
  · exact hLeft e hMem
  · exact hRight e hMem

variable {calls}

/-- Calls that are no output calls take nothing, lose nothing and do not fail to write. -/
theorem spentBytes_of_noOutput (hNone : ∀ e ∈ calls, e.isOutput = false) :
    spentBytes blocking calls = [] ∧ sentBytes calls = [] ∧ failures blocking calls = [] := by
  have hEach e (hMem : e ∈ calls) := DriverEvent.of_noOutput blocking (hNone e hMem)
  refine ⟨?_, ?_, ?_⟩
  · exact List.flatMap_eq_nil_iff.2 fun e hMem => by simp [hEach e hMem]
  · exact List.flatMap_eq_nil_iff.2 fun e hMem => (hEach e hMem).1
  · exact List.filterMap_eq_nil_iff.2 fun e hMem => (hEach e hMem).2.2

theorem givenBytes_of_noInput (hNone : ∀ e ∈ calls, e.isInput = false) : givenBytes calls = [] :=
  List.flatMap_eq_nil_iff.2 fun e hMem => DriverEvent.given_of_noInput (hNone e hMem)

/-- Where nothing fails, what has left the buffer has been taken. -/
theorem spentBytes_of_noFailure (hNone : failures blocking calls = []) :
    spentBytes blocking calls = sentBytes calls := by
  have hEach e (hMem : e ∈ calls) : e.sent ++ e.lost blocking = e.sent := by
    rw [DriverEvent.lost_of_noFailure (List.filterMap_eq_nil_iff.1 hNone e hMem), List.append_nil]
  rw [spentBytes, sentBytes, List.flatMap_def, List.flatMap_def, List.map_congr_left hEach]

end Calls

namespace Channel

/-- Output is offered to a driver until all is taken, the driver takes nothing, or it fails. What
fails leaves its bytes in the buffer. -/
inductive Offers : Channel → List DriverEvent → Option DriverFailure → Channel → Prop
  | empty {c : Channel} (hEmpty : c.output.toBytes = []) : Offers c [] none c
  | refused {c : Channel} (deferred : Interest) (hSome : c.output.toBytes ≠ []) :
      Offers c [⟨.output c.output.toBytes, .ok ⟨0, Nat.zero_le _⟩⟩] none { c with deferred }
  | taken {c c' : Channel} {calls : List DriverEvent} {failure? : Option DriverFailure}
      (deferred : Interest) (n : Nat) (hRoom : n + 1 ≤ c.output.toBytes.length)
      (rest : Offers { c with output := c.output.drop (n + 1), deferred } calls failure? c') :
      Offers c (⟨.output c.output.toBytes, .ok ⟨n + 1, hRoom⟩⟩ :: calls) failure? c'
  | waits {c : Channel} (deferred : Interest) (f : DriverFailure) (hSome : c.output.toBytes ≠ [])
      (hWait : f.postpones c.blocking = true) :
      Offers c [⟨.output c.output.toBytes, .error f⟩] none { c with deferred }
  | fails {c : Channel} (deferred : Interest) (f : DriverFailure) (hSome : c.output.toBytes ≠ [])
      (hFails : f.postpones c.blocking = false) :
      Offers c [⟨.output c.output.toBytes, .error f⟩] (some f) { c with deferred }

namespace Offers

variable {c c' : Channel} {calls : List DriverEvent} {failure? : Option DriverFailure}

/-- Offering output changes nothing but the output and what is put off. -/
theorem rest (offers : Offers c calls failure? c') :
    c' = { c with output := c'.output, deferred := c'.deferred } := by
  induction offers with
  | empty | refused | waits | fails => rfl
  | taken deferred n hRoom rest ih => exact ih

theorem noInput (offers : Offers c calls failure? c') : ∀ e ∈ calls, e.isInput = false := by
  induction offers with
  | empty => exact fun e hMem => by cases hMem
  | refused | waits | fails => exact fun e hMem => by rw [List.mem_singleton.1 hMem]; rfl
  | taken deferred n hRoom rest ih =>
    intro e hMem
    rcases List.mem_cons.1 hMem with rfl | hMem
    · rfl
    · exact ih e hMem

/-- The failure is that of the one call that fails. -/
theorem failures (offers : Offers c calls failure? c') :
    failures c.blocking calls = failure?.toList := by
  induction offers with
  | empty | refused => rfl
  | waits deferred f hSome hWait => simp [EventChannel.failures, DriverEvent.failure?, hWait]
  | fails deferred f hSome hFails => simp [EventChannel.failures, DriverEvent.failure?, hFails]
  | taken deferred n hRoom rest ih => exact ih

/-- The output is what has left the buffer, followed by what is left. After a failure all has left
the buffer or is lost. -/
theorem stream (offers : Offers c calls failure? c') :
    c.output.toBytes =
      spentBytes c.blocking calls ++ (if failure?.isSome then [] else c'.output.toBytes) := by
  induction offers with
  | empty | refused => simp [spentBytes, DriverEvent.sent, DriverEvent.lost]
  | waits deferred f hSome hWait => simp [spentBytes, DriverEvent.sent, DriverEvent.lost, hWait]
  | fails deferred f hSome hFails => simp [spentBytes, DriverEvent.sent, DriverEvent.lost, hFails]
  | @taken c c' calls failure? deferred n hRoom rest ih =>
    have hRest : c.output.toBytes.drop (n + 1) =
        spentBytes c.blocking calls ++ (if failure?.isSome then [] else c'.output.toBytes) := ih
    calc c.output.toBytes
        = c.output.toBytes.take (n + 1) ++ c.output.toBytes.drop (n + 1) :=
          (List.take_append_drop _ _).symm
      _ = _ := by
          rw [hRest]
          simp [spentBytes, DriverEvent.sent, DriverEvent.lost]

/-- Nothing fails where nothing waits to be written. -/
theorem waited (offers : Offers c calls failure? c') (hFailed : failure?.isSome) :
    c.output.toBytes ≠ [] := by
  cases offers with
  | empty | refused | waits => cases hFailed
  | taken deferred n hRoom rest =>
    intro hEmpty
    rw [hEmpty] at hRoom
    cases hRoom
  | fails deferred f hSome hFails => exact hSome

/-- A failure loses something: at least the byte that was offered first to the call that fails. -/
theorem loses (offers : Offers c calls failure? c') (hFailed : failure?.isSome) :
    (sentBytes calls).length < (spentBytes c.blocking calls).length := by
  induction offers with
  | empty | refused | waits => cases hFailed
  | fails deferred f hSome hFails =>
    simpa [sentBytes, spentBytes, DriverEvent.sent, DriverEvent.lost, hFails] using
      List.length_pos_iff.2 hSome
  | @taken c c' calls failure? deferred n hRoom rest ih =>
    have hRest : (sentBytes calls).length < (spentBytes c.blocking calls).length := ih hFailed
    rw [← List.singleton_append, sentBytes_append, spentBytes_append, List.length_append,
      List.length_append]
    refine Nat.add_lt_add_of_le_of_lt ?_ hRest
    simp [sentBytes, spentBytes, DriverEvent.sent, DriverEvent.lost]

/-- Output that is left without a failure was refused by the last call. -/
theorem refused_of_left (offers : Offers c calls none c') (hLeft : c'.output.toBytes ≠ []) :
    ∃ e ∈ calls, e.refuses = true := by
  generalize hNone : (none : Option DriverFailure) = failure? at offers
  induction offers with
  | empty hEmpty => exact absurd hEmpty hLeft
  | refused deferred hSome => exact ⟨_, List.mem_singleton_self _, rfl⟩
  | waits deferred f hSome hWait =>
    exact ⟨_, List.mem_singleton_self _, (Bool.and_eq_true _ _ ▸ hWait).1⟩
  | fails => cases hNone
  | taken deferred n hRoom rest ih =>
    obtain ⟨e, hMem, hRefuses⟩ := ih hLeft hNone
    exact ⟨e, List.mem_cons_of_mem _ hMem, hRefuses⟩

end Offers

/-- The output of a channel has been written as far as the driver takes it, or dropped. -/
structure Flushed (c : Channel) (calls : List DriverEvent) (failure? : Option DriverFailure)
    (c' : Channel) : Prop where
  stream : c.output.toBytes = spentBytes c.blocking calls ++ c'.output.toBytes
  failures : failures c.blocking calls = failure?.toList
  waited : failure?.isSome → c.output.toBytes ≠ []
  emptied : failure?.isSome → c'.output.toBytes = []
  loses : failure?.isSome → (sentBytes calls).length < (spentBytes c.blocking calls).length
  pending : c'.flushPending = (!c'.output.isEmpty && !c.blocking)
  refused : failure? = none → c'.output.toBytes ≠ [] → ∃ e ∈ calls, e.refuses = true
  noInput : ∀ e ∈ calls, e.isInput = false
  rest : c' = { c with
    output := c'.output, deferred := c'.deferred, flushPending := c'.flushPending
    watched := c'.watched }

end Channel

namespace Held

variable {σ : Type} (driver : Driver σ) (h : Held (σ × List DriverEvent))

/-- One call is noted, with its answer; the channel keeps all but what is put off. -/
theorem drive_traced {call : DriverCall} {answer : call.Answer} {h₁ : Held (σ × List DriverEvent)}
    (hDriven : h.drive driver.traced call = (answer, h₁)) :
    h₁.calls = h.calls ++ [⟨call, answer⟩] ∧
      ∃ deferred, h₁.channel = { h.channel with deferred } := by
  obtain ⟨rfl, rfl⟩ := Prod.mk.inj hDriven
  exact ⟨rfl, _, rfl⟩

/-- Telling the driver what to wait for moves no bytes. -/
theorem applyWatch_traced : ∃ calls, (h.applyWatch driver.traced).calls = h.calls ++ calls ∧
    Control calls ∧ ∃ deferred watched,
      (h.applyWatch driver.traced).channel = { h.channel with deferred, watched } := by
  by_cases hSame : h.channel.wantedMask = h.channel.watched
  · rw [applyWatch_same hSame]
    exact ⟨[], by simp, control_nil, h.channel.deferred, h.channel.watched, rfl⟩
  · cases hOpen : h.channel.isOpen with
    | true =>
      rw [applyWatch_open hSame hOpen]
      exact ⟨[⟨.watch h.channel.wantedMask, ()⟩], rfl, control_single rfl rfl, _, _, rfl⟩
    | false =>
      rw [applyWatch_closed hSame hOpen]
      exact ⟨[], by simp, control_nil, h.channel.deferred, h.channel.wantedMask, rfl⟩

/-- As many offers as there are bytes are enough. -/
theorem emit_traced (offers : Nat) (hEnough : h.channel.output.size ≤ offers) :
    ∃ calls, (h.emit driver.traced offers).2.calls = h.calls ++ calls ∧
      h.channel.Offers calls (h.emit driver.traced offers).1
        (h.emit driver.traced offers).2.channel := by
  induction offers generalizing h with
  | zero =>
    have hEmpty : h.channel.output.toBytes = [] := by
      rw [← List.length_eq_zero_iff, ByteQueue.length_toBytes]
      omega
    exact ⟨[], by simp [emit], .empty hEmpty⟩
  | succ offers ih =>
    unfold emit
    by_cases hEmpty : h.channel.output.isEmpty
    · rw [if_pos hEmpty]
      exact ⟨[], by simp, .empty (by simpa using hEmpty)⟩
    · rw [if_neg hEmpty]
      have hSome : h.channel.output.toBytes ≠ [] := by simpa using hEmpty
      rcases hDriven : h.drive driver.traced (.output h.channel.output.toBytes) with ⟨answer, h₁⟩
      obtain ⟨hCalls, deferred, hChannel⟩ := drive_traced driver h hDriven
      rcases answer with f | ⟨_ | n, hRoom⟩
      · have hBlocking : h₁.channel.blocking = h.channel.blocking := by rw [hChannel]
        cases hWait : f.postpones h.channel.blocking with
        | true =>
          have hKept : (f.isWouldBlock && !h₁.channel.blocking) = true := hBlocking ▸ hWait
          simp only [hKept, if_true]
          exact ⟨_, hCalls, hChannel ▸ .waits _ f hSome hWait⟩
        | false =>
          have hKept : (f.isWouldBlock && !h₁.channel.blocking) = false := hBlocking ▸ hWait
          simp only [hKept]
          exact ⟨_, hCalls, hChannel ▸ .fails _ f hSome hWait⟩
      · refine ⟨_, hCalls, ?_⟩
        simp only
        rw [hChannel]
        exact .refused _ hSome
      · have hLength : n + 1 ≤ h.channel.output.size := by simpa using hRoom
        have hSize : (h₁.dropOutput (n + 1)).channel.output.size ≤ offers := by
          show h₁.channel.output.size - (n + 1) ≤ offers
          rw [hChannel]
          show h.channel.output.size - (n + 1) ≤ offers
          omega
        obtain ⟨calls, hRest, hOffers⟩ := ih (h₁.dropOutput (n + 1)) hSize
        refine ⟨⟨.output h.channel.output.toBytes, .ok ⟨n + 1, hRoom⟩⟩ :: calls, ?_, ?_⟩
        · simp only
          rw [hRest, dropOutput, calls_update, hCalls, List.append_assoc]
          rfl
        · refine .taken deferred n hRoom ?_
          have hDropped : (h₁.dropOutput (n + 1)).channel =
              { h.channel with output := h.channel.output.drop (n + 1), deferred } := by
            rw [dropOutput, update_channel, hChannel]
          rwa [hDropped] at hOffers

/-- Whether output is written in the background is set by what is left and by the mode. -/
theorem settleBackground_traced :
    ∃ calls, (h.settleBackground driver.traced).calls = h.calls ++ calls ∧ Control calls ∧
      (h.settleBackground driver.traced).channel.flushPending =
        (!h.channel.output.isEmpty && !h.channel.blocking) ∧
      ∃ deferred flushPending watched, (h.settleBackground driver.traced).channel =
        { h.channel with deferred, flushPending, watched } := by
  unfold settleBackground
  by_cases hSettled : (!h.channel.output.isEmpty && !h.channel.blocking) = h.channel.flushPending
  · simp only [if_pos hSettled]
    exact ⟨[], by simp, control_nil, hSettled.symm, h.channel.deferred, _, h.channel.watched, rfl⟩
  · simp only [if_neg hSettled]
    obtain ⟨calls, hCalls, hControl, deferred, watched, hChannel⟩ := applyWatch_traced driver
      (h.update ({ · with flushPending := !h.channel.output.isEmpty && !h.channel.blocking }))
    refine ⟨calls, hCalls, hControl, ?_, deferred, _, watched, hChannel⟩
    rw [hChannel]
    rfl

theorem flush_traced (hOpen : h.channel.isOpen = true) :
    ∃ calls, (h.flush driver.traced).2.calls = h.calls ++ calls ∧
      h.channel.Flushed calls (h.flush driver.traced).1 (h.flush driver.traced).2.channel := by
  obtain ⟨offered, hOffered, hOffers⟩ := emit_traced driver h _ (Nat.le_refl _)
  rcases hEmit : h.emit driver.traced h.channel.output.size with ⟨failure?, h₁⟩
  rw [hEmit] at hOffered hOffers
  have hFlush : h.flush driver.traced = (failure?,
      (if failure?.isSome then h₁.update ({ · with output := .empty }) else h₁).settleBackground
        driver.traced) := by
    simp only [flush, hOpen, hEmit]
    rfl
  obtain ⟨kept, hKept, hDropped⟩ : ∃ h₂ : Held (σ × List DriverEvent),
      (if failure?.isSome then h₁.update ({ · with output := .empty }) else h₁) = h₂ ∧
      h₂.calls = h₁.calls ∧
      h₂.channel.output.toBytes = (if failure?.isSome then [] else h₁.channel.output.toBytes) ∧
      h₂.channel = { h.channel with
        output := h₂.channel.output, deferred := h₂.channel.deferred } := by
    refine ⟨_, rfl, ?_⟩
    have hRest := hOffers.rest
    by_cases hFailed : failure?.isSome
    · simp only [hFailed, if_true]
      refine ⟨rfl, rfl, ?_⟩
      rw [update_channel, hRest]
    · simp only [hFailed]
      exact ⟨rfl, rfl, hRest⟩
  obtain ⟨hCalls, hOutput, hRest⟩ := hDropped
  rw [hFlush, hKept]
  obtain ⟨told, hTold, hControl, hPending, deferred, flushPending, watched, hChannel⟩ :=
    settleBackground_traced driver kept
  refine ⟨offered ++ told, by rw [hTold, hCalls, hOffered, List.append_assoc], ?_⟩
  have hNone := spentBytes_of_noOutput h.channel.blocking fun e hMem => (hControl e hMem).2
  have hBlocking : kept.channel.blocking = h.channel.blocking := by rw [hRest]
  refine
    { stream := ?_
      failures := ?_
      waited := hOffers.waited
      emptied := ?_
      loses := ?_
      pending := ?_
      refused := ?_
      noInput := ?_
      rest := ?_ }
  · rw [spentBytes_append, hNone.1, List.append_nil, hOffers.stream, hChannel, ← hOutput]
  · rw [failures_append, hNone.2.2, List.append_nil, hOffers.failures]
  · intro hFailed
    rw [hChannel]
    exact hOutput.trans (if_pos hFailed)
  · rw [sentBytes_append, spentBytes_append, hNone.1, hNone.2.1, List.append_nil, List.append_nil]
    exact hOffers.loses
  · rw [hPending, hBlocking, hChannel]
  · intro hNoFailure hLeft
    subst hNoFailure
    rw [hChannel] at hLeft
    obtain ⟨e, hMem, hRefuses⟩ := hOffers.refused_of_left fun hEmpty =>
      hLeft (hOutput.trans hEmpty)
    exact ⟨e, List.mem_append_left _ hMem, hRefuses⟩
  · intro e hMem
    rcases List.mem_append.1 hMem with hMem | hMem
    · exact hOffers.noInput e hMem
    · exact (hControl e hMem).1
  · rw [hChannel, hRest]

end Held

end EventChannel
