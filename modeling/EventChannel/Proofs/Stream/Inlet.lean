import EventChannel.Proofs.Channel.Ledger
import EventChannel.Proofs.Stream.Input

/-! The input that waits, and beside it two marks: one of the end of the file, one of a read that
would have had to wait. Reads are about them, and so are seeks and the closing of the reading side.
All other operations leave them alone, and neither ask the driver for input nor send it anywhere. -/

namespace EventChannel

/-- What a channel has on the side that is read from. -/
structure Inlet where
  input : Bytes
  eof : Bool
  blocked : Bool
  deriving DecidableEq

/-- What closing one direction leaves: where it has closed the side that is read from, no input and
the mark of the end. -/
def Inlet.sideClosed : Direction → Except Report HalfClosed → Inlet → Inlet
  | .read, .ok .done, inlet => ⟨[], true, inlet.blocked⟩
  | _, _, inlet => inlet

def Channel.inlet (c : Channel) : Inlet := ⟨c.input, c.eof, c.blocked⟩

/-- The call asks the driver for input or sends it to a position. -/
def DriverCall.fetches : DriverCall → Bool
  | .input _ | .seek _ => true
  | _ => false

namespace ChannelOp

/-- The operation may ask the driver for input or send it to a position. -/
def fetches : ChannelOp → Bool
  | read _ | seek _ | tell => true
  | _ => false

/-- The input side after an operation that does not read. -/
def inlet (c : Channel) : (op : ChannelOp) → op.Answer → Inlet
  | seek _, .ok _ => ⟨[], false, c.blocked⟩
  | closeHalf d, answer => c.inlet.sideClosed d answer
  | shut, _ => ⟨if c.isOpen then [] else c.input, c.eof, c.blocked⟩
  | _, _ => c.inlet

end ChannelOp

namespace Held

variable {σ : Type} {driver : Driver σ} {h : Held (σ × List DriverEvent)} {inlet : Inlet}

/-- Where there is no second direction to stay open, no side has been closed. -/
theorem closeHalf_idle (driver : Driver σ) {h : Held σ} {d : Direction}
    (hNot : h.channel.isOpen = false ∨ h.channel.mode.has d = false ∨
      h.channel.mode.without d = .none) :
    ∃ answer, answer ≠ .ok .done ∧ h.closeHalf driver d = (answer, h) := by
  unfold closeHalf
  by_cases hOpen : h.channel.isOpen <;> by_cases hHas : h.channel.mode.has d <;>
    by_cases hLast : h.channel.mode.without d = .none <;> simp_all

/-- The input side is the given one, and so far the driver has neither been asked for input nor sent
to a position. -/
structure Rests (inlet : Inlet) (h : Held (σ × List DriverEvent)) : Prop where
  inlet : h.channel.inlet = inlet
  calls : ∀ e ∈ h.calls, e.call.fetches = false

theorem rests_recording (h : Held σ) : h.recording.Rests h.channel.inlet :=
  ⟨rfl, fun e hMem => by cases hMem⟩

namespace Rests

/-- Only the input side and the calls matter. -/
theorem of_same (rests : h.Rests inlet) {h' : Held (σ × List DriverEvent)}
    (hInlet : h'.channel.inlet = h.channel.inlet) (hCalls : h'.calls = h.calls) :
    h'.Rests inlet :=
  ⟨hInlet.trans rests.inlet, fun e hMem => rests.calls e (hCalls ▸ hMem)⟩

theorem drive (driver : Driver σ) (rests : h.Rests inlet) (call : DriverCall)
    (hCall : call.fetches = false) : (h.drive driver.traced call).2.Rests inlet := by
  refine ⟨rests.inlet, fun e hMem => ?_⟩
  rcases List.mem_append.1 hMem with hBefore | hLast
  · exact rests.calls e hBefore
  · rw [List.mem_singleton.1 hLast]
    exact hCall

theorem applyWatch (rests : h.Rests inlet) : (h.applyWatch driver.traced).Rests inlet := by
  by_cases hSame : h.channel.wantedMask = h.channel.watched
  · rwa [applyWatch_same hSame]
  · have hNoted : (h.update ({ · with watched := h.channel.wantedMask })).Rests inlet :=
      rests.of_same rfl rfl
    cases hOpen : h.channel.isOpen with
    | true =>
      rw [applyWatch_open hSame hOpen]
      exact hNoted.drive driver _ rfl
    | false =>
      rw [applyWatch_closed hSame hOpen]
      exact hNoted

theorem emit (driver : Driver σ) (rests : h.Rests inlet) (offers : Nat) :
    (h.emit driver.traced offers).2.Rests inlet := by
  induction offers generalizing h with
  | zero => exact rests
  | succ offers ih =>
    unfold Held.emit
    split
    · exact rests
    have hCall : (DriverCall.output h.channel.output.toBytes).fetches = false := rfl
    have hOffered := rests.drive driver _ hCall
    generalize h.drive driver.traced _ = r at hOffered ⊢
    obtain ⟨⟨f⟩ | ⟨_ | n, _⟩, h₁⟩ := r
    · dsimp only
      split
      · exact hOffered
      · exact hOffered
    · exact hOffered
    · exact ih (hOffered.of_same rfl rfl)

theorem settleBackground (rests : h.Rests inlet) :
    (h.settleBackground driver.traced).Rests inlet := by
  unfold Held.settleBackground
  dsimp only
  split
  · exact rests
  · exact applyWatch (rests.of_same rfl rfl)

theorem flush (driver : Driver σ) (rests : h.Rests inlet) :
    (h.flush driver.traced).2.Rests inlet := by
  unfold Held.flush
  split
  · exact rests
  have hEmitted := rests.emit driver h.channel.output.size
  generalize h.emit driver.traced _ = r at hEmitted ⊢
  obtain ⟨_ | f, h₁⟩ := r
  · exact hEmitted.settleBackground
  · exact settleBackground (hEmitted.of_same rfl rfl)

theorem write (rests : h.Rests inlet) (bytes : Bytes) (force : Bool) :
    (h.write driver.traced bytes force).2.Rests inlet := by
  unfold Held.write
  split
  · exact rests
  split
  · exact rests
  split
  · exact rests.of_same rfl rfl
  have hPushed : (h.update fun c => { c with output := c.output.push bytes }).Rests inlet :=
    rests.of_same rfl rfl
  dsimp only
  split
  · have hFlushed := hPushed.flush driver
    generalize Held.flush driver.traced _ = r at hFlushed ⊢
    obtain ⟨_ | f, h₁⟩ := r
    · exact hFlushed
    · exact hFlushed
  · exact hPushed

theorem flushInBackground (driver : Driver σ) (rests : h.Rests inlet) (raised : Interest) :
    (h.flushInBackground driver.traced raised).Rests inlet := by
  unfold Held.flushInBackground
  split
  · have hFlushed := rests.flush driver
    generalize h.flush driver.traced = r at hFlushed ⊢
    obtain ⟨_ | f, h₁⟩ := r
    · exact hFlushed
    · exact hFlushed.of_same rfl rfl
  · exact rests

theorem setBlocking (rests : h.Rests inlet) (on : Bool) :
    (h.setBlocking driver.traced on).2.Rests inlet := by
  unfold Held.setBlocking
  split
  · exact rests
  have hAsked := rests.drive driver (.setBlocking on) rfl
  generalize h.drive driver.traced _ = r at hAsked ⊢
  obtain ⟨e | done, h₁⟩ := r
  · exact hAsked
  · exact applyWatch (hAsked.of_same rfl rfl)

theorem getOption (rests : h.Rests inlet) (dns : Bool) (name : String) :
    (h.getOption driver.traced dns name).2.Rests inlet := by
  unfold Held.getOption
  split
  · exact rests
  · exact rests
  · split
    · exact rests
    have hAsked := rests.drive driver (.getOption dns (some name)) rfl
    generalize h.drive driver.traced _ = r at hAsked ⊢
    obtain ⟨_ | _, h₁⟩ := r
    · exact hAsked
    · exact hAsked

theorem getOptions (rests : h.Rests inlet) (dns : Bool) :
    (h.getOptions driver.traced dns).2.Rests inlet := by
  unfold Held.getOptions
  split
  · exact rests
  have hAsked := rests.drive driver (.getOption dns none) rfl
  generalize h.drive driver.traced _ = r at hAsked ⊢
  obtain ⟨_ | _, h₁⟩ := r
  · exact hAsked
  · exact hAsked

theorem setOption (rests : h.Rests inlet) (name value : String) :
    (h.setOption driver.traced name value).2.Rests inlet := by
  unfold Held.setOption
  split
  · split
    · exact rests
    · exact rests.setBlocking _
  · split
    · exact rests
    · exact rests.of_same rfl rfl
  · split
    · exact rests
    have hAsked := rests.drive driver (.setOption name value) rfl
    generalize h.drive driver.traced _ = r at hAsked ⊢
    obtain ⟨_ | _, h₁⟩ := r
    · exact hAsked
    · exact hAsked

theorem cut (rests : h.Rests inlet) : (h.cut driver.traced).Rests inlet := by
  unfold Held.cut
  split
  · exact rests.drive driver _ rfl
  · exact rests

theorem splice (rests : h.Rests inlet) (loop : LoopId) :
    (h.splice driver.traced loop).Rests inlet := by
  unfold Held.splice
  split
  · exact (rests.drive driver _ rfl).drive driver _ rfl
  · exact rests

/-- Closing the driver drops the input that waits. -/
theorem shut (rests : h.Rests inlet) :
    (h.shut driver.traced).2.Rests
      { inlet with input := if h.channel.isOpen then [] else inlet.input } := by
  cases hOpen : h.channel.isOpen with
  | false => simpa [Held.shut, hOpen] using rests
  | true =>
    have hGivenUp {h₁ : Held (σ × List DriverEvent)} (hWritten : h₁.Rests inlet) :
        (((h₁.update Channel.givenUp).drive driver.traced (.watch .none)).2.drive driver.traced
          .close).2.Rests { inlet with input := [] } := by
      have hDropped : (h₁.update Channel.givenUp).Rests { inlet with input := [] } :=
        ⟨by rw [← hWritten.inlet]; rfl, hWritten.calls⟩
      exact (hDropped.drive driver _ rfl).drive driver _ rfl
    cases hEmpty : h.channel.output.isEmpty with
    | true =>
      simp only [Held.shut, hOpen, hEmpty]
      exact hGivenUp rests
    | false =>
      simp only [Held.shut, hOpen, hEmpty]
      exact hGivenUp (rests.flush driver)

theorem closeSide (rests : h.Rests inlet) (d : Direction) :
    (h.closeSide driver.traced d).2.Rests
      (inlet.sideClosed d (h.closeSide driver.traced d).1) := by
  unfold Held.closeSide
  have hAsked := rests.drive driver (.closeHalf d) rfl
  generalize h.drive driver.traced _ = r at hAsked ⊢
  obtain ⟨e | done, h₁⟩ := r
  · cases d <;> exact hAsked
  · cases d with
    | write => exact .applyWatch (hAsked.of_same rfl rfl)
    | read =>
      refine .applyWatch ⟨?_, hAsked.calls⟩
      rw [← hAsked.inlet]
      rfl

theorem closeHalf (rests : h.Rests inlet) (d : Direction) :
    (h.closeHalf driver.traced d).2.Rests
      (inlet.sideClosed d (h.closeHalf driver.traced d).1) := by
  by_cases hNot : h.channel.isOpen = false ∨ h.channel.mode.has d = false ∨
      h.channel.mode.without d = .none
  · obtain ⟨answer, hAnswer, hSame⟩ := closeHalf_idle driver.traced hNot
    rw [hSame]
    rcases d with _ | _ <;> rcases answer with r | _ | _ <;>
      first | exact rests | exact absurd rfl hAnswer
  · obtain ⟨hOpen, hHas, hLast⟩ : h.channel.isOpen = true ∧ h.channel.mode.has d = true ∧
        h.channel.mode.without d ≠ .none := by simpa using hNot
    cases d with
    | read =>
      rw [closeHalf_read hOpen hHas hLast]
      exact rests.closeSide .read
    | write =>
      have hFlushed := rests.flush driver
      rw [closeHalf_write hOpen hHas hLast]
      generalize h.flush driver.traced = r at hFlushed ⊢
      obtain ⟨_ | f, h₁⟩ := r
      · exact hFlushed.closeSide .write
      · exact hFlushed

end Rests

/-- Where an operation does not reach the input side, it leaves it alone. -/
theorem perform_rests (h : Held σ) {op : ChannelOp} (hFetch : op.fetches = false) :
    (h.recording.perform driver.traced op).2.Rests
      (op.inlet h.channel (h.recording.perform driver.traced op).1) := by
  have rests := rests_recording h
  cases op with
  | read | seek | tell => cases hFetch
  | write bytes force => exact rests.write bytes force
  | setBlocking on => exact rests.setBlocking on
  | createHandler mask callback => exact .applyWatch (rests.of_same rfl rfl)
  | deleteHandler id => exact .applyWatch (rests.of_same rfl rfl)
  | getOption dns name => exact rests.getOption dns name
  | getOptions dns => exact rests.getOptions dns
  | setOption name value => exact rests.setOption name value
  | cut => exact rests.cut
  | splice loop => exact rests.splice loop
  | shut => exact rests.shut
  | closeHalf d => exact rests.closeHalf d

/-- A seek that has come to a position leaves neither input nor the mark of an end. -/
theorem seek_inlet (h : Held σ) (target : SeekTarget) :
    (h.recording.seek driver.traced target).2.channel.inlet =
      (ChannelOp.seek target).inlet h.channel (h.recording.seek driver.traced target).1 := by
  have hThere {h₁ : Held (σ × List DriverEvent)} (hSame : h₁.channel.inlet = h.channel.inlet) :
      (h₁.goTo driver.traced target).2.channel.inlet =
        (ChannelOp.seek target).inlet h.channel (h₁.goTo driver.traced target).1 := by
    unfold goTo
    split
    · exact hSame
    have hKept : (h₁.drive driver.traced (.seek target)).2.channel.inlet = h.channel.inlet := hSame
    generalize h₁.drive driver.traced (.seek target) = r at hKept ⊢
    obtain ⟨f | position, h₂⟩ := r
    · exact hKept
    · exact congrArg (Inlet.mk [] false) (congrArg Inlet.blocked hKept)
  cases hEmpty : h.channel.output.isEmpty with
  | true =>
    rw [seek_empty (h := h.recording) hEmpty]
    exact hThere rfl
  | false =>
    have hFlushed := ((rests_recording h).flush driver).inlet
    rw [seek_waiting (h := h.recording) hEmpty]
    generalize h.recording.flush driver.traced = r at hFlushed ⊢
    obtain ⟨_ | f, h₁⟩ := r
    · exact hThere hFlushed
    · exact hFlushed

theorem tell_inlet (h : Held σ) :
    (h.recording.tell driver.traced).2.channel.inlet = h.channel.inlet := by
  unfold tell
  split
  · rfl
  have hKept : (h.recording.drive driver.traced (.seek (.current 0))).2.channel.inlet =
      h.channel.inlet := rfl
  generalize h.recording.drive driver.traced (.seek (.current 0)) = r at hKept ⊢
  obtain ⟨f | position, h₁⟩ := r
  · exact hKept
  · exact hKept

/-- What an operation that does not read leaves on the input side. -/
theorem perform_inlet (h : Held σ) {op : ChannelOp} (hRead : op.room? = none) :
    (h.recording.perform driver.traced op).2.channel.inlet =
      op.inlet h.channel (h.recording.perform driver.traced op).1 := by
  cases op with
  | read n => cases hRead
  | seek target => exact seek_inlet h target
  | tell => exact tell_inlet h
  | _ => exact (perform_rests h rfl).inlet

end Held

namespace Step

variable {σ α : Type} {s : Surroundings σ} {w : World σ} {id : ChannelId}

/-- The step is an operation that holds a channel. -/
def HoldsAt (id : ChannelId) : {α : Type} → Step σ α → Prop
  | _, .hold j _ => j = id
  | _, _ => False

theorem inlet_hold {op : ChannelOp} (hRead : op.room? = none) (hExists : id < w.channels.length) :
    (((Step.hold id op).run s w).2.channel id).inlet =
      op.inlet (w.channel id) ((Step.hold id op).run s w).1.1 := by
  have hErase := Held.erase_perform (s.driver id) (w.held id).recording op
  rw [Held.erase_recording] at hErase
  have hAnswer : ((Step.hold id op).run s w).1.1 =
      ((w.held id).recording.perform (s.driver id).traced op).1 := congrArg Prod.fst hErase
  rw [channel_hold s w op hExists, hAnswer]
  exact Held.perform_inlet (w.held id) hRead

/-- Apart from the operations on a channel nothing changes its input side. -/
theorem inlet_of_not_holds (t : Step σ α) (hExists : id < w.channels.length)
    (hHolds : ¬t.HoldsAt id) : ((t.run s w).2.channel id).inlet = (w.channel id).inlet := by
  by_cases hMoves : t.Moves id
  · cases t with
    | hold j op => exact absurd hMoves hHolds
    | raise j raised =>
      obtain rfl : j = id := hMoves
      rw [channel_raise s w raised hExists]
      exact ((Held.rests_recording (w.held j)).flushInBackground (s.driver j) raised).inlet
    | _ => exact hMoves.elim
  · rw [Channel.of_bare (t.bare_run s w hExists hMoves)]
    rfl

end Step

namespace Channel

variable {c c' : Channel} {n : Nat} {calls : List DriverEvent}

/-- A read leaves input behind only where it had no room for more. -/
theorem ReadEffect.left {bytes : Bytes} (effect : c.ReadEffect n calls (.ok bytes) c') :
    c'.input = [] ∨ bytes.length = n ∧ (n < c.input.length ∨ n < c.bufferSize) := by
  generalize hAnswer : Except.ok bytes = answer at effect
  cases effect with
  | misused | fails => cases hAnswer
  | buffered hInput =>
    cases hAnswer
    rcases Nat.lt_or_ge n c.input.length with hMore | hAll
    · exact .inr ⟨List.length_take_of_le (Nat.le_of_lt hMore), .inl hMore⟩
    · exact .inl (List.drop_eq_nil_of_le hAll)
  | given hInput chunk deferred =>
    cases hAnswer
    obtain ⟨chunk, hFits⟩ := chunk
    rcases Nat.lt_or_ge n chunk.length with hMore | hAll
    · refine .inr ⟨List.length_take_of_le (Nat.le_of_lt hMore), .inr ?_⟩
      omega
    · exact .inl (List.drop_eq_nil_of_le hAll)
  | waits hInput f hWait deferred => exact .inl hInput

/-- A read with room for a whole buffer leaves nothing where nothing was. -/
theorem ReadEffect.emptied {answer : Except TransferFailure Bytes}
    (effect : c.ReadEffect n calls answer c') (hEmpty : c.input = []) (hRoom : c.bufferSize ≤ n) :
    c'.input = [] := by
  cases answer with
  | ok bytes =>
    refine effect.left.resolve_right fun hLeft => ?_
    rw [hEmpty, List.length_nil] at hLeft
    omega
  | error f => cases effect <;> exact hEmpty

end Channel

theorem ChannelOp.input_inlet {c : Channel} {op : ChannelOp} {answer : op.Answer}
    (hEmpty : c.input = []) : (op.inlet c answer).input = [] := by
  unfold ChannelOp.inlet
  split
  · rfl
  · unfold Inlet.sideClosed
    split
    · rfl
    · exact hEmpty
  · simp [hEmpty]
  · exact hEmpty

/-- The step, if it reads from a channel, has room for all that waits there and for a buffer. -/
def Step.TakesAll (id : ChannelId) : {α : Type} → Step σ α → World σ → Prop
  | _, .hold j (.read n), w =>
    j = id → (w.channel id).input.length ≤ n ∧ (w.channel id).bufferSize ≤ n
  | _, _, _ => True

def Event.TakesAll (id : ChannelId) : Event σ → Prop
  | .made t w => t.TakesAll id w
  | .called _ _ => True

section

variable {s : Surroundings σ} {w w' : World σ} {id : ChannelId} {events : List (Event σ)}

theorem Step.emptied_run (t : Step σ α) (hExists : id < w.channels.length)
    (takes : t.TakesAll id w) (hEmpty : (w.channel id).input = []) :
    ((t.run s w).2.channel id).input = [] := by
  by_cases hHolds : t.HoldsAt id
  · cases t with
    | hold j op =>
      obtain rfl : j = id := hHolds
      cases op with
      | read n =>
        obtain ⟨c', hEffect, hChannel⟩ := hold_shows s w (.read n) hExists
        have hEmptied : c'.input = [] := Channel.ReadEffect.emptied hEffect hEmpty (takes rfl).2
        rw [hChannel]
        exact hEmptied
      | _ =>
        refine (congrArg Inlet.input (inlet_hold rfl hExists)).trans ?_
        exact ChannelOp.input_inlet hEmpty
    | _ => cases hHolds
  · exact (congrArg Inlet.input (t.inlet_of_not_holds hExists hHolds)).trans hEmpty

/-- Where nothing is left, nothing is left as long as all who read have room for all. -/
theorem Surroundings.Leads.emptied (history : s.Leads w events w')
    (hExists : id < w.channels.length) (takes : ∀ e ∈ events, e.TakesAll id)
    (hEmpty : (w.channel id).input = []) : (w'.channel id).input = [] := by
  induction history with
  | refl => exact hEmpty
  | snoc e prior ih =>
    obtain ⟨hPrior, hLast⟩ := List.forall_mem_append.1 takes
    have hLast := List.forall_mem_singleton.1 hLast
    have hThere := Nat.lt_of_lt_of_le hExists prior.length
    cases e with
    | made t v => exact t.emptied_run hThere hLast (ih hPrior)
    | called c v => exact ih hPrior

end

end EventChannel
