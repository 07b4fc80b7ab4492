import EventChannel.Proofs.Channel.Ledger

/-! An operation reaches event loops and the environment by calls to its driver alone: what it
leaves of them is what the calls of its record leave, made one after the other. The mode that a
channel notes is the one that its driver agreed to last, and a channel is closed together with its
driver. -/

namespace EventChannel

variable {σ : Type}

/-- A driver is called some times in sequence and answers so. The calls lead from event loops and an
environment to others. -/
inductive Driver.Performs (driver : Driver σ) (start : EventLoops × σ) :
    List DriverEvent → EventLoops × σ → Prop
  | refl : driver.Performs start [] start
  | snoc {calls : List DriverEvent} {p : EventLoops × σ} (prior : driver.Performs start calls p)
      (call : DriverCall) :
      driver.Performs start (calls ++ [⟨call, (driver call p.2).answer⟩])
        (p.1.applyAll (driver call p.2).commands, (driver call p.2).env)

/-- The mode that a call has chosen. -/
def DriverEvent.mode? : DriverEvent → Option Bool
  | ⟨.setBlocking on, .ok ()⟩ => some on
  | _ => none

/-- The mode that a driver agreed to last. Before the calls it was in another one. -/
def lastMode (earlier : Bool) (calls : List DriverEvent) : Bool :=
  calls.foldl (fun on e => e.mode?.getD on) earlier

@[simp] theorem lastMode_append (earlier : Bool) (first second : List DriverEvent) :
    lastMode earlier (first ++ second) = lastMode (lastMode earlier first) second :=
  List.foldl_append

/-- Whether a driver was closed in some calls. -/
def closesDriver (calls : List DriverEvent) : Bool := calls.any (·.call = .close)

@[simp] theorem closesDriver_append (first second : List DriverEvent) :
    closesDriver (first ++ second) = (closesDriver first || closesDriver second) :=
  List.any_append

/-- A call that chooses no mode. -/
theorem DriverEvent.mode?_of_steady {e : DriverEvent} (hSteady : e.call.isSteady = true) :
    e.mode? = none := by
  obtain ⟨call, answer⟩ := e
  cases call with
  | setBlocking on => cases hSteady
  | _ => rfl

namespace Held

variable (driver : Driver σ)

theorem persists_performs (start : EventLoops × σ) :
    Persists driver.traced fun h => driver.Performs start h.calls (h.loops, h.env.1) where
  drive call performs := performs.snoc call
  update _ _ performs := performs

/-- Event loops and environment after an operation are those after its calls. -/
theorem perform_performs (h : Held σ) (op : ChannelOp) :
    driver.Performs (h.loops, h.env) (h.recording.perform driver.traced op).2.calls
      ((h.perform driver op).2.loops, (h.perform driver op).2.env) := by
  have hErase := erase_perform driver h.recording op
  rw [erase_recording] at hErase
  rw [hErase]
  exact (persists_performs driver (h.loops, h.env)).perform .refl op fun _ _ _ => .refl

theorem flushInBackground_performs (h : Held σ) (raised : Interest) :
    driver.Performs (h.loops, h.env) (h.recording.flushInBackground driver.traced raised).calls
      ((h.flushInBackground driver raised).loops, (h.flushInBackground driver raised).env) := by
  have hErase := erase_flushInBackground driver h.recording raised
  rw [erase_recording] at hErase
  rw [hErase]
  exact (persists_performs driver (h.loops, h.env)).flushInBackground .refl raised

/-- The channel has noted the mode that its driver agreed to last, and is open unless it was closed
before or its driver has been closed. -/
structure Agrees (before : Channel) (h : Held (σ × List DriverEvent)) : Prop where
  mode : h.channel.blocking = lastMode before.blocking h.calls
  isOpen : h.channel.isOpen = (before.isOpen && !closesDriver h.calls)

variable {driver} {before : Channel} {h : Held (σ × List DriverEvent)}

theorem sustains_agrees (driver : Driver σ) (before : Channel) :
    Sustains driver.traced (Agrees before) where
  drive {h} call hSteady agrees := by
    have hCalls : (h.drive driver.traced call).2.calls =
        h.calls ++ [⟨call, (driver call h.env.1).answer⟩] := rfl
    constructor
    · rw [hCalls, lastMode_append, ← agrees.mode]
      simp [lastMode, DriverEvent.mode?_of_steady (e := ⟨call, _⟩) hSteady]
    · rw [hCalls, closesDriver_append]
      have hOther : (call = .close) = False := by
        cases call <;> simp_all [DriverCall.isSteady]
      simp [closesDriver, hOther, agrees.isOpen]
  update {h} f hAccount agrees := by
    have hKept := hAccount h.channel
    simp only [Channel.account, Prod.mk.injEq] at hKept
    exact ⟨hKept.2.2.trans agrees.mode, hKept.2.1.trans agrees.isOpen⟩

/-- The mode is noted when the driver has agreed to it. -/
theorem Agrees.setBlocking (agrees : h.Agrees before) (on : Bool) :
    (h.setBlocking driver.traced on).2.Agrees before := by
  unfold Held.setBlocking
  split
  · exact agrees
  have hCalls : (h.drive driver.traced (.setBlocking on)).2.calls =
      h.calls ++ [⟨.setBlocking on, (h.drive driver.traced (.setBlocking on)).1⟩] := rfl
  have hMode : (h.drive driver.traced (.setBlocking on)).2.channel.blocking =
      lastMode before.blocking h.calls := agrees.mode
  have hOpen : (h.drive driver.traced (.setBlocking on)).2.channel.isOpen =
      (before.isOpen && !closesDriver h.calls) := agrees.isOpen
  generalize h.drive driver.traced (.setBlocking on) = r at hCalls hMode hOpen ⊢
  obtain ⟨e | done, h₁⟩ := r
  · constructor
    · rw [hCalls, lastMode_append]
      exact hMode
    · rw [hCalls, closesDriver_append]
      simpa [closesDriver] using hOpen
  · refine (sustains_agrees driver before).applyWatch ⟨?_, ?_⟩
    · show on = lastMode before.blocking h₁.calls
      rw [hCalls, lastMode_append]
      rfl
    · show h₁.channel.isOpen = (before.isOpen && !closesDriver h₁.calls)
      rw [hCalls, closesDriver_append]
      simpa [closesDriver] using hOpen

theorem Agrees.shut (agrees : h.Agrees before) : (h.shut driver.traced).2.Agrees before := by
  refine (sustains_agrees driver before).shut agrees fun {h} agrees => ?_
  let told := (h.update Channel.givenUp).drive driver.traced (.watch .none)
  have hCalls : (told.2.drive driver.traced .close).2.calls =
      h.calls ++ [⟨.watch .none, told.1⟩, ⟨.close, (told.2.drive driver.traced .close).1⟩] :=
    List.append_assoc h.calls [_] [_]
  constructor
  · rw [hCalls, lastMode_append]
    exact agrees.mode
  · rw [hCalls, closesDriver_append]
    simp [told, closesDriver, Channel.givenUp]

/-- An operation leaves the channel in the mode that the driver agreed to last, and closed if the
driver was closed. -/
theorem perform_agrees (driver : Driver σ) (h : Held σ) (op : ChannelOp) :
    (h.recording.perform driver.traced op).2.Agrees h.channel := by
  have start : h.recording.Agrees h.channel :=
    ⟨rfl, by simp [recording, calls, closesDriver]⟩
  exact (sustains_agrees driver h.channel).perform start op
    (fun _ _ _ => ⟨start.mode, start.isOpen⟩) start.setBlocking start.shut

theorem flushInBackground_agrees (driver : Driver σ) (h : Held σ) (raised : Interest) :
    (h.recording.flushInBackground driver.traced raised).Agrees h.channel :=
  (sustains_agrees driver h.channel).flushInBackground
    ⟨rfl, by simp [recording, calls, closesDriver]⟩ raised

end Held

end EventChannel
