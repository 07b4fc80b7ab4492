import EventChannel.Proofs.Channel.Record

/-! A channel tells its driver which conditions to wait for, and notes what it has told. Whatever
changes the handlers, or whether output is left to be written in the background, ends by telling the
driver again, and it does so only if there is something new to tell. A closed driver is told nothing
any more. -/

namespace EventChannel

/-- The mask that a call tells the driver. -/
def DriverCall.mask? : DriverCall → Option Interest
  | watch mask => some mask
  | _ => none

/-- The mask that a driver was told last. Before the calls it was told another one. -/
def lastMask (earlier : Interest) (calls : List DriverEvent) : Interest :=
  calls.foldl (fun mask e => e.call.mask?.getD mask) earlier

/-- No call tells the driver the mask that it was told last. -/
def Changing : Interest → List DriverEvent → Prop
  | _, [] => True
  | mask, e :: rest => e.call.mask? ≠ some mask ∧ Changing (e.call.mask?.getD mask) rest

@[simp] theorem lastMask_nil (mask : Interest) : lastMask mask [] = mask := rfl

@[simp] theorem lastMask_cons (mask : Interest) (e : DriverEvent) (calls : List DriverEvent) :
    lastMask mask (e :: calls) = lastMask (e.call.mask?.getD mask) calls := rfl

@[simp] theorem lastMask_append (mask : Interest) (first second : List DriverEvent) :
    lastMask mask (first ++ second) = lastMask (lastMask mask first) second :=
  List.foldl_append

@[simp] theorem changing_nil (mask : Interest) : Changing mask [] := trivial

@[simp] theorem changing_cons (mask : Interest) (e : DriverEvent) (calls : List DriverEvent) :
    Changing mask (e :: calls) ↔
      e.call.mask? ≠ some mask ∧ Changing (e.call.mask?.getD mask) calls := Iff.rfl

@[simp] theorem changing_append (mask : Interest) (first second : List DriverEvent) :
    Changing mask (first ++ second) ↔
      Changing mask first ∧ Changing (lastMask mask first) second := by
  induction first generalizing mask with
  | nil => simp
  | cons e rest ih => simp [ih, and_assoc]

/-- Calls that tell no mask leave it at the earlier one. -/
theorem lastMask_of_silent (mask : Interest) {calls : List DriverEvent}
    (hSilent : ∀ e ∈ calls, e.call.mask? = none) :
    lastMask mask calls = mask ∧ Changing mask calls := by
  induction calls with
  | nil => exact ⟨rfl, trivial⟩
  | cons e rest ih =>
    have hNone : e.call.mask? = none := hSilent e (List.mem_cons_self ..)
    simpa [hNone] using ih fun e' hMem => hSilent e' (List.mem_cons_of_mem _ hMem)

namespace Channel

/-- What decides which conditions the driver is told to wait for. -/
def outlook (c : Channel) : Bool × Interest × Interest := (c.isOpen, c.watched, c.wantedMask)

theorem of_outlook {c c' : Channel} (hKept : c'.outlook = c.outlook) :
    c'.isOpen = c.isOpen ∧ c'.watched = c.watched ∧ c'.wantedMask = c.wantedMask := by
  simpa [outlook] using hKept

/-- The mask that the driver of a channel was told last is the one that it is to be told. A driver
that is closed is to wait for nothing. -/
structure Follows (c : Channel) (mask : Interest) : Prop where
  opened : c.isOpen = true → c.watched = mask ∧ c.wantedMask = mask
  closed : c.isOpen = false → mask = .none

theorem Follows.of_shut {c : Channel} {mask : Interest} (hShut : c.isOpen = false)
    (hNone : mask = .none) : c.Follows mask where
  opened hOpen := by rw [hShut] at hOpen; cases hOpen
  closed _ := hNone

theorem Follows.of_outlook {c c' : Channel} {mask : Interest} (follows : c.Follows mask)
    (hKept : c'.outlook = c.outlook) : c'.Follows mask := by
  obtain ⟨hOpen, hWatched, hWanted⟩ := Channel.of_outlook hKept
  constructor
  · rw [hOpen, hWatched, hWanted]
    exact follows.opened
  · rw [hOpen]
    exact follows.closed

end Channel

/-- The operation tells the driver to wait for something even if that is nothing new. -/
def ChannelOp.retells : ChannelOp → Bool
  | splice _ | shut => true
  | _ => false

namespace Held

variable {σ : Type} (driver : Driver σ) {mask : Interest} {h : Held (σ × List DriverEvent)}

/-- The channel is open and has noted what its driver was told last. The driver was told a mask
before the record began, and since then only masks that were new to it. -/
structure Notes (mask : Interest) (h : Held (σ × List DriverEvent)) : Prop where
  isOpen : h.channel.isOpen = true
  told : lastMask mask h.calls = h.channel.watched
  changing : Changing mask h.calls

/-- The driver has been told all that there is to tell. -/
structure Abreast (mask : Interest) (h : Held (σ × List DriverEvent)) : Prop
    extends Notes mask h where
  wanted : h.channel.watched = h.channel.wantedMask

theorem Abreast.follows (abreast : h.Abreast mask) :
    h.channel.Follows (lastMask mask h.calls) where
  opened _ := ⟨abreast.told.symm, abreast.wanted.symm.trans abreast.told.symm⟩
  closed hShut := by rw [abreast.isOpen] at hShut; cases hShut

/-- When the record begins, what the driver was told is known from before. -/
theorem abreast_recording {h : Held σ} (hOpen : h.channel.isOpen = true)
    (follows : h.channel.Follows mask) : h.recording.Abreast mask := by
  obtain ⟨hWatched, hWanted⟩ := follows.opened hOpen
  exact ⟨⟨hOpen, hWatched.symm, trivial⟩, hWatched.trans hWanted.symm⟩

theorem Notes.update {f : Channel → Channel} (notes : h.Notes mask)
    (hOpen : (f h.channel).isOpen = h.channel.isOpen)
    (hWatched : (f h.channel).watched = h.channel.watched) : (h.update f).Notes mask :=
  ⟨hOpen.trans notes.isOpen, notes.told.trans hWatched.symm, notes.changing⟩

/-- Nothing is to be told where the outlook stays the same. -/
theorem Abreast.of_kept {h' : Held (σ × List DriverEvent)} (abreast : h.Abreast mask)
    (hCalls : h'.calls = h.calls) (hKept : h'.channel.outlook = h.channel.outlook) :
    h'.Abreast mask := by
  obtain ⟨hOpen, hWatched, hWanted⟩ := Channel.of_outlook hKept
  constructor
  · constructor
    · rw [hOpen, abreast.isOpen]
    · rw [hCalls, hWatched, abreast.told]
    · rw [hCalls]
      exact abreast.changing
  · rw [hWatched, hWanted, abreast.wanted]

theorem calls_drive (call : DriverCall) :
    (h.drive driver.traced call).2.calls = h.calls ++ [⟨call, (driver call h.env.1).answer⟩] := rfl

/-- A call that tells no mask leaves the driver abreast. -/
theorem Abreast.drive (abreast : h.Abreast mask) (call : DriverCall)
    (hSilent : call.mask? = none) : (h.drive driver.traced call).2.Abreast mask where
  isOpen := abreast.isOpen
  told := by simp [calls_drive, hSilent, abreast.told]
  changing := by simp [calls_drive, hSilent, abreast.changing]
  wanted := abreast.wanted

/-- Telling the driver brings it abreast. It is told nothing that it was told last. -/
theorem Notes.applyWatch (notes : h.Notes mask) : (h.applyWatch driver.traced).Abreast mask := by
  by_cases hSame : h.channel.wantedMask = h.channel.watched
  · rw [applyWatch_same hSame]
    exact ⟨notes, hSame.symm⟩
  · rw [applyWatch_open hSame notes.isOpen]
    have hNew : DriverCall.mask? (.watch h.channel.wantedMask) ≠ some (lastMask mask h.calls) := by
      rw [notes.told]
      exact fun hEq => hSame (Option.some.inj hEq)
    constructor
    · refine ⟨notes.isOpen, ?_, ?_⟩
      · rw [calls_drive, lastMask_append]
        rfl
      · rw [calls_drive, changing_append]
        exact ⟨notes.changing, hNew, trivial⟩
    · rfl

theorem Abreast.read (abreast : h.Abreast mask) (n : Nat) :
    (h.read driver.traced n).2.Abreast mask := by
  cases hMode : h.channel.mode.readable with
  | false => rwa [read_unreadable abreast.isOpen hMode]
  | true =>
  by_cases hInput : h.channel.input = []
  · rw [read_asked abreast.isOpen hMode hInput]
    have hCleared : (h.update ({ · with blocked := false })).Abreast mask :=
      abreast.of_kept rfl rfl
    have hAsked := hCleared.drive driver (.input (max n h.channel.bufferSize)) rfl
    generalize (h.update ({ · with blocked := false })).drive driver.traced _ = r at hAsked ⊢
    obtain ⟨⟨f⟩ | ⟨bytes, _⟩, h₁⟩ := r
    · by_cases hWait : f.isWouldBlock
      · simp only [hWait]
        exact hAsked.of_kept rfl rfl
      · simpa [hWait] using hAsked
    · exact hAsked.of_kept rfl rfl
  · rw [read_buffered abreast.isOpen hMode hInput]
    exact abreast.of_kept rfl rfl

theorem Abreast.emit (abreast : h.Abreast mask) (offers : Nat) :
    (h.emit driver.traced offers).2.Abreast mask := by
  induction offers generalizing h with
  | zero => exact abreast
  | succ offers ih =>
    unfold Held.emit
    by_cases hEmpty : h.channel.output.isEmpty
    · simpa [hEmpty] using abreast
    · have hOffered : (h.drive driver.traced (.output h.channel.output.toBytes)).2.Abreast mask :=
        abreast.drive driver _ rfl
      simp only [hEmpty]
      generalize h.drive driver.traced _ = r at hOffered ⊢
      obtain ⟨⟨f⟩ | ⟨_ | n, _⟩, h₁⟩ := r
      · by_cases hWait : (f.isWouldBlock && !h₁.channel.blocking)
        · simpa [hWait] using hOffered
        · simpa [hWait] using hOffered
      · exact hOffered
      · exact ih (hOffered.of_kept rfl rfl)

/-- Whether output is left for the background is settled together with the driver. -/
theorem Abreast.settleBackground (abreast : h.Abreast mask) :
    (h.settleBackground driver.traced).Abreast mask := by
  unfold Held.settleBackground
  by_cases hSettled : (!h.channel.output.isEmpty && !h.channel.blocking) = h.channel.flushPending
  · simpa [hSettled] using abreast
  · simp only [hSettled, if_false]
    exact (abreast.toNotes.update rfl rfl).applyWatch driver

theorem Abreast.flush (abreast : h.Abreast mask) : (h.flush driver.traced).2.Abreast mask := by
  unfold Held.flush
  simp only [abreast.isOpen]
  have hEmitted := abreast.emit driver h.channel.output.size
  generalize h.emit driver.traced _ = r at hEmitted ⊢
  obtain ⟨_ | f, h₁⟩ := r
  · exact hEmitted.settleBackground driver
  · have hDropped : (h₁.update ({ · with output := .empty })).Abreast mask :=
      hEmitted.of_kept rfl rfl
    exact hDropped.settleBackground driver

theorem Abreast.write (abreast : h.Abreast mask) (bytes : Bytes) (force : Bool) :
    (h.write driver.traced bytes force).2.Abreast mask := by
  cases hMode : h.channel.mode.writable with
  | false => rwa [write_unwritable abreast.isOpen hMode]
  | true =>
  cases hParked : h.channel.unreported? with
  | some f =>
    rw [write_unreported abreast.isOpen hMode hParked]
    exact abreast.of_kept rfl rfl
  | none =>
  have hPushed : (h.pushed bytes).Abreast mask := abreast.of_kept rfl rfl
  cases hDue : force || decide (h.channel.bufferSize ≤ (h.channel.output.push bytes).size) with
  | false =>
    rw [write_kept abreast.isOpen hMode hParked hDue]
    exact hPushed
  | true =>
    rw [write_flushed abreast.isOpen hMode hParked hDue]
    have hFlushed := hPushed.flush driver
    generalize (h.pushed bytes).flush driver.traced = r at hFlushed ⊢
    obtain ⟨_ | f, h₁⟩ := r
    · exact hFlushed
    · exact hFlushed

theorem Abreast.flushInBackground (abreast : h.Abreast mask) (raised : Interest) :
    (h.flushInBackground driver.traced raised).Abreast mask := by
  cases hDue : raised.writable && h.channel.flushPending with
  | false => rwa [flushInBackground_idle hDue]
  | true =>
    rw [flushInBackground_due hDue]
    have hFlushed := abreast.flush driver
    generalize h.flush driver.traced = r at hFlushed ⊢
    obtain ⟨_ | f, h₁⟩ := r
    · exact hFlushed
    · exact hFlushed.of_kept rfl rfl

theorem Abreast.goTo (abreast : h.Abreast mask) (target : SeekTarget) :
    (h.goTo driver.traced target).2.Abreast mask := by
  unfold Held.goTo
  simp only [abreast.isOpen]
  have hSought := abreast.drive driver (.seek target) rfl
  generalize h.drive driver.traced _ = r at hSought ⊢
  obtain ⟨_ | position, h₁⟩ := r
  · exact hSought
  · exact hSought.of_kept rfl rfl

theorem Abreast.seek (abreast : h.Abreast mask) (target : SeekTarget) :
    (h.seek driver.traced target).2.Abreast mask := by
  cases hEmpty : h.channel.output.isEmpty with
  | true =>
    rw [seek_empty hEmpty]
    exact abreast.goTo driver target
  | false =>
    rw [seek_waiting hEmpty]
    have hFlushed := abreast.flush driver
    generalize h.flush driver.traced = r at hFlushed ⊢
    obtain ⟨_ | f, h₁⟩ := r
    · exact hFlushed.goTo driver target
    · exact hFlushed

theorem Abreast.tell (abreast : h.Abreast mask) : (h.tell driver.traced).2.Abreast mask := by
  unfold Held.tell
  simp only [abreast.isOpen]
  have hAsked := abreast.drive driver (.seek (.current 0)) rfl
  generalize h.drive driver.traced _ = r at hAsked ⊢
  obtain ⟨_ | position, h₁⟩ := r
  · exact hAsked
  · exact hAsked

/-- Switching the mode may end writing in the background; if it fails, nothing is changed. -/
theorem Abreast.setBlocking (abreast : h.Abreast mask) (on : Bool) :
    (h.setBlocking driver.traced on).2.Abreast mask := by
  unfold Held.setBlocking
  simp only [abreast.isOpen]
  have hSwitched := abreast.drive driver (.setBlocking on) rfl
  generalize h.drive driver.traced _ = r at hSwitched ⊢
  obtain ⟨e | done, h₁⟩ := r
  · exact hSwitched
  · exact (hSwitched.toNotes.update rfl rfl).applyWatch driver

theorem Abreast.createHandler (abreast : h.Abreast mask) (wanted : Interest)
    (callback : Callback) : (h.createHandler driver.traced wanted callback).2.Abreast mask :=
  (abreast.toNotes.update rfl rfl).applyWatch driver

theorem Abreast.deleteHandler (abreast : h.Abreast mask) (id : HandlerId) :
    (h.deleteHandler driver.traced id).Abreast mask :=
  (abreast.toNotes.update rfl rfl).applyWatch driver

theorem Abreast.getOption (abreast : h.Abreast mask) (dns : Bool) (name : String) :
    (h.getOption driver.traced dns name).2.Abreast mask := by
  unfold Held.getOption
  split
  · exact abreast
  · exact abreast
  · simp only [abreast.isOpen]
    have hAsked := abreast.drive driver (.getOption dns (some name)) rfl
    generalize h.drive driver.traced _ = r at hAsked ⊢
    obtain ⟨_ | listing, h₁⟩ := r
    · exact hAsked
    · exact hAsked

theorem Abreast.getOptions (abreast : h.Abreast mask) (dns : Bool) :
    (h.getOptions driver.traced dns).2.Abreast mask := by
  unfold Held.getOptions
  simp only [abreast.isOpen]
  have hAsked := abreast.drive driver (.getOption dns none) rfl
  generalize h.drive driver.traced _ = r at hAsked ⊢
  obtain ⟨_ | listing, h₁⟩ := r
  · exact hAsked
  · exact hAsked

theorem Abreast.setOption (abreast : h.Abreast mask) (name value : String) :
    (h.setOption driver.traced name value).2.Abreast mask := by
  unfold Held.setOption
  split
  · split
    · exact abreast
    · exact abreast.setBlocking driver _
  · split
    · exact abreast
    · exact abreast.of_kept rfl rfl
  · simp only [abreast.isOpen]
    have hSet := abreast.drive driver (.setOption name value) rfl
    generalize h.drive driver.traced _ = r at hSet ⊢
    obtain ⟨_ | done, h₁⟩ := r
    · exact hSet
    · exact hSet

theorem Abreast.cut (abreast : h.Abreast mask) : (h.cut driver.traced).Abreast mask := by
  unfold Held.cut
  rw [if_pos abreast.isOpen]
  exact abreast.drive driver .cut rfl

theorem Abreast.closeSide (abreast : h.Abreast mask) (d : Direction) :
    (h.closeSide driver.traced d).2.Abreast mask := by
  unfold Held.closeSide
  have hClosed := abreast.drive driver (.closeHalf d) rfl
  generalize h.drive driver.traced _ = r at hClosed ⊢
  obtain ⟨e | done, h₁⟩ := r
  · exact hClosed
  · cases d with
    | read => exact ((hClosed.toNotes.update rfl rfl).update rfl rfl).applyWatch driver
    | write => exact (hClosed.toNotes.update rfl rfl).applyWatch driver

theorem Abreast.closeHalf (abreast : h.Abreast mask) (d : Direction) :
    (h.closeHalf driver.traced d).2.Abreast mask := by
  by_cases hNot : h.channel.isOpen = false ∨ h.channel.mode.has d = false ∨
      h.channel.mode.without d = .none
  · rwa [closeHalf_unchanged hNot]
  · simp only [not_or, Bool.not_eq_false] at hNot
    obtain ⟨hOpen, hHas, hLast⟩ := hNot
    cases d with
    | read =>
      rw [closeHalf_read hOpen hHas hLast]
      exact abreast.closeSide driver .read
    | write =>
      rw [closeHalf_write hOpen hHas hLast]
      have hFlushed := abreast.flush driver
      generalize h.flush driver.traced = r at hFlushed ⊢
      obtain ⟨_ | f, h₁⟩ := r
      · exact hFlushed.closeSide driver .write
      · exact hFlushed

/-- In another event loop the driver is told again what it was told last. -/
theorem Abreast.splice (abreast : h.Abreast mask) (loop : LoopId) :
    (h.splice driver.traced loop).channel.Follows
      (lastMask mask (h.splice driver.traced loop).calls) := by
  unfold Held.splice
  rw [if_pos abreast.isOpen]
  have hJoined := abreast.drive driver (.splice loop) rfl
  constructor
  · intro _
    rw [calls_drive, lastMask_append]
    exact ⟨rfl, abreast.wanted.symm⟩
  · intro hShut
    exact absurd hShut (by simp [abreast.isOpen])

/-- The last mask that the driver is told is the empty one. -/
theorem Abreast.shut (abreast : h.Abreast mask) :
    (h.shut driver.traced).2.channel.isOpen = false ∧
      lastMask mask (h.shut driver.traced).2.calls = .none := by
  unfold Held.shut
  rw [if_neg (by simp [abreast.isOpen])]
  refine ⟨rfl, ?_⟩
  rw [calls_drive, calls_drive, lastMask_append, lastMask_append]
  rfl

theorem Abreast.perform (abreast : h.Abreast mask) (op : ChannelOp)
    (hRetells : op.retells = false) : (h.perform driver.traced op).2.Abreast mask := by
  cases op with
  | read n => exact abreast.read driver n
  | write bytes force => exact abreast.write driver bytes force
  | seek target => exact abreast.seek driver target
  | tell => exact abreast.tell driver
  | setBlocking on => exact abreast.setBlocking driver on
  | createHandler wanted callback => exact abreast.createHandler driver wanted callback
  | deleteHandler id => exact abreast.deleteHandler driver id
  | getOption dns name => exact abreast.getOption driver dns name
  | getOptions dns => exact abreast.getOptions driver dns
  | setOption name value => exact abreast.setOption driver name value
  | cut => exact abreast.cut driver
  | closeHalf d => exact abreast.closeHalf driver d
  | splice | shut => cases hRetells

theorem applyWatch_shut (hShut : h.channel.isOpen = false) :
    (h.applyWatch driver.traced).channel.isOpen = false ∧
      (h.applyWatch driver.traced).calls = h.calls := by
  by_cases hSame : h.channel.wantedMask = h.channel.watched
  · rw [applyWatch_same hSame]
    exact ⟨hShut, rfl⟩
  · rw [applyWatch_closed hSame hShut]
    exact ⟨hShut, rfl⟩

theorem flushInBackground_shut (hShut : h.channel.isOpen = false) (raised : Interest) :
    (h.flushInBackground driver.traced raised).channel.isOpen = false ∧
      (h.flushInBackground driver.traced raised).calls = h.calls := by
  cases hDue : raised.writable && h.channel.flushPending with
  | false =>
    rw [flushInBackground_idle hDue]
    exact ⟨hShut, rfl⟩
  | true =>
    rw [flushInBackground_due hDue, flush_closed hShut]
    exact ⟨hShut, rfl⟩

/-- A closed driver is not called, and the channel stays closed. -/
theorem perform_shut (hShut : h.channel.isOpen = false) (op : ChannelOp) :
    (h.perform driver.traced op).2.channel.isOpen = false ∧
      (h.perform driver.traced op).2.calls = h.calls := by
  cases op with
  | read n =>
    rw [perform, read_closed hShut]
    exact ⟨hShut, rfl⟩
  | write bytes force =>
    rw [perform, write_closed hShut]
    exact ⟨hShut, rfl⟩
  | seek target =>
    cases hEmpty : h.channel.output.isEmpty with
    | true => simp [perform, seek_empty hEmpty, goTo, hShut]
    | false => simp [perform, seek_waiting hEmpty, flush_closed hShut, goTo, hShut]
  | setBlocking on => simp [perform, setBlocking, hShut]
  | createHandler wanted callback => exact applyWatch_shut driver hShut
  | deleteHandler id => exact applyWatch_shut driver hShut
  | getOption dns name =>
    simp only [perform, getOption, hShut]
    split <;> exact ⟨hShut, rfl⟩
  | setOption name value =>
    simp only [perform, setOption, setBlocking, hShut]
    split
    · split <;> exact ⟨hShut, rfl⟩
    · split <;> exact ⟨hShut, rfl⟩
    · exact ⟨hShut, rfl⟩
  | closeHalf d =>
    rw [perform, closeHalf_unchanged (.inl hShut)]
    exact ⟨hShut, rfl⟩
  | tell => simp [perform, tell, hShut]
  | getOptions dns => simp [perform, getOptions, hShut]
  | cut => simp [perform, cut, hShut]
  | splice loop => simp [perform, splice, hShut]
  | shut => simp [perform, shut, hShut]

/-- Every operation leaves the driver told what it is to be told. -/
theorem perform_follows {h : Held σ} (follows : h.channel.Follows mask) (op : ChannelOp) :
    (h.recording.perform driver.traced op).2.channel.Follows
        (lastMask mask (h.recording.perform driver.traced op).2.calls) ∧
      (op.retells = false → Changing mask (h.recording.perform driver.traced op).2.calls) := by
  cases hOpen : h.channel.isOpen with
  | false =>
    obtain ⟨hShut, hCalls⟩ := perform_shut (h := h.recording) driver hOpen op
    rw [hCalls]
    exact ⟨.of_shut hShut (follows.closed hOpen), fun _ => trivial⟩
  | true =>
    have abreast := abreast_recording hOpen follows
    cases hRetells : op.retells with
    | false =>
      have hAfter := abreast.perform driver op hRetells
      exact ⟨hAfter.follows, fun _ => hAfter.changing⟩
    | true =>
      refine ⟨?_, fun hNot => by cases hNot⟩
      cases op with
      | splice loop => exact abreast.splice driver loop
      | shut => exact .of_shut (abreast.shut driver).1 (abreast.shut driver).2
      | _ => cases hRetells

/-- So does the output that is written in the background. -/
theorem flushInBackground_follows {h : Held σ} (follows : h.channel.Follows mask)
    (raised : Interest) :
    (h.recording.flushInBackground driver.traced raised).channel.Follows
        (lastMask mask (h.recording.flushInBackground driver.traced raised).calls) ∧
      Changing mask (h.recording.flushInBackground driver.traced raised).calls := by
  cases hOpen : h.channel.isOpen with
  | false =>
    obtain ⟨hShut, hCalls⟩ := flushInBackground_shut (h := h.recording) driver hOpen raised
    rw [hCalls]
    exact ⟨.of_shut hShut (follows.closed hOpen), trivial⟩
  | true =>
    have hAfter := (abreast_recording hOpen follows).flushInBackground driver raised
    exact ⟨hAfter.follows, hAfter.changing⟩

end Held

end EventChannel
