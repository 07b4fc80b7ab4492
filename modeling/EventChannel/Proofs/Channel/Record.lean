import EventChannel.Proofs.Channel.Branches

/-! The calls that a channel makes to its driver are read off a run with the driver recorded.
Recording changes nothing: with the record erased, every operation answers and leaves behind the
same. -/

namespace EventChannel.Held

variable {σ α : Type}

/-- The channel held, with a record of the calls to its driver that is empty so far. -/
def recording (h : Held σ) : Held (σ × List DriverEvent) := ⟨h.channel, h.loops, (h.env, [])⟩

/-- The channel held without the record. -/
def erase (h : Held (σ × List DriverEvent)) : Held σ := ⟨h.channel, h.loops, h.env.1⟩

/-- The calls to the driver so far. -/
def calls (h : Held (σ × List DriverEvent)) : List DriverEvent := h.env.2

@[simp] theorem erase_recording (h : Held σ) : h.recording.erase = h := rfl

@[simp] theorem calls_recording (h : Held σ) : h.recording.calls = [] := rfl

variable (driver : Driver σ) (h : Held (σ × List DriverEvent))

@[simp] theorem erase_channel : h.erase.channel = h.channel := rfl

@[simp] theorem erase_update (f : Channel → Channel) : (h.update f).erase = h.erase.update f := rfl

@[simp] theorem calls_update (f : Channel → Channel) : (h.update f).calls = h.calls := rfl

/-- The answer with the record erased from what is left behind. -/
def erased (r : α × Held (σ × List DriverEvent)) : α × Held σ := (r.1, r.2.erase)

theorem erase_drive (call : DriverCall) :
    h.erase.drive driver call = erased (h.drive driver.traced call) := rfl

theorem erase_applyWatch : h.erase.applyWatch driver = (h.applyWatch driver.traced).erase := by
  by_cases hSame : h.channel.wantedMask = h.channel.watched
  · rw [applyWatch_same (h := h.erase) hSame, applyWatch_same hSame]
  · cases hOpen : h.channel.isOpen with
    | true => rw [applyWatch_open (h := h.erase) hSame hOpen, applyWatch_open hSame hOpen]; rfl
    | false => rw [applyWatch_closed (h := h.erase) hSame hOpen, applyWatch_closed hSame hOpen]; rfl

theorem erase_read (n : Nat) : h.erase.read driver n = erased (h.read driver.traced n) := by
  unfold read askInput
  by_cases hOpen : h.channel.isOpen <;> by_cases hMode : h.channel.mode.readable <;>
    by_cases hInput : h.channel.input.isEmpty <;> simp only [erase_channel, hOpen, hMode, hInput]
  all_goals try rfl
  simp only [update_channel, ← erase_update, erase_drive, erase_channel]
  rcases (h.update ({ · with blocked := false })).drive driver.traced _ with ⟨⟨f⟩ | ⟨bytes, _⟩, h₁⟩
  · by_cases hWait : f.isWouldBlock <;> simp [erased, hWait]
  · rfl

theorem erase_emit (offers : Nat) :
    h.erase.emit driver offers = erased (h.emit driver.traced offers) := by
  induction offers generalizing h with
  | zero => rfl
  | succ offers ih =>
    unfold emit
    by_cases hEmpty : h.channel.output.isEmpty
    · simp [hEmpty, erased]
    · simp only [erase_channel, hEmpty, erase_drive, erased]
      rcases h.drive driver.traced _ with ⟨⟨f⟩ | ⟨_ | n, _⟩, h₁⟩
      · by_cases hWait : (f.isWouldBlock && !h₁.channel.blocking) <;> simp [hWait]
      · rfl
      · exact ih (h₁.dropOutput (n + 1))

theorem erase_settleBackground :
    h.erase.settleBackground driver = (h.settleBackground driver.traced).erase := by
  unfold settleBackground
  by_cases hSettled : (!h.channel.output.isEmpty && !h.channel.blocking) = h.channel.flushPending
  · simp [hSettled]
  · simp only [erase_channel, hSettled, if_false, ← erase_update, erase_applyWatch]

theorem erase_flush : h.erase.flush driver = erased (h.flush driver.traced) := by
  unfold flush
  by_cases hOpen : h.channel.isOpen
  · simp only [erase_channel, hOpen, erase_emit]
    rcases h.emit driver.traced _ with ⟨_ | f, h₁⟩
    · simp [erased, erase_settleBackground]
    · simp [erased, erase_settleBackground, ← erase_update]
  · simp [hOpen, erased]

theorem erase_write (bytes : Bytes) (force : Bool) :
    h.erase.write driver bytes force = erased (h.write driver.traced bytes force) := by
  cases hOpen : h.channel.isOpen with
  | false => rw [write_closed (h := h.erase) hOpen, write_closed hOpen]; rfl
  | true =>
  cases hMode : h.channel.mode.writable with
  | false => rw [write_unwritable (h := h.erase) hOpen hMode, write_unwritable hOpen hMode]; rfl
  | true =>
  cases hParked : h.channel.unreported? with
  | some f =>
    rw [write_unreported (h := h.erase) hOpen hMode hParked,
      write_unreported hOpen hMode hParked]
    rfl
  | none =>
  cases hDue : force || decide (h.channel.bufferSize ≤ (h.channel.output.push bytes).size) with
  | false =>
    rw [write_kept (h := h.erase) hOpen hMode hParked hDue, write_kept hOpen hMode hParked hDue]
    rfl
  | true =>
    rw [write_flushed (h := h.erase) hOpen hMode hParked hDue,
      write_flushed hOpen hMode hParked hDue]
    rw [pushed, ← erase_update, erase_flush, ← pushed]
    rcases (h.pushed bytes).flush driver.traced with ⟨_ | f, h₁⟩ <;> rfl

theorem erase_flushInBackground (raised : Interest) :
    h.erase.flushInBackground driver raised =
      (h.flushInBackground driver.traced raised).erase := by
  cases hDue : raised.writable && h.channel.flushPending with
  | false => rw [flushInBackground_idle (h := h.erase) hDue, flushInBackground_idle hDue]
  | true =>
    rw [flushInBackground_due (h := h.erase) hDue, flushInBackground_due hDue, erase_flush]
    rcases h.flush driver.traced with ⟨_ | f, h₁⟩ <;> rfl

theorem erase_goTo (target : SeekTarget) :
    h.erase.goTo driver target = erased (h.goTo driver.traced target) := by
  unfold goTo
  cases hOpen : h.channel.isOpen with
  | false => simp [hOpen, erased]
  | true =>
    simp only [erase_channel, hOpen, erase_drive]
    rcases h.drive driver.traced _ with ⟨_ | _, h₁⟩ <;> rfl

theorem erase_seek (target : SeekTarget) :
    h.erase.seek driver target = erased (h.seek driver.traced target) := by
  cases hEmpty : h.channel.output.isEmpty with
  | true => rw [seek_empty (h := h.erase) hEmpty, seek_empty hEmpty, erase_goTo]
  | false =>
    rw [seek_waiting (h := h.erase) hEmpty, seek_waiting hEmpty, erase_flush]
    rcases h.flush driver.traced with ⟨_ | f, h₁⟩
    · exact erase_goTo driver h₁ target
    · rfl

theorem erase_tell : h.erase.tell driver = erased (h.tell driver.traced) := by
  unfold tell
  cases hOpen : h.channel.isOpen with
  | false => simp [hOpen, erased]
  | true =>
    simp only [erase_channel, hOpen, erase_drive]
    rcases h.drive driver.traced _ with ⟨_ | _, h₁⟩ <;> rfl

theorem erase_setBlocking (on : Bool) :
    h.erase.setBlocking driver on = erased (h.setBlocking driver.traced on) := by
  unfold setBlocking
  cases hOpen : h.channel.isOpen with
  | false => simp [hOpen, erased]
  | true =>
    simp only [erase_channel, hOpen, erase_drive]
    rcases h.drive driver.traced _ with ⟨_ | _, h₁⟩
    · rfl
    · simp [erased, ← erase_update, erase_applyWatch]

theorem erase_createHandler (mask : Interest) (callback : Callback) :
    h.erase.createHandler driver mask callback =
      erased (h.createHandler driver.traced mask callback) := by
  simp only [createHandler, ← erase_update, erase_applyWatch, erase_channel]
  rfl

theorem erase_deleteHandler (id : HandlerId) :
    h.erase.deleteHandler driver id = (h.deleteHandler driver.traced id).erase := by
  simp only [deleteHandler, ← erase_update, erase_applyWatch]

theorem erase_getOption (dns : Bool) (name : String) :
    h.erase.getOption driver dns name = erased (h.getOption driver.traced dns name) := by
  unfold getOption
  rcases matchOption name genericOptions with _ | found
  · cases hOpen : h.channel.isOpen with
    | false => simp [hOpen, erased]
    | true =>
      simp only [erase_channel, hOpen, erase_drive]
      rcases h.drive driver.traced _ with ⟨_ | _, h₁⟩ <;> rfl
  · by_cases hBlocking : found = "blocking"
    · subst hBlocking; rfl
    · simp only [erase_channel]
      rfl

theorem erase_getOptions (dns : Bool) :
    h.erase.getOptions driver dns = erased (h.getOptions driver.traced dns) := by
  unfold getOptions
  cases hOpen : h.channel.isOpen with
  | false => simp [hOpen, erased]
  | true =>
    simp only [erase_channel, hOpen, erase_drive]
    rcases h.drive driver.traced _ with ⟨_ | _, h₁⟩ <;> rfl

theorem erase_setOption (name value : String) :
    h.erase.setOption driver name value = erased (h.setOption driver.traced name value) := by
  unfold setOption
  split
  · split
    · rfl
    · exact erase_setBlocking driver h _
  · split <;> rfl
  · cases hOpen : h.channel.isOpen with
    | false => simp [hOpen, erased]
    | true =>
      simp only [erase_channel, hOpen, erase_drive]
      rcases h.drive driver.traced _ with ⟨_ | _, h₁⟩ <;> rfl

theorem erase_cut : h.erase.cut driver = (h.cut driver.traced).erase := by
  unfold cut
  cases hOpen : h.channel.isOpen <;> simp [hOpen, erase_drive, erased]

theorem erase_splice (loop : LoopId) :
    h.erase.splice driver loop = (h.splice driver.traced loop).erase := by
  unfold splice
  cases hOpen : h.channel.isOpen <;> simp [hOpen, erase_drive, erased]

theorem erase_shut : h.erase.shut driver = erased (h.shut driver.traced) := by
  unfold shut
  cases hOpen : h.channel.isOpen with
  | false => simp [hOpen, erased]
  | true =>
    cases hEmpty : h.channel.output.isEmpty <;>
      simp only [erase_channel, hOpen, hEmpty, erase_flush] <;> rfl

theorem erase_closeSide (d : Direction) :
    h.erase.closeSide driver d = erased (h.closeSide driver.traced d) := by
  unfold closeSide
  rw [erase_drive]
  rcases h.drive driver.traced _ with ⟨_ | _, h₁⟩
  · rfl
  · cases d <;> simp [erased, ← erase_update, erase_applyWatch]

theorem erase_closeHalf (d : Direction) :
    h.erase.closeHalf driver d = erased (h.closeHalf driver.traced d) := by
  cases hOpen : h.channel.isOpen with
  | false => simp [closeHalf, hOpen, erased]
  | true =>
  cases hHas : h.channel.mode.has d with
  | false => simp [closeHalf, hOpen, hHas, erased]
  | true =>
  by_cases hLast : h.channel.mode.without d = .none
  · simp [closeHalf, hOpen, hHas, hLast, erased]
  · cases d with
    | read =>
      rw [closeHalf_read (h := h.erase) hOpen hHas hLast, closeHalf_read hOpen hHas hLast,
        erase_closeSide]
    | write =>
      rw [closeHalf_write (h := h.erase) hOpen hHas hLast, closeHalf_write hOpen hHas hLast,
        erase_flush]
      rcases h.flush driver.traced with ⟨_ | f, h₁⟩
      · exact erase_closeSide driver h₁ .write
      · rfl

/-- Recording the driver changes nothing in what an operation does. -/
theorem erase_perform (op : ChannelOp) :
    h.erase.perform driver op = erased (h.perform driver.traced op) := by
  cases op with
  | read n => exact erase_read driver h n
  | write bytes force => exact erase_write driver h bytes force
  | seek target => exact erase_seek driver h target
  | tell => exact erase_tell driver h
  | setBlocking on => exact erase_setBlocking driver h on
  | createHandler mask callback => exact erase_createHandler driver h mask callback
  | deleteHandler id => exact congrArg (Prod.mk ()) (erase_deleteHandler driver h id)
  | getOption dns name => exact erase_getOption driver h dns name
  | getOptions dns => exact erase_getOptions driver h dns
  | setOption name value => exact erase_setOption driver h name value
  | cut => exact congrArg (Prod.mk ()) (erase_cut driver h)
  | splice loop => exact congrArg (Prod.mk ()) (erase_splice driver h loop)
  | shut => exact erase_shut driver h
  | closeHalf d => exact erase_closeHalf driver h d

end EventChannel.Held
