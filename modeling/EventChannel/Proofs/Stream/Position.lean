import EventChannel.Proofs.Channel.Sequence
import EventChannel.Proofs.Stream.Inlet

/-! A channel over a driver that has a position. To tell its own position, the channel reckons with
the input and the output that wait: the driver is ahead of the readers by the one and behind the
writers by the other. A seek writes the output first and then goes to where it is told; if that is
told from the current position, it is the driver's that counts, and so the input that waits is
passed over. -/

namespace EventChannel

/-- A driver with one position in its environment, a word of 64 bits. Input and output advance it by
the bytes that are given and taken; of output that fits, some is always taken. A seek goes to the
position that it answers, and does nothing else. -/
structure Driver.Seekable {σ : Type} (driver : Driver σ) (position : σ → Nat)
    (move : Nat → σ → σ) : Prop where
  word : ∀ env, position env < UInt64.size
  position_move : ∀ {n} env, n < UInt64.size → position (move n env) = n
  move_position : ∀ env, move (position env) env = env
  start : ∀ {n} env, n < UInt64.size →
    driver (.seek (.start n)) env = { answer := .ok n, env := move n env }
  current : ∀ {n d} env, n < UInt64.size → (position env : Int) + d = n →
    driver (.seek (.current d)) env = { answer := .ok n, env := move n env }
  sought : ∀ target env, position (driver (.seek target) env).env =
    match (driver (.seek target) env).answer with
    | .ok n => n
    | .error _ => position env
  advances : ∀ call env, (∀ target, call ≠ .seek target) →
    position (driver call env).env = position env +
      (DriverEvent.given ⟨call, (driver call env).answer⟩).length +
      (DriverEvent.sent ⟨call, (driver call env).answer⟩).length
  takes : ∀ bytes env, bytes ≠ [] → position env + bytes.length < UInt64.size →
    ∃ n, 0 < n.1 ∧ (driver (.output bytes) env).answer = .ok n

theorem DriverCall.not_seek_of_fetches {call : DriverCall} (hFetch : call.fetches = false)
    (target : SeekTarget) : call ≠ .seek target := by
  rintro rfl
  cases hFetch

namespace Driver.Seekable

variable {σ : Type} {driver : Driver σ} {position : σ → Nat} {move : Nat → σ → σ}

/-- Calls without a seek advance the position by what is given and taken. -/
theorem performs (seekable : driver.Seekable position move) {start p : EventLoops × σ}
    {calls : List DriverEvent} (performs : driver.Performs start calls p)
    (hStay : ∀ e ∈ calls, ∀ target, e.call ≠ .seek target) :
    position p.2 = position start.2 + (givenBytes calls).length + (sentBytes calls).length := by
  induction performs with
  | refl => rfl
  | @snoc calls p prior call ih =>
    have hPrior := ih fun e hMem => hStay e (List.mem_append_left _ hMem)
    have hLast := seekable.advances call p.2
      (hStay ⟨call, _⟩ (List.mem_append_right _ (List.mem_singleton_self _)))
    simp only [givenBytes_append, sentBytes_append, List.length_append]
    rw [hLast, hPrior]
    simp only [givenBytes, sentBytes, List.flatMap_cons, List.flatMap_nil, List.append_nil]
    omega

/-- Asking for the position leaves everything as it is. -/
theorem current_zero (seekable : driver.Seekable position move) (env : σ) :
    driver (.seek (.current 0)) env = { answer := .ok (position env), env } := by
  rw [seekable.current env (seekable.word env) (Int.add_zero _), seekable.move_position]

end Driver.Seekable

namespace Held

variable {σ : Type} {driver : Driver σ} {position : σ → Nat} {move : Nat → σ → σ} {h : Held σ}

/-- The input that waits lies before the position of the driver. -/
def Within (position : σ → Nat) (h : Held σ) : Prop :=
  h.channel.input.length ≤ position h.env

namespace Within

/-- What neither asks for input nor goes to a position does not bring the driver back. -/
theorem of_rests (within : h.Within position) (seekable : driver.Seekable position move)
    {h₁ : Held (σ × List DriverEvent)} {inlet : Inlet} (rests : h₁.Rests inlet)
    (hInput : inlet.input.length ≤ h.channel.input.length)
    (performs : driver.Performs (h.loops, h.env) h₁.calls (h₁.loops, h₁.env.1)) :
    h₁.erase.Within position := by
  have hPosition := seekable.performs performs fun e hMem =>
    DriverCall.not_seek_of_fetches (rests.calls e hMem)
  calc h₁.channel.input.length
      = inlet.input.length := by rw [← rests.inlet]; rfl
    _ ≤ h.channel.input.length := hInput
    _ ≤ position h.env := within
    _ ≤ position h₁.env.1 := by
      rw [hPosition]
      exact Nat.le_trans (Nat.le_add_right _ _) (Nat.le_add_right _ _)

theorem flush (within : h.Within position) (seekable : driver.Seekable position move) :
    (h.flush driver).2.Within position := by
  have hErase := erase_flush driver h.recording
  rw [erase_recording] at hErase
  have performs := (persists_performs driver (h.loops, h.env)).sustains.flush
    (h := h.recording) .refl
  rw [hErase]
  exact within.of_rests seekable ((rests_recording h).flush driver) (Nat.le_refl _) performs

theorem goTo (within : h.Within position) (seekable : driver.Seekable position move)
    (target : SeekTarget) : (h.goTo driver target).2.Within position := by
  unfold Held.goTo
  split
  · exact within
  have hSought := seekable.sought target h.env
  rcases hDriven : driver (.seek target) h.env with ⟨f | n, env, raised, commands⟩
  · rw [hDriven] at hSought
    simp only [drive, hDriven]
    exact Nat.le_trans within (Nat.le_of_eq hSought.symm)
  · simp only [drive, hDriven]
    exact Nat.zero_le _

theorem seek (within : h.Within position) (seekable : driver.Seekable position move)
    (target : SeekTarget) : (h.seek driver target).2.Within position := by
  cases hEmpty : h.channel.output.isEmpty with
  | true =>
    rw [seek_empty hEmpty]
    exact within.goTo seekable target
  | false =>
    rw [seek_waiting hEmpty]
    have hFlushed := within.flush seekable
    generalize h.flush driver = r at hFlushed ⊢
    obtain ⟨_ | f, h₁⟩ := r
    · exact hFlushed.goTo seekable target
    · exact hFlushed

theorem tell (within : h.Within position) (seekable : driver.Seekable position move) :
    (h.tell driver).2.Within position := by
  unfold Held.tell
  split
  · exact within
  · simp only [drive, seekable.current_zero]
    exact within

/-- What a read leaves waiting of what the driver has given, the driver has advanced by. -/
theorem read (within : h.Within position) (seekable : driver.Seekable position move) (n : Nat) :
    (h.read driver n).2.Within position := by
  unfold Held.read
  split
  · exact within
  split
  · exact within
  split
  · exact Nat.le_trans ((List.drop_sublist _ _).length_le) within
  have hGiven := seekable.advances (.input (max n h.channel.bufferSize)) h.env
    fun _ hEq => by cases hEq
  simp only [askInput, drive, update_env, update_channel]
  generalize driver (.input (max n h.channel.bufferSize)) h.env = driven at hGiven ⊢
  obtain ⟨f | bytes, env, raised, commands⟩ := driven
  · have hSame : h.channel.input.length ≤ position env := by
      rw [hGiven]
      exact Nat.le_trans within (Nat.le_add_right _ _)
    dsimp only
    split
    · exact hSame
    · exact hSame
  · show (bytes.1.drop n).length ≤ position env
    have hGave : position env = position h.env + bytes.1.length := hGiven
    rw [hGave]
    exact Nat.le_trans ((List.drop_sublist _ _).length_le) (Nat.le_add_left _ _)

theorem perform (within : h.Within position) (seekable : driver.Seekable position move)
    (op : ChannelOp) : (h.perform driver op).2.Within position := by
  cases hFetch : op.fetches with
  | true =>
    cases op with
    | read n => exact within.read seekable n
    | seek target => exact within.seek seekable target
    | tell => exact within.tell seekable
    | _ => cases hFetch
  | false =>
    have hErase := erase_perform driver h.recording op
    rw [erase_recording] at hErase
    have performs := (persists_performs driver (h.loops, h.env)).perform
      (h := h.recording) .refl op fun _ _ _ => .refl
    rw [hErase]
    refine within.of_rests seekable (perform_rests h hFetch) ?_ performs
    cases op with
    | read | seek | tell => cases hFetch
    | shut =>
      show (if h.channel.isOpen then [] else h.channel.input).length ≤ _
      split
      · exact Nat.zero_le _
      · exact Nat.le_refl _
    | closeHalf d =>
      generalize (h.recording.perform driver.traced (.closeHalf d)).1 = answer
      rcases d with _ | _ <;> rcases answer with r | _ | _ <;>
        first | exact Nat.le_refl _ | exact Nat.zero_le _
    | _ => exact Nat.le_refl _

end Within

end Held

section

variable {σ : Type} {s : Surroundings σ} {position : σ → Nat} {move : Nat → σ → σ} {id : ChannelId}

/-- The position of a driver that is not called in an event is not changed in it. -/
def Event.StaysPut (s : Surroundings σ) (position : σ → Nat) (id : ChannelId) (e : Event σ) :
    Prop :=
  e.calls s id = [] → position (e.after s).env = position e.before.env

theorem World.env_graspCopies (w : World σ) (targets : List (Interest × Callback)) :
    (w.graspCopies targets).env = w.env := by
  refine foldl_keeps World.env (fun w target => ?_) targets
  obtain ⟨ready, _ | k⟩ := target <;> rfl

/-- Apart from the operations on its channel nothing brings a driver back. -/
theorem Step.position_of_not_holds {α : Type} (t : Step σ α) {w : World σ}
    (seekable : (s.driver id).Seekable position move) (hExists : id < w.channels.length)
    (stays : (Event.made t w).StaysPut s position id) (hHolds : ¬t.HoldsAt id) :
    position w.env ≤ position (t.run s w).2.env := by
  cases t with
  | hold j op => exact Nat.le_of_eq (stays (if_neg hHolds)).symm
  | raise j raised =>
    by_cases hId : j = id
    · subst hId
      have hEnv : ((Step.raise j raised).run s w).2.env =
          ((w.held j).flushInBackground (s.driver j) raised).env := World.env_graspCopies _ _
      have performs := Held.flushInBackground_performs (s.driver j) (w.held j) raised
      have rests := (Held.rests_recording (w.held j)).flushInBackground (s.driver j) raised
      rw [hEnv, seekable.performs performs fun e hMem =>
        DriverCall.not_seek_of_fetches (rests.calls e hMem)]
      exact Nat.le_trans (Nat.le_add_right _ _) (Nat.le_add_right _ _)
    · exact Nat.le_of_eq (stays (if_neg hId)).symm
  | handle j d =>
    by_cases hCalled : j = id ∧ (w.channel id).isOpen
    · obtain ⟨rfl, hOpen⟩ := hCalled
      have hEnv : ((Step.handle j d).run s w).2.env = (s.driver j (.handle d) w.env).env := by
        rw [Step.run, if_pos hOpen]
        rfl
      rw [hEnv]
      exact Nat.le_of_eq (seekable.advances (.handle d) w.env fun _ hEq => by cases hEq).symm
    · exact Nat.le_of_eq (stays (if_neg hCalled)).symm
  | «open» c => exact Nat.le_of_eq (stays (if_neg (Nat.ne_of_gt hExists))).symm
  | _ => exact Nat.le_of_eq (stays rfl).symm

/-- No event brings the driver back behind the input that waits. -/
theorem Event.within (e : Event σ) (seekable : (s.driver id).Seekable position move)
    (hExists : id < e.before.channels.length) (stays : e.StaysPut s position id)
    (within : (e.before.held id).Within position) : ((e.after s).held id).Within position := by
  cases e with
  | called c w => exact within
  | made t w =>
    by_cases hHolds : t.HoldsAt id
    · cases t with
      | hold j op =>
        obtain rfl : j = id := hHolds
        have hChannel : ((Step.hold j op).run s w).2.channel j =
            { ((w.held j).perform (s.driver j) op).2.channel with deferred := .none } :=
          World.hold_channel_self _ hExists
        show (((Step.hold j op).run s w).2.channel j).input.length ≤ _
        rw [hChannel]
        exact within.perform seekable op
      | _ => exact hHolds.elim
    · have hInput : ((t.run s w).2.channel id).input = (w.channel id).input :=
        congrArg Inlet.input (t.inlet_of_not_holds hExists hHolds)
      calc ((t.run s w).2.channel id).input.length
          = (w.channel id).input.length := congrArg List.length hInput
        _ ≤ position w.env := within
        _ ≤ position (t.run s w).2.env := t.position_of_not_holds seekable hExists stays hHolds

/-- As long as nobody else moves a driver, the input that waits lies before its position. -/
theorem Surroundings.Leads.within {w v : World σ} {events : List (Event σ)}
    (history : s.Leads w events v) (seekable : (s.driver id).Seekable position move)
    (hExists : id < w.channels.length) (stayed : ∀ e ∈ events, e.StaysPut s position id)
    (within : (w.held id).Within position) : (v.held id).Within position := by
  induction history with
  | refl => exact within
  | snoc e prior ih =>
    have hThere := Nat.lt_of_lt_of_le hExists prior.length
    have hBefore := ih fun e' hMem => stayed e' (List.mem_append_left _ hMem)
    exact e.within seekable hThere
      (stayed e (List.mem_append_right _ (List.mem_singleton_self e))) hBefore

end

namespace Held

variable {σ : Type} {driver : Driver σ} {position : σ → Nat} {move : Nat → σ → σ} {h h' : Held σ}

/-- All output has been written, by which the driver has advanced. -/
structure Drained (position : σ → Nat) (h h' : Held σ) : Prop where
  output : h'.channel.output.toBytes = []
  position : position h'.env = position h.env + h.channel.output.size
  isOpen : h'.channel.isOpen = h.channel.isOpen

theorem Drained.of_empty (hEmpty : h.channel.output.toBytes = []) : h.Drained position h where
  output := hEmpty
  position := by rw [← ByteQueue.length_toBytes, hEmpty]; rfl
  isOpen := rfl

/-- Of output that fits, the driver takes some, by which it advances. -/
theorem drive_output_taken (seekable : driver.Seekable position move)
    (hSome : h.channel.output.toBytes ≠ [])
    (hRoom : position h.env + h.channel.output.size < UInt64.size) :
    ∃ m hTaken h₁, h.drive driver (.output h.channel.output.toBytes) = (.ok ⟨m + 1, hTaken⟩, h₁) ∧
      h₁.channel.output = h.channel.output ∧ h₁.channel.isOpen = h.channel.isOpen ∧
      position h₁.env = position h.env + (m + 1) := by
  obtain ⟨⟨n, hTaken⟩, hPositive, hAnswer⟩ := seekable.takes _ h.env hSome (by simpa using hRoom)
  obtain ⟨m, rfl⟩ : ∃ m, n = m + 1 := Nat.exists_eq_add_one.2 hPositive
  have hAdvanced := seekable.advances (.output h.channel.output.toBytes) h.env
    fun _ hEq => by cases hEq
  rw [hAnswer] at hAdvanced
  refine ⟨m, hTaken, (h.drive driver (.output h.channel.output.toBytes)).2, ?_, rfl, rfl, ?_⟩
  · exact Prod.ext hAnswer rfl
  · have hSize : m + 1 ≤ h.channel.output.size := by simpa using hTaken
    simpa [DriverEvent.given, DriverEvent.sent, Nat.min_eq_left hSize] using hAdvanced

/-- A driver that always takes some of what is offered takes all of it. -/
theorem emit_drained (seekable : driver.Seekable position move) {offers : Nat}
    (hEnough : h.channel.output.size ≤ offers)
    (hRoom : position h.env + h.channel.output.size < UInt64.size) :
    ∃ h', h.emit driver offers = (none, h') ∧ h.Drained position h' := by
  induction offers generalizing h with
  | zero =>
    have hEmpty : h.channel.output.toBytes = [] := by
      rw [← List.length_eq_zero_iff, ByteQueue.length_toBytes]
      omega
    exact ⟨h, rfl, .of_empty hEmpty⟩
  | succ offers ih =>
    unfold emit
    by_cases hEmpty : h.channel.output.toBytes = []
    · exact ⟨h, if_pos ((ByteQueue.isEmpty_iff _).2 hEmpty), .of_empty hEmpty⟩
    · obtain ⟨m, hTaken, h₁, hDrive, hOutput, hOpen, hThere⟩ :=
        drive_output_taken seekable hEmpty hRoom
      have hLeft : (h₁.dropOutput (m + 1)).channel.output.size =
          h.channel.output.size - (m + 1) := by
        rw [← hOutput]
        rfl
      have hAt : position (h₁.dropOutput (m + 1)).env = position h.env + (m + 1) := hThere
      have hSize : m + 1 ≤ h.channel.output.size := by simpa using hTaken
      obtain ⟨h', hEmit, drained⟩ :=
        ih (h := h₁.dropOutput (m + 1)) (by omega) (by rw [hAt, hLeft]; omega)
      refine ⟨h', ?_, drained.output, ?_, drained.isOpen.trans hOpen⟩
      · rw [if_neg (by simpa using hEmpty), hDrive]
        exact hEmit
      · rw [drained.position, hAt, hLeft]
        omega

/-- Telling the driver what to wait for does not move it. -/
theorem Drained.applyWatch (drained : h.Drained position h')
    (seekable : driver.Seekable position move) : h.Drained position (h'.applyWatch driver) := by
  by_cases hSame : h'.channel.wantedMask = h'.channel.watched
  · rwa [applyWatch_same hSame]
  · cases hOpen : h'.channel.isOpen with
    | true =>
      have hStays := seekable.advances (.watch h'.channel.wantedMask) h'.env
        fun _ hEq => by cases hEq
      rw [applyWatch_open hSame hOpen]
      exact ⟨drained.output, hStays.trans drained.position, drained.isOpen⟩
    | false =>
      rw [applyWatch_closed hSame hOpen]
      exact ⟨drained.output, drained.position, drained.isOpen⟩

theorem flush_drained (seekable : driver.Seekable position move)
    (hOpen : h.channel.isOpen = true)
    (hRoom : position h.env + h.channel.output.size < UInt64.size) :
    ∃ h', h.flush driver = (none, h') ∧ h.Drained position h' := by
  obtain ⟨h₁, hEmit, drained⟩ := emit_drained seekable (Nat.le_refl _) hRoom
  have hSettled : h.Drained position (h₁.settleBackground driver) := by
    unfold settleBackground
    dsimp only
    split
    · exact drained
    · exact Drained.applyWatch ⟨drained.output, drained.position, drained.isOpen⟩ seekable
  refine ⟨h₁.settleBackground driver, ?_, hSettled⟩
  unfold flush
  rw [if_neg (by simp [hOpen]), hEmit]
  rfl

/-- Whatever its target, a seek writes out first what waits, and then goes there. -/
theorem seek_drained (seekable : driver.Seekable position move) (hOpen : h.channel.isOpen = true)
    (hRoom : position h.env + h.channel.output.size < UInt64.size) :
    ∃ h', h.Drained position h' ∧ ∀ target, h.seek driver target = h'.goTo driver target := by
  cases hEmpty : h.channel.output.isEmpty with
  | true =>
    have hNone : h.channel.output.toBytes = [] := (ByteQueue.isEmpty_iff _).1 hEmpty
    exact ⟨h, .of_empty hNone, fun target => seek_empty hEmpty⟩
  | false =>
    obtain ⟨h', hFlush, drained⟩ := flush_drained seekable hOpen hRoom
    refine ⟨h', drained, fun target => ?_⟩
    rw [seek_waiting hEmpty, hFlush]

/-- A seek to a position that the driver goes to. -/
theorem goTo_arrived (hOpen : h.channel.isOpen = true) {target : SeekTarget} {n : Nat} {env : σ}
    (hArrives : driver (.seek target) h.env = { answer := .ok n, env }) :
    h.goTo driver target =
      (.ok n,
        { channel := { h.channel with input := [], eof := false }, loops := h.loops, env }) := by
  unfold goTo
  rw [if_neg (by simp [hOpen])]
  simp only [drive, hArrives, update, Interest.union_none, EventLoops.applyAll_nil]

/-- The position that a channel tells, reckoned from that of the driver. -/
theorem tell_within (seekable : driver.Seekable position move) (hOpen : h.channel.isOpen = true)
    (hRoom : position h.env + h.channel.output.size < UInt64.size) :
    h.tell driver =
      (some (position h.env - h.channel.input.length + h.channel.output.size), h) := by
  unfold tell
  rw [if_neg (by simp [hOpen])]
  simp only [drive, seekable.current_zero, Interest.union_none, EventLoops.applyAll_nil]
  rw [Nat.mod_eq_of_lt (by omega)]

end Held

namespace Step

variable {σ : Type} {s : Surroundings σ} {v : World σ} {id : ChannelId}

/-- Two seeks that come to the same while the channel is held come to the same altogether. -/
theorem run_seek_congr {first second : SeekTarget}
    (hSame : (v.held id).seek (s.driver id) first = (v.held id).seek (s.driver id) second) :
    (Step.hold id (.seek first)).run s v = (Step.hold id (.seek second)).run s v :=
  congrArg (fun r : Except Report Nat × Held σ =>
    (((r.1, r.2.channel.deferred),
      { v.modifyChannel id (fun _ => { r.2.channel with deferred := .none }) with
        loops := r.2.loops, env := r.2.env }) : (Except Report Nat × Interest) × World σ)) hSame

end Step

/-- How seeks and tells go together on an open channel over a seekable driver, after any history and
with whatever input and output waiting. A tell answers a position and changes nothing. A seek from
the current position starts from the one that was told plus the input that waits; it comes to the
same as the seek to the position at which that arrives, and nothing is left waiting. So with no
input waiting, and only then, it starts from the position told. -/
theorem seek_lands_past_input {σ : Type} {s : Setting σ} {position : σ → Nat} {move : Nat → σ → σ}
    {id : ChannelId} {w v : World σ} {events : List (Event σ)}
    (seekable : (s.driver id).Seekable position move) (history : s.Leads w events v)
    (hExists : id < w.channels.length)
    (stayed : ∀ e ∈ events, e.StaysPut s.toSurroundings position id)
    (within : (w.held id).Within position) (hOpen : (v.channel id).isOpen = true)
    (hRoom : position v.env + (v.channel id).output.size < UInt64.size) :
    ∃ p, p + (v.channel id).input.length = position v.env + (v.channel id).output.size ∧
      (Step.hold id .tell).run s.toSurroundings v = ((some p, (v.channel id).deferred),
        v.modifyChannel id ({ · with deferred := .none })) ∧
      ∀ (d : Int) (n : Nat), (p : Int) + (v.channel id).input.length + d = n → n < UInt64.size →
        let sought := (Step.hold id (.seek (.start n))).run s.toSurroundings v
        (Step.hold id (.seek (.current d))).run s.toSurroundings v = sought ∧
        (∀ answer v', (∃ inner, s.Runs (Program.seek id (.current d)) v inner answer v') ↔
          ∃ inner, s.Runs (Program.seek id (.start n)) v inner answer v') ∧
        sought.1.1 = .ok n ∧ position sought.2.env = n ∧
        (sought.2.channel id).input = [] ∧ (sought.2.channel id).output.toBytes = [] := by
  have hWithin : (v.channel id).input.length ≤ position v.env :=
    history.within seekable hExists stayed within
  have hReckoned : position v.env - (v.channel id).input.length + (v.channel id).output.size +
      (v.channel id).input.length = position v.env + (v.channel id).output.size := by omega
  have hTold := Held.tell_within (h := v.held id) seekable hOpen hRoom
  have hTell : (Step.hold id .tell).run s.toSurroundings v = _ := Step.run_hold_idle hTold
  refine ⟨_, hReckoned, hTell, fun d n hArrives hWord => ?_⟩
  obtain ⟨h', drained, hSeek⟩ :=
    Held.seek_drained (h := v.held id) seekable hOpen hRoom
  have hStill : h'.channel.isOpen = true := drained.isOpen.trans hOpen
  have hPosition : (position h'.env : Int) + d = n := by
    have hThere : position h'.env = position v.env + (v.channel id).output.size := drained.position
    omega
  have hStart := Held.goTo_arrived hStill (seekable.start h'.env hWord)
  have hCurrent := Held.goTo_arrived hStill (seekable.current h'.env hWord hPosition)
  have hSame : (Step.hold id (.seek (.current d))).run s.toSurroundings v =
      (Step.hold id (.seek (.start n))).run s.toSurroundings v :=
    Step.run_seek_congr (by rw [hSeek, hSeek, hStart, hCurrent])
  have hStarted : (v.held id).seek (s.driver id) (.start n) = _ := (hSeek _).trans hStart
  have hChannel : ((Step.hold id (.seek (.start n))).run s.toSurroundings v).2.channel id =
      { ((v.held id).seek (s.driver id) (.start n)).2.channel with deferred := .none } :=
    World.hold_channel_self _ (World.exists_of_isOpen hOpen)
  rw [hStarted] at hChannel
  refine ⟨hSame, fun answer v' => ⟨?_, ?_⟩, congrArg Prod.fst hStarted, ?_, ?_, ?_⟩
  · rintro ⟨inner, _ | rest⟩
    rw [hSame] at rest
    exact ⟨_, .step rest⟩
  · rintro ⟨inner, _ | rest⟩
    rw [← hSame] at rest
    exact ⟨_, .step rest⟩
  · exact (congrArg (fun r => position r.2.env) hStarted).trans (seekable.position_move _ hWord)
  · rw [hChannel]
  · rw [hChannel]
    exact drained.output

/-- A tape with a zero at every position. The head does not move past the end. -/
abbrev TapePosition := Fin UInt64.size

def advanceHead (head : TapePosition) (n : Nat) : TapePosition :=
  ⟨head + min n (UInt64.size - 1 - head), by have := head.isLt; omega⟩

def soughtHead (head : TapePosition) : SeekTarget → TapePosition
  | .start n => Fin.ofNat UInt64.size n
  | .current d => Fin.ofNat UInt64.size ((head : Int) + d).toNat
  | .fromEnd _ => head

def tapeDriver : Driver TapePosition := fun call head =>
  match call with
  | .input room =>
    { answer := .ok ⟨List.replicate (min room (UInt64.size - 1 - head)) 0,
        List.length_replicate ▸ Nat.min_le_left _ _⟩
      env := advanceHead head room }
  | .output bytes =>
    { answer := .ok ⟨min bytes.length (UInt64.size - 1 - head), Nat.min_le_left _ _⟩
      env := advanceHead head bytes.length }
  | .seek target => { answer := .ok (soughtHead head target).val, env := soughtHead head target }
  | call => { answer := call.unsupported, env := head }

theorem tapeDriver_seekable :
    tapeDriver.Seekable (·.val) fun n _ => Fin.ofNat UInt64.size n where
  word head := head.isLt
  position_move _ hWord := Nat.mod_eq_of_lt hWord
  move_position head := Fin.ext (Nat.mod_eq_of_lt head.isLt)
  start {n} head hWord := by
    have hThere : (Fin.ofNat UInt64.size n).val = n := Nat.mod_eq_of_lt hWord
    simp only [tapeDriver, soughtHead, hThere]
  current {n d} head hWord hArrives := by
    have hTarget : ((head : Int) + d).toNat = n := by omega
    have hThere : (Fin.ofNat UInt64.size n).val = n := Nat.mod_eq_of_lt hWord
    simp only [tapeDriver, soughtHead, hTarget, hThere]
  sought target head := rfl
  advances call head hNot := by
    cases call with
    | seek target => exact absurd rfl (hNot target)
    | input room =>
      simp [tapeDriver, advanceHead, DriverEvent.given, DriverEvent.sent]
    | output bytes =>
      simp [tapeDriver, advanceHead, DriverEvent.given, DriverEvent.sent]
    | _ => rfl
  takes bytes head hSome hRoom := by
    refine ⟨⟨min bytes.length (UInt64.size - 1 - head), Nat.min_le_left _ _⟩, ?_, rfl⟩
    have hLength := List.length_pos_iff.2 hSome
    show 0 < min bytes.length (UInt64.size - 1 - head)
    omega

def tapeSetting : Setting TapePosition where
  driver _ := tapeDriver
  ready _ _ := .none
  users _ _ := false
  routine u := .done u.unit
  fire _ _ := .done ()

def tapeWorld : World TapePosition where
  channels := [{ name := "tape", type := "file", mode := .both, bufferSize := 4 }]
  env := ⟨0, by decide⟩

def tapeRead : Event TapePosition := .made (.hold 0 (.read 1)) tapeWorld

def tapeWrite : Event TapePosition :=
  .made (.hold 0 (.write [1] false)) (tapeRead.after tapeSetting.toSurroundings)

/-- Three bytes of input and one of output wait. To stay where a tell says that it is, the channel
has to go three back. -/
theorem seek_lands_past_input_tape :
    ((Step.hold 0 .tell).run tapeSetting.toSurroundings
      (tapeWrite.after tapeSetting.toSurroundings)).1.1 = some 2 ∧
    ((Step.hold 0 (.seek (.current (-3)))).run tapeSetting.toSurroundings
      (tapeWrite.after tapeSetting.toSurroundings)).1.1 = .ok 2 := by
  have history : tapeSetting.Leads tapeWorld [tapeRead, tapeWrite]
      (tapeWrite.after tapeSetting.toSurroundings) :=
    .cons tapeRead (.cons tapeWrite .refl)
  have stayed : ∀ e ∈ [tapeRead, tapeWrite], e.StaysPut tapeSetting.toSurroundings (·.val) 0 := by
    intro e hMem
    simp only [List.mem_cons, List.not_mem_nil, or_false] at hMem
    rcases hMem with rfl | rfl
    · exact fun hNone => absurd hNone (List.cons_ne_nil _ _)
    · exact fun _ => rfl
  obtain ⟨p, hReckoned, hTell, hSeek⟩ :=
    seek_lands_past_input (s := tapeSetting) tapeDriver_seekable history
      (by decide : 0 < tapeWorld.channels.length) stayed (Nat.zero_le _) rfl (by decide)
  have hTold : p + 3 = 4 + 1 := hReckoned
  obtain rfl : p = 2 := by omega
  obtain ⟨hSame, -, hAnswer, -⟩ := hSeek (-3) 2 rfl (by decide)
  exact ⟨congrArg (fun r => r.1.1) hTell, (congrArg (fun r => r.1.1) hSame).trans hAnswer⟩

/-- One byte has been read of a chunk of four, and a tell says so. A seek by nothing goes to the end
of the chunk, where a seek to the position told does not go. -/
theorem seek_moves_from_position_told :
    ((Step.hold 0 .tell).run tapeSetting.toSurroundings
      (tapeRead.after tapeSetting.toSurroundings)).1.1 = some 1 ∧
    ((Step.hold 0 (.seek (.current 0))).run tapeSetting.toSurroundings
      (tapeRead.after tapeSetting.toSurroundings)).1.1 = .ok 4 ∧
    ((Step.hold 0 (.seek (.start 1))).run tapeSetting.toSurroundings
      (tapeRead.after tapeSetting.toSurroundings)).1.1 = .ok 1 :=
  ⟨rfl, rfl, rfl⟩

end EventChannel
