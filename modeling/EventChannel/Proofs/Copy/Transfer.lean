import EventChannel.Proofs.Copy.Interruption

/-! What a copy has after it has read from its source, and after it has written to its target: for
each the step itself, then the step with what happens before the copy goes on. -/

namespace EventChannel

/-- The effect of reading is to serve as before. -/
theorem Channel.ReadEffect.serves {k? : Option CopyId} {c c' : Channel} {n : Nat}
    {calls : List DriverEvent} {answer : Except TransferFailure Bytes}
    (effect : c.ReadEffect n calls answer c') : c.Serves k? c' := by
  cases effect <;> exact .of_same rfl rfl rfl rfl

theorem Channel.WriteEffect.serves {k? : Option CopyId} {c c' : Channel} {bytes : Bytes}
    {force : Bool} {calls : List DriverEvent} {answer : Except TransferFailure Unit}
    (effect : c.WriteEffect bytes force calls answer c') : c.Serves k? c' := by
  have hPushed {failure? : Option DriverFailure}
      (flushed : Flushed { c with output := c.output.push bytes } calls failure? c') :
      c.Serves k? c' := by
    rw [flushed.rest]
    exact .of_same rfl rfl rfl rfl
  cases effect with
  | misused | unreported | kept => exact .of_same rfl rfl rfl rfl
  | written hParked flushed => exact hPushed flushed
  | failed f hParked flushed => exact hPushed flushed

theorem Channel.WriteEffect.blocking {c c' : Channel} {bytes : Bytes} {force : Bool}
    {calls : List DriverEvent} {answer : Except TransferFailure Unit}
    (effect : c.WriteEffect bytes force calls answer c') : c'.blocking = c.blocking := by
  cases effect with
  | misused | unreported | kept => rfl
  | written hParked flushed => rw [flushed.rest]
  | failed f hParked flushed => rw [flushed.rest]

/-- A driver that does as it is asked takes all that is written. -/
theorem Channel.Flushed.emptied_of_prompt {c c' : Channel} {calls : List DriverEvent}
    (flushed : c.Flushed calls none c') (hPrompt : ∀ call ∈ calls, call.isPrompt = true) :
    c'.output.toBytes = [] := by
  by_cases hEmpty : c'.output.toBytes = []
  · exact hEmpty
  · obtain ⟨⟨call, answer⟩, hMem, hRefuses⟩ := flushed.refused rfl hEmpty
    have hDone := hPrompt _ hMem
    cases call with
    | output bytes =>
      cases answer with
      | error f => cases hDone
      | ok taken =>
        rw [DriverEvent.isPrompt, bne, show (taken.1 == 0) = true from hRefuses] at hDone
        cases hDone
    | _ => cases hRefuses

/-- Writing either is done, with all bytes added to the output, or it tells a failure and leaves no
output. -/
theorem Channel.WriteEffect.done_or_failed {c c' : Channel} {bytes : Bytes} {force : Bool}
    {calls : List DriverEvent} {answer : Except TransferFailure Unit}
    (hOpen : c.isOpenFor .write = true) (alone : c.ParkedAlone)
    (effect : c.WriteEffect bytes force calls answer c') :
    (answer = .ok () ∧ c.unreported? = none ∧
      (ChannelOp.write bytes force).appended c = bytes ∧
      (force = true → (∀ call ∈ calls, call.isPrompt = true) → c'.output.toBytes = [])) ∨
    ∃ f, answer = .error (.driver f) ∧ c'.unreported? = none ∧ c'.output.toBytes = [] := by
  have hAppended (hParked : c.unreported? = none) :
      (ChannelOp.write bytes force).appended c = bytes := by
    simp [ChannelOp.appended, hOpen, hParked]
  cases effect with
  | misused m hNot => rw [hOpen] at hNot; cases hNot
  | unreported f hParked => exact .inr ⟨f, rfl, rfl, alone.output (by simp [hParked])⟩
  | kept hParked hForce =>
    have hNot (hForced : force = true) : False := Bool.noConfusion (hForce.symm.trans hForced)
    exact .inl ⟨rfl, hParked, hAppended hParked, fun hForced => (hNot hForced).elim⟩
  | written hParked flushed =>
    exact .inl ⟨rfl, hParked, hAppended hParked, fun _ hPrompt => flushed.emptied_of_prompt hPrompt⟩
  | failed f hParked flushed =>
    exact .inr ⟨f, rfl, flushed.unreported.trans hParked, flushed.emptied rfl⟩

namespace Route

variable {σ : Type} {r : Route} {s : Surroundings σ} {start : World σ} {K : Contract σ}
  {w w' : World σ} {past inner : List (Event σ)} {id : ChannelId} {c : Copy}

/-- What a copy has when it has read from its source. -/
inductive Drawn (r : Route) (s : Surroundings σ) (start : World σ) (past : List (Event σ))
    (w : World σ) (c : Copy) : Except TransferFailure Bytes → Prop
  | bytes (bytes : Bytes) (hSome : bytes ≠ []) (works : r.Works s start past w c bytes) :
      Drawn r s start past w c (.ok bytes)
  | nothing (works : r.Works s start past w c [])
      (atEnd : r.Drives s past (·.isPrompt) → r.AtEnd s past w) : Drawn r s start past w c (.ok [])
  | failed (f : TransferFailure) (works : r.Works s start past w c []) (unread : r.Unread s past) :
      Drawn r s start past w c (.error f)

/-- What a copy has when it has written to its target. -/
inductive Put (r : Route) (s : Surroundings σ) (start : World σ) (past : List (Event σ))
    (w : World σ) (c : Copy) (force : Bool) : Except TransferFailure Unit → Prop
  | done (works : r.Works s start past w c [])
      (flushed : force = true → r.Drives s past (·.isPrompt) →
        (w.channel r.target).output.toBytes = []) :
      Put r s start past w c force (.ok ())
  | failed (f : DriverFailure) (ends : r.Ends s start past w c
        (some (Program.writeReport (start.channel r.target).name (.driver f)))) :
      Put r s start past w c force (.error (.driver f))

theorem Drawn.interlude {answer : Except TransferFailure Bytes}
    (drawn : r.Drawn s start past w c answer) (interlude : r.Interlude s id w inner w') :
    r.Drawn s start (past ++ inner) w' c answer := by
  cases drawn with
  | bytes bytes hSome works => exact .bytes bytes hSome (works.interlude interlude)
  | nothing works atEnd =>
    exact .nothing (works.interlude interlude) fun drives =>
      (atEnd drives.left).later interlude.input
  | failed f works unread => exact .failed f (works.interlude interlude) unread.later

theorem Put.interlude {force : Bool} {answer : Except TransferFailure Unit}
    (put : r.Put s start past w c force answer) (interlude : r.Interlude s id w inner w') :
    r.Put s start (past ++ inner) w' c force answer := by
  cases put with
  | done works flushed =>
    refine .done (works.interlude interlude) fun hForce drives => ?_
    have hEmpty := flushed hForce drives.left
    exact (interlude.still (.inr hEmpty)).1.trans hEmpty
  | failed f ends => exact .failed f (ends.interlude interlude)

theorem Drawn.ground {answer : Except TransferFailure Bytes}
    (drawn : r.Drawn s start past w c answer) : r.Ground s start past w c := by
  cases drawn with
  | bytes bytes hSome works => exact works.toGround
  | nothing works atEnd => exact works.toGround
  | failed f works unread => exact works.toGround

theorem Put.ground {force : Bool} {answer : Except TransferFailure Unit}
    (put : r.Put s start past w c force answer) : r.Ground s start past w c := by
  cases put with
  | done works flushed => exact works.toGround
  | failed f ends => exact ends.toGround

/-- Nothing is written to the target while the source is held. -/
theorem written_holding_source (r : Route) (past : List (Event σ)) (w : World σ) (op : ChannelOp) :
    r.written (past ++ [.made (.hold r.source op) w]) = r.written past := by
  rw [written_append, written_singleton]
  exact (congrArg _ (if_neg r.distinct)).trans (List.append_nil _)

/-- Nothing is read from the source while the target is held. -/
theorem read_holding_target (r : Route) (s : Surroundings σ) (past : List (Event σ)) (w : World σ)
    (op : ChannelOp) :
    r.read s (past ++ [.made (.hold r.target op) w]) = r.read s past := by
  rw [read_append, read_singleton]
  exact (congrArg _ (if_neg r.distinct.symm)).trans (List.append_nil _)

/-- Bytes that have been read are at hand. What is read has to fit the room, and the room the
limit. -/
theorem Works.draw {n : Nat} (works : r.Works s start past w c [])
    (hRoom : ∀ limit, r.limit? = some limit → (r.read s past).length + n ≤ limit)
    (hEof : (start.channel r.source).eof = false →
      (((Step.hold r.source (.read n)).run s w).2.channel r.source).eof = true →
      r.AtEnd s (past ++ [.made (.hold r.source (.read n)) w])
        ((Step.hold r.source (.read n)).run s w).2) :
    r.Works s start (past ++ [.made (.hold r.source (.read n)) w])
      ((Step.hold r.source (.read n)).run s w).2 c
      ((ChannelOp.read n).returned ((Step.hold r.source (.read n)).run s w).1.1) := by
  have hTargetCore := (Step.hold r.source (.read n)).core_run s w works.target
    ⟨r.distinct, not_false⟩
  obtain ⟨-, -, hTold, -, hMet⟩ := Quiet.nothing_moved s w (.hold r.source (.read n)) r.target
    r.distinct
  have hReadAll : r.read s (past ++ [.made (.hold r.source (.read n)) w]) = r.read s past ++
      (ChannelOp.read n).returned ((Step.hold r.source (.read n)).run s w).1.1 := by
    rw [read_append, read_singleton]
    exact congrArg _ (if_pos rfl)
  have hWrittenAll := r.written_holding_source past w (.read n)
  have hBlocking : (((Step.hold r.source (.read n)).run s w).2.channel r.target).blocking =
      (w.channel r.target).blocking := by
    rw [Channel.of_core hTargetCore]
  obtain ⟨c', hEffect, hChannel⟩ := Step.hold_shows s w (.read n) works.source
  have hServes : (w.channel r.source).Serves r.hook?
      (((Step.hold r.source (.read n)).run s w).2.channel r.source) := by
    rw [hChannel]
    exact (Channel.ReadEffect.serves hEffect).trans (.of_core rfl)
  have hFits := (Step.draws_hold (s := s) (.read n) works.source rfl
    ((Channel.isOpenFor_congr hServes.isOpen hServes.mode).trans works.sourceOpen)).fits
  have hAhead : r.read s past = r.written past := by rw [works.ahead, List.append_nil]
  refine
    { toGround := works.toGround.step hServes (.of_core hTargetCore) (fun hSeeks => ?_)
        (((Step.hold r.source (.read n)).copies_run s w r.copy).2 works.copy not_false |>.trans
          works.record) works.task ?_ ?_ ?_ fun _ => (met_singleton _).trans hMet
      told := ?_
      ahead := ?_
      clear := ?_
      eof := hEof
      chunk := works.chunk
      mode := fun hBackground => hBlocking.trans (works.mode hBackground) }
  · cases hSeeks.2
  · rw [hReadAll, hWrittenAll, hAhead]
    exact List.prefix_append _ _
  · intro limit hLimit
    rw [hReadAll, List.length_append]
    exact Nat.le_trans (Nat.add_le_add_left hFits _) (hRoom limit hLimit)
  · rw [hWrittenAll]
    exact works.total
  · rw [told_append, told_singleton, works.told]
    exact hTold
  · rw [hReadAll, hWrittenAll, hAhead]
  · rw [hWrittenAll]
    exact works.clear

/-- Reading from the source leaves a copy with bytes at hand, with none, or with a failure. -/
theorem Works.drawn {n : Nat} (hPos : 0 < n) (works : r.Works s start past w c [])
    (hRoom : ∀ limit, r.limit? = some limit → (r.read s past).length + n ≤ limit) :
    r.Drawn s start (past ++ [.made (.hold r.source (.read n)) w])
      ((Step.hold r.source (.read n)).run s w).2 c
      ((Step.hold r.source (.read n)).run s w).1.1 := by
  have hDraw := works.draw hRoom
  have hLast : Event.made (.hold r.source (.read n)) w ∈
      past ++ [.made (.hold r.source (.read n)) w] :=
    List.mem_append_right _ (List.mem_singleton_self _)
  have hCalls : (Event.made (.hold r.source (.read n)) w).calls s r.source =
      (Step.hold r.source (.read n)).calls s r.source w := rfl
  obtain ⟨c', hEffect, hChannel⟩ := Step.hold_shows s w (.read n) works.source
  have hInputAfter : (((Step.hold r.source (.read n)).run s w).2.channel r.source).input =
      c'.input := by rw [hChannel]
  have hEofAfter : (((Step.hold r.source (.read n)).run s w).2.channel r.source).eof =
      c'.eof := by rw [hChannel]
  generalize ((Step.hold r.source (.read n)).run s w).1.1 = answer at hEffect hDraw ⊢
  generalize (Step.hold r.source (.read n)).calls s r.source w = calls at hEffect hCalls
  cases hEffect with
  | misused m hNot =>
    rw [works.sourceOpen] at hNot
    cases hNot
  | buffered hInput =>
    refine .bytes _ ?_ (hDraw fun hStart hEof => ?_)
    · intro hTake
      rcases List.take_eq_nil_iff.1 hTake with hZero | hEmpty
      · omega
      · exact hInput hEmpty
    · exact absurd (works.eof hStart (hEofAfter ▸ hEof)).1 hInput
  | given hInput bytes deferred =>
    by_cases hTake : bytes.1.take n = []
    · have hEmpty : bytes.1 = [] := (List.take_eq_nil_iff.1 hTake).resolve_left (by omega)
      have hAtEnd : r.AtEnd s (past ++ [.made (.hold r.source (.read n)) w])
          ((Step.hold r.source (.read n)).run s w).2 := by
        refine ⟨hInputAfter.trans ?_, _, hLast, ⟨.input _, .ok bytes⟩, ?_, ?_⟩
        · simp [hEmpty]
        · rw [hCalls]
          exact List.mem_singleton_self _
        · simp [DriverEvent.isEnd, hEmpty]
      have hNothing := hDraw fun _ _ => hAtEnd
      rw [ChannelOp.returned, hTake] at hNothing
      rw [hTake]
      exact .nothing hNothing fun _ => hAtEnd
    · refine .bytes _ hTake (hDraw fun _ hEof => ?_)
      have hSome : (bytes.1.take n).isEmpty = false := by simpa using hTake
      rw [hEofAfter, hSome] at hEof
      cases hEof
  | waits hInput f hWait deferred =>
    refine .nothing (hDraw fun hStart hEof => ?_) fun drives => ?_
    · exact (works.eof hStart (hEofAfter ▸ hEof)).later hInputAfter
    · have hMem := hCalls ▸ List.mem_singleton_self _
      cases (drives _ hLast).1 _ hMem
  | fails hInput f hWait deferred =>
    have hMem := hCalls ▸ List.mem_singleton_self _
    refine .failed _ (hDraw fun hStart hEof => ?_) ⟨_, hLast, _, hMem, hWait⟩
    exact (works.eof hStart (hEofAfter ▸ hEof)).later hInputAfter

/-- Writing what is at hand to the target keeps the ground, whatever it comes to. -/
theorem Works.write {bytes : Bytes} (works : r.Works s start past w c bytes) (force : Bool) :
    r.Ground s start (past ++ [.made (.hold r.target (.write bytes force)) w])
      ((Step.hold r.target (.write bytes force)).run s w).2 c := by
  have hSourceCore := (Step.hold r.target (.write bytes force)).core_run s w works.source
    ⟨r.distinct.symm, not_false⟩
  obtain ⟨-, -, -, hSought, -⟩ := Quiet.nothing_moved s w (.hold r.target (.write bytes force))
    r.source r.distinct.symm
  obtain ⟨c', hEffect, hChannel⟩ := Step.hold_shows s w (.write bytes force) works.target
  have hServes : (w.channel r.target).Serves r.hook?
      (((Step.hold r.target (.write bytes force)).run s w).2.channel r.target) := by
    rw [hChannel]
    exact (Channel.WriteEffect.serves hEffect).trans (.of_core rfl)
  have hReadAll := r.read_holding_target s past w (.write bytes force)
  have hRecord := ((Step.hold r.target (.write bytes force)).copies_run s w r.copy).2 works.copy
    not_false
  refine works.toGround.step (.of_core hSourceCore) hServes hSought
    (hRecord.trans works.record) works.task ?_ ?_ ?_ ?_
  · rw [hReadAll, written_append, written_singleton, works.ahead]
    refine List.prefix_append_right_inj _ |>.2 ?_
    show (if r.target = r.target then _ else _) <+: bytes
    rw [if_pos rfl, ChannelOp.appended]
    split
    · exact List.prefix_refl bytes
    · exact List.nil_prefix
  · rw [hReadAll]
    exact works.limit
  · rw [written_append, List.length_append]
    exact Nat.le_trans works.total (Nat.le_add_right _ _)
  · intro drives
    have hCalls := (drives _ (List.mem_singleton_self _)).2
    rw [met_singleton]
    show failures (w.channel r.target).blocking _ = []
    cases hBackground : r.onDone?.isSome with
    | true =>
      rw [kind, if_pos hBackground] at hCalls
      rw [works.mode hBackground]
      exact DriverEvent.failures_of_mild hCalls
    | false =>
      rw [kind, hBackground, if_neg Bool.false_ne_true] at hCalls
      exact DriverEvent.failures_of_prompt _ hCalls

/-- Writing what is at hand to the target is done or ends a copy. -/
theorem Works.put {bytes : Bytes} {force : Bool} (origin : r.Origin start)
    (works : r.Works s start past w c bytes) :
    r.Put s start (past ++ [.made (.hold r.target (.write bytes force)) w])
      ((Step.hold r.target (.write bytes force)).run s w).2 c force
      ((Step.hold r.target (.write bytes force)).run s w).1.1 ∧
    (((Step.hold r.target (.write bytes force)).run s w).1.1 = .ok () →
      r.written (past ++ [.made (.hold r.target (.write bytes force)) w]) =
        r.written past ++ bytes) := by
  have hGround := works.write force
  have hSourceCore := (Step.hold r.target (.write bytes force)).core_run s w works.source
    ⟨r.distinct.symm, not_false⟩
  have hReadAll := r.read_holding_target s past w (.write bytes force)
  have hTold : r.told s (past ++ [.made (.hold r.target (.write bytes force)) w]) =
      (ChannelOp.write bytes force).told (w.channel r.target)
        ((Step.hold r.target (.write bytes force)).calls s r.target w)
        ((Step.hold r.target (.write bytes force)).run s w).1.1 := by
    rw [told_append, told_singleton, works.told]
    exact if_pos rfl
  have hWritten : r.written (past ++ [.made (.hold r.target (.write bytes force)) w]) =
      r.written past ++ (ChannelOp.write bytes force).appended (w.channel r.target) := by
    rw [written_append, written_singleton]
    exact congrArg _ (if_pos rfl)
  obtain ⟨-, hReports⟩ := works.history.output origin.target origin.alone works.targetOpen
  obtain ⟨hAlone, -⟩ := works.history.each_delivers origin.target origin.alone works.targetOpen
  obtain ⟨c', hEffect, hChannel⟩ := Step.hold_shows s w (.write bytes force) works.target
  have hOutputAfter : (((Step.hold r.target (.write bytes force)).run s w).2.channel
      r.target).output = c'.output := by rw [hChannel]
  have hParkedAfter : (((Step.hold r.target (.write bytes force)).run s w).2.channel
      r.target).unreported? = c'.unreported? := by rw [hChannel]
  rcases Channel.WriteEffect.done_or_failed works.targetOpen hAlone hEffect with
    ⟨hAnswer, hParked, hAppended, hFlushed⟩ | ⟨f, hAnswer, hParked, hEmpty⟩
  · rw [hAnswer] at hTold ⊢
    rw [hAppended] at hWritten
    refine ⟨.done ?_ fun hForce drives => ?_, fun _ => hWritten⟩
    · refine
        { toGround := hGround
          told := hTold
          ahead := ?_
          clear := fun _ => ?_
          eof := fun hStart hEof => ?_
          chunk := works.chunk
          mode := fun hBackground => ?_ }
      · rw [hReadAll, hWritten, works.ahead, List.append_nil]
      · have hToldBefore : past.flatMap (·.told s r.target) = [] := works.told
        rw [hToldBefore, hParked] at hReports
        exact Option.toList_eq_nil_iff.1 (List.append_eq_nil_iff.1 hReports).1
      · rw [Channel.of_core hSourceCore] at hEof
        exact (works.eof hStart hEof).later (by rw [Channel.of_core hSourceCore])
      · rw [hChannel]
        exact (Channel.WriteEffect.blocking hEffect).trans (works.mode hBackground)
    · rw [hOutputAfter]
      exact hFlushed hForce (drives.right _ (List.mem_singleton_self _)).2
  · rw [hAnswer] at hTold ⊢
    refine ⟨.failed f ?_, fun hOk => by cases hOk⟩
    exact
      { toGround := hGround
        empty := hOutputAfter ▸ hEmpty
        outcome := .unwritten f hTold (hParkedAfter.trans hParked) }

/-- A copy reads from its source. -/
theorem wp_read (shields : r.Shields s start K) {n : Nat} (hPos : 0 < n)
    (works : r.Works s start past w c []) (busy : c.phase ≠ .resting)
    (hRoom : ∀ limit, r.limit? = some limit → (r.read s past).length + n ≤ limit)
    {Q : List (Event σ) → Except TransferFailure Bytes → World σ → Prop}
    (hQ : ∀ past' answer w', r.Drawn s start past' w' c answer → r.written past' = r.written past →
      (w'.channel r.target).output.toBytes = (w.channel r.target).output.toBytes →
      Q past' answer w') :
    (Program.readBytes r.source n).wp s K Q past w := by
  rw [Program.readBytes, if_neg (Nat.ne_of_gt hPos)]
  have hTargetCore := (Step.hold r.source (.read n)).core_run s w works.target
    ⟨r.distinct, not_false⟩
  refine wp_hold shields
    (I := fun past' w' =>
      r.Drawn s start past' w' c ((Step.hold r.source (.read n)).run s w).1.1 ∧
        r.written past' = r.written past ∧
        (w'.channel r.target).output.toBytes = (w.channel r.target).output.toBytes)
    (.of_busy shields (fun hI => ⟨c, hI.1.ground, busy⟩)
      fun hI interlude => ⟨hI.1.interlude interlude, ?_, ?_⟩)
    (.inl rfl) (.read n) ⟨works.drawn hPos hRoom, written_holding_source _ _ _ _, ?_⟩
    fun past' w' hI => hQ past' _ w' hI.1 hI.2.1 hI.2.2
  · rw [written_append, interlude.written, List.append_nil]
    exact hI.2.1
  · exact (interlude.still (.inl r.distinct)).1.trans hI.2.2
  · rw [Channel.of_core hTargetCore]

/-- A copy writes to its target what it has at hand. A source that was at its end stays there. -/
theorem wp_write (shields : r.Shields s start K) (origin : r.Origin start) {bytes : Bytes}
    {force : Bool} (works : r.Works s start past w c bytes) (busy : c.phase ≠ .resting)
    {Q : List (Event σ) → Except TransferFailure Unit → World σ → Prop}
    (hQ : ∀ past' answer w', r.Put s start past' w' c force answer →
      (answer = .ok () → r.written past' = r.written past ++ bytes) →
      (r.Exhausted s past w → r.Exhausted s past' w') → Q past' answer w') :
    (Program.writeBytes r.target bytes force).wp s K Q past w := by
  have hSourceCore := (Step.hold r.target (.write bytes force)).core_run s w works.source
    ⟨r.distinct.symm, not_false⟩
  refine wp_hold shields
    (I := fun past' w' =>
      r.Put s start past' w' c force ((Step.hold r.target (.write bytes force)).run s w).1.1 ∧
        (((Step.hold r.target (.write bytes force)).run s w).1.1 = .ok () →
          r.written past' = r.written past ++ bytes) ∧
        (r.Exhausted s past w → r.Exhausted s past' w'))
    (.of_busy shields (fun hI => ⟨c, hI.1.ground, busy⟩)
      fun hI interlude => ⟨hI.1.interlude interlude, ?_, fun exhausted => ?_⟩)
    (.inr rfl) (.write bytes force) ⟨(works.put origin).1, (works.put origin).2, fun exhausted =>
      exhausted.later ?_⟩
    fun past' w' hI => hQ past' _ w' hI.1 hI.2.1 hI.2.2
  · intro hOk
    rw [written_append, interlude.written, List.append_nil]
    exact hI.2.1 hOk
  · exact (hI.2.2 exhausted).later interlude.input
  · rw [Channel.of_core hSourceCore]

end Route

end EventChannel
