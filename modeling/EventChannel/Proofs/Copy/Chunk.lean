import EventChannel.Proofs.Copy.Preparation

/-! A step writes the output left over, then moves a chunk. It ends with the copy waiting for one of
its channels, or with the copy at its end. -/

namespace EventChannel.Route

variable {σ α : Type} {r : Route} {s : Surroundings σ} {start : World σ} {K : Contract σ}
  {w w' : World σ} {past inner : List (Event σ)} {id : ChannelId} {c c' : Copy}
  {error? : Option Report}

/-- What a step of a copy in the background has come to. -/
inductive Stepped (r : Route) (s : Surroundings σ) (start : World σ) (past : List (Event σ))
    (w : World σ) : Program.CopyStep → Prop
  | waitReadable (c : Copy) (busy : c.phase ≠ .resting) (level : r.Level s start past w c) :
      Stepped r s start past w .waitReadable
  | waitWritable (c : Copy) (busy : c.phase ≠ .resting) (level : r.Level s start past w c) :
      Stepped r s start past w .waitWritable
  | ended (c : Copy) (busy : c.phase ≠ .resting) (error? : Option Report)
      (ends : r.Ends s start past w c error?) : Stepped r s start past w (.ended error?)

/-- A level copy outlasts what happens around its channels. -/
theorem Level.lasting (_ : r.Level s start past w c) (shields : r.Shields s start K)
    (busy : c.phase ≠ .resting) :
    r.Lasting s start K id fun past w => r.Level s start past w c :=
  .of_busy shields (fun level => ⟨c, level.toGround, busy⟩) Level.interlude

/-- A copy that has ended endures that its modes are put back. -/
theorem Ends.enduring (_ : r.Ends s start past w c error?) (busy : c.phase ≠ .resting) :
    r.Enduring s start fun past w => r.Ends s start past w c error? where
  ground ends := ⟨c, ends.toGround, busy⟩
  interlude := Ends.interlude
  quiet ends hQuiet hRecord := ends.quiet hQuiet (hRecord.trans ends.record) ends.task rfl

theorem Level.look (level : r.Level s start past w c) (j : ChannelId) :
    r.Level s start (past ++ [.made (.look j) w]) w c :=
  level.interlude (.of_look r.source level.toThere j)

theorem Ends.look (ends : r.Ends s start past w c error?)
    (j : ChannelId) : r.Ends s start (past ++ [.made (.look j) w]) w c error? :=
  ends.interlude (.of_look r.source ends.toThere j)

/-- The record of a copy after a step that changes it. -/
theorem copy_recorded {t : Step σ α} {f : Copy → Copy} (ground : r.Ground s start past w c)
    (hRun : (t.run s w).2.copies = (w.modifyCopy r.copy f).copies) :
    (t.run s w).2.copy r.copy = f c := by
  rw [World.copy_congr hRun, World.copy_modifyCopy_self f ground.copy, ground.record]

/-- A change to the record of a copy, to its handlers or its phase, leaves it level. -/
theorem Level.recorded {t : Step σ α} (f : Copy → Copy) (level : r.Level s start past w c)
    (hPlain : ∀ id, ¬t.Moves id ∧ ¬t.Clears id)
    (hRun : (t.run s w).2.copies = (w.modifyCopy r.copy f).copies)
    (hRest : f c = { c with
      sourceHandler? := (f c).sourceHandler?, targetHandler? := (f c).targetHandler?
      phase := (f c).phase }) :
    r.Level s start (past ++ [.made t w]) (t.run s w).2 (f c) := by
  have hBlocking : ((t.run s w).2.channel r.target).blocking = (w.channel r.target).blocking := by
    rw [Channel.of_core (t.core_run s w level.target (hPlain _))]
  refine level.quiet (.of_rest level.source level.target (hPlain _) (hPlain _)) hBlocking
    (copy_recorded level.toGround hRun) ?_ ?_ ?_
  · rw [hRest]
    exact ⟨level.task.source, level.task.target, level.task.limit, level.task.onDone⟩
  · rw [hRest]
  · rw [hRest]
    exact level.chunk

theorem Ends.recorded {t : Step σ α} (f : Copy → Copy) (ends : r.Ends s start past w c error?)
    (hPlain : ∀ id, ¬t.Moves id ∧ ¬t.Clears id)
    (hRun : (t.run s w).2.copies = (w.modifyCopy r.copy f).copies)
    (hRest : f c = { c with
      sourceHandler? := (f c).sourceHandler?, targetHandler? := (f c).targetHandler?
      phase := (f c).phase }) :
    r.Ends s start (past ++ [.made t w]) (t.run s w).2 (f c) error? := by
  refine ends.quiet (.of_rest ends.source ends.target (hPlain _) (hPlain _))
    (copy_recorded ends.toGround hRun) ?_ ?_
  · rw [hRest]
    exact ⟨ends.task.source, ends.task.target, ends.task.limit, ends.task.onDone⟩
  · rw [hRest]

theorem Level.read_eq (level : r.Level s start past w c) : r.read s past = r.written past := by
  rw [level.ahead, List.append_nil]

/-- What a copy wants next fits the limit. -/
theorem Level.room (level : r.Level s start past w c) (limit : Nat)
    (hLimit : r.limit? = some limit) : (r.read s past).length + c.want ≤ limit := by
  have hWant := Copy.want_le_limit (level.task.limit.trans hLimit)
  have hRead := level.limit limit hLimit
  rw [level.read_eq, level.count] at hRead ⊢
  omega

/-- A copy that wants no more bytes has come to its limit. -/
theorem Level.limit_of_want (level : r.Level s start past w c) (hWant : c.want = 0) :
    r.limit? = some c.total := by
  have hChunk := level.chunk
  rw [Copy.want, level.task.limit] at hWant
  cases hLimit : r.limit? with
  | none =>
    rw [hLimit] at hWant
    exact absurd hWant (Nat.ne_of_gt hChunk)
  | some limit =>
    have hRead := level.limit limit hLimit
    rw [level.read_eq, level.count] at hRead
    simp only [hLimit] at hWant
    rw [show limit = c.total by omega]

/-- A level copy stays level when the size of its chunks is fixed. In the background it is at rest
from then on. -/
theorem Level.fixed (level : r.Level s start past w c) :
    ∃ c', c'.phase = (if r.onDone?.isSome then .resting else c.phase) ∧
      r.Level s start (past ++ [.made (.fixChunk r.copy) w]) ((Step.fixChunk r.copy).run s w).2
        c' := by
  have hRecord : ((Step.fixChunk r.copy).run s w).2.copy r.copy = { c with
      chunk := max (w.channel c.source).bufferSize 1
      phase := if c.onDone?.isSome then .resting else c.phase } := by
    rw [← level.record]
    exact World.copy_modifyCopy_self _ level.copy
  refine ⟨_, ?_, level.quiet (t := .fixChunk r.copy) (.of_rest level.source level.target
    ⟨not_false, not_false⟩ ⟨not_false, not_false⟩) rfl hRecord
    ⟨level.task.source, level.task.target, level.task.limit, level.task.onDone⟩ rfl
    (Nat.lt_of_lt_of_le Nat.one_pos (Nat.le_max_right _ _))⟩
  simp only [level.task.onDone]

/-- A level copy that stops where it has to, with nothing left of its output, has copied all. -/
theorem Level.ends (level : r.Level s start past w c)
    (hEmpty : (w.channel r.target).output.toBytes = [])
    (stop : r.limit? = some c.total ∨
      ((start.channel r.source).eof = false → r.AtEnd s past w)) :
    r.Ends s start past w c none where
  toGround := level.toGround
  empty := hEmpty
  outcome := .copied level.told level.read_eq level.count level.clear stop

/-- A copy at work that has counted what it has just written is level. -/
theorem Works.counted {n : Nat} (works : r.Works s start past w c [])
    (hCount : (r.written past).length = c.total + n) :
    r.Level s start (past ++ [.made (.countCopied r.copy n) w])
      ((Step.countCopied r.copy n).run s w).2 { c with total := c.total + n } := by
  have hQuiet : r.Quiet s (.countCopied r.copy n) w :=
    .of_rest works.source works.target ⟨not_false, not_false⟩ ⟨not_false, not_false⟩
  have hRecord : ((Step.countCopied r.copy n).run s w).2.copy r.copy =
      { c with total := c.total + n } := by
    rw [← works.record]
    exact World.copy_modifyCopy_self _ works.copy
  refine ⟨works.quiet hQuiet rfl hRecord ⟨works.task.source, works.task.target, works.task.limit,
    works.task.onDone⟩ (Nat.le_of_eq hCount.symm) works.chunk, ?_⟩
  rw [written_append, hQuiet.written_single, List.append_nil]
  exact hCount

/-- A copy with nothing left of its output moves a chunk. -/
theorem wp_moveChunk (shields : r.Shields s start K) (origin : r.Origin start)
    (level : r.Level s start past w c) (busy : c.phase ≠ .resting)
    (hEmpty : (w.channel r.target).output.toBytes = [])
    {Q : List (Event σ) → Program.CopyStep → World σ → Prop}
    (hQ : ∀ past' step w', r.Stepped s start past' w' step → Q past' step w') :
    (Program.moveChunk r.copy c).wp s K Q past w := by
  unfold Program.moveChunk
  simp only [level.task.source, level.task.target]
  split
  · next hWant =>
    exact hQ _ _ _ (.ended c busy none (level.ends hEmpty (.inl (level.limit_of_want hWant))))
  · next hWant =>
    refine Program.wp_bind.2 (wp_read shields (Nat.pos_of_ne_zero hWant) level.toWorks busy
      level.room ?_)
    intro past₁ answer w₁ drawn hWritten hOutput
    have hCount : (r.written past₁).length = c.total := hWritten ▸ level.count
    have hEmpty₁ := hOutput.trans hEmpty
    cases drawn with
    | failed f works unread =>
      have ends report : r.Ends s start past₁ w₁ c (some report) :=
        ⟨works.toGround, hEmpty₁, .unread report works.told unread⟩
      exact Program.wp_look.2 (hQ _ _ _ (.ended c busy _ ((ends _).look r.source)))
    | nothing works atEnd =>
      have level₁ : r.Level s start past₁ w₁ c := ⟨works, hCount⟩
      apply Program.wp_look.2
      show Q _ (if (w₁.channel r.source).eof = true then _ else _) w₁
      split
      · next hEof =>
        have ends := level₁.ends hEmpty₁ (.inr fun hStart => works.eof hStart hEof)
        exact hQ _ _ _ (.ended c busy none (ends.look r.source))
      · exact hQ _ _ _ (.waitReadable c busy (level₁.look r.source))
    | bytes bytes hSome works =>
      obtain ⟨first, rest, rfl⟩ := List.exists_cons_of_ne_nil hSome
      refine Program.wp_bind.2 (wp_write shields origin works busy ?_)
      intro past₂ answer w₂ put hWritten₂ _
      cases put with
      | failed f ends =>
        refine Program.wp_look.2 (hQ _ _ _ ?_)
        rw [ends.name]
        exact .ended c busy _ (ends.look r.target)
      | done works₂ flushed =>
        have hCount₂ : (r.written past₂).length = c.total + (first :: rest).length := by
          rw [hWritten₂ rfl, List.length_append, hCount]
        have level₂ := works₂.counted hCount₂
        have busy₂ :
            ({ c with total := c.total + (first :: rest).length } : Copy).phase ≠ .resting := busy
        apply Program.wp_act.2
        generalize ((Step.countCopied r.copy (first :: rest).length).run s w₂).2 = w₃ at level₂ ⊢
        have looked := level₂.look r.target
        apply Program.wp_look.2
        split
        · exact hQ _ _ _ (.waitWritable _ busy₂ looked)
        · next hDone =>
          have hEmpty₃ : (w₃.channel r.target).output.toBytes = [] := by simpa using hDone
          have copied := looked.interlude (.of_copy r.source looked.toThere r.copy)
          apply Program.wp_copy.2
          rw [looked.record]
          split
          · next hWant₃ =>
            have ends := copied.ends hEmpty₃ (.inl (copied.limit_of_want hWant₃))
            exact hQ _ _ _ (.ended _ busy₂ none ends)
          · exact hQ _ _ _ (.waitReadable _ busy₂ copied)

/-- A copy writes the output left over, then moves a chunk. -/
theorem wp_copyStep (shields : r.Shields s start K) (origin : r.Origin start)
    (level : r.Level s start past w c) (busy : c.phase ≠ .resting)
    {Q : List (Event σ) → Program.CopyStep → World σ → Prop}
    (hQ : ∀ past' step w', r.Stepped s start past' w' step → Q past' step w') :
    (Program.copyStep r.copy).wp s K Q past w := by
  have copied := level.interlude (.of_copy r.source level.toThere r.copy)
  have looked := copied.look r.target
  apply Program.wp_copy.2
  rw [level.record, level.task.target]
  apply Program.wp_look.2
  split
  · next hDone =>
    have hEmpty : (w.channel r.target).output.toBytes = [] := by simpa using hDone
    exact wp_moveChunk shields origin looked busy hEmpty hQ
  · refine Program.wp_bind.2 (wp_write shields origin looked.toWorks busy ?_)
    intro past₁ answer w₁ put hWritten _
    cases put with
    | failed f ends =>
      refine Program.wp_look.2 (hQ _ _ _ ?_)
      rw [ends.name]
      exact .ended c busy _ (ends.look r.target)
    | done works flushed =>
      have level₁ : r.Level s start past₁ w₁ c :=
        ⟨works, by rw [hWritten rfl, List.append_nil]; exact looked.count⟩
      apply Program.wp_look.2
      split
      · next hDone =>
        have hEmpty : (w₁.channel r.target).output.toBytes = [] := by simpa using hDone
        exact wp_moveChunk shields origin (level₁.look r.target) busy hEmpty hQ
      · exact hQ _ _ _ (.waitWritable c busy (level₁.look r.target))

end EventChannel.Route
