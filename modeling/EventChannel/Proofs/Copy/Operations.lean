import EventChannel.Proofs.Copy.Engaged

/-! Each operation of a copy leaves the other copies alone, and so do all programs that copy only by
the two operations for that, with all that they call. -/

namespace EventChannel

open Program

variable {σ α β : Type}

section Walk

variable {s : Setting σ} {k : CopyId} {start w w₁ : World σ} {c : Copy}
  {left : ChannelId → Interest → HandlerId → Prop} {past events : List (Event σ)} {j : ChannelId}

/-- What moves the bytes of a copy that is under way leaves all copies alone. -/
theorem governs_movingParts :
    (attendance s.toSurroundings).Governs s (fun w => (w.copy k).Busy) (movingParts k) where
  stable {w events w'} busy respects := by
    have hExists := World.exists_of_unfinished busy.2
    have hSame := (respects.lasts k hExists nofun).busy busy.1
    show (w'.copy k).Busy
    rw [hSame]
    exact busy
  step t w allowed attended busy := by
    rcases allowed with basic | tallies
    · exact .basic attended basic
    · cases t with
      | countCopied k' n =>
        obtain rfl : k' = k := tallies
        exact .counted attended busy n
      | _ => cases tallies
  call c past w allowed _ busy := by
    rcases allowed with common | rfl
    · exact common.due past w
    · exact busy
  whole _ allowed := absurd allowed not_false

variable {Q : List (Event σ) → β → World σ → Prop}

/-- What others do comes before what the copy does next. -/
theorem wp_others {p : Program σ α} {f : α → Program σ β}
    (engages : s.Engages k start c left events w) (made : p.MadeOf (movingParts k))
    (hPast : ∀ e ∈ past, e.Fits)
    (next : ∀ inner a w', s.Engages k start c left (events ++ inner) w' →
      (f a).wp s.toSurroundings (attendance s.toSurroundings).contract Q
        (past ++ (events ++ inner)) w') :
    (p >>= f).wp s.toSurroundings (attendance s.toSurroundings).contract Q (past ++ events) w := by
  refine Discipline.wp_bind_of (governs_movingParts.keeps made) engages.respects.ends
    engages.copyBusy (List.forall_mem_append.2 ⟨hPast, engages.respects.fits⟩) ?_
  rintro past' a w' ⟨inner, rfl, respects⟩
  rw [List.append_assoc]
  exact next _ a w' (engages.others respects)

theorem wp_own {t : Step σ α} {f : α → Program σ β}
    (next : (f (t.run s.toSurroundings w).1).wp s.toSurroundings
      (attendance s.toSurroundings).contract Q (past ++ (events ++ [.made t w]))
        (t.run s.toSurroundings w).2) :
    (act t >>= f).wp s.toSurroundings (attendance s.toSurroundings).contract Q (past ++ events)
      w := by
  apply wp_act.2
  rwa [List.append_assoc]

/-- The copy looks at its record. -/
theorem wp_record {f : Copy → Program σ β} (engages : s.Engages k start c left events w)
    (next : ∀ n events' w', s.Engages k start c left events' w' →
      (f { c with total := n }).wp s.toSurroundings (attendance s.toSurroundings).contract Q
        (past ++ events') w') :
    (act (.copy k) >>= f).wp s.toSurroundings (attendance s.toSurroundings).contract Q
      (past ++ events) w := by
  apply wp_own
  have looked := engages.others (.basic (t := .copy k) engages.respects.ends (.inl trivial))
  have hNext := next (w.copy k).total _ _ looked
  rw [← engages.record] at hNext
  exact hNext

/-- An operation on a channel is followed by what it lets out. -/
theorem wp_held {op : ChannelOp} {f : op.Answer → Program σ β}
    (engages : s.Engages k start c left (events ++ [.made (.hold j op) w])
      ((Step.hold j op).run s.toSurroundings w).2)
    (hPast : ∀ e ∈ past, e.Fits)
    (next : ∀ inner w', s.Engages k start c left (events ++ .made (.hold j op) w :: inner) w' →
      (∀ e ∈ inner, ¬e.Renotes k) →
      (f ((Step.hold j op).run s.toSurroundings w).1.1).wp s.toSurroundings
        (attendance s.toSurroundings).contract Q (past ++ (events ++ .made (.hold j op) w :: inner))
        w') :
    (hold j op >>= f).wp s.toSurroundings (attendance s.toSurroundings).contract Q
      (past ++ events) w := by
  have basic : (movingParts k : Parts σ).Basic := ⟨fun _ basic => .inl (.inl basic), fun _ => .inl⟩
  have notifies (raised : Interest) := (governs_movingParts (s := s) (k := k)).keeps
    (basic.simple.notifying.notify j raised)
  refine Discipline.wp_hold_bind notifies engages.respects.ends engages.copyBusy ?_ ?_
  · rw [List.append_assoc]
    exact List.forall_mem_append.2 ⟨hPast, engages.respects.fits⟩
  · rintro past' w' ⟨inner, rfl, respects⟩
    have engages' := engages.others respects
    rw [List.append_assoc, List.singleton_append] at engages'
    rw [List.append_assoc, List.append_assoc, List.singleton_append]
    refine next inner w' engages' ?_
    exact respects.firm k (World.exists_of_unfinished engages.unfinished) nofun engages.copyBusy.1

theorem wp_deleteHandler? {id? : Option HandlerId} {f : Unit → Program σ β}
    (engages : s.Engages k start c left events w) (hPast : ∀ e ∈ past, e.Fits)
    (next : ∀ events' w',
      s.Engages k start c (fun i m h => left i m h ∧ ¬(j = i ∧ id? = some h)) events' w' →
      (f ()).wp s.toSurroundings (attendance s.toSurroundings).contract Q (past ++ events') w') :
    (deleteHandler? j id? >>= f).wp s.toSurroundings (attendance s.toSurroundings).contract Q
      (past ++ events) w := by
  cases id? with
  | none => exact next _ _ (engages.mono fun i m h hLeft => ⟨hLeft, by simp⟩)
  | some handler =>
    refine wp_held (engages.deleted j handler) hPast fun inner w' engages' _ => ?_
    refine next _ _ (engages'.mono fun i m h ⟨hLeft, hOther⟩ => ⟨hLeft, ?_⟩)
    rintro ⟨hIs, hHandler⟩
    exact hOther ⟨hIs, (Option.some.inj hHandler).symm⟩

/-- A copy makes a handler and notes it. -/
theorem wp_createHandler {mask : Interest} {f : HandlerId → Program σ β}
    (engages : s.Engages k start c left events w) (hEnd : j = c.source ∨ j = c.target)
    (hPast : ∀ e ∈ past, e.Fits)
    (next : ∀ handler events' w',
      s.Engages k start c (fun i m h => left i m h ∨ i = j ∧ m = mask ∧ h = handler) events' w' →
      Hooks k j mask handler events' →
      (f handler).wp s.toSurroundings (attendance s.toSurroundings).contract Q (past ++ events')
        w') :
    (createHandler j mask (.copy k) >>= f).wp s.toSurroundings
      (attendance s.toSurroundings).contract Q (past ++ events) w := by
  refine wp_held (engages.created j mask) hPast fun inner w' engages' hRenotes => ?_
  refine next _ _ _ engages' ⟨events, .made (.hold j (.createHandler mask (.copy k))) w, inner, rfl,
    ⟨w, rfl, engages.exists_end hEnd, engages.unfinished, rfl⟩, ?_⟩
  exact fun e hMem givesUp => hRenotes e hMem givesUp.renotes

/-- A copy that waits for its source has noted a handler there and none on its target. -/
theorem wp_waitForSource {f : Unit → Program σ β} (engages : s.Engages k start c c.Awaits events w)
    (hPast : ∀ e ∈ past, e.Fits)
    (next : ∀ handler events' w',
      s.Engages k start { c with sourceHandler? := some handler, targetHandler? := none }
        ({ c with sourceHandler? := some handler, targetHandler? := none } : Copy).Awaits events'
        w' →
      (f ()).wp s.toSurroundings (attendance s.toSurroundings).contract Q (past ++ events') w') :
    (waitForSource k >>= f).wp s.toSurroundings (attendance s.toSurroundings).contract Q
      (past ++ events) w := by
  apply wp_bind.2
  refine wp_record engages fun n events₁ w₁ looked => wp_own ?_
  have forgotten := looked.renoted c.sourceHandler? none <| by
    rintro i m h (hSource | ⟨-, -, hNoted⟩)
    · exact .inl (.inl hSource)
    · cases hNoted
  refine wp_deleteHandler? forgotten hPast fun events₂ w₂ deleted => ?_
  have left₂ : s.Engages k start { c with targetHandler? := none }
      (fun i m h => i = c.source ∧ m = .reading ∧ c.sourceHandler? = some h) events₂ w₂ := by
    refine deleted.mono ?_
    rintro i m h ⟨hSource | ⟨hEnd, -, hNoted⟩, hOther⟩
    · exact hSource
    · exact absurd ⟨hEnd.symm, hNoted⟩ hOther
  dsimp only
  split
  · next hNone =>
    refine wp_createHandler left₂ (.inl rfl) hPast fun handler events₃ w₃ created hooks => ?_
    apply wp_own
    have noted := created.renoted (some handler) none <| by
      rintro i m h (⟨rfl, rfl, hNoted⟩ | ⟨-, -, hNoted⟩)
      · cases hNoted
        exact .inr hooks
      · cases hNoted
    refine next handler _ _ (noted.mono ?_)
    rintro i m h (⟨-, -, hNoted⟩ | ⟨rfl, rfl, rfl⟩)
    · rw [Option.isNone_iff_eq_none.1 hNone] at hNoted
      cases hNoted
    · exact .inl ⟨rfl, rfl, rfl⟩
  · next hSome =>
    obtain ⟨handler, hNoted⟩ := Option.ne_none_iff_exists'.1 (mt Option.isNone_iff_eq_none.2 hSome)
    refine next handler _ _ ?_
    rw [← hNoted]
    exact left₂.mono fun i m h hSource => .inl hSource

/-- A copy that waits for its target has noted a handler there and none on its source. -/
theorem wp_waitForTarget {f : Unit → Program σ β} (engages : s.Engages k start c c.Awaits events w)
    (hPast : ∀ e ∈ past, e.Fits)
    (next : ∀ handler events' w',
      s.Engages k start { c with sourceHandler? := none, targetHandler? := some handler }
        ({ c with sourceHandler? := none, targetHandler? := some handler } : Copy).Awaits events'
        w' →
      (f ()).wp s.toSurroundings (attendance s.toSurroundings).contract Q (past ++ events') w') :
    (waitForTarget k >>= f).wp s.toSurroundings (attendance s.toSurroundings).contract Q
      (past ++ events) w := by
  apply wp_bind.2
  refine wp_record engages fun n events₁ w₁ looked => wp_own ?_
  have forgotten := looked.renoted none c.targetHandler? <| by
    rintro i m h (⟨-, -, hNoted⟩ | hTarget)
    · cases hNoted
    · exact .inl (.inr hTarget)
  refine wp_deleteHandler? forgotten hPast fun events₂ w₂ deleted => ?_
  have left₂ : s.Engages k start { c with sourceHandler? := none }
      (fun i m h => i = c.target ∧ m = .writing ∧ c.targetHandler? = some h) events₂ w₂ := by
    refine deleted.mono ?_
    rintro i m h ⟨⟨hEnd, -, hNoted⟩ | hTarget, hOther⟩
    · exact absurd ⟨hEnd.symm, hNoted⟩ hOther
    · exact hTarget
  dsimp only
  split
  · next hNone =>
    refine wp_createHandler left₂ (.inr rfl) hPast fun handler events₃ w₃ created hooks => ?_
    apply wp_own
    have noted := created.renoted none (some handler) <| by
      rintro i m h (⟨-, -, hNoted⟩ | ⟨rfl, rfl, hNoted⟩)
      · cases hNoted
      · cases hNoted
        exact .inr hooks
    refine next handler _ _ (noted.mono ?_)
    rintro i m h (⟨-, -, hNoted⟩ | ⟨rfl, rfl, rfl⟩)
    · rw [Option.isNone_iff_eq_none.1 hNone] at hNoted
      cases hNoted
    · exact .inr ⟨rfl, rfl, rfl⟩
  · next hSome =>
    obtain ⟨handler, hNoted⟩ := Option.ne_none_iff_exists'.1 (mt Option.isNone_iff_eq_none.2 hSome)
    refine next handler _ _ ?_
    rw [← hNoted]
    exact left₂.mono fun i m h hTarget => .inr hTarget

/-- At the end of a copy in the background its handlers are deleted and its channels given free;
then its routine is called. -/
theorem wp_endCopy {error? : Option Report} (engages : s.Engages k start c c.Awaits events w)
    (continues : c.Continues k start) (hPast : ∀ e ∈ past, e.Fits) :
    (endCopy k error?).wp s.toSurroundings (attendance s.toSurroundings).contract
      (fun past' _ w' => (attendance s.toSurroundings).Since past start past' w')
      (past ++ events) w := by
  apply wp_own
  have ending := engages.recorded (t := .endCopying k) (f := ({ · with phase := .ending })) rfl
    engages.copyBusy (fun _ => False.elim) (fun _ => rfl) ⟨nofun, rfl⟩
    (engages.stems.beside (List.forall_mem_singleton.2 not_false))
  refine wp_record ending fun n events₁ w₁ looked => wp_own ?_
  have forgotten := looked.renoted none none
    fun i m h hNoted => absurd hNoted (Copy.not_awaits rfl rfl)
  refine wp_deleteHandler? forgotten hPast fun events₂ w₂ deleted => ?_
  refine wp_deleteHandler? deleted hPast fun events₃ w₃ deleted => ?_
  have transfers := (movingParts_moving (σ := σ) k).toTransfers
  refine wp_others deleted (transfers.switchModes _ _ _) hPast fun inner _ w₄ switched => ?_
  apply wp_own
  have hNone (i : ChannelId) (m : Interest) (h : HandlerId)
      (hLeft : (c.Awaits i m h ∧ ¬(c.source = i ∧ c.sourceHandler? = some h)) ∧
        ¬(c.target = i ∧ c.targetHandler? = some h)) : False := by
    obtain ⟨⟨⟨hEnd, -, hNoted⟩ | ⟨hEnd, -, hNoted⟩, hSource⟩, hTarget⟩ := hLeft
    · exact hSource ⟨hEnd.symm, hNoted⟩
    · exact hTarget ⟨hEnd.symm, hNoted⟩
  obtain ⟨respects, releases⟩ := switched.finished hNone continues
  dsimp only
  cases hOnDone : c.onDone? with
  | none => exact ⟨_, rfl, respects⟩
  | some r =>
    refine ⟨⟨respects.ends, List.forall_mem_append.2 ⟨hPast, respects.fits⟩, ?_⟩, ?_⟩
    · exact ⟨k, _, w₄, (List.append_assoc ..).symm, releases r hOnDone⟩
    · rintro past' _ w' ⟨inner', rfl, called⟩
      exact ⟨_, List.append_assoc .., respects.trans called⟩

/-- A copy in the background makes its next step. -/
theorem wp_advance (hResting : (w.copy k).phase = .resting)
    (entered : s.Engages k start c c.Awaits (events ++ [.made (.enterCopy k) w])
      ((Step.enterCopy k).run s.toSurroundings w).2)
    (continues : c.Continues k start) (background : c.onDone?.isSome)
    (hPast : ∀ e ∈ past, e.Fits) :
    (advance k).wp s.toSurroundings (attendance s.toSurroundings).contract
      (fun past' _ w' => (attendance s.toSurroundings).Since past start past' w')
      (past ++ events) w := by
  apply wp_own
  have hAnswer : ((Step.enterCopy k).run s.toSurroundings w).1 = true := by
    simp only [Step.run, if_pos hResting]
  rw [hAnswer, if_pos rfl]
  refine wp_others entered (movingParts_moving k).copyStep hPast fun inner step w₁ stepped => ?_
  cases step with
  | waitReadable =>
    refine wp_waitForSource stepped hPast fun handler events' w' waiting => ?_
    exact ⟨_, List.append_assoc .., waiting.rested rfl background continues⟩
  | waitWritable =>
    refine wp_waitForTarget stepped hPast fun handler events' w' waiting => ?_
    exact ⟨_, List.append_assoc .., waiting.rested rfl background continues⟩
  | ended error? => exact wp_endCopy stepped continues hPast

/-- What is called for a copy in the background leaves all copies alone. -/
theorem keeps_advance : (attendance s.toSurroundings).Keeps s (fun _ => True) (advance k) := by
  intro past w attended _ hPast
  by_cases hResting : (w.copy k).phase = .resting
  · have background := (attended.rests k hResting).2
    have entered : s.Engages k w { w.copy k with phase := .moving }
        ({ w.copy k with phase := .moving } : Copy).Awaits ([] ++ [.made (.enterCopy k) w])
        ((Step.enterCopy k).run s.toSurroundings w).2 :=
      .entered attended hResting
    have walked := wp_advance hResting entered (fun _ => ⟨hResting, rfl, rfl, rfl⟩) background hPast
    rwa [List.append_nil] at walked
  · have hRun : (Step.enterCopy k).run s.toSurroundings w = (false, w) := by
      simp only [Step.run, if_neg hResting]
    have respects : s.Respects none w [.made (.enterCopy k) w]
        ((Step.enterCopy k).run s.toSurroundings w).2 :=
      .unchanged attended trivial (fun _ => not_false) (congrArg Prod.snd hRun)
    apply wp_act.2
    rw [hRun] at respects ⊢
    exact ⟨_, rfl, respects⟩

/-- A copy that cannot be begun changes nothing. -/
theorem respects_refused (attended : w.Attended) {source target : ChannelId} {limit? : Option Nat}
    {onDone? : Option RoutineId} {m : Misuse} (hObstacle : w.copyObstacle? source target = some m) :
    s.Respects none w [.made (.beginCopy source target limit? onDone?) w]
      ((Step.beginCopy source target limit? onDone?).run s.toSurroundings w).2 :=
  .unchanged attended trivial (fun _ => not_false)
    (congrArg Prod.snd (World.beginCopy_of_obstacle hObstacle))

/-- A new copy is begun since. -/
theorem continues_new (c : Copy) : c.Continues w.copies.length w :=
  fun hOld => absurd hOld (Nat.lt_irrefl _)

/-- Starting a copy in the background leaves the others alone. -/
theorem keeps_copyInBackground (source target : ChannelId) (limit? : Option Nat)
    (onDone : RoutineId) :
    (attendance s.toSurroundings).Keeps s (fun _ => True)
      (copyInBackground source target limit? onDone) := by
  intro past w attended _ hPast
  apply wp_act.2
  cases hObstacle : w.copyObstacle? source target with
  | some m =>
    have respects : s.Respects none w [.made (.beginCopy source target limit? (some onDone)) w] _ :=
      respects_refused attended hObstacle
    have hAnswer : ((Step.beginCopy source target limit? (some onDone)).run
        s.toSurroundings w).1 = .error m :=
      congrArg Prod.fst (World.beginCopy_of_obstacle hObstacle)
    rw [hAnswer]
    exact ⟨_, rfl, respects⟩
  | none =>
    have begun : s.Engages w.copies.length w (w.begun source target limit? (some onDone)) _
        [.made (.beginCopy source target limit? (some onDone)) w] _ :=
      .begun attended hObstacle
    have hAnswer : ((Step.beginCopy source target limit? (some onDone)).run
        s.toSurroundings w).1 = .ok w.copies.length :=
      congrArg Prod.fst (World.beginCopy_of_free hObstacle)
    rw [hAnswer]
    have transfers := (movingParts_moving (σ := σ) w.copies.length).toTransfers
    refine wp_others begun (transfers.switchModes source target (false, false)) hPast
      fun inner switched w₁ engages => ?_
    cases switched with
    | error r =>
      refine wp_record engages fun n events₂ w₂ looked => ?_
      refine wp_others looked (transfers.switchModes source target _) hPast
        fun inner _ w₃ restored => ?_
      apply wp_own
      exact ⟨_, rfl, (restored.finished (fun _ _ _ => id) (continues_new _)).1⟩
    | ok done =>
      obtain ⟨c, hOnDone, hResting, launched⟩ := engages.launched rfl rfl rfl
      have background : c.onDone?.isSome := by
        rw [hOnDone]
        rfl
      apply wp_own
      apply wp_bind.2
      apply wp_own
      have advanced := wp_advance hResting launched (continues_new _) background hPast
      refine wp_bind.2 (wp_mono ?_ advanced)
      rintro past' _ w' ⟨events', rfl, respects⟩
      refine ⟨_, List.append_assoc .., respects.trans ?_⟩
      exact .basic (t := .letGo (.copy w.copies.length)) respects.ends (.inl trivial)

/-- So does a copy that its caller waits for. -/
theorem keeps_copy (source target : ChannelId) (limit? : Option Nat) :
    (attendance s.toSurroundings).Keeps s (fun _ => True) (copy source target limit?) := by
  intro past w attended _ hPast
  apply wp_act.2
  cases hObstacle : w.copyObstacle? source target with
  | some m =>
    have respects : s.Respects none w [.made (.beginCopy source target limit? none) w] _ :=
      respects_refused attended hObstacle
    have hAnswer : ((Step.beginCopy source target limit? none).run s.toSurroundings w).1 =
        .error m :=
      congrArg Prod.fst (World.beginCopy_of_obstacle hObstacle)
    rw [hAnswer]
    exact ⟨_, rfl, respects⟩
  | none =>
    have begun : s.Engages w.copies.length w (w.begun source target limit? none) _
        [.made (.beginCopy source target limit? none) w] _ :=
      .begun attended hObstacle
    have hAnswer : ((Step.beginCopy source target limit? none).run s.toSurroundings w).1 =
        .ok w.copies.length :=
      congrArg Prod.fst (World.beginCopy_of_free hObstacle)
    rw [hAnswer]
    have moving := movingParts_moving (σ := σ) w.copies.length
    refine wp_record begun fun n events₁ w₁ looked => ?_
    refine wp_others looked (moving.switchModes source target (true, true)) hPast
      fun inner switched w₂ engages => ?_
    extract_lets finish
    have hFinish (moved : Except Report Unit) {c : Copy} {events : List (Event σ)} {w' : World σ}
        (engages : s.Engages w.copies.length w c (fun _ _ _ => False) events w') :
        (finish moved).wp s.toSurroundings (attendance s.toSurroundings).contract
          (fun past' _ w' => (attendance s.toSurroundings).Since past w past' w') (past ++ events)
          w' := by
      refine wp_others engages (moving.switchModes source target _) hPast
        fun inner _ w₃ restored => ?_
      refine wp_record restored fun n events₄ w₄ looked => ?_
      apply wp_own
      exact ⟨_, rfl, (looked.finished (fun _ _ _ => id) (continues_new _)).1⟩
    cases switched with
    | error r => exact hFinish (.error r) engages
    | ok done =>
      apply wp_own
      have hFits : (Step.fixChunk (σ := σ) w.copies.length).Fits w₂ := by
        refine ⟨engages.copyBusy, ?_, ?_⟩ <;> rw [engages.record] <;> rfl
      have fixed := engages.recorded (t := .fixChunk w.copies.length) rfl hFits
        (fun _ => False.elim) (fun _ => rfl) ⟨nofun, rfl⟩
        fun i m h hAwaits => absurd hAwaits (Copy.not_awaits rfl rfl)
      exact wp_others fixed moving.moveChunks hPast
        fun inner moved w₃ moved' => hFinish moved moved'

/-- What programs are made of that copy only by the operations for that leaves all copies alone. -/
theorem governs_copyParts :
    (attendance s.toSurroundings).Governs s (fun _ => True) copyParts where
  stable _ _ := trivial
  step t w allowed attended _ := .basic attended allowed
  call c past w allowed _ _ := Call.Common.due allowed past w
  whole p allowed := by
    cases allowed with
    | waited => exact keeps_copy _ _ _
    | background => exact keeps_copyInBackground _ _ _ _

/-- So does all that is called. -/
theorem honoured_attendance (made : s.MadeOf copyParts) :
    (attendance s.toSurroundings).Honoured s := by
  refine Discipline.honoured_of fun c past w permits => ?_
  cases c with
  | user u => exact (governs_copyParts.keeps (made.routine u)).called trivial permits
  | fire handler raised =>
    have hFire : (s.body (.fire handler raised)).MadeOf copyParts := by
      cases handler with
      | routine r => exact .invoke trivial
      | _ => exact made.fire _ raised
    exact (governs_copyParts.keeps hFire).called trivial permits
  | advance k => exact (keeps_advance (k := k)).called trivial permits
  | moveAll k =>
    have hMove := (movingParts_moving (σ := σ) k).moveChunks
    exact (governs_movingParts.keeps hMove).called permits.2.2 permits
  | readAll j chunk sofar =>
    have basic : (copyParts : Parts σ).Basic := copyParts_basic
    have hRead := basic.operating.readChunks j chunk sofar
    exact (governs_copyParts.keeps hRead).called trivial permits

end Walk

end EventChannel
