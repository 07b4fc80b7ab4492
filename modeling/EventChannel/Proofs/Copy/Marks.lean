import EventChannel.Proofs.World.Copies

/-! A channel is marked as taken exactly while it is an end of a copy that is not finished, and no
two such copies share a channel. Every step keeps this up that changes the record of a copy only
before the copy is finished; and what is finished stays so. -/

namespace EventChannel

variable {σ α : Type} {s : Surroundings σ} {w w' : World σ} {j source target : ChannelId}
  {k : CopyId}

theorem Copy.involves_iff {c : Copy} : c.involves j = true ↔ j = c.source ∨ j = c.target := by
  simp only [Copy.involves, Bool.or_eq_true, beq_iff_eq]
  exact or_congr eq_comm eq_comm

/-- The marks of the channels tell which of them are taken, and by one copy each. -/
structure World.Marked (w : World σ) : Prop where
  taken : ∀ j, (w.channel j).copying = true ↔
    ∃ k, (w.copy k).unfinished = true ∧ (w.copy k).involves j = true
  alone : ∀ j k k', (w.copy k).unfinished = true → (w.copy k).involves j = true →
    (w.copy k').unfinished = true → (w.copy k').involves j = true → k = k'

/-- The copy is under way, and not at rest. -/
def Copy.Busy (c : Copy) : Prop := c.phase ≠ .resting ∧ c.unfinished = true

/-- The step changes the record of a copy only while the copy is under way, and fixes the size of
its chunks when it has no handlers; it makes no channel that is taken or has handlers. -/
def Step.Fits (w : World σ) : {α : Type} → Step σ α → Prop
  | _, .fixChunk k =>
    (w.copy k).Busy ∧ (w.copy k).sourceHandler? = none ∧ (w.copy k).targetHandler? = none
  | _, .restCopy k | _, .countCopied k _ | _, .setCopyHandlers k _ _
  | _, .endCopying k | _, .finishCopy k => (w.copy k).Busy
  | _, .open c => c.copying = false ∧ c.handlers = []
  | _, _ => True

def Event.Fits : Event σ → Prop
  | .made t w => t.Fits w
  | .called _ _ => True

namespace World

/-- A channel that there is not is not taken. -/
theorem exists_of_copying (h : (w.channel j).copying = true) : j < w.channels.length := by
  refine Nat.lt_of_not_le fun hAbsent => ?_
  rw [channel, List.getElem?_eq_none hAbsent] at h
  cases h

/-- A copy that there is not counts as finished. -/
theorem exists_of_unfinished (h : (w.copy k).unfinished = true) : k < w.copies.length := by
  refine Nat.lt_of_not_le fun hAbsent => ?_
  rw [copy, copy?, List.getElem?_eq_none hAbsent] at h
  cases h

theorem copy_modifyCopy (f : Copy → Copy) (k' : CopyId) :
    (w.modifyCopy k f).copy k' = w.copy k' ∨
      k' = k ∧ (w.modifyCopy k f).copy k' = f (w.copy k) := by
  by_cases hIs : k = k'
  · subst hIs
    by_cases hExists : k < w.copies.length
    · exact .inr ⟨rfl, copy_modifyCopy_self f hExists⟩
    · refine .inl ?_
      have hAbsent := Nat.le_of_not_lt hExists
      rw [copy, copy, copy?, copy?, List.getElem?_eq_none hAbsent, List.getElem?_eq_none]
      rwa [length_modifyCopy]
  · exact .inl (copy_modifyCopy_ne f hIs)

theorem copying_markCopying (hSource : source < w.channels.length)
    (hTarget : target < w.channels.length) (on : Bool) :
    ((w.markCopying source target on).channel j).copying =
      if j = source ∨ j = target then on else (w.channel j).copying := by
  rw [markCopying]
  by_cases hIsTarget : target = j
  · subst hIsTarget
    rw [channel_modifyChannel_self _ (by rwa [length_modifyChannel]), if_pos (.inr rfl)]
  · rw [channel_modifyChannel_ne _ hIsTarget]
    by_cases hIsSource : source = j
    · subst hIsSource
      rw [channel_modifyChannel_self _ hSource, if_pos (.inl rfl)]
    · rw [channel_modifyChannel_ne _ hIsSource, if_neg]
      rintro (hIs | hIs)
      · exact hIsSource hIs.symm
      · exact hIsTarget hIs.symm

theorem handlers_markCopying (on : Bool) :
    ((w.markCopying source target on).channel j).handlers = (w.channel j).handlers :=
  view_markCopying (fun _ _ => rfl) on

/-- Channels that can be taken are there and not taken. -/
theorem free_of_obstacle (hFree : w.copyObstacle? source target = none) :
    (source < w.channels.length ∧ (w.channel source).copying = false) ∧
      target < w.channels.length ∧ (w.channel target).copying = false := by
  have hThere {j : ChannelId} (hMode : (w.channel j).mode ≠ Mode.none) : j < w.channels.length := by
    refine Nat.lt_of_not_le fun hAbsent => hMode ?_
    rw [channel, List.getElem?_eq_none hAbsent]
    rfl
  simp only [copyObstacle?] at hFree
  split at hFree
  · cases hFree
  next hReads =>
  split at hFree
  · cases hFree
  next hWrites =>
  split at hFree
  · cases hFree
  next hSource =>
  split at hFree
  · cases hFree
  next hTarget =>
  refine ⟨⟨hThere fun hNone => ?_, by simpa using hSource⟩, hThere fun hNone => ?_,
    by simpa using hTarget⟩
  · rw [hNone] at hReads
    exact hReads rfl
  · rw [hNone] at hWrites
    exact hWrites rfl

/-- A channel that is taken is an obstacle to another copy. -/
theorem obstacle_of_taken
    (hTaken : (w.channel source).copying = true ∨ (w.channel target).copying = true) :
    ∃ m, w.copyObstacle? source target = some m := by
  cases hObstacle : w.copyObstacle? source target with
  | some m => exact ⟨m, rfl⟩
  | none =>
    obtain ⟨⟨-, hSource⟩, -, hTarget⟩ := free_of_obstacle hObstacle
    rcases hTaken with hIs | hIs
    · rw [hSource] at hIs
      cases hIs
    · rw [hTarget] at hIs
      cases hIs

/-- What a copy has at the beginning. -/
def begun (w : World σ) (source target : ChannelId) (limit? : Option Nat)
    (onDone? : Option RoutineId) : Copy :=
  { source, target, limit?, onDone?
    savedModes := ((w.channel source).blocking, (w.channel target).blocking) }

theorem beginCopy_of_free {limit? : Option Nat} {onDone? : Option RoutineId}
    (hFree : w.copyObstacle? source target = none) :
    w.beginCopy source target limit? onDone? =
      (.ok w.copies.length, { w.markCopying source target true with
        copies := w.copies ++ [w.begun source target limit? onDone?] }) := by
  simp only [beginCopy, hFree]
  rfl

theorem beginCopy_of_obstacle {limit? : Option Nat} {onDone? : Option RoutineId} {m : Misuse}
    (hObstacle : w.copyObstacle? source target = some m) :
    w.beginCopy source target limit? onDone? = (.error m, w) := by
  simp only [beginCopy, hObstacle]

/-- The new copy is the last one. -/
theorem copy_append_self {w' : World σ} {c : Copy} (hCopies : w'.copies = w.copies ++ [c]) :
    w'.copy w.copies.length = c := by
  rw [copy, copy?, hCopies, List.getElem?_concat_length]
  rfl

theorem copy_append_ne {w' : World σ} {c : Copy} (hCopies : w'.copies = w.copies ++ [c])
    (hNe : k ≠ w.copies.length) : w'.copy k = w.copy k := by
  rw [copy, copy, copy?, copy?, hCopies]
  rcases Nat.lt_or_gt_of_ne hNe with hOld | hBeyond
  · rw [List.getElem?_append_left hOld]
  · rw [List.getElem?_eq_none (Nat.le_of_lt hBeyond), List.getElem?_eq_none]
    rw [List.length_append]
    exact Nat.succ_le_of_lt hBeyond

end World

namespace World.Marked

/-- Where the ends of the unfinished copies and the marks are what they were. -/
theorem of_same (marked : w.Marked) (hCopying : ∀ j, (w'.channel j).copying = (w.channel j).copying)
    (hUnfinished : ∀ k, (w'.copy k).unfinished = (w.copy k).unfinished)
    (hInvolves : ∀ k, (w.copy k).unfinished = true → ∀ j,
      (w'.copy k).involves j = (w.copy k).involves j) : w'.Marked where
  taken j := by
    rw [hCopying, marked.taken]
    refine exists_congr fun k => ?_
    rw [hUnfinished]
    refine and_congr_right fun h => ?_
    rw [hInvolves k h]
  alone j k k' h hEnd h' hEnd' := by
    rw [hUnfinished] at h h'
    rw [hInvolves _ h] at hEnd
    rw [hInvolves _ h'] at hEnd'
    exact marked.alone j k k' h hEnd h' hEnd'

/-- A record may change as long as its ends stay and it is finished as much as before. -/
theorem modifyCopy (marked : w.Marked) {f : Copy → Copy}
    (hUnfinished : (f (w.copy k)).unfinished = (w.copy k).unfinished)
    (hSource : (f (w.copy k)).source = (w.copy k).source)
    (hTarget : (f (w.copy k)).target = (w.copy k).target) : (w.modifyCopy k f).Marked := by
  have hInvolves (j : ChannelId) : (f (w.copy k)).involves j = (w.copy k).involves j := by
    rw [Copy.involves, Copy.involves, hSource, hTarget]
  refine marked.of_same (fun _ => rfl) (fun k' => ?_) fun k' _ j => ?_
  · rcases World.copy_modifyCopy (w := w) (k := k) f k' with hSame | ⟨rfl, hIs⟩
    · rw [hSame]
    · rw [hIs, hUnfinished]
  · rcases World.copy_modifyCopy (w := w) (k := k) f k' with hSame | ⟨rfl, hIs⟩
    · rw [hSame]
    · rw [hIs, hInvolves]

theorem fixChunk (marked : w.Marked) (hUnfinished : (w.copy k).unfinished = true) :
    (w.fixChunk k).Marked := by
  refine marked.modifyCopy ?_ rfl rfl
  dsimp only [Copy.unfinished]
  split
  · exact hUnfinished.symm
  · rfl

/-- A copy takes two channels that are free. -/
theorem beginCopy (marked : w.Marked) {limit? : Option Nat} {onDone? : Option RoutineId}
    (hFree : w.copyObstacle? source target = none) :
    (w.beginCopy source target limit? onDone?).2.Marked := by
  obtain ⟨⟨hSource, hSourceFree⟩, hTarget, hTargetFree⟩ := free_of_obstacle hFree
  rw [beginCopy_of_free hFree]
  generalize hAfter : ({ w.markCopying source target true with
    copies := w.copies ++ [w.begun source target limit? onDone?] } : World σ) = w'
  have hCopies : w'.copies = w.copies ++ [w.begun source target limit? onDone?] := by
    rw [← hAfter]
  have hCopying (j : ChannelId) : (w'.channel j).copying =
      if j = source ∨ j = target then true else (w.channel j).copying := by
    rw [← hAfter]
    exact copying_markCopying hSource hTarget true
  have hApart (k : CopyId) (hUnfinished : (w.copy k).unfinished = true) (j : ChannelId)
      (hEnd : j = source ∨ j = target) : (w.copy k).involves j = false := by
    rw [← Bool.not_eq_true]
    intro hInvolves
    have hTaken := (marked.taken j).2 ⟨k, hUnfinished, hInvolves⟩
    rcases hEnd with rfl | rfl
    · rw [hSourceFree] at hTaken
      cases hTaken
    · rw [hTargetFree] at hTaken
      cases hTaken
  have hNew : w'.copy w.copies.length = w.begun source target limit? onDone? :=
    copy_append_self hCopies
  have hOfOld (k : CopyId) (h : (w.copy k).unfinished = true) : w'.copy k = w.copy k :=
    copy_append_ne hCopies (Nat.ne_of_lt (exists_of_unfinished h))
  have hCases (k : CopyId) (j : ChannelId) (h : (w'.copy k).unfinished = true) :
      w'.copy k = w.copy k ∧ (w.copy k).unfinished = true ∨
        k = w.copies.length ∧ ((w'.copy k).involves j = true ↔ j = source ∨ j = target) := by
    by_cases hIs : k = w.copies.length
    · refine .inr ⟨hIs, ?_⟩
      rw [hIs, hNew]
      exact Copy.involves_iff
    · have hSame := copy_append_ne hCopies hIs
      exact .inl ⟨hSame, hSame ▸ h⟩
  constructor
  · intro j
    rw [hCopying]
    constructor
    · intro hTaken
      split at hTaken
      · next hEnd =>
        refine ⟨w.copies.length, by rw [hNew]; rfl, ?_⟩
        rw [hNew]
        exact Copy.involves_iff.2 hEnd
      · obtain ⟨k, hUnfinished, hInvolves⟩ := (marked.taken j).1 hTaken
        exact ⟨k, by rwa [hOfOld k hUnfinished], by rwa [hOfOld k hUnfinished]⟩
    · rintro ⟨k, hUnfinished, hInvolves⟩
      rcases hCases k j hUnfinished with ⟨hSame, hOld⟩ | ⟨-, hEnd⟩
      · rw [hSame] at hInvolves
        rw [(marked.taken j).2 ⟨k, hOld, hInvolves⟩, ite_self]
      · rw [if_pos (hEnd.1 hInvolves)]
  · intro j k k' h hInvolves h' hInvolves'
    rcases hCases k j h with ⟨hSame, hOld⟩ | ⟨hIs, hEnd⟩
    · rcases hCases k' j h' with ⟨hSame', hOld'⟩ | ⟨-, hEnd'⟩
      · rw [hSame] at hInvolves
        rw [hSame'] at hInvolves'
        exact marked.alone j k k' hOld hInvolves hOld' hInvolves'
      · rw [hSame, hApart k hOld j (hEnd'.1 hInvolves')] at hInvolves
        cases hInvolves
    · rcases hCases k' j h' with ⟨hSame', hOld'⟩ | ⟨hIs', -⟩
      · rw [hSame', hApart k' hOld' j (hEnd.1 hInvolves)] at hInvolves'
        cases hInvolves'
      · exact hIs.trans hIs'.symm

/-- A copy gives its channels free. -/
theorem finishCopy (marked : w.Marked) (hUnfinished : (w.copy k).unfinished = true) :
    ((Step.finishCopy k).run s w).2.Marked := by
  generalize hAfter : ((Step.finishCopy k).run s w).2 = w'
  have hTaken (j : ChannelId) (hEnd : j = (w.copy k).source ∨ j = (w.copy k).target) :
      j < w.channels.length :=
    exists_of_copying ((marked.taken j).2 ⟨k, hUnfinished, Copy.involves_iff.2 hEnd⟩)
  have hCopying (j : ChannelId) : (w'.channel j).copying =
      if j = (w.copy k).source ∨ j = (w.copy k).target then false else (w.channel j).copying := by
    rw [← hAfter]
    exact copying_markCopying (hTaken _ (.inl rfl)) (hTaken _ (.inr rfl)) false
  have hSelf : (w'.copy k).unfinished = false := by
    rw [← hAfter]
    refine congrArg Copy.unfinished (copy_modifyCopy_self (w := w.markCopying _ _ false) _ ?_)
    exact exists_of_unfinished hUnfinished
  have hOther (k' : CopyId) (hNe : k ≠ k') : w'.copy k' = w.copy k' := by
    rw [← hAfter]
    exact copy_modifyCopy_ne (w := w.markCopying _ _ false) _ hNe
  have hNe (k' : CopyId) (h : (w'.copy k').unfinished = true) : k ≠ k' := by
    rintro rfl
    rw [hSelf] at h
    cases h
  constructor
  · intro j
    rw [hCopying]
    constructor
    · intro h
      split at h
      · cases h
      · next hNot =>
        obtain ⟨k', hOpen, hInvolves⟩ := (marked.taken j).1 h
        have hApart : k ≠ k' := by
          rintro rfl
          exact hNot (Copy.involves_iff.1 hInvolves)
        exact ⟨k', by rwa [hOther k' hApart], by rwa [hOther k' hApart]⟩
    · rintro ⟨k', hOpen, hInvolves⟩
      have hApart := hNe k' hOpen
      rw [hOther k' hApart] at hOpen hInvolves
      rw [if_neg, marked.taken]
      · exact ⟨k', hOpen, hInvolves⟩
      · intro hEnd
        exact hApart (marked.alone j k k' hUnfinished (Copy.involves_iff.2 hEnd) hOpen hInvolves)
  · intro j k₁ k₂ h₁ hInvolves₁ h₂ hInvolves₂
    have hSame₁ := hOther k₁ (hNe k₁ h₁)
    have hSame₂ := hOther k₂ (hNe k₂ h₂)
    rw [hSame₁] at h₁ hInvolves₁
    rw [hSame₂] at h₂ hInvolves₂
    exact marked.alone j k₁ k₂ h₁ hInvolves₁ h₂ hInvolves₂

end World.Marked

/-- Every step that fits keeps the marks. -/
theorem Step.marked_run (t : Step σ α) (fits : t.Fits w) (marked : w.Marked) :
    (t.run s w).2.Marked := by
  have hSame (hRecords : ¬t.Records) (hRetakes : ¬t.Retakes) : (t.run s w).2.Marked := by
    have hCopy (k : CopyId) : (t.run s w).2.copy k = w.copy k :=
      World.copy_congr (t.copies_same hRecords)
    refine marked.of_same (fun _ => t.copying_same hRetakes) (fun k => ?_) fun k _ j => ?_
    · rw [hCopy]
    · rw [hCopy]
  cases t with
  | «open» c =>
    exact marked.of_same (Step.view_open (fun _ _ => rfl) fits.1) (fun _ => rfl) fun _ _ _ => rfl
  | beginCopy source target limit? onDone? =>
    cases hObstacle : w.copyObstacle? source target with
    | some m =>
      rw [show ((Step.beginCopy source target limit? onDone?).run s w).2 = w from
        congrArg Prod.snd (World.beginCopy_of_obstacle hObstacle)]
      exact marked
    | none => exact marked.beginCopy hObstacle
  | finishCopy k => exact marked.finishCopy fits.2
  | fixChunk k => exact marked.fixChunk fits.1.2
  | enterCopy k =>
    simp only [Step.run]
    split
    · next hResting =>
      refine marked.modifyCopy ?_ rfl rfl
      rw [Copy.unfinished, Copy.unfinished, hResting]
      rfl
    · exact marked
  | restCopy k => exact marked.modifyCopy fits.2.symm rfl rfl
  | countCopied k n => exact marked.modifyCopy rfl rfl rfl
  | setCopyHandlers k source? target? => exact marked.modifyCopy rfl rfl rfl
  | endCopying k => exact marked.modifyCopy fits.2.symm rfl rfl
  | _ => exact hSame not_false not_false

/-- A step that fits leaves the record of a finished copy alone. -/
theorem Step.finished_run (t : Step σ α) (fits : t.Fits w) (hExists : k < w.copies.length)
    (hFinished : (w.copy k).unfinished = false) : (t.run s w).2.copy k = w.copy k := by
  by_cases hRecopies : t.Recopies k
  · cases t with
    | enterCopy k' =>
      obtain rfl : k' = k := hRecopies
      simp only [Step.run]
      split
      · next hResting =>
        rw [Copy.unfinished, hResting] at hFinished
        cases hFinished
      · rfl
    | fixChunk k' =>
      obtain rfl : k' = k := hRecopies
      rw [fits.1.2] at hFinished
      cases hFinished
    | restCopy k' | countCopied k' | setCopyHandlers k' | endCopying k' | finishCopy k' =>
      obtain rfl : k' = k := hRecopies
      rw [show (w.copy k').unfinished = true from fits.2] at hFinished
      cases hFinished
    | _ => cases hRecopies
  · exact (t.copies_run s w k).2 hExists hRecopies

/-- What a copy has been asked for, and the modes that it has found. -/
def Copy.terms (c : Copy) :
    ChannelId × ChannelId × Option Nat × (Bool × Bool) × Option RoutineId :=
  (c.source, c.target, c.limit?, c.savedModes, c.onDone?)

/-- No step changes the terms of a copy. -/
theorem Step.terms_run (t : Step σ α) (hExists : k < w.copies.length) :
    ((t.run s w).2.copy k).terms = (w.copy k).terms := by
  by_cases hRecopies : t.Recopies k
  · cases t with
    | enterCopy k' =>
      obtain rfl : k' = k := hRecopies
      simp only [Step.run]
      split
      · exact (congrArg Copy.terms (World.copy_modifyCopy_self _ hExists)).trans rfl
      · rfl
    | finishCopy k' =>
      obtain rfl : k' = k := hRecopies
      exact (congrArg Copy.terms
        (World.copy_modifyCopy_self (w := w.markCopying _ _ false) _ hExists)).trans rfl
    | fixChunk k' | restCopy k' | countCopied k' | setCopyHandlers k' | endCopying k' =>
      obtain rfl : k' = k := hRecopies
      exact (congrArg Copy.terms (World.copy_modifyCopy_self _ hExists)).trans rfl
    | _ => cases hRecopies
  · rw [(t.copies_run s w k).2 hExists hRecopies]

/-- Copies are only added by steps that begin one. -/
theorem Step.begun_run (t : Step σ α) (hNew : w.copies.length ≤ k)
    (hThere : k < (t.run s w).2.copies.length) : ∃ source target limit? onDone?,
      Event.made t w = .made (.beginCopy source target limit? onDone?) w ∧
        w.copies.length = k ∧ w.copyObstacle? source target = none ∧
          (t.run s w).2.copy k = w.begun source target limit? onDone? := by
  by_cases hRecords : t.Records
  · have hLength (w₁ : World σ) {f : Copy → Copy} {k' : CopyId} (hSame : w₁.copies = w.copies)
        (hLess : k < (w₁.modifyCopy k' f).copies.length) : False := by
      rw [World.length_modifyCopy, hSame] at hLess
      exact Nat.not_lt_of_le hNew hLess
    cases t with
    | beginCopy source target limit? onDone? =>
      cases hObstacle : w.copyObstacle? source target with
      | some m =>
        rw [show ((Step.beginCopy source target limit? onDone?).run s w).2 = w from
          congrArg Prod.snd (World.beginCopy_of_obstacle hObstacle)] at hThere
        exact absurd hThere (Nat.not_lt_of_le hNew)
      | none =>
        have hRun : ((Step.beginCopy source target limit? onDone?).run s w).2 = _ :=
          congrArg Prod.snd (World.beginCopy_of_free hObstacle)
        have hIs : w.copies.length = k := by
          refine Nat.le_antisymm hNew ?_
          rw [hRun] at hThere
          simpa [Nat.lt_succ_iff] using hThere
        subst hIs
        rw [hRun]
        exact ⟨source, target, limit?, onDone?, rfl, rfl, hObstacle, World.copy_append_self rfl⟩
    | enterCopy k' =>
      simp only [Step.run] at hThere
      split at hThere
      · exact (hLength w rfl hThere).elim
      · exact absurd hThere (Nat.not_lt_of_le hNew)
    | finishCopy k' => exact (hLength (w.markCopying _ _ false) rfl hThere).elim
    | fixChunk k' | restCopy k' | countCopied k' | setCopyHandlers k' | endCopying k' =>
      exact (hLength w rfl hThere).elim
    | _ => cases hRecords
  · rw [t.copies_same hRecords] at hThere
    exact absurd hThere (Nat.not_lt_of_le hNew)

/-- The number of the bytes that a copy has moved only grows. -/
theorem Step.total_run (t : Step σ α) : (w.copy k).total ≤ ((t.run s w).2.copy k).total := by
  by_cases hExists : k < w.copies.length
  · by_cases hRecopies : t.Recopies k
    · have hModified (f : Copy → Copy) (hGrows : (w.copy k).total ≤ (f (w.copy k)).total) :
          (w.copy k).total ≤ ((w.modifyCopy k f).copy k).total := by
        rwa [World.copy_modifyCopy_self f hExists]
      cases t with
      | enterCopy k' =>
        obtain rfl : k' = k := hRecopies
        simp only [Step.run]
        split
        · exact hModified _ (Nat.le_refl _)
        · exact Nat.le_refl _
      | countCopied k' n =>
        obtain rfl : k' = k := hRecopies
        exact hModified _ (Nat.le_add_right _ n)
      | fixChunk k' | restCopy k' | setCopyHandlers k' | endCopying k' | finishCopy k' =>
        obtain rfl : k' = k := hRecopies
        exact hModified _ (Nat.le_refl _)
      | _ => cases hRecopies
    · exact Nat.le_of_eq (congrArg Copy.total ((t.copies_run s w k).2 hExists hRecopies)).symm
  · have hAbsent : (w.copy k).total = 0 := by
      rw [World.copy, World.copy?, List.getElem?_eq_none (Nat.le_of_not_lt hExists)]
      rfl
    rw [hAbsent]
    exact Nat.zero_le _

namespace Surroundings.Leads

variable {events : List (Event σ)}

/-- A copy stays there, and on its terms. -/
theorem terms (history : s.Leads w events w') (hExists : k < w.copies.length) :
    k < w'.copies.length ∧ (w'.copy k).terms = (w.copy k).terms := by
  induction history with
  | refl => exact ⟨hExists, rfl⟩
  | snoc e prior ih =>
    obtain ⟨hThere, hSame⟩ := ih
    cases e with
    | made t v =>
      exact ⟨Nat.lt_of_lt_of_le hThere (t.copies_run s v k).1, (t.terms_run hThere).trans hSame⟩
    | called c v => exact ⟨hThere, hSame⟩

theorem total (history : s.Leads w events w') : (w.copy k).total ≤ (w'.copy k).total := by
  induction history with
  | refl => exact Nat.le_refl _
  | snoc e prior ih =>
    cases e with
    | made t v => exact Nat.le_trans ih t.total_run
    | called c v => exact ih

/-- So its ends stay the same. -/
theorem involves (history : s.Leads w events w') (hExists : k < w.copies.length) :
    k < w'.copies.length ∧ (w'.copy k).involves j = (w.copy k).involves j := by
  obtain ⟨hThere, hTerms⟩ := history.terms hExists
  refine ⟨hThere, ?_⟩
  simp only [Copy.terms, Prod.mk.injEq] at hTerms
  rw [Copy.involves, Copy.involves, hTerms.1, hTerms.2.1]

/-- Where all steps fit, the marks are right all along. -/
theorem marked (history : s.Leads w events w') (fits : ∀ e ∈ events, e.Fits)
    (marked : w.Marked) : w'.Marked ∧ ∀ e ∈ events, e.before.Marked := by
  induction history with
  | refl => exact ⟨marked, List.forall_mem_nil _⟩
  | snoc e prior ih =>
    obtain ⟨hPrior, hLast⟩ := List.forall_mem_append.1 fits
    obtain ⟨hBefore, hEach⟩ := ih hPrior
    refine ⟨?_, List.forall_mem_append.2 ⟨hEach, List.forall_mem_singleton.2 hBefore⟩⟩
    cases e with
    | made t w => exact t.marked_run (hLast _ (List.mem_singleton_self _)) hBefore
    | called c w => exact hBefore

/-- What is finished stays as it is. -/
theorem finished (history : s.Leads w events w') (fits : ∀ e ∈ events, e.Fits)
    (hExists : k < w.copies.length) (hFinished : (w.copy k).unfinished = false) :
    w'.copy k = w.copy k ∧ ∀ e ∈ events, e.before.copy k = w.copy k := by
  have hThere : k < w'.copies.length ∧ w'.copy k = w.copy k ∧
      ∀ e ∈ events, e.before.copy k = w.copy k := by
    induction history with
    | refl => exact ⟨hExists, rfl, List.forall_mem_nil _⟩
    | snoc e prior ih =>
      obtain ⟨hPrior, hLast⟩ := List.forall_mem_append.1 fits
      obtain ⟨hThere, hSame, hEach⟩ := ih hPrior
      have hAfter : k < (e.after s).copies.length ∧ (e.after s).copy k = e.before.copy k := by
        cases e with
        | made t v =>
          refine ⟨Nat.lt_of_lt_of_le hThere (t.copies_run s v k).1, ?_⟩
          exact t.finished_run (hLast _ (List.mem_singleton_self _)) hThere (hSame ▸ hFinished)
        | called c v => exact ⟨hThere, rfl⟩
      exact ⟨hAfter.1, hAfter.2.trans hSame,
        List.forall_mem_append.2 ⟨hEach, List.forall_mem_singleton.2 hSame⟩⟩
  exact hThere.2

end Surroundings.Leads

end EventChannel
