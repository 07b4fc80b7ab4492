import EventChannel.Proofs.Copy.Attended
import EventChannel.Proofs.Program.Discipline

/-! What a program is made of that copies only by the two operations for that, and what such
programs keep to. A copy that is under way knows its record and its handlers whatever others do, and
each of its own steps leaves the other copies alone. -/

namespace EventChannel

open Program

variable {σ α β : Type}

/-- The operations that copy. -/
inductive CopyWhole : {α : Type} → Program σ α → Prop
  | waited {source target : ChannelId} {limit? : Option Nat} :
      CopyWhole (copy source target limit?)
  | background {source target : ChannelId} {limit? : Option Nat} {onDone : RoutineId} :
      CopyWhole (copyInBackground source target limit? onDone)

/-- What programs are made of that copy only by these. -/
def copyParts : Parts σ where
  step t := t.Basic ∨ t.Dispatches
  call := Call.Common
  whole := CopyWhole

/-- The step counts bytes that a copy has moved. -/
def Step.Tallies (k : CopyId) : Step σ α → Prop
  | .countCopied k' _ => k' = k
  | _ => False

/-- What the bytes of a copy are moved by. -/
def movingParts (k : CopyId) : Parts σ where
  step t := (t.Basic ∨ t.Dispatches) ∨ t.Tallies k
  call c := c.Common ∨ c = .moveAll k
  whole _ := False

theorem copyParts_basic : (copyParts : Parts σ).Basic where
  step _ := .inl
  call _ := id

theorem movingParts_moving (k : CopyId) : (movingParts k : Parts σ).Moving k where
  toTransfers := Parts.Operating.toTransfers <| Parts.Basic.operating
    ⟨fun _ basic => .inl (.inl basic), fun _ => .inl⟩
  copy := .inl (.inl trivial)
  count _ := .inr rfl
  moveAll := .inr rfl

/-- A copy in the background has given its channels free in a step, and has no handlers any more. -/
structure World.Releases (k : CopyId) (r : RoutineId) (u w : World σ) : Prop where
  unfinished : (u.copy k).unfinished = true
  onDone : (u.copy k).onDone? = some r
  source : (w.channel (u.copy k).source).copying = false
  target : (w.channel (u.copy k).target).copying = false
  handlers : ∀ j, ∀ h ∈ (w.channel j).handlers, h.callback ≠ .copy k

/-- When it is that a copy calls for its bytes to be moved, and when it calls its routine. -/
def Call.Due : Call → List (Event σ) → World σ → Prop
  | .moveAll k, _, w => (w.copy k).Busy
  | .user (.completed r _ _), past, w =>
    ∃ k before u, past = before ++ [.made (.finishCopy k) u] ∧ World.Releases k r u w
  | _, _, _ => True

theorem Call.Common.due {c : Call} (common : c.Common) (past : List (Event σ)) (w : World σ) :
    c.Due past w := by
  cases c with
  | moveAll k => cases common
  | user u =>
    cases u with
    | completed r total error? => cases common
    | _ => trivial
  | _ => trivial

/-- What programs keep to that copy only by the operations for that. -/
def attendance (s : Surroundings σ) : Discipline σ where
  world := World.Attended
  event := Event.Fits
  due := Call.Due
  course := s.Respects none
  refl := .refl
  trans := .trans
  called attended := .called attended _
  ends respects := respects.ends
  each respects := respects.fits

/-- A copy is under way since some moment. Its record is known up to the number of the bytes moved,
and so is which handlers it may have. -/
structure Surroundings.Engages (s : Surroundings σ) (k : CopyId) (start : World σ) (c : Copy)
    (left : ChannelId → Interest → HandlerId → Prop) (events : List (Event σ)) (w : World σ) :
    Prop where
  respects : s.Respects (some k) start events w
  stems : c.Stems k start events
  record : w.copy k = { c with total := (w.copy k).total }
  busy : c.Busy
  left : ∀ j, ∀ h ∈ (w.channel j).handlers, h.callback = .copy k → left j h.mask h.id

/-- The copy has been begun since, or it was at rest. -/
def Copy.Continues (c : Copy) (k : CopyId) (start : World σ) : Prop :=
  k < start.copies.length → (start.copy k).phase = .resting ∧ c.source = (start.copy k).source ∧
    c.target = (start.copy k).target ∧ c.onDone? = (start.copy k).onDone?

namespace Surroundings.Engages

variable {s : Surroundings σ} {k : CopyId} {start w w₁ : World σ} {c : Copy}
  {left : ChannelId → Interest → HandlerId → Prop} {events inner : List (Event σ)}

theorem unfinished (engages : s.Engages k start c left events w) :
    (w.copy k).unfinished = true := by
  rw [engages.record]
  exact engages.busy.2

theorem copyBusy (engages : s.Engages k start c left events w) : (w.copy k).Busy := by
  rw [engages.record]
  exact engages.busy

/-- Both channels are there. -/
theorem exists_end (engages : s.Engages k start c left events w) {j : ChannelId}
    (hEnd : j = c.source ∨ j = c.target) : j < w.channels.length := by
  refine World.exists_of_copying ((engages.respects.ends.taken j).2 ⟨k, engages.unfinished, ?_⟩)
  rw [engages.record]
  exact Copy.involves_iff.2 hEnd

theorem mono (engages : s.Engages k start c left events w)
    {left' : ChannelId → Interest → HandlerId → Prop}
    (hLeft : ∀ j mask handler, left j mask handler → left' j mask handler) :
    s.Engages k start c left' events w where
  respects := engages.respects
  stems := engages.stems
  record := engages.record
  busy := engages.busy
  left j h hMem hCallback := hLeft j h.mask h.id (engages.left j h hMem hCallback)

/-- While others are at work, the copy stays as it is. -/
theorem others (engages : s.Engages k start c left events w)
    (respects : s.Respects none w inner w₁) : s.Engages k start c left (events ++ inner) w₁ := by
  have hExists := World.exists_of_unfinished engages.unfinished
  have hNot : (w.copy k).phase ≠ .resting := engages.copyBusy.1
  have hSame := (respects.lasts k hExists nofun).busy hNot
  refine ⟨engages.respects.trans (respects.except _),
    engages.stems.beside (respects.firm k hExists nofun hNot), ?_, engages.busy,
    fun j h hMem hCallback => ?_⟩
  · rw [hSame, engages.record]
  · have hOld := respects.hushed k hExists nofun hNot j h hMem hCallback
    exact engages.left j h hOld hCallback

/-- The copy changes its own record. -/
theorem recorded (engages : s.Engages k start c left events w) {t : Step σ α} {f : Copy → Copy}
    (hRun : (t.run s w).2 = w.modifyCopy k f) (fits : t.Fits w)
    (hRenotes : ∀ k', t.Renotes k' → k' = k)
    (hTotal : ∀ n, f { c with total := n } = { f c with total := n }) (busy : (f c).Busy)
    (stems : (f c).Stems k start (events ++ [.made t w])) :
    s.Engages k start (f c) left (events ++ [.made t w]) (t.run s w).2 := by
  have hExists := World.exists_of_unfinished engages.unfinished
  have hNew : f (w.copy k) = { f c with total := (w.copy k).total } := by
    rw [engages.record, hTotal]
  have hRecord : (t.run s w).2.copy k = { f c with total := (w.copy k).total } := by
    rw [hRun, World.copy_modifyCopy_self f hExists, hNew]
  have own : s.Respects (some k) w [.made t w] (t.run s w).2 :=
    .recorded engages.respects.ends fits hRun hRenotes hExists (by rw [hNew]; exact busy)
  refine ⟨engages.respects.trans own, stems, ?_, busy, fun j h hMem hCallback => ?_⟩
  · rw [hRecord]
  · rw [hRun] at hMem
    exact engages.left j h hMem hCallback

/-- The copy notes handlers that it has noted before, or that it has made. -/
theorem renoted (engages : s.Engages k start c left events w) (source? target? : Option HandlerId)
    (hNoted : ∀ j mask handler, (c.noting source? target?).Awaits j mask handler →
      c.Awaits j mask handler ∨ Hooks k j mask handler events) :
    s.Engages k start (c.noting source? target?) left
      (events ++ [.made (.setCopyHandlers k source? target?) w])
      ((Step.setCopyHandlers k source? target?).run s w).2 := by
  refine engages.recorded (f := (·.noting source? target?)) rfl engages.copyBusy
    (fun _ => Eq.symm) (fun _ => rfl) engages.busy fun j mask handler hAwaits => ?_
  have hKept : ∀ e ∈ [Event.made (.setCopyHandlers k source? target?) w],
      ¬e.GivesUp k j handler := by
    refine List.forall_mem_singleton.2 ?_
    rintro ⟨_, _, _, hIs, -, hNot⟩
    cases hIs
    rw [engages.record] at hNot
    exact hNot mask hAwaits
  rcases hNoted j mask handler hAwaits with hOld | hooks
  · rcases engages.stems j mask handler hOld with ⟨hResting, hStart, hEach⟩ | hooks
    · exact .inl ⟨hResting, hStart, List.forall_mem_append.2 ⟨hEach, hKept⟩⟩
    · exact .inr (hooks.append hKept)
  · exact .inr (hooks.append hKept)

/-- A step on a channel that makes no handlers but those of the copy. -/
theorem held (engages : s.Engages k start c left events w) (j : ChannelId) (op : ChannelOp)
    {left' : ChannelId → Interest → HandlerId → Prop}
    (hOther : ∀ i, ∀ h ∈ (((Step.hold j op).run s w).2.channel i).handlers, ∀ k', k' ≠ k →
      h.callback = .copy k' → h ∈ (w.channel i).handlers)
    (hLeft : ∀ i, ∀ h ∈ (((Step.hold j op).run s w).2.channel i).handlers, h.callback = .copy k →
      left' i h.mask h.id) :
    s.Engages k start c left' (events ++ [.made (.hold j op) w]) ((Step.hold j op).run s w).2 := by
  have own := Surroundings.Respects.held engages.respects.ends engages.copyBusy hOther
  exact ⟨engages.respects.trans own, engages.stems.beside (List.forall_mem_singleton.2 not_false),
    engages.record, engages.busy, hLeft⟩

theorem created (engages : s.Engages k start c left events w) (j : ChannelId) (mask : Interest) :
    s.Engages k start c
      (fun i m handler => left i m handler ∨
        i = j ∧ m = mask ∧ handler = (w.channel j).lastHandler + 1)
      (events ++ [.made (.hold j (.createHandler mask (.copy k))) w])
      ((Step.hold j (.createHandler mask (.copy k))).run s w).2 := by
  refine engages.held j (.createHandler mask (.copy k)) (fun i h hMem k' hNe hCallback => ?_)
    fun i h hMem hCallback => ?_
  · rcases Step.mem_createHandler hMem with hOld | ⟨-, rfl⟩
    · exact hOld
    · exact absurd (Callback.copy.inj hCallback).symm hNe
  · rcases Step.mem_createHandler hMem with hOld | ⟨rfl, rfl⟩
    · exact .inl (engages.left i h hOld hCallback)
    · exact .inr ⟨rfl, rfl, rfl⟩

theorem deleted (engages : s.Engages k start c left events w) (j : ChannelId)
    (handler : HandlerId) :
    s.Engages k start c (fun i m h => left i m h ∧ ¬(j = i ∧ h = handler))
      (events ++ [.made (.hold j (.deleteHandler handler)) w])
      ((Step.hold j (.deleteHandler handler)).run s w).2 := by
  refine engages.held j (.deleteHandler handler) (fun i h hMem k' _ _ => ?_)
    fun i h hMem hCallback => ?_
  · exact (Step.mem_deleteHandler.1 hMem).1
  · obtain ⟨hOld, hOther⟩ := Step.mem_deleteHandler.1 hMem
    exact ⟨engages.left i h hOld hCallback, hOther⟩

/-- The copy gives its channels free, when it has no handlers. -/
theorem finished (engages : s.Engages k start c left events w)
    (hNone : ∀ j mask handler, ¬left j mask handler) (continues : c.Continues k start) :
    s.Respects none start (events ++ [.made (.finishCopy k) w])
        ((Step.finishCopy k).run s w).2 ∧
      ∀ r, c.onDone? = some r →
        World.Releases k r w ((Step.finishCopy k).run s w).2 := by
  have attended := engages.respects.ends
  have hUnfinished := engages.unfinished
  have hExists := World.exists_of_unfinished hUnfinished
  have fits : (Step.finishCopy (σ := σ) k).Fits w := engages.copyBusy
  have marked := Step.marked_run (s := s) (.finishCopy k) fits attended.toMarked
  generalize hAfter : ((Step.finishCopy k).run s w).2 = w' at marked ⊢
  have hRecord : w'.copy k = { w.copy k with phase := .done } := by
    rw [← hAfter]
    exact World.copy_modifyCopy_self (w := w.markCopying _ _ false) _ hExists
  have hOther (k' : CopyId) (hNe : k' ≠ k) : w'.copy k' = w.copy k' := by
    rw [← hAfter]
    exact World.copy_modifyCopy_ne (w := w.markCopying _ _ false) _ (Ne.symm hNe)
  have hHandlers (j : ChannelId) : (w'.channel j).handlers = (w.channel j).handlers := by
    rw [← hAfter]
    exact World.handlers_markCopying false
  have hGone (j : ChannelId) (h : Handler) (hMem : h ∈ (w'.channel j).handlers) :
      h.callback ≠ .copy k := by
    rw [hHandlers] at hMem
    exact fun hCallback => hNone _ _ _ (engages.left j h hMem hCallback)
  have own : s.Respects (some k) w [.made (.finishCopy k) w] w' := by
    refine .of_own attended (List.forall_mem_singleton.2 fits)
      (List.forall_mem_singleton.2 not_false) marked ?_ hOther ?_
      (fun _ _ => List.forall_mem_singleton.2 not_false) ?_ ?_
    · rw [← hAfter]
      exact Nat.le_of_eq (World.length_modifyCopy (w := w.markCopying _ _ false) _).symm
    · intro j h hMem _ _ _
      rwa [hHandlers] at hMem
    · exact fun j h hMem hCallback => absurd hCallback (hGone j h hMem)
    · intro hResting
      rw [hRecord] at hResting
      cases hResting
  refine ⟨(engages.respects.trans own).close ?_ (.inr ?_) ?_, fun r hOnDone => ?_⟩
  · intro hOld
    obtain ⟨hResting, hSource, hTarget, hOnDone⟩ := continues hOld
    rw [hRecord, engages.record]
    exact ⟨hResting, hSource, hTarget, hOnDone, absurd hResting, fun _ => .inr rfl⟩
  · rw [hRecord]
  · intro hResting
    rw [hRecord] at hResting
    cases hResting
  have hFree (j : ChannelId) (hEnd : (w.copy k).involves j = true) :
      (w'.channel j).copying = false := by
    rw [← Bool.not_eq_true, marked.taken]
    rintro ⟨k', hOpen, hInvolves⟩
    by_cases hIs : k' = k
    · subst hIs
      rw [hRecord] at hOpen
      cases hOpen
    · rw [hOther k' hIs] at hOpen hInvolves
      exact hIs (attended.alone j k' k hOpen hInvolves hUnfinished hEnd)
  refine ⟨hUnfinished, ?_, hFree _ (Copy.involves_iff.2 (.inl rfl)),
    hFree _ (Copy.involves_iff.2 (.inr rfl)), hGone⟩
  rw [engages.record]
  exact hOnDone

/-- A copy that has just been begun. -/
theorem begun (attended : w.Attended) {source target : ChannelId} {limit? : Option Nat}
    {onDone? : Option RoutineId} (hFree : w.copyObstacle? source target = none) :
    s.Engages w.copies.length w (w.begun source target limit? onDone?) (fun _ _ _ => False)
      [.made (.beginCopy source target limit? onDone?) w]
      ((Step.beginCopy source target limit? onDone?).run s w).2 := by
  have marked := Step.marked_run (s := s) (.beginCopy source target limit? onDone?) trivial
    attended.toMarked
  have hRun : ((Step.beginCopy source target limit? onDone?).run s w).2 =
      { w.markCopying source target true with
        copies := w.copies ++ [w.begun source target limit? onDone?] } :=
    congrArg Prod.snd (World.beginCopy_of_free hFree)
  generalize ((Step.beginCopy source target limit? onDone?).run s w).2 = w' at marked hRun ⊢
  have hCopies : w'.copies = w.copies ++ [w.begun source target limit? onDone?] := by
    rw [hRun]
  have hHandlers (j : ChannelId) : (w'.channel j).handlers = (w.channel j).handlers := by
    rw [hRun]
    exact World.handlers_markCopying true
  have hRecord : w'.copy w.copies.length = w.begun source target limit? onDone? :=
    World.copy_append_self hCopies
  have hNone (j : ChannelId) (h : Handler) (hMem : h ∈ (w'.channel j).handlers) :
      h.callback ≠ .copy w.copies.length := by
    intro hCallback
    rw [hHandlers] at hMem
    have hUnfinished := (attended.hung j h hMem _ hCallback).1
    exact Nat.lt_irrefl _ (World.exists_of_unfinished hUnfinished)
  refine ⟨?_, fun _ _ _ hAwaits => absurd hAwaits (Copy.not_awaits rfl rfl), ?_, ⟨nofun, rfl⟩,
    fun j h hMem hCallback => hNone j h hMem hCallback⟩
  · refine .of_own attended (List.forall_mem_singleton.2 trivial)
      (List.forall_mem_singleton.2 not_false) marked ?_ ?_ ?_
      (fun _ _ => List.forall_mem_singleton.2 not_false) ?_ ?_
    · rw [hCopies, List.length_append]
      exact Nat.le_add_right _ _
    · exact fun k' hNe => World.copy_append_ne hCopies hNe
    · intro j h hMem _ _ _
      rwa [hHandlers] at hMem
    · exact fun j h hMem hCallback => absurd hCallback (hNone j h hMem)
    · intro hResting
      rw [hRecord] at hResting
      cases hResting
  · rw [hRecord]

/-- The copy has come to rest, with the one handler that it has noted. -/
theorem rested (engages : s.Engages k start c c.Awaits events w) (hangs : c.Hangs)
    (background : c.onDone?.isSome) (continues : c.Continues k start) :
    s.Respects none start (events ++ [.made (.restCopy k) w]) ((Step.restCopy k).run s w).2 := by
  have attended := engages.respects.ends
  have hExists := World.exists_of_unfinished engages.unfinished
  have fits : (Step.restCopy (σ := σ) k).Fits w := engages.copyBusy
  have hRecord : ((Step.restCopy k).run s w).2.copy k =
      { c with total := (w.copy k).total, phase := .resting } := by
    refine (World.copy_modifyCopy_self _ hExists).trans ?_
    rw [engages.record]
  have own : s.Respects (some k) w [.made (.restCopy k) w] ((Step.restCopy k).run s w).2 := by
    refine .of_own attended (List.forall_mem_singleton.2 fits)
      (List.forall_mem_singleton.2 not_false) (Step.marked_run _ fits attended.toMarked)
      (Nat.le_of_eq (World.length_modifyCopy _).symm)
      (fun k' hNe => World.copy_modifyCopy_ne _ (Ne.symm hNe)) (fun j h hMem _ _ _ => hMem)
      (fun _ _ => List.forall_mem_singleton.2 not_false) ?_ ?_
    · intro j h hMem hCallback
      rw [hRecord]
      exact ⟨rfl, fun _ => engages.left j h hMem hCallback⟩
    · intro _
      rw [hRecord]
      exact ⟨hangs, background⟩
  refine (engages.respects.trans own).close ?_ (.inl ?_) ?_
  · intro hOld
    obtain ⟨hResting, hSource, hTarget, hOnDone⟩ := continues hOld
    rw [hRecord]
    exact ⟨hResting, hSource, hTarget, hOnDone, absurd hResting, fun _ => .inl rfl⟩
  · rw [hRecord]
  · intro _
    rw [hRecord]
    exact engages.stems.beside (List.forall_mem_singleton.2 not_false)

/-- A copy at rest goes on. -/
theorem entered (attended : w.Attended) (hResting : (w.copy k).phase = .resting) :
    s.Engages k w { w.copy k with phase := .moving }
      ({ w.copy k with phase := .moving } : Copy).Awaits [.made (.enterCopy k) w]
      ((Step.enterCopy k).run s w).2 := by
  have hRun : ((Step.enterCopy k).run s w).2 = w.modifyCopy k ({ · with phase := .moving }) := by
    simp only [Step.run, if_pos hResting]
  have hExists := World.exists_of_resting hResting
  have busy : ({ w.copy k with phase := .moving } : Copy).Busy :=
    ⟨(fun hStill => by cases hStill), rfl⟩
  have own : s.Respects (some k) w [.made (.enterCopy k) w] ((Step.enterCopy k).run s w).2 :=
    .recorded attended trivial hRun (fun _ => False.elim) hExists busy
  rw [hRun] at own ⊢
  refine ⟨own, fun j mask handler hAwaits => .inl ⟨hResting, hAwaits, ?_⟩, ?_, busy,
    fun j h hMem hCallback => (attended.hung j h hMem k hCallback).2 hResting⟩
  · exact List.forall_mem_singleton.2 fun givesUp => givesUp.renotes
  rw [World.copy_modifyCopy_self _ hExists]

/-- A copy in the background that has been begun goes on at once, as soon as it has fixed the size
of its chunks. -/
theorem launched (engages : s.Engages k start c (fun _ _ _ => False) events w)
    (background : c.onDone?.isSome) (hSource : c.sourceHandler? = none)
    (hTarget : c.targetHandler? = none) :
    ∃ c', c'.onDone? = c.onDone? ∧
      ((((Step.fixChunk k).run s w).2.grasp (.copy k)).copy k).phase = .resting ∧
      s.Engages k start c' c'.Awaits
        (events ++ [.made (.fixChunk k) w] ++
          [.made (.grasp (.copy k)) ((Step.fixChunk k).run s w).2] ++
            [.made (.enterCopy k) (((Step.fixChunk k).run s w).2.grasp (.copy k))])
        ((Step.enterCopy k).run s (((Step.fixChunk k).run s w).2.grasp (.copy k))).2 := by
  have hExists := World.exists_of_unfinished engages.unfinished
  have hBackground : (w.copy k).onDone?.isSome := by
    rw [engages.record]
    exact background
  have hBare : (w.copy k).sourceHandler? = none ∧ (w.copy k).targetHandler? = none := by
    rw [engages.record]
    exact ⟨hSource, hTarget⟩
  have own : s.Respects (some k) w _ _ :=
    .launched engages.respects.ends engages.copyBusy hBare.1 hBare.2
  obtain ⟨w₁, hFix⟩ : ∃ w₁, w₁ = ((Step.fixChunk k).run s w).2.grasp (.copy k) := ⟨_, rfl⟩
  obtain ⟨chunk, hFixed⟩ : ∃ chunk, w₁.copy k = { w.copy k with chunk, phase := .resting } := by
    refine ⟨max (w.channel (w.copy k).source).bufferSize 1, ?_⟩
    rw [hFix]
    refine (World.copy_modifyCopy_self _ hExists).trans ?_
    rw [if_pos hBackground]
  have hResting : (w₁.copy k).phase = .resting := by rw [hFixed]
  have hRun : ((Step.enterCopy k).run s w₁).2 = w₁.modifyCopy k ({ · with phase := .moving }) := by
    simp only [Step.run, if_pos hResting]
  have hRecord : (w₁.modifyCopy k ({ · with phase := .moving })).copy k =
      { w.copy k with chunk, phase := .moving } := by
    rw [World.copy_modifyCopy_self _ (World.exists_of_resting hResting), hFixed]
  have hLeft (j : ChannelId) (h : Handler)
      (hMem : h ∈ ((w₁.modifyCopy k ({ · with phase := .moving })).channel j).handlers)
      (hCallback : h.callback = .copy k) : False := by
    rw [hFix] at hMem
    exact engages.left j h hMem hCallback
  rw [← hFix, hRun]
  rw [← hFix] at own
  refine ⟨{ c with chunk, phase := .moving }, rfl, hResting,
    by simpa using engages.respects.trans own,
    fun j mask handler hAwaits => absurd hAwaits (Copy.not_awaits hSource hTarget), ?_,
    ⟨(fun hStill => by cases hStill), rfl⟩,
    fun j h hMem hCallback => (hLeft j h hMem hCallback).elim⟩
  rw [hRecord, engages.record]

end Surroundings.Engages

end EventChannel
