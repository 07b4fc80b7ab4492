import EventChannel.Proofs.Copy.Operations

/-! What the programs of a copy do themselves to channels, and not in their calls, they do as long
as the copy is not finished. Meanwhile others may do what they like: they leave the copy under
way. -/

namespace EventChannel

open Program

variable {σ α β : Type}

/-- The step is one on a channel: it reads or writes, or is another operation. -/
def Step.Holds : Step σ α → Prop
  | .hold .. => True
  | _ => False

def Event.Holds : Event σ → Prop
  | .made t _ => t.Holds
  | .called _ _ => False

/-- The step takes or gives up a reference. -/
def Step.Refers : Step σ α → Prop
  | .grasp _ | .letGo _ => True
  | _ => False

theorem Step.Refers.not_holds {t : Step σ α} (refers : t.Refers) : ¬t.Holds := by
  cases t with
  | grasp | letGo => exact not_false
  | _ => cases refers

/-- The step serves a copy under way, which stays under way. -/
def Step.Serves (k : CopyId) : Step σ α → Prop
  | .countCopied k' _ | .setCopyHandlers k' _ _ | .endCopying k' => k' = k
  | .hold _ (.createHandler _ callback) => callback = .copy k
  | _ => False

/-- What programs are made of that serve a copy under way. -/
def serviceParts (k : CopyId) : Parts σ where
  step t := (t.Basic ∨ t.Dispatches) ∨ t.Serves k
  call c := c.Common ∨ c = .moveAll k
  whole _ := False

theorem serviceParts_basic (k : CopyId) : (serviceParts k : Parts σ).Basic where
  step _ basic := .inl (.inl basic)
  call _ := .inl

theorem serviceParts_working (k : CopyId) : (serviceParts k : Parts σ).Working k where
  toTransfers := (serviceParts_basic k).operating.toTransfers
  copy := .inl (.inl trivial)
  count _ := .inr rfl
  moveAll := .inr rfl
  note _ _ := .inr rfl
  leaving j handler := (serviceParts_basic k).operating.operate j (.deleteHandler handler) trivial
  waiting j mask :=
    (serviceParts_basic k).simple.notifying.hold j (.createHandler mask (.copy k)) (.inr rfl)

/-- How far a program has come that serves a copy. -/
inductive Duty
  /-- The copy goes on if it is at rest. -/
  | ready
  | working
  /-- The copy has come to rest or is finished. -/
  | idle

/-- The program serves a copy from some moment on. When the copy has come to rest or is finished,
the program does nothing more to channels. -/
inductive Program.Toils (k : CopyId) : Duty → {α : Type} → Program σ α → Prop
  | done {duty : Duty} {α : Type} (a : α) : Toils k duty (.done a)
  | refer {duty : Duty} {α β : Type} {t : Step σ β} {next : β → Program σ α} (refers : t.Refers)
      (rest : ∀ b, Toils k duty (next b)) : Toils k duty (.step t next)
  | enter {α : Type} {next : Bool → Program σ α} (entered : Toils k .working (next true))
      (missed : Toils k .idle (next false)) : Toils k .ready (.step (.enterCopy k) next)
  | work {α β : Type} {t : Step σ β} {next : β → Program σ α}
      (allowed : (serviceParts k).step t) (rest : ∀ b, Toils k .working (next b)) :
      Toils k .working (.step t next)
  | call {α : Type} {c : Call} {next : c.Answer → Program σ α}
      (allowed : (serviceParts k : Parts σ).call c)
      (rest : ∀ b, Toils k .working (next b)) : Toils k .working (.call c next)
  | launch {α : Type} {next : Unit → Program σ α} (rest : Toils k .ready (next ())) :
      Toils k .working (.step (.fixChunk k) next)
  | rest {α : Type} {next : Unit → Program σ α} (rest : Toils k .idle (next ())) :
      Toils k .working (.step (.restCopy k) next)
  | finish {α : Type} {next : Unit → Program σ α} (rest : Toils k .idle (next ())) :
      Toils k .working (.step (.finishCopy k) next)
  | leave {α : Type} {c : Call} {next : c.Answer → Program σ α}
      (rest : ∀ b, Toils k .idle (next b)) : Toils k .idle (.call c next)

/-- What holds where the program has come so far. -/
def Duty.Stands (k : CopyId) : Duty → World σ → Prop
  | .ready, w =>
    (w.copy k).phase = .resting → (w.modifyCopy k ({ · with phase := .moving })).Attended
  | .working, w => w.Attended ∧ (w.copy k).Busy
  | .idle, _ => True

section

variable {s : Setting σ} {k : CopyId} {w w₁ : World σ} {duty : Duty}

theorem Duty.Stands.congr (stands : duty.Stands k w) (hChannels : w₁.channels = w.channels)
    (hCopies : w₁.copies = w.copies) : duty.Stands k w₁ := by
  cases duty with
  | ready =>
    intro hResting
    rw [World.copy_congr hCopies] at hResting
    refine (stands hResting).congr hChannels ?_
    exact congrArg (List.modify · k _) hCopies
  | working =>
    obtain ⟨attended, busy⟩ := stands
    exact ⟨attended.congr hChannels hCopies, by rwa [World.copy_congr hCopies]⟩
  | idle => trivial

/-- While others are at work, a copy under way stays under way, and its record changes at most in
the number of the bytes moved. -/
theorem Surroundings.Respects.working {events : List (Event σ)}
    (respects : s.Respects none w events w₁) (stands : Duty.working.Stands k w) :
    Duty.working.Stands k w₁ ∧ w₁.copy k = { w.copy k with total := (w₁.copy k).total } := by
  obtain ⟨-, busy⟩ := stands
  have hSame := (respects.lasts k (World.exists_of_unfinished busy.2) nofun).busy busy.1
  refine ⟨⟨respects.ends, ?_⟩, hSame⟩
  rw [hSame]
  exact busy

/-- What serves a copy leaves it under way. -/
theorem stands_served {t : Step σ α} (allowed : (serviceParts k).step t)
    (stands : Duty.working.Stands k w) :
    Duty.working.Stands k (t.run s.toSurroundings w).2 := by
  rcases allowed with basic | serves
  · have respects : s.Respects none w [.made t w] (t.run s.toSurroundings w).2 :=
      .basic stands.1 basic
    exact (respects.working stands).1
  · obtain ⟨attended, busy⟩ := stands
    have hExists := World.exists_of_unfinished busy.2
    have hRenotes (k' : CopyId) (renotes : t.Renotes k') : k' = k := by
      cases t with
      | setCopyHandlers i source? target? => exact renotes.symm.trans serves
      | _ => cases renotes
    have hRecorded {f : Copy → Copy} (fits : t.Fits w)
        (hRun : (t.run s.toSurroundings w).2 = w.modifyCopy k f) (hBusy : (f (w.copy k)).Busy) :
        Duty.working.Stands k (t.run s.toSurroundings w).2 := by
      have own : s.Respects (some k) w [.made t w] (t.run s.toSurroundings w).2 :=
        .recorded attended fits hRun hRenotes hExists hBusy
      refine ⟨own.ends, ?_⟩
      rw [hRun, World.copy_modifyCopy_self f hExists]
      exact hBusy
    cases t with
    | countCopied k' n =>
      obtain rfl : k' = k := serves
      exact hRecorded busy rfl busy
    | setCopyHandlers k' source? target? =>
      obtain rfl : k' = k := serves
      exact hRecorded busy rfl busy
    | endCopying k' =>
      obtain rfl : k' = k := serves
      exact hRecorded busy rfl ⟨nofun, rfl⟩
    | hold j op =>
      cases op with
      | createHandler mask callback =>
        obtain rfl : callback = .copy k := serves
        have own : s.Respects (some k) w [.made (.hold j (.createHandler mask (.copy k))) w]
            ((Step.hold j (.createHandler mask (.copy k))).run s.toSurroundings w).2 := by
          refine .held attended busy fun i h hMem k' hNe hCallback => ?_
          rcases Step.mem_createHandler hMem with hOld | ⟨-, rfl⟩
          · exact hOld
          · exact absurd (Callback.copy.inj hCallback).symm hNe
        exact ⟨own.ends, busy⟩
      | _ => cases serves
    | _ => cases serves

/-- So do the calls, and they leave its record as it is. -/
theorem stands_called (made : s.MadeOf copyParts) {c : Call}
    (allowed : (serviceParts k : Parts σ).call c) (stands : Duty.working.Stands k w)
    {inner : List (Event σ)} {b : c.Answer} (run : s.Runs (s.body c) w inner b w₁) :
    Duty.working.Stands k w₁ ∧ w₁.copy k = { w.copy k with total := (w₁.copy k).total } := by
  have permits : (attendance s.toSurroundings).Permits c [] w := by
    refine ⟨stands.1, List.forall_mem_nil _, ?_⟩
    rcases allowed with common | rfl
    · exact common.due [] w
    · exact stands.2
  have respects : s.Respects none w (.called c w :: inner) w₁ :=
    (honoured_attendance made).course permits run
  exact respects.working stands

/-- What a program does to channels that serves a copy, it does while the copy is not finished. -/
theorem Setting.Does.unfinished (made : s.MadeOf copyParts) {p : Program σ α}
    {events : List (Event σ)} {e : Event σ} (does : s.Does p w events e) (toils : p.Toils k duty)
    (stands : duty.Stands k w) (holds : e.Holds) : (e.before.copy k).unfinished = true := by
  induction does generalizing duty with
  | @here _ t next w =>
    cases duty with
    | working => exact stands.2.2
    | ready =>
      cases toils with
      | refer refers => exact absurd holds refers.not_holds
      | enter => cases holds
    | idle =>
      cases toils with
      | refer refers => exact absurd holds refers.not_holds
  | @step _ t next w events e later ih =>
    cases toils with
    | refer refers rest =>
      refine ih (rest _) (stands.congr ?_ ?_) holds
      · cases t with
        | grasp | letGo => rfl
        | _ => cases refers
      · cases t with
        | grasp | letGo => rfl
        | _ => cases refers
    | enter entered missed =>
      by_cases hResting : (w.copy k).phase = .resting
      · have hRun : (Step.enterCopy k).run s.toSurroundings w =
            (true, w.modifyCopy k ({ · with phase := .moving })) := by
          simp only [Step.run, if_pos hResting]
        have hRecord := World.copy_modifyCopy_self (w := w) ({ · with phase := .moving })
          (World.exists_of_resting hResting)
        rw [hRun] at ih
        refine ih entered ⟨stands hResting, ?_⟩ holds
        rw [hRecord]
        exact ⟨(fun hStill => by cases hStill), rfl⟩
      · have hRun : (Step.enterCopy k).run s.toSurroundings w = (false, w) := by
          simp only [Step.run, if_neg hResting]
        rw [hRun] at ih
        exact ih missed trivial holds
    | work allowed rest => exact ih (rest _) (stands_served allowed stands) holds
    | launch rest => exact ih rest (fun _ => stands.1.launched stands.2) holds
    | rest rest => exact ih rest trivial holds
    | finish rest => exact ih rest trivial holds
  | @call c next w w₁ inner outer b e body later ih =>
    cases toils with
    | call allowed rest => exact ih (rest b) (stands_called made allowed stands body).1 holds
    | leave rest => exact ih (rest b) trivial holds

namespace Program.Toils

/-- One program after the other serves the copy. -/
theorem bind {p : Program σ α} {f : α → Program σ β} (first : p.Toils k duty)
    (second : ∀ duty a, (f a).Toils k duty) : (p >>= f).Toils k duty := by
  show (p.bind f).Toils k duty
  induction first with
  | done a => exact second _ a
  | refer refers rest ih => exact .refer refers fun b => ih b second
  | enter entered missed ihEntered ihMissed => exact .enter (ihEntered second) (ihMissed second)
  | work allowed rest ih => exact .work allowed fun b => ih b second
  | call allowed rest ih => exact .call allowed fun b => ih b second
  | launch rest ih => exact .launch (ih second)
  | rest rest ih => exact .rest (ih second)
  | finish rest ih => exact .finish (ih second)
  | leave rest ih => exact .leave fun b => ih b second

/-- The copy is under way until a program has ended that only serves it. -/
theorem of_made {p : Program σ α} {f : α → Program σ β} (made : p.MadeOf (serviceParts k))
    (second : ∀ a, (f a).Toils k .working) : (p >>= f).Toils k .working := by
  show (p.bind f).Toils k .working
  induction made with
  | done a => exact second a
  | step allowed rest ih => exact .work allowed fun b => ih b
  | call allowed rest ih => exact .call allowed fun b => ih b
  | whole allowed => exact absurd allowed not_false

theorem work_bind {t : Step σ α} {f : α → Program σ β} (allowed : (serviceParts k).step t)
    (second : ∀ a, (f a).Toils k .working) : (act t >>= f).Toils k .working :=
  .work allowed second

theorem enter_bind {f : Bool → Program σ α} (entered : (f true).Toils k .working)
    (missed : (f false).Toils k .idle) : (act (.enterCopy k) >>= f).Toils k .ready :=
  .enter entered missed

theorem launch_bind {f : Unit → Program σ α} (second : (f ()).Toils k .ready) :
    (act (.fixChunk k) >>= f).Toils k .working :=
  .launch second

theorem finish_bind {f : Unit → Program σ α} (second : (f ()).Toils k .idle) :
    (act (.finishCopy k) >>= f).Toils k .working :=
  .finish second

end Program.Toils

theorem toils_endCopy (error? : Option Report) :
    (endCopy k error? : Program σ Unit).Toils k .working := by
  have working := serviceParts_working (σ := σ) k
  refine .work_bind (.inr rfl) fun _ => .work_bind working.copy fun c => ?_
  refine .work_bind (working.note _ _) fun _ => ?_
  refine .of_made (working.deleteHandler? c.source c.sourceHandler?) fun _ => ?_
  refine .of_made (working.deleteHandler? c.target c.targetHandler?) fun _ => ?_
  refine .of_made (working.switchModes c.source c.target c.savedModes) fun _ => ?_
  refine .finish_bind ?_
  cases c.onDone? with
  | some r => exact .leave fun _ => .done ()
  | none => exact .done ()

theorem toils_advance : (advance k : Program σ Unit).Toils k .ready := by
  have working := serviceParts_working (σ := σ) k
  refine .enter_bind ?_ (.done ())
  rw [if_pos rfl]
  refine .of_made working.copyStep fun step => ?_
  cases step with
  | waitReadable => exact .of_made working.waitForSource fun _ => .rest (.done ())
  | waitWritable => exact .of_made working.waitForTarget fun _ => .rest (.done ())
  | ended error? => exact toils_endCopy error?

theorem toils_referring {e : Entity} {p : Program σ α} (toils : p.Toils k duty) :
    (referring e p).Toils k duty :=
  .refer (t := .grasp e) trivial fun _ =>
    toils.bind fun _ a => .refer (t := .letGo e) trivial fun _ => .done a

/-- What is called for a copy does to channels what it does while the copy is not finished. -/
theorem unfinished_advance (made : s.MadeOf copyParts) (attended : w.Attended)
    {events : List (Event σ)} {e : Event σ} (does : s.Does (advance k) w events e)
    (holds : e.Holds) : (e.before.copy k).unfinished = true := by
  refine does.unfinished made toils_advance (fun hResting => ?_) holds
  have entered := (Surroundings.Engages.entered (s := s.toSurroundings) attended hResting).respects
  simpa only [Step.run, if_pos hResting] using entered.ends

/-- So does what starts a copy in the background. -/
theorem unfinished_copyInBackground (made : s.MadeOf copyParts) (attended : w.Attended)
    {source target : ChannelId} {limit? : Option Nat} {onDone : RoutineId}
    {events : List (Event σ)} {e : Event σ}
    (does : s.Does (copyInBackground source target limit? onDone) w events e) (holds : e.Holds) :
    (e.before.copy w.copies.length).unfinished = true := by
  cases does with
  | here => cases holds
  | step does =>
    cases hObstacle : w.copyObstacle? source target with
    | some m =>
      have hAnswer : ((Step.beginCopy source target limit? (some onDone)).run
          s.toSurroundings w).1 = .error m :=
        congrArg Prod.fst (World.beginCopy_of_obstacle hObstacle)
      rw [hAnswer] at does
      cases does
    | none =>
      have begun : s.Engages w.copies.length w (w.begun source target limit? (some onDone)) _
          [.made (.beginCopy source target limit? (some onDone)) w] _ :=
        .begun attended hObstacle
      have hAnswer : ((Step.beginCopy source target limit? (some onDone)).run
          s.toSurroundings w).1 = .ok w.copies.length :=
        congrArg Prod.fst (World.beginCopy_of_free hObstacle)
      rw [hAnswer] at does
      have working := serviceParts_working (σ := σ) w.copies.length
      have stands : Duty.working.Stands w.copies.length
          ((Step.beginCopy source target limit? (some onDone)).run s.toSurroundings w).2 :=
        ⟨begun.respects.ends, begun.copyBusy⟩
      refine does.unfinished made ?_ stands holds
      show Toils _ _ (switchModes source target (false, false) >>= _)
      refine .of_made (working.switchModes source target (false, false)) fun switched => ?_
      cases switched with
      | error r =>
        refine .work_bind working.copy fun c => ?_
        refine .of_made (working.switchModes source target c.savedModes) fun _ => ?_
        exact .finish_bind (.done _)
      | ok done =>
        exact .launch_bind ((toils_referring toils_advance).bind fun _ _ => .done _)

end

end EventChannel
