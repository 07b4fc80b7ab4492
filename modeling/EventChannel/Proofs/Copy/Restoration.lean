import EventChannel.Proofs.Copy.Engaged
import EventChannel.Proofs.World.Modes
import EventChannel.Proofs.World.Watch

/-! At its end a copy in the background switches its channels back to the modes that it has found
them in, and then calls its routine. The source comes first; if it cannot be switched back, the
target is not tried. -/

namespace EventChannel

open Program

variable {σ α β : Type}

section

variable {s : Surroundings σ} {w w' : World σ} {events first second : List (Event σ)}
  {j : ChannelId} {on : Bool}

/-- Whenever a mode is chosen for a channel it is this one, and the driver agrees. -/
def Surroundings.Settles (s : Surroundings σ) (j : ChannelId) (on : Bool)
    (events : List (Event σ)) : Prop :=
  ∀ e ∈ events, ∀ wanted answer, ⟨.setBlocking wanted, answer⟩ ∈ e.calls s j →
    wanted = on ∧ answer = .ok ()

theorem Surroundings.Settles.mono (settles : s.Settles j on events) (hSub : first ⊆ events) :
    s.Settles j on first :=
  fun e hMem => settles e (hSub hMem)

theorem lastMode_settled {calls : List DriverEvent}
    (settles : ∀ wanted answer, ⟨.setBlocking wanted, answer⟩ ∈ calls →
      wanted = on ∧ answer = .ok ()) : lastMode on calls = on := by
  induction calls with
  | nil => rfl
  | cons e rest ih =>
    have hFirst : e.mode?.getD on = on := by
      obtain ⟨call, answer⟩ := e
      cases call with
      | setBlocking wanted =>
        obtain ⟨rfl, rfl⟩ := settles wanted answer List.mem_cons_self
        rfl
      | _ => rfl
    show lastMode (e.mode?.getD on) rest = on
    rw [hFirst]
    exact ih fun wanted answer hMem => settles wanted answer (List.mem_cons_of_mem _ hMem)

namespace Surroundings.Leads

/-- A channel that is in a mode stays in it if no other is chosen. -/
theorem settled (history : s.Leads w events w') (hExists : j < w.channels.length)
    (settles : s.Settles j on events) (hMode : (w.channel j).blocking = on) :
    (w'.channel j).blocking = on := by
  induction history with
  | refl => exact hMode
  | snoc e prior ih =>
    have hBefore := ih (settles.mono (List.subset_append_left _ _))
    have hThere := Nat.lt_of_lt_of_le hExists prior.length
    cases e with
    | called c v => exact hBefore
    | made t v =>
      have hLast : lastMode on (t.calls s j v) = on :=
        lastMode_settled (settles (.made t v) (by simp))
      rw [← show (v.channel j).blocking = on from hBefore] at hLast ⊢
      exact (t.agrees_run hThere).1.trans hLast

/-- A channel that is closed stays in the mode that it is in. -/
theorem mode_shut (history : s.Leads w events w') (hExists : j < w.channels.length)
    (hShut : (w.channel j).isOpen = false) :
    (w'.channel j).blocking = (w.channel j).blocking := by
  induction history with
  | refl => rfl
  | snoc e prior ih =>
    have hThere := Nat.lt_of_lt_of_le hExists prior.length
    refine Eq.trans ?_ ih
    cases e with
    | called c v => rfl
    | made t v => exact t.mode_shut hThere (prior.shut hExists hShut)

end Surroundings.Leads

/-- A channel is in a mode, unless it is closed. -/
def World.InMode (w : World σ) (j : ChannelId) (on : Bool) : Prop :=
  (w.channel j).isOpen = true → (w.channel j).blocking = on

/-- Two channels are in their modes as far as they are open, or the first has been closed in another
mode than its own. -/
def World.GivenBack (w : World σ) (source target : ChannelId) (modes : Bool × Bool) : Prop :=
  w.InMode source modes.1 ∧ w.InMode target modes.2 ∨
    (w.channel source).isOpen = false ∧ (w.channel source).blocking ≠ modes.1

/-- What the switch of a channel to a mode leads to, if nobody interferes: the channel is in that
mode, or it is closed in another one. -/
def Surroundings.Turns (s : Surroundings σ) (j : ChannelId) (on : Bool) (w : World σ)
    (events : List (Event σ)) (answer : Except Report Unit) (w' : World σ) : Prop :=
  j < w.channels.length → s.Settles j on events →
    (answer = .ok () → (w'.channel j).blocking = on) ∧
      ∀ r, answer = .error r → (w'.channel j).isOpen = false ∧ (w'.channel j).blocking ≠ on

/-- Nobody interferes after the switch either. -/
theorem Surroundings.Turns.trans {w₁ : World σ} {answer : Except Report Unit}
    (turns : s.Turns j on w first answer w₁) (history : s.Leads w first w₁)
    (later : s.Leads w₁ second w') : s.Turns j on w (first ++ second) answer w' := by
  intro hExists settles
  have hThere := Nat.lt_of_lt_of_le hExists history.length
  obtain ⟨hDone, hFailed⟩ := turns hExists (settles.mono (List.subset_append_left _ _))
  constructor
  · exact fun hOk => later.settled hThere (settles.mono (List.subset_append_right _ _)) (hDone hOk)
  · intro r hError
    obtain ⟨hShut, hMode⟩ := hFailed r hError
    exact ⟨later.shut hThere hShut, by rwa [later.mode_shut hThere hShut]⟩

/-- The switch itself. -/
theorem turns_setBlocking (hMode : (w.channel j).blocking ≠ on) :
    s.Turns j on w [.made (.hold j (.setBlocking on)) w]
      ((Step.hold j (.setBlocking on)).run s w).1.1
      ((Step.hold j (.setBlocking on)).run s w).2 := by
  intro hExists settles
  refine ⟨Step.blocking_of_set, fun r hError => ?_⟩
  have hShut : (w.channel j).isOpen = false := by
    cases hOpen : (w.channel j).isOpen with
    | false => rfl
    | true =>
      rw [Step.set_of_open hOpen] at hError
      · cases hError
      · intro e hMem
        obtain ⟨-, hAnswer⟩ := settles _ (List.mem_singleton_self _) on (.error e) hMem
        cases hAnswer
  refine ⟨Step.shut_run _ hExists hShut, ?_⟩
  rwa [Step.mode_shut _ hExists hShut]

end

/-- The operation that ends a copy in the background. -/
inductive EndWhole : {α : Type} → Program σ α → Prop
  | ended {k : CopyId} {error? : Option Report} : EndWhole (endCopy k error?)

/-- The call is the routine of a copy in the background. -/
def Call.Completes : Call → Prop
  | .user (.completed ..) => True
  | _ => False

theorem Call.Common.not_completes {c : Call} (common : c.Common) : ¬c.Completes := by
  cases c with
  | user u =>
    cases u with
    | completed r total error? => cases common
    | _ => exact not_false
  | _ => exact not_false

/-- What programs are made of that call no routines of copies. -/
def silentParts : Parts σ where
  step _ := True
  call c := ¬c.Completes
  whole _ := False

/-- What programs are made of that call the routines of copies only at the end of these. -/
def endingParts : Parts σ := { silentParts with whole := EndWhole }

theorem silentParts_basic : (silentParts : Parts σ).Basic where
  step _ _ := trivial
  call _ := Call.Common.not_completes

theorem endingParts_basic : (endingParts : Parts σ).Basic where
  step _ _ := trivial
  call _ := Call.Common.not_completes

theorem endingParts_undertaking : (endingParts : Parts σ).Undertaking where
  toTransfers := endingParts_basic.operating.toTransfers
  step _ _ := trivial
  working k :=
    { toTransfers := endingParts_basic.operating.toTransfers
      copy := trivial
      count := fun _ => trivial
      moveAll := not_false
      note := fun _ _ => trivial
      leaving := fun j handler =>
        endingParts_basic.operating.operate j (.deleteHandler handler) trivial
      waiting := fun j mask =>
        endingParts_basic.simple.notifying.hold j (.createHandler mask (.copy k)) trivial }
  ending _ _ := .of_whole .ended

theorem Program.MadeOf.toEndingParts {p : Program σ α} (made : p.MadeOf copyParts) :
    p.MadeOf endingParts :=
  made.mono (fun _ _ => trivial) (fun _ => Call.Common.not_completes) fun _ allowed => by
    cases allowed with
    | waited => exact endingParts_undertaking.starting.copy _ _ _
    | background => exact endingParts_undertaking.starting.copyInBackground _ _ _ _

/-- When a routine is called for a copy: the copy has begun to end, and since then it has given the
modes back that it has kept. -/
def Surroundings.Returned (s : Surroundings σ) : Call → List (Event σ) → World σ → Prop
  | .user (.completed r _ _), past, w => ∃ k first y ending,
      past = first ++ .made (.endCopying k) y :: ending ∧ (y.copy k).onDone? = some r ∧
        ((y.copy k).source ≠ (y.copy k).target → (y.copy k).source < y.channels.length →
          (y.copy k).target < y.channels.length →
          s.Settles (y.copy k).source (y.copy k).savedModes.1 ending →
          s.Settles (y.copy k).target (y.copy k).savedModes.2 ending →
          w.GivenBack (y.copy k).source (y.copy k).target (y.copy k).savedModes)
  | _, _, _ => True

theorem Surroundings.returned_of_not {s : Surroundings σ} {c : Call} (hNot : ¬c.Completes)
    (past : List (Event σ)) (w : World σ) : s.Returned c past w := by
  cases c with
  | user u =>
    cases u with
    | completed r total error? => exact absurd trivial hNot
    | _ => trivial
  | _ => trivial

/-- Programs call the routines of copies when the modes have been given back. -/
def restitution (s : Surroundings σ) : Discipline σ where
  world _ := True
  event _ := True
  due := s.Returned
  course := s.Leads
  refl _ := .refl
  trans := .trans
  called _ := .cons (.called _ _) .refl
  ends _ := trivial
  each _ _ _ := trivial

section

variable {s : Setting σ} {k : CopyId} {w w' : World σ} {past : List (Event σ)} {j : ChannelId}
  {on : Bool} {Q : List (Event σ) → β → World σ → Prop}

theorem governs_silentParts :
    (restitution s.toSurroundings).Governs s (fun _ => True) silentParts where
  stable _ _ := trivial
  step t w _ _ _ := Surroundings.Leads.cons (.made t w) .refl
  call _ past w allowed _ _ := Surroundings.returned_of_not allowed past w
  whole _ allowed := absurd allowed not_false

/-- A channel is switched to a mode, and others may be called meanwhile. -/
theorem wp_switchMode {f : Except Report Unit → Program σ β}
    (next : ∀ inner answer w', s.Leads w inner w' →
      s.Turns j on w inner answer w' →
      (f answer).wp s.toSurroundings (restitution s.toSurroundings).contract Q (past ++ inner) w') :
    (switchMode j on >>= f).wp s.toSurroundings (restitution s.toSurroundings).contract Q
      past w := by
  have looked : s.Leads w [.made (.look j) w] w := .cons (.made (.look j) w) .refl
  apply wp_bind.2
  apply wp_look.2
  split
  · next hMode =>
    refine next _ _ _ looked fun hExists settles => ⟨fun _ => ?_, fun r hError => ?_⟩
    · exact looked.settled hExists settles hMode
    · cases hError
  · next hMode =>
    have chosen : s.Leads w [.made (.hold j (.setBlocking on)) w]
        ((Step.hold j (.setBlocking on)).run s.toSurroundings w).2 :=
      .cons (.made (.hold j (.setBlocking on)) w) .refl
    have notifies (raised : Interest) := governs_silentParts.keeps (s := s)
      (silentParts_basic.simple.notifying.notify j raised)
    refine wp_bind.1 (Discipline.wp_hold_bind notifies trivial trivial (fun _ _ => trivial) ?_)
    rintro past' w' ⟨inner, rfl, later⟩
    rw [List.append_assoc, List.append_assoc]
    have turns := (turns_setBlocking hMode).trans chosen later
    refine next _ _ _ (looked.trans (chosen.trans later)) fun hExists settles => ?_
    exact turns hExists (settles.mono (List.subset_append_right _ _))

/-- Of two channels that are switched to their modes the second is in its mode, or closed, unless
the first has been closed in another. -/
theorem wp_switchModes {source target : ChannelId} {modes : Bool × Bool}
    {f : Except Report Unit → Program σ β}
    (next : ∀ inner answer w', s.Leads w inner w' →
      (source ≠ target → source < w.channels.length → target < w.channels.length →
        s.Settles source modes.1 inner → s.Settles target modes.2 inner →
        w'.GivenBack source target modes) →
      (f answer).wp s.toSurroundings (restitution s.toSurroundings).contract Q (past ++ inner) w') :
    (switchModes source target modes >>= f).wp s.toSurroundings
      (restitution s.toSurroundings).contract Q past w := by
  apply wp_bind.2
  apply wp_switchMode
  intro first answer w₁ forth turned
  cases answer with
  | error r =>
    refine next _ _ _ forth fun _ hSource _ settles _ => .inr ?_
    exact (turned hSource settles).2 r rfl
  | ok done =>
    dsimp only
    split
    · next hIs => exact next _ _ _ forth fun hNe => absurd hIs hNe
    · apply wp_mono (Q := fun past' answer w' => ∃ second, past' = past ++ first ++ second ∧
        s.Leads w₁ second w' ∧ s.Turns target modes.2 w₁ second answer w')
      · rintro past' answer w' ⟨second, rfl, back, turnedBack⟩
        rw [List.append_assoc]
        refine next _ _ _ (forth.trans back) fun _ hSource hTarget settles settles' => .inl ⟨?_, ?_⟩
        · have hMode := (turned.trans forth back hSource settles).1 rfl
          exact fun _ => hMode
        · intro hOpen
          obtain ⟨hDone, hFailed⟩ := turnedBack (Nat.lt_of_lt_of_le hTarget forth.length)
            (settles'.mono (List.subset_append_right _ _))
          cases answer with
          | ok done => exact hDone rfl
          | error r =>
            rw [(hFailed r rfl).1] at hOpen
            cases hOpen
      · rw [← bind_done (switchMode target modes.2)]
        apply wp_switchMode
        exact fun second answer w' back turnedBack => ⟨second, rfl, back, turnedBack⟩

theorem wp_unhook {id? : Option HandlerId} {f : Unit → Program σ β}
    (next : ∀ inner w', s.Leads w inner w' →
      (f ()).wp s.toSurroundings (restitution s.toSurroundings).contract Q (past ++ inner) w') :
    (deleteHandler? j id? >>= f).wp s.toSurroundings (restitution s.toSurroundings).contract Q
      past w := by
  have made : (deleteHandler? j id? : Program σ Unit).MadeOf silentParts := by
    cases id? with
    | none => exact .done ()
    | some handler => exact silentParts_basic.operating.operate j (.deleteHandler handler) trivial
  refine Discipline.wp_bind_of (governs_silentParts.keeps made) trivial trivial
    (fun _ _ => trivial) ?_
  rintro past' _ w' ⟨inner, rfl, history⟩
  exact next inner w' history

/-- To give channels free changes nothing about their modes. -/
theorem World.GivenBack.finishCopy {source target : ChannelId} {modes : Bool × Bool}
    (given : w.GivenBack source target modes) :
    ((Step.finishCopy k).run s.toSurroundings w).2.GivenBack source target modes := by
  have hOpen (j : ChannelId) : (((Step.finishCopy k).run s.toSurroundings w).2.channel j).isOpen =
      (w.channel j).isOpen := World.view_markCopying (fun _ _ => rfl) false
  have hMode (j : ChannelId) :
      (((Step.finishCopy k).run s.toSurroundings w).2.channel j).blocking =
        (w.channel j).blocking := World.view_markCopying (fun _ _ => rfl) false
  simpa only [World.GivenBack, World.InMode, hOpen, hMode] using given

/-- At its end a copy gives the modes back. -/
theorem keeps_endCopy (k : CopyId) (error? : Option Report) :
    (restitution s.toSurroundings).Keeps s (fun _ => True) (endCopy k error?) := by
  intro past w _ _ _
  apply wp_act.2
  have hTerms : (((Step.endCopying k).run s.toSurroundings w).2.copy k).terms =
      (w.copy k).terms := by
    rcases World.copy_modifyCopy (w := w) ({ · with phase := .ending }) k with hSame | ⟨-, hEnds⟩
    · exact congrArg Copy.terms hSame
    · exact (congrArg Copy.terms hEnds).trans rfl
  have ends : s.Leads w [.made (.endCopying k) w] ((Step.endCopying k).run s.toSurroundings w).2 :=
    .cons (.made (.endCopying k) w) .refl
  generalize ((Step.endCopying k).run s.toSurroundings w).2 = w₁ at hTerms ends ⊢
  apply wp_copy.2
  apply wp_act.2
  have noted : s.Leads w₁ [.made (.copy k) w₁, .made (.setCopyHandlers k none none) w₁] _ :=
    .cons (.made (.copy k) w₁) (.cons (.made (.setCopyHandlers k none none) w₁) .refl)
  simp only [Copy.terms, Prod.mk.injEq] at hTerms
  obtain ⟨hSource, hTarget, -, hModes, hOnDone⟩ := hTerms
  rw [hSource, hTarget, hModes, hOnDone]
  generalize w₁.copy k = c
  apply wp_unhook
  intro first w₂ unhooked
  apply wp_unhook
  intro second w₃ unhooked'
  apply wp_switchModes
  intro third _ w₄ switched given
  apply wp_act.2
  have before := noted.trans (unhooked.trans unhooked')
  have finished : s.Leads w₄ [.made (.finishCopy k) w₄]
      ((Step.finishCopy k).run s.toSurroundings w₄).2 := .cons (.made (.finishCopy k) w₄) .refl
  have ended := before.trans (switched.trans finished)
  generalize hEnding : [Event.made (.copy k) w₁, .made (.setCopyHandlers k none none) w₁] ++
    (first ++ second) ++ (third ++ [.made (.finishCopy k) w₄]) = ending at ended
  have hSub : third ⊆ ending := fun e hMem => by simp [← hEnding, hMem]
  have hPast : past ++ [.made (.endCopying k) w] ++ [.made (.copy k) w₁] ++
      [.made (.setCopyHandlers k none none) w₁] ++ first ++ second ++ third ++
        [.made (.finishCopy k) w₄] = past ++ .made (.endCopying k) w :: ending := by
    simp [← hEnding]
  rw [hPast]
  have history : s.Leads w (.made (.endCopying k) w :: ending) _ := ends.trans ended
  cases hRoutine : (w.copy k).onDone? with
  | none => exact ⟨_, rfl, history⟩
  | some r =>
    refine ⟨⟨trivial, fun _ _ => trivial, k, past, w, ending, rfl, hRoutine, ?_⟩, ?_⟩
    · intro hNe hSource hTarget settles settles'
      have hLength := Nat.le_trans ends.length before.length
      exact (given hNe (Nat.lt_of_lt_of_le hSource hLength) (Nat.lt_of_lt_of_le hTarget hLength)
        (settles.mono hSub) (settles'.mono hSub)).finishCopy
    · rintro past' _ w' ⟨inner, rfl, called⟩
      exact ⟨_, List.append_assoc .., history.trans called⟩

theorem governs_endingParts :
    (restitution s.toSurroundings).Governs s (fun _ => True) endingParts where
  stable _ _ := trivial
  step t w _ _ _ := Surroundings.Leads.cons (.made t w) .refl
  call _ past w allowed _ _ := Surroundings.returned_of_not allowed past w
  whole _ allowed := by
    cases allowed with
    | ended => exact keeps_endCopy _ _

theorem honoured_restitution (made : s.MadeOf endingParts) :
    (restitution s.toSurroundings).Honoured s :=
  Discipline.honoured_of fun c _ _ permits =>
    have body := made.body endingParts_undertaking.starting (fun _ _ => not_false) c
    (governs_endingParts.keeps body).called trivial permits

end

section

variable {s : Surroundings σ} {w w' : World σ} {events : List (Event σ)} {k : CopyId}

/-- A copy keeps the terms on which it was begun. -/
theorem Surroundings.Leads.begun (history : s.Leads w events w') (hNew : w.copies.length ≤ k)
    (hThere : k < w'.copies.length) : ∃ source target limit? onDone? x,
      .made (.beginCopy source target limit? onDone?) x ∈ events ∧ x.copies.length = k ∧
        x.copyObstacle? source target = none ∧
          (w'.copy k).terms = (x.begun source target limit? onDone?).terms := by
  induction history with
  | refl => exact absurd hThere (Nat.not_lt_of_le hNew)
  | @snoc events e prior ih =>
    cases e with
    | called c v =>
      obtain ⟨source, target, limit?, onDone?, x, hMem, hBegun⟩ := ih hThere
      exact ⟨source, target, limit?, onDone?, x, List.mem_append_left _ hMem, hBegun⟩
    | made t v =>
      by_cases hOld : k < v.copies.length
      · obtain ⟨source, target, limit?, onDone?, x, hMem, hIs, hFree, hTerms⟩ := ih hOld
        exact ⟨source, target, limit?, onDone?, x, List.mem_append_left _ hMem, hIs, hFree,
          (t.terms_run hOld).trans hTerms⟩
      · obtain ⟨source, target, limit?, onDone?, hEvent, hIs, hFree, hBegun⟩ :=
          t.begun_run (s := s) (Nat.le_of_not_lt hOld) hThere
        refine ⟨source, target, limit?, onDone?, v, ?_, hIs, hFree, congrArg Copy.terms hBegun⟩
        rw [← hEvent]
        exact List.mem_append_right _ (List.mem_singleton_self _)

end

/-- When the routine of a copy in the background is called, the copy has come to its end before;
and each of its two channels, if it is still open, is in the mode that it had when the copy was
begun. This is so if drivers agree to those modes and nobody chooses others while the copy ends, but
not for the target if the source has been closed in another mode than its own. -/
theorem modes_given_back {s : Setting σ} {w w' v : World σ} {events before after : List (Event σ)}
    (settingMade : s.MadeOf copyParts) {p : Program σ α} (made : p.MadeOf copyParts)
    (hNone : w.copies = []) (run : s.Begins p w events w') {r : RoutineId} {total : Nat}
    {error? : Option Report}
    (hCalled : events = before ++ .called (.user (.completed r total error?)) v :: after) :
    ∃ source target limit? x first k y ending,
      before = first ++ .made (.endCopying k) y :: ending ∧
      .made (.beginCopy source target limit? (some r)) x ∈ first ∧ x.copies.length = k ∧
      x.copyObstacle? source target = none ∧
      (source ≠ target → s.Settles source (x.channel source).blocking ending →
        s.Settles target (x.channel target).blocking ending →
        v.GivenBack source target
          ((x.channel source).blocking, (x.channel target).blocking)) := by
  have settingEnds : s.MadeOf endingParts :=
    { routine := fun u => (settingMade.routine u).toEndingParts
      fire := fun h r => (settingMade.fire h r).toEndingParts }
  obtain ⟨-, allowed⟩ := (governs_endingParts.keeps made.toEndingParts).of_begins
    (honoured_restitution settingEnds) run trivial trivial
  obtain ⟨-, -, k, first, y, ending, hBefore, hRoutine, hGiven⟩ :=
    allowed before (.user (.completed r total error?)) v after hCalled
  rw [List.nil_append] at hBefore
  subst hCalled hBefore
  have history : s.Leads w first y := run.leads.up_to.up_to
  have hThere : k < y.copies.length := by
    refine Nat.lt_of_not_le fun hAbsent => ?_
    rw [World.copy, World.copy?, List.getElem?_eq_none hAbsent] at hRoutine
    cases hRoutine
  obtain ⟨source, target, limit?, onDone?, x, hMem, hIs, hFree, hTerms⟩ :=
    history.begun (by rw [hNone]; exact Nat.zero_le k) hThere
  simp only [Copy.terms, Prod.mk.injEq] at hTerms
  obtain ⟨hSource, hTarget, -, hModes, hOnDone⟩ := hTerms
  rw [hSource, hTarget, hModes] at hGiven
  obtain rfl : onDone? = some r := hOnDone.symm.trans hRoutine
  obtain ⟨⟨hSourceThere, -⟩, hTargetThere, -⟩ := World.free_of_obstacle hFree
  have hLength : x.channels.length ≤ y.channels.length := by
    obtain ⟨earlier, later, rfl⟩ := List.append_of_mem hMem
    exact (Surroundings.Leads.cons (.made _ x) history.beyond).length
  refine ⟨source, target, limit?, x, first, k, y, ending, rfl, hMem, hIs, hFree,
    fun hNe settles settles' => hGiven hNe ?_ ?_ settles settles'⟩
  · exact Nat.lt_of_lt_of_le hSourceThere hLength
  · exact Nat.lt_of_lt_of_le hTargetThere hLength

/-- One byte is copied to a target that takes it at the second try. Meanwhile the source may be
closed. -/
def partingSetting : Setting Bool where
  driver id call tried := match id, call with
    | 0, .input room =>
      { answer := .ok ⟨[1].take room, List.length_take_le _ _⟩, env := tried }
    | 1, .output bytes =>
      { answer := if tried then .ok ⟨(bytes.take 1).length, List.length_take_le' 1 bytes⟩
          else .error .wouldBlock
        env := true }
    | _, call => { answer := call.unsupported, env := tried }
  ready _ _ := .none
  users _ _ := false
  routine u := .done u.unit
  fire _ _ := .done ()

def partingWorld : World Bool where
  channels := [{ name := "source", type := "file", mode := .readOnly },
    { name := "target", type := "file", mode := .writeOnly }]
  env := false

def partingProgram (closes : Bool) : Program Bool Unit := do
  let _ ← copyInBackground 0 1 (some 1) 0
  if closes then
    let _ ← close 0
  notify 1 .writing

theorem madeOf_partingSetting : partingSetting.MadeOf copyParts where
  routine _ := .done _
  fire _ _ := .done ()

theorem madeOf_partingProgram (closes : Bool) : (partingProgram closes).MadeOf copyParts := by
  have operating : (copyParts : Parts Bool).Operating := copyParts_basic.operating
  refine MadeOf.bind (.of_whole .background) fun _ => ?_
  cases closes with
  | true => exact (operating.close 0).bind fun _ => operating.notify 1 .writing
  | false => exact operating.notify 1 .writing

/-- The call of the routine of a copy that has not failed: how many bytes were copied, and where. -/
def Event.completion? : Event σ → Option (Nat × World σ)
  | .called (.user (.completed _ total none)) v => some (total, v)
  | _ => none

theorem Event.of_completion? {e : Event σ} {total : Nat} {v : World σ}
    (hIs : e.completion? = some (total, v)) :
    ∃ r, e = .called (.user (.completed r total none)) v := by
  unfold completion? at hIs
  split at hIs
  · cases hIs
    exact ⟨_, rfl⟩
  · cases hIs

/-- What happens from when a copy begins to end. -/
def sinceEnding : List (Event σ) → List (Event σ)
  | [] => []
  | .made (.endCopying _) _ :: rest => rest
  | _ :: rest => sinceEnding rest

theorem subset_sinceEnding {k : CopyId} {y : World σ} {ending : List (Event σ)}
    (first : List (Event σ)) :
    ending ⊆ sinceEnding (first ++ .made (.endCopying k) y :: ending) := by
  induction first with
  | nil => exact List.Subset.refl _
  | cons e rest ih =>
    rw [List.cons_append]
    unfold sinceEnding
    split
    · next hNil => cases hNil
    · next hCons =>
      cases hCons
      exact List.subset_append_of_subset_right _ (List.subset_cons_self _ _)
    · next hCons =>
      cases hCons
      exact ih

/-- The call chooses no other mode than this one, and the driver agrees. -/
def DriverEvent.settles (on : Bool) : DriverEvent → Bool
  | ⟨.setBlocking wanted, answer⟩ => wanted == on && answer.isOk
  | _ => true

theorem settles_of_all {s : Surroundings σ} {events : List (Event σ)} {j : ChannelId} {on : Bool}
    (hAll : events.all (fun e => (e.calls s j).all (·.settles on)) = true) :
    s.Settles j on events := by
  intro e hMem wanted answer hCall
  have hEach := List.all_eq_true.1 (List.all_eq_true.1 hAll e hMem) _ hCall
  obtain ⟨hWanted, hAgrees⟩ := Bool.and_eq_true_iff.1 hEach
  refine ⟨eq_of_beq hWanted, ?_⟩
  cases answer with
  | ok done => rfl
  | error e => cases hAgrees

/-- If a copy is begun, it is one between the two channels while both are in blocking mode. -/
def Event.beginsBlocking : Event σ → Bool
  | .made (.beginCopy source target _ _) x =>
    source == 0 && target == 1 && (x.channel 0).blocking && (x.channel 1).blocking
  | _ => true

/-- Where nothing is closed, both channels are in blocking mode again. -/
theorem modes_given_back_parting :
    ∃ events w' before r v after, partingSetting.Runs (partingProgram false) partingWorld events ()
        w' ∧
      events = before ++ .called (.user (.completed r 1 none)) v :: after ∧
      (v.channel 0).blocking = true ∧ (v.channel 1).blocking = true := by
  let settled (j : ChannelId) (e : Event Bool) : Bool :=
    (e.calls partingSetting.toSurroundings j).all (·.settles true)
  have hTrace : (partingSetting.trace 4 (partingProgram false) partingWorld).any (fun r =>
      (r.1.all (·.beginsBlocking) && (sinceEnding r.1).all (settled 0) &&
        (sinceEnding r.1).all (settled 1)) &&
      r.1.any fun e => e.completion?.any fun (total, v) =>
        decide (total = 1 ∧ (v.channel 0).isOpen = true ∧ (v.channel 1).isOpen = true)) =
      true := by
    decide +kernel
  obtain ⟨events, a, w', run, hChecked⟩ := Setting.exists_runs hTrace
  simp only [Bool.and_eq_true] at hChecked
  obtain ⟨⟨⟨hParts, hSource⟩, hTarget⟩, hCompletes⟩ := hChecked
  obtain ⟨e, hMem, hCompletes⟩ := List.any_eq_true.1 hCompletes
  obtain ⟨⟨total, v⟩, hIs, hHolds⟩ := (Option.any_eq_true _ _).1 hCompletes
  obtain ⟨rfl, hOpen, hOpen'⟩ := of_decide_eq_true hHolds
  obtain ⟨r, rfl⟩ := Event.of_completion? hIs
  obtain ⟨before, after, rfl⟩ := List.append_of_mem hMem
  obtain ⟨source, target, limit?, x, first, k, y, ending, rfl, hBegun, -, -, hGiven⟩ :=
    modes_given_back madeOf_partingSetting (madeOf_partingProgram false) rfl run.begins rfl
  have hPart := List.all_eq_true.1 hParts (.made (.beginCopy source target limit? (some r)) x)
    (by simp [hBegun])
  simp only [Event.beginsBlocking, Bool.and_eq_true, beq_iff_eq] at hPart
  obtain ⟨⟨⟨rfl, rfl⟩, hMode⟩, hMode'⟩ := hPart
  have hSub : ending ⊆ sinceEnding (first ++ .made (.endCopying k) y :: ending ++
      .called (.user (.completed r 1 none)) v :: after) := by
    rw [List.append_assoc, List.cons_append]
    exact fun e hMem => subset_sinceEnding first (List.mem_append_left _ hMem)
  have given := hGiven Nat.zero_ne_one
    (hMode ▸ (settles_of_all hSource).mono hSub) (hMode' ▸ (settles_of_all hTarget).mono hSub)
  rw [hMode, hMode'] at given
  rcases given with ⟨hSourceMode, hTargetMode⟩ | ⟨hShut, -⟩
  · exact ⟨_, w', _, r, v, after, run, rfl, hSourceMode hOpen, hTargetMode hOpen'⟩
  · rw [hOpen] at hShut
    cases hShut

/-- Where the source is closed, the target is left in the other mode, although its driver agrees to
all modes. -/
theorem modes_not_given_back :
    (∀ id on tried, (partingSetting.driver id (.setBlocking on) tried).answer = .ok ()) ∧
      ∃ events w' before r v after, partingSetting.Runs (partingProgram true) partingWorld events ()
          w' ∧
        events = before ++ .called (.user (.completed r 1 none)) v :: after ∧
        (partingWorld.channel 1).blocking = true ∧
        (v.channel 1).isOpen = true ∧ (v.channel 1).blocking = false := by
  have hTrace : (partingSetting.trace 4 (partingProgram true) partingWorld).any (fun r =>
      r.1.any fun e => e.completion?.any fun (total, v) =>
        decide (total = 1 ∧ (v.channel 1).isOpen = true ∧ (v.channel 1).blocking = false)) =
      true := by
    decide +kernel
  constructor
  · intro id on tried
    match id with
    | 0 | 1 | _ + 2 => rfl
  · obtain ⟨events, a, w', run, hChecked⟩ := Setting.exists_runs hTrace
    obtain ⟨e, hMem, hCompletes⟩ := List.any_eq_true.1 hChecked
    obtain ⟨⟨total, v⟩, hIs, hHolds⟩ := (Option.any_eq_true _ _).1 hCompletes
    obtain ⟨rfl, hOpen, hMode⟩ := of_decide_eq_true hHolds
    obtain ⟨r, rfl⟩ := Event.of_completion? hIs
    obtain ⟨before, after, rfl⟩ := List.append_of_mem hMem
    exact ⟨_, w', before, r, v, after, run, rfl, rfl, hOpen, hMode⟩

end EventChannel
