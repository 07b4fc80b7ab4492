import EventChannel.Proofs.Copy.Exclusion
import EventChannel.Proofs.World.Modes

/-! A copy that cannot have its channels, or cannot switch them to its mode, ends before it moves
anything. It gives back what it has taken: the channels are as they were, their modes among it, and
nobody has been called. -/

namespace EventChannel

open Program

variable {σ α : Type} {s : Setting σ} {w w₁ w₂ w' v : World σ}
  {events first second : List (Event σ)} {source target id j : ChannelId} {on : Bool} {r : Report}
  {limit? : Option Nat}

/-- While the mode of a channel is chosen, no conditions come up. -/
def Setting.SwitchesQuietly (s : Setting σ) (events : List (Event σ)) : Prop :=
  ∀ id on v, .made (.hold id (.setBlocking on)) v ∈ events →
    ((Step.hold id (.setBlocking on)).run s.toSurroundings v).1.2 = .none

theorem Setting.SwitchesQuietly.mono (quiet : s.SwitchesQuietly events) (hSub : first ⊆ events) :
    s.SwitchesQuietly first :=
  fun id on v hMem => quiet id on v (hSub hMem)

/-- Channels are switched to modes, or one of them cannot be. Nothing else happens meanwhile. -/
structure Setting.Switches (s : Setting σ) (wanted : List (ChannelId × Bool)) (w : World σ)
    (events : List (Event σ)) (answer : Except Report Unit) (w' : World σ) : Prop where
  silent : ∀ c v, .called c v ∉ events
  control : ∀ e ∈ events, ∀ j, Control (e.calls s.toSurroundings j)
  copies : w'.copies = w.copies
  length : w'.channels.length = w.channels.length
  modeless : ∀ j, (w'.channel j).modeless = (w.channel j).modeless
  beside : ∀ j, (∀ on, (j, on) ∉ wanted) → (w'.channel j).blocking = (w.channel j).blocking
  done : answer = .ok () → ∀ j on, (j, on) ∈ wanted → (w'.channel j).blocking = on
  failed : ∀ r, answer = .error r → ∃ j on v, (j, on) ∈ wanted ∧
    .made (.hold j (.setBlocking on)) v ∈ events ∧
    ((Step.hold j (.setBlocking on)).run s.toSurroundings v).1.1 = .error r

namespace Setting.Switches

variable {wanted more : List (ChannelId × Bool)} {answer : Except Report Unit}

/-- A channel that is in the mode already is left alone. -/
theorem of_same (hSame : (w.channel id).blocking = on) :
    s.Switches [(id, on)] w [.made (.look id) w] (.ok ()) w where
  silent c v hMem := by simp at hMem
  control e hMem j := by
    rw [List.mem_singleton.1 hMem]
    exact control_nil
  copies := rfl
  length := rfl
  modeless _ := rfl
  beside _ _ := rfl
  done _ j on' hMem := by
    cases List.mem_singleton.1 hMem
    exact hSame
  failed r hError := by cases hError

theorem of_step : s.Switches [(id, on)] w
    [.made (.look id) w, .made (.hold id (.setBlocking on)) w]
    ((Step.hold id (.setBlocking on)).run s.toSurroundings w).1.1
    ((Step.hold id (.setBlocking on)).run s.toSurroundings w).2 where
  silent c v hMem := by simp at hMem
  control e hMem j := by
    rcases List.mem_cons.1 hMem with rfl | hMem
    · exact control_nil
    · rw [List.mem_singleton.1 hMem]
      show Control ((Step.hold id (.setBlocking on)).calls s.toSurroundings j w)
      exact Step.control_setBlocking
  copies := rfl
  length := World.length_hold _
  modeless _ := Step.modeless_setBlocking
  beside j hNot := by
    have hNe : id ≠ j := fun hIs => hNot on (by simp [hIs])
    exact congrArg Channel.blocking (World.hold_channel_ne _ hNe)
  done hOk j on' hMem := by
    cases List.mem_singleton.1 hMem
    exact Step.blocking_of_set hOk
  failed r hError := ⟨id, on, w, List.mem_singleton_self _, by simp, hError⟩

/-- Switching other channels afterwards leaves the first where they are. -/
theorem trans (left : s.Switches wanted w first (.ok ()) w₁)
    (right : s.Switches more w₁ second answer w₂)
    (hApart : ∀ j on, (j, on) ∈ wanted → ∀ on', (j, on') ∉ more) :
    s.Switches (wanted ++ more) w (first ++ second) answer w₂ where
  silent c v hMem := (List.mem_append.1 hMem).elim (left.silent c v) (right.silent c v)
  control e hMem := (List.mem_append.1 hMem).elim (left.control e) (right.control e)
  copies := right.copies.trans left.copies
  length := right.length.trans left.length
  modeless j := (right.modeless j).trans (left.modeless j)
  beside j hNot := (right.beside j fun on hMem => hNot on (List.mem_append_right _ hMem)).trans
    (left.beside j fun on hMem => hNot on (List.mem_append_left _ hMem))
  done hOk j on hMem := by
    rcases List.mem_append.1 hMem with hFirst | hSecond
    · exact (right.beside j (hApart j on hFirst)).trans (left.done rfl j on hFirst)
    · exact right.done hOk j on hSecond
  failed r hError := by
    obtain ⟨j, on, v, hWanted, hMem, hFailed⟩ := right.failed r hError
    exact ⟨j, on, v, List.mem_append_right _ hWanted, List.mem_append_right _ hMem, hFailed⟩

/-- Where the first channels cannot be switched, the others are not. -/
theorem extend (left : s.Switches wanted w events (.error r) w') :
    s.Switches (wanted ++ more) w events (.error r) w' where
  silent := left.silent
  control := left.control
  copies := left.copies
  length := left.length
  modeless := left.modeless
  beside j hNot := left.beside j fun on hMem => hNot on (List.mem_append_left _ hMem)
  done hOk := by cases hOk
  failed r hError := by
    obtain ⟨j, on, v, hWanted, hMem, hFailed⟩ := left.failed r hError
    exact ⟨j, on, v, List.mem_append_left _ hWanted, hMem, hFailed⟩

end Setting.Switches

theorem runs_switchMode {answer : Except Report Unit}
    (run : s.Runs (switchMode id on) w events answer w') (quiet : s.SwitchesQuietly events) :
    s.Switches [(id, on)] w events answer w' := by
  cases run with
  | step rest =>
    have rest : s.Runs (if (w.channel id).blocking = on then .done (.ok ())
      else Program.setBlocking id on) w _ answer w' := rest
    split at rest
    · next hSame =>
      cases rest
      exact .of_same hSame
    · cases rest with
      | step rest =>
        have hQuiet := quiet id on w (by simp)
        simp only [hQuiet] at rest
        cases rest
        exact .of_step

/-- The channels that are switched for a copy. One channel in both places goes by the source. -/
def switchedFor (source target : ChannelId) (modes : Bool × Bool) : List (ChannelId × Bool) :=
  if source = target then [(source, modes.1)] else [(source, modes.1), (target, modes.2)]

theorem runs_switchModes {modes : Bool × Bool} {answer : Except Report Unit}
    (run : s.Runs (switchModes source target modes) w events answer w')
    (quiet : s.SwitchesQuietly events) :
    s.Switches (switchedFor source target modes) w events answer w' := by
  obtain ⟨first, second, answer₁, w₁, rfl, runFirst, runSecond⟩ := run.of_bind
  have left := runs_switchMode runFirst (quiet.mono (List.subset_append_left _ _))
  unfold switchedFor
  cases answer₁ with
  | error r =>
    cases runSecond
    rw [List.append_nil]
    split
    · exact left
    · exact left.extend
  | ok done =>
    have runSecond : s.Runs (if source = target then .done (.ok ())
      else switchMode target modes.2) w₁ second answer w' := runSecond
    split at runSecond
    · next hIs =>
      cases runSecond
      rw [List.append_nil, if_pos hIs]
      exact left
    · next hNe =>
      rw [if_neg hNe]
      have right := runs_switchMode runSecond (quiet.mono (List.subset_append_right _ _))
      refine left.trans right fun j on hMem on' hMore => ?_
      cases List.mem_singleton.1 hMem
      cases List.mem_singleton.1 hMore
      exact hNe rfl

theorem mem_switchedFor {modes : Bool × Bool} (hMem : (j, on) ∈ switchedFor source target modes) :
    j = source ∧ on = modes.1 ∨ j = target ∧ on = modes.2 := by
  unfold switchedFor at hMem
  split at hMem
  · cases List.mem_singleton.1 hMem
    exact .inl ⟨rfl, rfl⟩
  · rcases List.mem_cons.1 hMem with hIs | hMem
    · cases hIs
      exact .inl ⟨rfl, rfl⟩
    · cases List.mem_singleton.1 hMem
      exact .inr ⟨rfl, rfl⟩

theorem source_mem_switchedFor (modes : Bool × Bool) :
    (source, modes.1) ∈ switchedFor source target modes := by
  unfold switchedFor
  split <;> simp

theorem target_mem_switchedFor (modes : Bool × Bool) (hNe : source ≠ target) :
    (target, modes.2) ∈ switchedFor source target modes := by
  simp [switchedFor, hNe]

/-- A channel is as it was but for what it waits for. -/
def Channel.Restored (c c' : Channel) : Prop :=
  c' = { c with
    flushPending := c'.flushPending, watched := c'.watched, deferred := c'.deferred }

/-- A channel apart from its mode and from the mark of a copy. -/
def Channel.unmarked (c : Channel) : Channel := { c.modeless with copying := false }

/-- A channel is as it was if it has its mode and its mark back. -/
theorem Channel.restored_of_unmarked {c c' : Channel} (hUnmarked : c'.unmarked = c.unmarked)
    (hBlocking : c'.blocking = c.blocking) (hCopying : c'.copying = c.copying) :
    c.Restored c' := by
  cases c
  cases c'
  simp only [unmarked, modeless, mk.injEq] at hUnmarked
  simp_all [Restored]

namespace World

/-- What a copy has when it has been taken up: its channels are marked, all else is as it was. -/
def takenUp (w : World σ) (source target : ChannelId) (limit? : Option Nat)
    (onDone? : Option RoutineId) : World σ :=
  { w.markCopying source target true with
    copies := w.copies ++ [w.begun source target limit? onDone?] }

section

variable {onDone? : Option RoutineId} {modes : Bool × Bool} {answer : Except Report Unit}
  (forth : s.Switches (switchedFor source target modes)
    (w.takenUp source target limit? onDone?) first answer w₁)
  (back : s.Switches (switchedFor source target
    ((w.channel source).blocking, (w.channel target).blocking)) w₁ second (.ok ()) w₂)

include forth back

theorem unmarked_of_switched : (w₂.channel j).unmarked = (w.channel j).unmarked := by
  have hTaken : ((w.markCopying source target true).channel j).unmarked =
      (w.channel j).unmarked := view_markCopying (fun _ _ => rfl) true
  rw [Channel.unmarked, back.modeless, forth.modeless]
  exact hTaken

theorem blocking_of_switched : (w₂.channel j).blocking = (w.channel j).blocking := by
  by_cases hIsSource : j = source
  · subst hIsSource
    exact back.done rfl _ _ (source_mem_switchedFor _)
  by_cases hIsTarget : j = target
  · subst hIsTarget
    exact back.done rfl _ _ (target_mem_switchedFor _ fun hIs => hIsSource hIs.symm)
  have hNot {modes : Bool × Bool} (on : Bool) : (j, on) ∉ switchedFor source target modes :=
    fun hMem => (mem_switchedFor hMem).elim (fun h => hIsSource h.1) fun h => hIsTarget h.1
  rw [back.beside j hNot, forth.beside j hNot]
  exact view_markCopying (fun _ _ => rfl) true

/-- Giving the channels free takes the marks back that taking them has set. -/
theorem copying_of_switched (hFree : w.copyObstacle? source target = none) :
    ((w₂.markCopying source target false).channel j).copying = (w.channel j).copying := by
  obtain ⟨⟨hSource, hSourceFree⟩, hTarget, hTargetFree⟩ := free_of_obstacle hFree
  have hLength : w₂.channels.length = w.channels.length := by
    rw [back.length, forth.length]
    simp [takenUp, markCopying]
  rw [copying_markCopying (by rwa [hLength]) (by rwa [hLength])]
  split
  · next hEnd =>
    rcases hEnd with rfl | rfl
    · exact hSourceFree.symm
    · exact hTargetFree.symm
  · next hNot =>
    rw [Channel.copying_of_modeless (back.modeless j),
      Channel.copying_of_modeless (forth.modeless j)]
    show ((w.markCopying source target true).channel j).copying = _
    rw [copying_markCopying hSource hTarget, if_neg hNot]

/-- Channels that were switched for a copy and then back, and are given free, are as they were. -/
theorem restored (hFree : w.copyObstacle? source target = none) (j : ChannelId) :
    (w.channel j).Restored
      (((Step.finishCopy w.copies.length).run s.toSurroundings w₂).2.channel j) := by
  have hCopies : w₂.copies = w.copies ++ [w.begun source target limit? onDone?] :=
    back.copies.trans forth.copies
  have hFinished : (((Step.finishCopy w.copies.length).run s.toSurroundings w₂).2.channel j) =
      (w₂.markCopying source target false).channel j := by
    show (w₂.markCopying (w₂.copy w.copies.length).source (w₂.copy w.copies.length).target
      false).channel j = _
    rw [copy_append_self hCopies]
    rfl
  rw [hFinished]
  refine Channel.restored_of_unmarked ?_ ?_ (copying_of_switched forth back hFree)
  · exact (view_markCopying (fun _ _ => rfl) false).trans (unmarked_of_switched forth back)
  · exact (view_markCopying (fun _ _ => rfl) false).trans (blocking_of_switched forth back)

end

end World

/-- Whenever a channel is to go back to the mode it was in before, it does. -/
def Setting.SwitchesBack (s : Setting σ) (start : World σ) (events : List (Event σ)) : Prop :=
  ∀ id v, .made (.hold id (.setBlocking (start.channel id).blocking)) v ∈ events →
    ((Step.hold id (.setBlocking (start.channel id).blocking)).run s.toSurroundings v).1.1 = .ok ()

/-- A copy ends with an error before it moves anything: its channels could not be taken, or one of
them could not be switched. Nobody is called, no bytes are moved, and every channel is as it was. -/
structure Setting.Rejects (s : Setting σ) (w : World σ) (source target : ChannelId)
    (events : List (Event σ)) (r : Report) (w' : World σ) : Prop where
  cause : (∃ m, w.copyObstacle? source target = some m ∧ r = .ofMisuse m) ∨
    ∃ id on v, (id = source ∨ id = target) ∧ .made (.hold id (.setBlocking on)) v ∈ events ∧
      ((Step.hold id (.setBlocking on)).run s.toSurroundings v).1.1 = .error r
  silent : ∀ c v, .called c v ∉ events
  control : ∀ e ∈ events, ∀ j, Control (e.calls s.toSurroundings j)
  restored : ∀ j, (w.channel j).Restored (w'.channel j)

/-- A copy whose channels cannot be taken. -/
theorem rejects_of_obstacle {m : Misuse} {onDone? : Option RoutineId}
    (hObstacle : w.copyObstacle? source target = some m) :
    s.Rejects w source target [.made (.beginCopy source target limit? onDone?) w] (.ofMisuse m)
      w where
  cause := .inl ⟨m, hObstacle, rfl⟩
  silent c v hMem := by simp at hMem
  control e hMem j := by
    rw [List.mem_singleton.1 hMem]
    exact control_nil
  restored _ := rfl

/-- Switching back to the modes from before the copy succeeds. -/
theorem Setting.Switches.goes_back {start : World σ} {answer : Except Report Unit}
    (back : s.Switches (switchedFor source target
      ((start.channel source).blocking, (start.channel target).blocking)) w events answer w')
    (switchesBack : s.SwitchesBack start events) : answer = .ok () := by
  cases answer with
  | ok done => rfl
  | error r =>
    obtain ⟨j, on, v, hWanted, hMem, hFailed⟩ := back.failed r rfl
    have hOk : ((Step.hold j (.setBlocking on)).run s.toSurroundings v).1.1 = .ok () := by
      rcases mem_switchedFor hWanted with ⟨rfl, rfl⟩ | ⟨rfl, rfl⟩
      · exact switchesBack _ v hMem
      · exact switchesBack _ v hMem
    rw [hFailed] at hOk
    cases hOk

/-- The event is a step that calls no driver. -/
def Event.Notes (s : Surroundings σ) (e : Event σ) : Prop :=
  (∀ c v, e ≠ .called c v) ∧ ∀ j, e.calls s j = []

@[simp] theorem notes_made {t : Step σ α} :
    (Event.made t v).Notes s.toSurroundings ↔ ∀ j, t.calls s.toSurroundings j v = [] :=
  ⟨And.right, fun hNone => ⟨(fun _ _ hIs => by cases hIs), hNone⟩⟩

/-- A copy whose channels could not be switched, after they have been switched back. -/
theorem rejects_of_switches {onDone? : Option RoutineId} {modes : Bool × Bool}
    {answer : Except Report Unit} (before between after : List (Event σ))
    (hNotes : ∀ e ∈ before ++ between ++ after, e.Notes s.toSurroundings)
    (hFree : w.copyObstacle? source target = none)
    (forth : s.Switches (switchedFor source target modes)
      (w.takenUp source target limit? onDone?) first (.error r) w₁)
    (back : s.Switches (switchedFor source target
      ((w.channel source).blocking, (w.channel target).blocking)) w₁ second answer w₂)
    (switchesBack : s.SwitchesBack w (before ++ (first ++ (between ++ (second ++ after))))) :
    s.Rejects w source target (before ++ (first ++ (between ++ (second ++ after)))) r
      ((Step.finishCopy w.copies.length).run s.toSurroundings w₂).2 := by
  obtain rfl := back.goes_back fun id v hMem => switchesBack id v (by simp [hMem])
  have hEach : ∀ e ∈ before ++ (first ++ (between ++ (second ++ after))),
      e ∈ first ∨ e ∈ second ∨ e.Notes s.toSurroundings := by
    intro e hMem
    simp only [List.mem_append] at hMem hNotes
    rcases hMem with hBefore | hFirst | hBetween | hSecond | hAfter
    · exact .inr (.inr (hNotes e (.inl (.inl hBefore))))
    · exact .inl hFirst
    · exact .inr (.inr (hNotes e (.inl (.inr hBetween))))
    · exact .inr (.inl hSecond)
    · exact .inr (.inr (hNotes e (.inr hAfter)))
  refine ⟨.inr ?_, fun c v hMem => ?_, fun e hMem j => ?_, World.restored forth back hFree⟩
  · obtain ⟨j, on, v, hWanted, hMem, hFailed⟩ := forth.failed r rfl
    exact ⟨j, on, v, (mem_switchedFor hWanted).imp And.left And.left, by simp [hMem], hFailed⟩
  · rcases hEach _ hMem with hFirst | hSecond | notes
    · exact forth.silent c v hFirst
    · exact back.silent c v hSecond
    · exact notes.1 c v rfl
  · rcases hEach _ hMem with hFirst | hSecond | notes
    · exact forth.control e hFirst j
    · exact back.control e hSecond j
    · rw [notes.2 j]
      exact control_nil

/-- Puts the modes of a copy back that its caller waits for, and gives its channels free. -/
def concludeCopy (source target : ChannelId) (k : CopyId) (saved : Bool × Bool)
    (moved : Except Report Unit) : Program σ (Except Report Nat) := do
  let _ ← switchModes source target saved
  let total := (← act (.copy k)).total
  act (.finishCopy k)
  return moved.map fun _ => total

theorem rejects_copy {a : Except Report Nat}
    (run : s.Runs (copy source target limit?) w events a w')
    (hMoves : ∀ k v, .made (.fixChunk k) v ∉ events) (quiet : s.SwitchesQuietly events)
    (switchesBack : s.SwitchesBack w events) :
    ∃ r, a = .error r ∧ s.Rejects w source target events r w' := by
  cases hObstacle : w.copyObstacle? source target with
  | some m =>
    obtain ⟨rfl, rfl, rfl⟩ := (runs_refused (by rfl) hObstacle).1 run
    exact ⟨_, rfl, rejects_of_obstacle hObstacle⟩
  | none =>
    have hTaken : (Step.beginCopy source target limit? none).run s.toSurroundings w =
        (.ok w.copies.length, w.takenUp source target limit? none) :=
      World.beginCopy_of_free hObstacle
    have hCopy : (w.takenUp source target limit? none).copy w.copies.length =
        w.begun source target limit? none := World.copy_append_self rfl
    cases run with
    | @step _ _ _ _ _ _ events a run =>
      rw [hTaken] at run
      cases run with
      | @step _ _ _ _ _ _ events a run =>
        have run : s.Runs ((switchModes source target (true, true)).bind _)
            (w.takenUp source target limit? none) events a w' := run
        obtain ⟨first, rest, answer, w₁, rfl, forth, run⟩ := run.of_bind
        have forth := runs_switchModes forth (quiet.mono fun e hMem => by simp [hMem])
        cases answer with
        | ok done =>
          cases run
          exact absurd (by simp) (hMoves w.copies.length w₁)
        | error r =>
          have run : s.Runs (concludeCopy source target w.copies.length
              ((w.takenUp source target limit? none).copy w.copies.length).savedModes (.error r))
              w₁ rest a w' := run
          rw [hCopy] at run
          obtain ⟨second, last, answer, w₂, rfl, back, run⟩ := run.of_bind
          have back := runs_switchModes back (quiet.mono fun e hMem => by simp [hMem])
          cases run with
          | step run =>
          cases run with
          | step run =>
          cases run
          refine ⟨r, rfl, rejects_of_switches [_, _] [] [_, _] ?_ hObstacle forth back switchesBack⟩
          simp [Step.calls]

/-- Puts the modes of a copy back that has not come to rest, and gives its channels free. -/
def withdrawCopy (source target : ChannelId) (k : CopyId) (saved : Bool × Bool) (r : Report) :
    Program σ (Except Report Unit) := do
  let _ ← switchModes source target saved
  act (.finishCopy k)
  return .error r

theorem rejects_copyInBackground {onDone : RoutineId}
    (run : s.Runs (copyInBackground source target limit? onDone) w events (.error r) w')
    (quiet : s.SwitchesQuietly events) (switchesBack : s.SwitchesBack w events) :
    s.Rejects w source target events r w' := by
  cases hObstacle : w.copyObstacle? source target with
  | some m =>
    obtain ⟨rfl, hIs, rfl⟩ := (runs_refused (by rfl) hObstacle).1 run
    cases hIs
    exact rejects_of_obstacle hObstacle
  | none =>
    have hTaken : (Step.beginCopy source target limit? (some onDone)).run s.toSurroundings w =
        (.ok w.copies.length, w.takenUp source target limit? (some onDone)) :=
      World.beginCopy_of_free hObstacle
    cases run with
    | @step _ _ _ _ _ _ events a run =>
      rw [hTaken] at run
      have run : s.Runs ((switchModes source target (false, false)).bind _)
          (w.takenUp source target limit? (some onDone)) events (Except.error r) w' := run
      obtain ⟨first, rest, answer, w₁, rfl, forth, run⟩ := run.of_bind
      have forth := runs_switchModes forth (quiet.mono fun e hMem => by simp [hMem])
      cases answer with
      | ok done =>
        cases run with
        | @step _ _ _ _ _ _ events a run =>
          have run : s.Runs ((referring (.copy w.copies.length) (advance w.copies.length)).bind
              fun _ => .done (Except.ok ())) _ events (.error r) w' := run
          obtain ⟨_, _, _, _, _, -, hDone⟩ := run.of_bind
          cases hDone
      | error r' =>
        have hCopy : w₁.copy w.copies.length = w.begun source target limit? (some onDone) :=
          World.copy_append_self forth.copies
        cases run with
        | step run =>
          have run : s.Runs (withdrawCopy source target w.copies.length
              (w₁.copy w.copies.length).savedModes r') w₁ _ (.error r) w' := run
          rw [hCopy] at run
          obtain ⟨second, last, answer, w₂, rfl, back, run⟩ := run.of_bind
          have back := runs_switchModes back (quiet.mono fun e hMem => by simp [hMem])
          cases run with
          | step run =>
          cases run
          refine rejects_of_switches [_] [_] [_] ?_ hObstacle forth back switchesBack
          simp [Step.calls]

/-- The event does not begin a transfer. If it chooses a mode, no conditions come up; and the mode
that the channel was in at the start is one that it can go back to. -/
def Event.keepsModes (s : Surroundings σ) (start : World σ) : Event σ → Bool
  | .made (.fixChunk _) _ => false
  | .made (.hold id (.setBlocking on)) v =>
    let (answer, raised) := ((Step.hold id (.setBlocking on)).run s v).1
    decide (raised = .none) && (decide (on ≠ (start.channel id).blocking) || answer.isOk)
  | _ => true

/-- The target of a copy has a driver that stays in the mode it is in, and the copy needs the other
one. -/
def settledSetting (on : Bool) : Setting Unit where
  driver id call env := match id, call with
    | 0, .setBlocking _ => { answer := .ok (), env }
    | 1, .setBlocking wanted =>
      { answer := if wanted = on then .ok () else .error (.number Errno.invalidArgument), env }
    | _, call => { answer := call.unsupported, env }
  ready _ _ := .none
  users _ _ := false
  routine u := .done u.unit
  fire _ _ := .done ()

def settledWorld (on : Bool) : World Unit where
  channels := [{ name := "source", type := "file", mode := .readOnly, blocking := on },
    { name := "target", type := "file", mode := .writeOnly, blocking := on }]
  env := ()

theorem quiet_of_keepsModes {start : World σ}
    (hKeeps : events.all (·.keepsModes s.toSurroundings start) = true) :
    s.SwitchesQuietly events ∧ s.SwitchesBack start events ∧
      ∀ k v, .made (.fixChunk k) v ∉ events := by
  have hEach := List.all_eq_true.1 hKeeps
  refine ⟨fun id on v hMem => ?_, fun id v hMem => ?_, fun k v hMem => ?_⟩
  · obtain ⟨hNone, -⟩ := Bool.and_eq_true_iff.1 (hEach _ hMem)
    exact of_decide_eq_true hNone
  · obtain ⟨-, hBack⟩ := Bool.and_eq_true_iff.1 (hEach _ hMem)
    cases hAnswer : ((Step.hold id (.setBlocking (start.channel id).blocking)).run
        s.toSurroundings v).1.1 with
    | ok done => rfl
    | error r => simp [hAnswer, Except.isOk, Except.toBool] at hBack
  · cases hEach _ hMem

end EventChannel
