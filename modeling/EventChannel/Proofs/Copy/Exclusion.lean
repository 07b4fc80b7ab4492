import EventChannel.Proofs.Copy.Service

/-! Whatever programs do that copy only by the operations for that, a channel is taken by one copy
at a time, and other copies with it are refused. A copy in the background calls its routine once,
when it has given its channels free and has no handlers left; from then on nothing is done for it
any more. -/

namespace EventChannel

open Program

variable {σ α : Type} {s : Setting σ} {w w' v : World σ} {events : List (Event σ)} {k : CopyId}
  {source target : ChannelId} {m : Misuse}

/-- A copy of two channels is refused, as busy or before that because one of them is not open in the
direction needed. Nothing changes then. -/
structure Setting.Refuses (s : Setting σ) (w : World σ) (source target : ChannelId) (m : Misuse) :
    Prop where
  obstacle : w.copyObstacle? source target = some m
  busy : (w.channel source).mode.readable = true → (w.channel target).mode.writable = true →
    m = .busy (if (w.channel source).copying then (w.channel source).name
      else (w.channel target).name)
  waited : ∀ limit? events a w', s.Runs (copy source target limit?) w events a w' ↔
    events = [.made (.beginCopy source target limit? none) w] ∧ a = .error (.ofMisuse m) ∧ w' = w
  background : ∀ limit? onDone events a w',
    s.Runs (copyInBackground source target limit? onDone) w events a w' ↔
      events = [.made (.beginCopy source target limit? (some onDone)) w] ∧
        a = .error (.ofMisuse m) ∧ w' = w

/-- A program that ends when its copy is refused. -/
theorem runs_refused {limit? : Option Nat} {onDone? : Option RoutineId}
    {f : Except Misuse CopyId → Program σ α} {a₁ : α} (hEnds : f (.error m) = .done a₁)
    (hObstacle : w.copyObstacle? source target = some m) {a : α} :
    s.Runs (act (.beginCopy source target limit? onDone?) >>= f) w events a w' ↔
      events = [.made (.beginCopy source target limit? onDone?) w] ∧ a = a₁ ∧ w' = w := by
  have hRun : (Step.beginCopy source target limit? onDone?).run s.toSurroundings w =
      (.error m, w) :=
    World.beginCopy_of_obstacle hObstacle
  constructor
  · intro run
    cases run with
    | step rest =>
      rw [hRun] at rest
      have rest : s.Runs (f (.error m)) w _ a w' := rest
      rw [hEnds] at rest
      cases rest
      exact ⟨rfl, rfl, rfl⟩
  · rintro ⟨rfl, rfl, rfl⟩
    refine .step ?_
    rw [hRun]
    show s.Runs (f (.error m)) w' [] a w'
    rw [hEnds]
    exact .done _ _

/-- A channel that is taken is refused to all other copies. -/
theorem refuses_of_taken
    (hTaken : (w.channel source).copying = true ∨ (w.channel target).copying = true) :
    ∃ m, s.Refuses w source target m := by
  obtain ⟨m, hObstacle⟩ := World.obstacle_of_taken hTaken
  refine ⟨m, hObstacle, fun hReads hWrites => ?_, fun limit? events a w' => ?_,
    fun limit? onDone events a w' => ?_⟩
  · simp only [World.copyObstacle?, hReads, hWrites] at hObstacle
    cases hSource : (w.channel source).copying with
    | true => simpa [hSource, eq_comm] using hObstacle
    | false =>
      have hTarget : (w.channel target).copying = true := by simpa [hSource] using hTaken
      simpa [hSource, hTarget, eq_comm] using hObstacle
  · exact runs_refused (by rfl) hObstacle
  · exact runs_refused (by rfl) hObstacle

/-- A program does something for a copy in the background: it starts the copy, or it is what is
called for it. -/
inductive Setting.DoesFor (s : Setting σ) (k : CopyId) (w : World σ) (events : List (Event σ))
    (e : Event σ) : Prop
  | starting {source target : ChannelId} {limit? : Option Nat} {onDone : RoutineId}
      (new : w.copies.length = k)
      (does : s.Does (copyInBackground source target limit? onDone) w events e)
  | advancing (does : s.Does (advance k) w events e)

/-- A copy has given its channels free before some events. It stays finished and does not do so
again. No step on a channel is made for it any more; what is called for it comes to nothing. -/
structure Setting.Concludes (s : Setting σ) (k : CopyId) (events : List (Event σ)) (w' : World σ) :
    Prop where
  finished : (w'.copy k).unfinished = false ∧ ∀ e ∈ events, (e.before.copy k).unfinished = false
  once : ∀ v, .made (.finishCopy k) v ∉ events
  unserved : ∀ e ∈ events, e.Holds → ∀ v inner, v.Attended → ¬s.DoesFor k v inner e
  unmoved : ∀ v, .called (.moveAll k) v ∉ events
  idle : ∀ v, .called (.advance k) v ∈ events → ∀ inner u, s.Begins (advance k) v inner u →
    u = v ∧ inner ⊆ [.made (.enterCopy k) v]

/-- A copy that is not at rest is not let go on. -/
theorem begins_advance (hNot : (v.copy k).phase ≠ .resting) {inner : List (Event σ)} {u : World σ}
    (run : s.Begins (advance k) v inner u) : u = v ∧ inner ⊆ [.made (.enterCopy k) v] := by
  have hRun : (Step.enterCopy k).run s.toSurroundings v = (false, v) := by
    simp only [Step.run, if_neg hNot]
  cases run with
  | stop => exact ⟨rfl, List.nil_subset _⟩
  | step run =>
    rw [hRun] at run
    cases run
    exact ⟨rfl, List.Subset.refl _⟩

/-- What is done for a copy in the background, is done while it is not finished. -/
theorem Setting.DoesFor.unfinished (made : s.MadeOf copyParts) (attended : w.Attended)
    {e : Event σ} (does : s.DoesFor k w events e) (holds : e.Holds) :
    (e.before.copy k).unfinished = true := by
  cases does with
  | starting new does =>
    rw [← new]
    exact unfinished_copyInBackground made attended does holds
  | advancing does => exact unfinished_advance made attended does holds

/-- Once a copy has given its channels free, it is over. -/
theorem concludes_of_finished (made : s.MadeOf copyParts)
    (history : s.Leads ((Step.finishCopy k).run s.toSurroundings v).2 events w')
    (hUnfinished : (v.copy k).unfinished = true) (fits : ∀ e ∈ events, e.Fits)
    (moves : ∀ u, .called (.moveAll k) u ∈ events → (u.copy k).Busy) :
    s.Concludes k events w' := by
  have hExists := World.exists_of_unfinished hUnfinished
  have hRecord : ((Step.finishCopy k).run s.toSurroundings v).2.copy k =
      { v.copy k with phase := .done } :=
    World.copy_modifyCopy_self (w := v.markCopying _ _ false) _ hExists
  have hFinished : (((Step.finishCopy k).run s.toSurroundings v).2.copy k).unfinished = false := by
    rw [hRecord]
    rfl
  have hThere : k < ((Step.finishCopy k).run s.toSurroundings v).2.copies.length :=
    Nat.lt_of_lt_of_le hExists ((Step.finishCopy k).copies_run s.toSurroundings v k).1
  obtain ⟨hEnd, hEach⟩ := history.finished fits hThere hFinished
  have finished (e : Event σ) (hMem : e ∈ events) : (e.before.copy k).unfinished = false := by
    rw [hEach e hMem, hFinished]
  refine ⟨⟨by rw [hEnd, hFinished], finished⟩, fun u hMem => ?_, fun e hMem holds u inner attended
    does => ?_, fun u hMem => ?_, fun u hMem inner w₁ run => ?_⟩
  · have hOpen : (u.copy k).unfinished = true := (fits _ hMem).2
    rw [show (u.copy k).unfinished = false from finished _ hMem] at hOpen
    cases hOpen
  · have hOpen := does.unfinished made attended holds
    rw [finished e hMem] at hOpen
    cases hOpen
  · have hOpen := (moves u hMem).2
    rw [show (u.copy k).unfinished = false from finished _ hMem] at hOpen
    cases hOpen
  · refine begins_advance (fun hResting => ?_) run
    have hOpen : (u.copy k).unfinished = false := finished _ hMem
    rw [Copy.unfinished, hResting] at hOpen
    cases hOpen

/-- Copies keep apart in some events. -/
structure Setting.KeepsApart (s : Setting σ) (events : List (Event σ)) (w' : World σ) : Prop where
  marked : w'.Marked ∧ ∀ e ∈ events, e.before.Marked
  refuses : ∀ v, (v = w' ∨ ∃ e ∈ events, v = e.before) → ∀ source target,
    (v.channel source).copying = true ∨ (v.channel target).copying = true →
      ∃ m, s.Refuses v source target m
  concludes : ∀ before k v after, events = before ++ .made (.finishCopy k) v :: after →
    s.Concludes k after w'
  completed : ∀ before r total error? v after,
    events = before ++ .called (.user (.completed r total error?)) v :: after →
      ∃ k earlier u, before = earlier ++ [.made (.finishCopy k) u] ∧ World.Releases k r u v

/-- Whatever is done, a channel is marked as taken exactly if it is an end of a copy that is not
finished, and of one such copy only; other copies with it are refused and leave the marks. The
routine of a copy in the background is called once at most, right when the copy has given its
channels free and without handlers of it being left, and nothing is done for it later. -/
theorem copies_keep_apart (made : s.MadeOf copyParts) {p : Program σ α} (hMade : p.MadeOf copyParts)
    (attended : w.Attended) (run : s.Begins p w events w') : s.KeepsApart events w' := by
  obtain ⟨fits, allowed⟩ : (∀ e ∈ events, e.Fits) ∧
      Setting.Allowed (attendance s.toSurroundings).Permits [] events :=
    (governs_copyParts.keeps hMade).of_begins (honoured_attendance made) run attended trivial
  have history := run.leads
  refine ⟨history.marked fits attended.toMarked, fun v _ source target => refuses_of_taken,
    fun before k v after hEvents => ?_, fun before r total error? v after hEvents => ?_⟩
  · subst hEvents
    have hUnfinished : (v.copy k).unfinished = true := (fits (.made (.finishCopy k) v) (by simp)).2
    refine concludes_of_finished made history.beyond hUnfinished (fun e hMem => ?_) fun u hMem => ?_
    · exact fits e (by simp [hMem])
    · obtain ⟨first, last, rfl⟩ := List.append_of_mem hMem
      have permits := allowed (before ++ .made (.finishCopy k) v :: first) (.moveAll k) u last
        (by simp)
      exact permits.2.2
  · obtain ⟨-, -, k, earlier, u, hBefore, releases⟩ :=
      allowed before (.user (.completed r total error?)) v after hEvents
    exact ⟨k, earlier, u, hBefore, releases⟩

/-- A copy waits for input on its source. When the end has come there, its routine starts a copy of
that channel to itself. -/
def handingRoutine : (u : UserCall) → Program Bool u.Answer
  | .completed 0 _ _ => (copyInBackground 0 0 none 1).bind fun _ => .done ()
  | u => .done u.unit

def handingSetting : Setting Bool where
  driver id call ended := match id, call with
    | 0, .input _ =>
      { answer := if ended then .ok ⟨[], Nat.zero_le _⟩ else .error .wouldBlock, env := ended }
    | _, call => { answer := call.unsupported, env := ended }
  ready _ _ := .none
  users _ _ := false
  routine := handingRoutine
  fire _ _ := .done ()

def handingWorld : World Bool where
  channels := [{ name := "source", type := "file", mode := .both },
    { name := "target", type := "file", mode := .writeOnly }]
  env := false

/-- Answers why a second copy is refused. -/
def handingProgram : Program Bool (Option Report) := do
  let _ ← copyInBackground 0 1 none 0
  let answer ← copyInBackground 0 1 none 0
  act (.env fun _ => ((), true))
  notify 0 .reading
  match answer with
  | .error r => return some r
  | .ok () => return none

/-- The routine that a copy calls at its end. -/
def Event.completes? : Event σ → Option RoutineId
  | .called (.user (.completed r _ _)) _ => some r
  | _ => none

theorem madeOf_copyInBackground (source target : ChannelId) (limit? : Option Nat)
    (onDone : RoutineId) :
    (copyInBackground source target limit? onDone :
      Program σ (Except Report Unit)).MadeOf copyParts :=
  .of_whole .background

theorem madeOf_handingSetting : handingSetting.MadeOf copyParts where
  fire _ _ := .done ()
  routine u := by
    show (handingRoutine u).MadeOf copyParts
    unfold handingRoutine
    split
    · exact (madeOf_copyInBackground 0 0 none 1).bind fun _ => .done ()
    · exact .done _

theorem madeOf_handingProgram : handingProgram.MadeOf copyParts := by
  refine (madeOf_copyInBackground 0 1 none 0).bind fun _ => ?_
  refine (madeOf_copyInBackground 0 1 none 0).bind fun answer => ?_
  refine .act_bind (.inl trivial) fun _ => ?_
  refine (copyParts_basic.simple.notifying.notify 0 .reading).bind fun _ => ?_
  split <;> exact .done _

theorem attended_handingWorld : handingWorld.Attended := by
  refine World.attended_of_none rfl ?_
  simp [handingWorld]

/-- The second copy is refused as busy, and each of the others calls its routine. -/
theorem copies_keep_apart_handing_on :
    ∃ events w', handingSetting.Runs handingProgram handingWorld events
        (some (.ofMisuse (.busy "source"))) w' ∧
      events.filterMap Event.completes? = [0, 1] ∧ handingSetting.KeepsApart events w' := by
  have hTrace : (handingSetting.trace 4 handingProgram handingWorld).any (fun r =>
      decide (r.1.filterMap Event.completes? = [0, 1] ∧
        r.2.1 = some (.ofMisuse (.busy "source")))) = true := by
    decide +kernel
  obtain ⟨events, a, w', run, hChecked⟩ := Setting.exists_runs hTrace
  obtain ⟨hCompletes, hAnswer⟩ := of_decide_eq_true hChecked
  obtain rfl : a = some (.ofMisuse (.busy "source")) := hAnswer
  exact ⟨events, w', run, hCompletes, copies_keep_apart madeOf_handingSetting
    madeOf_handingProgram attended_handingWorld run.begins⟩

end EventChannel
