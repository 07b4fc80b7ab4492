import EventChannel.Proofs.Copy.Decision
import EventChannel.Proofs.Stream.Barrier
import EventChannel.Proofs.Stream.Inlet

/-! A copy in the background waits for its target while output is left there. It waits for its
source when the target has taken everything and the source has been read from. Of what has come in
with that read, nothing is left to be moved, if a chunk has had room for it. -/

namespace EventChannel

open Program

variable {σ α : Type}

/-- A copy that has been short of a chunk wants no more when it has moved what it wanted. -/
theorem Copy.want_of_short {c c' : Copy} (hLimit : c'.limit? = c.limit?)
    (hShort : c.want < c.chunk) (hTotal : c.total + c.want ≤ c'.total) : c'.want = 0 := by
  unfold Copy.want at *
  rw [hLimit]
  cases hIs : c.limit? with
  | none =>
    simp only [hIs] at hShort
    exact absurd hShort (Nat.lt_irrefl _)
  | some limit =>
    simp only [hIs] at hShort hTotal ⊢
    omega

namespace Setting

variable {s : Setting σ} {w w' u v x : World σ} {k : CopyId} {c : Copy}
  {events inner after : List (Event σ)} {step : CopyStep}

/-- How a step of a copy ends that has written bytes to the target. -/
theorem runs_counted {n : Nat} (hExists : k < u.copies.length)
    (run : s.Runs (act (.countCopied k n) >>= fun _ => look c.target >>= fun target =>
      if !target.output.isEmpty then .done .waitWritable
      else act (.copy k) >>= fun c' =>
        if c'.want = 0 then .done (.ended none) else .done .waitReadable) u events step v) :
    step = .waitReadable ∧ (v.channel c.target).output.toBytes = [] ∧ (v.copy k).want ≠ 0 ∧
        (v.copy k).total = (u.copy k).total + n ∨
      step = .waitWritable ∧ (v.channel c.target).output.toBytes ≠ [] ∨ step = .ended none := by
  have hCounted : (((Step.countCopied k n).run s.toSurroundings u).2.copy k).total =
      (u.copy k).total + n :=
    congrArg Copy.total (World.copy_modifyCopy_self _ hExists)
  cases run with
  | step run =>
  generalize ((Step.countCopied k n).run s.toSurroundings u).2 = z at run hCounted
  cases run with
  | step run =>
  have run : s.Runs (if !(z.channel c.target).output.isEmpty then .done .waitWritable
      else act (.copy k) >>= fun c' =>
        if c'.want = 0 then .done (.ended none) else .done .waitReadable) z _ step v := run
  split at run
  · next hLeft =>
    cases run
    refine .inr (.inl ⟨rfl, fun hNone => ?_⟩)
    simp [(ByteQueue.isEmpty_iff _).2 hNone] at hLeft
  · next hDone =>
    cases run with
    | step run =>
    have run : s.Runs (if (z.copy k).want = 0 then .done (.ended none)
      else .done .waitReadable) z _ step v := run
    split at run
    · cases run
      exact .inr (.inr rfl)
    · next hMore =>
      cases run
      exact .inl ⟨rfl, by simpa using hDone, hMore, hCounted⟩

/-- A copy has read bytes from its source. If there were any, then they have been counted at last,
nothing is left of them in the target, and the copy wants more. -/
structure Fetches (s : Setting σ) (k : CopyId) (c : Copy) (x : World σ) (bytes : Bytes)
    (v : World σ) : Prop where
  wanted : c.want ≠ 0
  answer : ((Step.hold c.source (.read c.want)).run s.toSurroundings x).1.1 = .ok bytes
  moved : bytes ≠ [] → (v.channel c.target).output.toBytes = [] ∧ (v.copy k).want ≠ 0 ∧
    (x.copy k).total + bytes.length ≤ (v.copy k).total

/-- What has happened when a step of a copy ends. If the copy waits for its source then, it has read
from there while nothing was left in its target; if it waits for its target, output is left. -/
def ComesTo (s : Setting σ) (k : CopyId) (c : Copy) (events : List (Event σ)) (v : World σ) :
    CopyStep → Prop
  | .waitReadable => ∃ first x rest bytes,
    events = first ++ .made (.hold c.source (.read c.want)) x :: rest ∧
      (x.channel c.target).output.toBytes = [] ∧ s.Fetches k c x bytes v
  | .waitWritable => (v.channel c.target).output.toBytes ≠ []
  | .ended _ => True

theorem runs_moveChunk (hExists : k < x.copies.length)
    (hEmpty : (x.channel c.target).output.toBytes = [])
    (run : s.Runs (moveChunk k c) x events step v) : s.ComesTo k c events v step := by
  unfold moveChunk at run
  split at run
  · cases run
    trivial
  next hWant =>
  have run : s.Runs ((readBytes c.source c.want).bind _) x events step v := run
  obtain ⟨reading, last, answer, x₁, rfl, reads, run⟩ := run.of_bind
  have prior := reads.leads
  rw [readBytes, if_neg hWant] at reads
  obtain ⟨hAnswer, delivered, rfl, -⟩ := runs_hold.1 reads
  rcases answer with f | (_ | ⟨byte, bytes⟩)
  · cases run with
    | step run =>
      cases run
      trivial
  · cases run with
    | step run =>
      have run : s.Runs (.done (if (x₁.channel c.source).eof then .ended none else .waitReadable))
          x₁ _ step v := run
      split at run
      · cases run
        trivial
      · cases run
        exact ⟨[], x, _, [], rfl, hEmpty, hWant, hAnswer.symm, fun hSome => absurd rfl hSome⟩
  · have run : s.Runs ((writeBytes c.target (byte :: bytes) true).bind _) x₁ last step v := run
    obtain ⟨writing, last, written, y, rfl, writes, run⟩ := run.of_bind
    rcases written with f | _
    · cases run with
      | step run =>
        cases run
        trivial
    · have history := prior.trans writes.leads
      rcases runs_counted (history.terms hExists).1 run with
        ⟨rfl, hDone, hMore, hCounted⟩ | ⟨rfl, hLeft⟩ | rfl
      · refine ⟨[], x, _, byte :: bytes, rfl, hEmpty, hWant, hAnswer.symm, fun _ =>
          ⟨hDone, hMore, ?_⟩⟩
        rw [hCounted]
        exact Nat.add_le_add_right history.total _
      · exact hLeft
      · trivial

theorem ComesTo.prepend (comes : s.ComesTo k c events v step) (first : List (Event σ)) :
    s.ComesTo k c (first ++ events) v step := by
  cases step with
  | waitReadable =>
    obtain ⟨before, x, rest, bytes, rfl, hEmpty, fetches⟩ := comes
    exact ⟨first ++ before, x, rest, bytes, (List.append_assoc ..).symm, hEmpty, fetches⟩
  | waitWritable => exact comes
  | ended error? => trivial

theorem runs_copyStep (hExists : k < u.copies.length) (run : s.Runs (copyStep k) u inner step v) :
    s.ComesTo k (u.copy k) inner v step := by
  cases run with
  | step run =>
  cases run with
  | step run =>
  have run : s.Runs (if (u.channel (u.copy k).target).output.isEmpty then moveChunk k (u.copy k)
    else _) u _ step v := run
  split at run
  · next hDone =>
    exact (runs_moveChunk hExists (by simpa using hDone) run).prepend
      [.made (.copy k) u, .made (.look (u.copy k).target) u]
  · have run : s.Runs ((writeBytes (u.copy k).target [] true).bind _) u _ step v := run
    obtain ⟨writing, last, written, y, rfl, writes, run⟩ := run.of_bind
    rcases written with f | _
    · cases run with
      | step run =>
        cases run
        trivial
    · cases run with
      | step run =>
      have run : s.Runs (if (y.channel (u.copy k).target).output.isEmpty then
        moveChunk k (u.copy k) else .done .waitWritable) y _ step v := run
      split at run
      · next hDone =>
        have hThere := (writes.leads.terms hExists).1
        have comes := runs_moveChunk hThere (by simpa using hDone) run
        exact ((comes.prepend [.made (.look (u.copy k).target) y]).prepend writing).prepend
          [.made (.copy k) u, .made (.look (u.copy k).target) u]
      · next hLeft =>
        cases run
        exact fun hNone => hLeft ((ByteQueue.isEmpty_iff _).2 hNone)

/-- Why a copy waits since a step of its own, which has begun in one world and ended in another. -/
inductive Waits (s : Setting σ) (k : CopyId) (u v : World σ) (after : List (Event σ))
    (w' : World σ) : List (Event σ) → CopyStep → Prop
  /-- Nothing was left in the target when the copy has read from the source, and nothing is when the
  wait begins, unless somebody else has written to the target meanwhile. Nothing is left in the
  source either, if a chunk had room for all, and those who have read from there since. -/
  | source {first rest : List (Event σ)} {x : World σ}
      (noted : (w'.copy k).sourceHandler?.isSome ∧ (w'.copy k).targetHandler? = none)
      (taken : (x.channel (w'.copy k).target).output.toBytes = [])
      (moved : ((Step.hold (w'.copy k).source (.read (u.copy k).want)).run s.toSurroundings x).1.1 ≠
        .ok [] → (v.channel (w'.copy k).target).output.toBytes = [])
      (still : (v.channel (w'.copy k).target).isOpen = true →
        (∀ e ∈ rest, e.appended (w'.copy k).target = []) →
          (v.channel (w'.copy k).target).output.toBytes = [])
      (drained : (x.channel (w'.copy k).source).input.length ≤ (w'.copy k).chunk →
        (x.channel (w'.copy k).source).bufferSize ≤ (w'.copy k).chunk →
          (∀ e ∈ rest ++ after, e.TakesAll (w'.copy k).source) →
            (w'.channel (w'.copy k).source).input = []) :
      Waits s k u v after w'
        (first ++ .made (.hold (w'.copy k).source (.read (u.copy k).want)) x :: rest) .waitReadable
  /-- Something was left in the target. -/
  | target {inner : List (Event σ)}
      (noted : (w'.copy k).targetHandler?.isSome ∧ (w'.copy k).sourceHandler? = none)
      (left : (v.channel (w'.copy k).target).output.toBytes ≠ []) :
      Waits s k u v after w' inner .waitWritable

/-- What a copy has read leaves nothing behind, if a chunk has had room for all and the copy wants
more when it has moved that. -/
theorem Fetches.drained {bytes : Bytes} (fetches : s.Fetches k c x bytes v)
    (hExists : c.source < x.channels.length) (hTotal : c.total ≤ (x.copy k).total)
    (hLimit : (v.copy k).limit? = c.limit?) (hInput : (x.channel c.source).input.length ≤ c.chunk)
    (hBuffer : (x.channel c.source).bufferSize ≤ c.chunk) :
    (((Step.hold c.source (.read c.want)).run s.toSurroundings x).2.channel c.source).input =
      [] := by
  obtain ⟨c', effect, hChannel⟩ := Step.hold_shows s.toSurroundings x (.read c.want) hExists
  rw [fetches.answer] at effect
  have hLeft := Channel.ReadEffect.left effect
  have hNothing : c'.input = [] := by
    -- less than a chunk is wanted only up to the limit, and then no more when that has come
    refine hLeft.resolve_right fun ⟨hLength, hMore⟩ => ?_
    have hShort : c.want < c.chunk := by omega
    have hSome : bytes ≠ [] := by
      rintro rfl
      exact fetches.wanted hLength.symm
    obtain ⟨-, hMore, hCounted⟩ := fetches.moved hSome
    exact hMore (Copy.want_of_short hLimit hShort (by omega))
  rw [hChannel]
  exact hNothing

theorem Paused.waits (made : s.MadeOf copyParts) (paused : s.Paused k u inner step v after w')
    (history : s.Leads u (inner ++ after) w') : s.Waits k u v after w' inner step := by
  obtain ⟨attended, busy⟩ := paused.stands
  have hExists := World.exists_of_unfinished busy.2
  have comes := runs_copyStep hExists paused.stepped
  obtain ⟨hChunk, noted⟩ := paused.noted made
  have hTerms := (history.terms hExists).2
  have hTermsThen := (paused.stepped.leads.terms hExists).2
  simp only [Copy.terms, Prod.mk.injEq] at hTerms hTermsThen
  obtain ⟨hSource, hTarget, -⟩ := hTerms
  have hThere (j : ChannelId) (hEnd : j = (u.copy k).source ∨ j = (u.copy k).target) :
      j < u.channels.length :=
    World.exists_of_copying ((attended.taken j).2 ⟨k, busy.2, Copy.involves_iff.2 hEnd⟩)
  cases step with
  | waitReadable =>
    obtain ⟨first, x, rest, bytes, rfl, hTaken, fetches⟩ := comes
    have hNoted := noted.resolve_right fun h => CopyStep.noConfusion h.1
    have prior : s.Leads u first x := paused.stepped.leads.up_to
    have reading :
        s.Leads x (.made (.hold (u.copy k).source (.read (u.copy k).want)) x :: rest) v :=
      .cons (.made _ x) paused.stepped.leads.beyond
    rw [← hSource]
    refine .source hNoted.2 ?_ ?_ ?_ ?_
    · rwa [hTarget]
    · intro hSome
      rw [hSource, fetches.answer] at hSome
      rw [hTarget]
      exact (fetches.moved fun hNone => hSome (congrArg Except.ok hNone)).1
    · intro hOpen hUnwritten
      rw [hTarget] at hOpen hUnwritten ⊢
      have hThere := Nat.lt_of_lt_of_le (hThere _ (.inr rfl)) prior.length
      refine reading.unfilled hThere hOpen (List.forall_mem_cons.2 ⟨?_, hUnwritten⟩) hTaken
      show (if _ then [] else []) = []
      exact ite_self _
    · intro hInput hBuffer hTakes
      rw [hSource, hChunk] at hInput hBuffer
      rw [hSource] at hTakes ⊢
      have hThere := Nat.lt_of_lt_of_le (hThere _ (.inl rfl)) prior.length
      rw [List.append_assoc, List.cons_append] at history
      refine history.beyond.emptied ?_ hTakes
        (fetches.drained hThere prior.total hTermsThen.2.2.1 hInput hBuffer)
      exact Nat.lt_of_lt_of_le hThere (Step.length_run ..)
  | waitWritable =>
    have hNoted := noted.resolve_left fun h => CopyStep.noConfusion h.1
    refine .target hNoted.2 ?_
    rw [hTarget]
    exact comes
  | ended error? =>
    rcases noted with ⟨hStep, -⟩ | ⟨hStep, -⟩ <;> cases hStep

end Setting

/-- Whatever programs have done that copy only by the operations for that, a copy in the background
that is not finished waits since its last step, on one handler. If it waits for its target, that
step has ended with output left there. If it waits for its source, that step has read from there
while nothing was left in the target, and when it ended nothing was, unless nothing had come of the
read and somebody else had written there. The input of the source is empty, if at that read a chunk
of the copy had room for what waited there and for a whole buffer, and so had whoever else has read
from the source since. -/
theorem copy_waits_for_driver {s : Setting σ} (made : s.MadeOf copyParts) {p : Program σ α}
    (hMade : p.MadeOf copyParts) {w w' : World σ} {events : List (Event σ)} {a : α}
    (attended : w.Attended) (hNone : w.copies = []) (run : s.Runs p w events a w') {k : CopyId}
    (hUnfinished : (w'.copy k).unfinished = true) : ∃ before u inner step v after,
      events = before ++ .made (.enterCopy k) u :: (inner ++ after) ∧
        s.Paused k ((Step.enterCopy k).run s.toSurroundings u).2 inner step v after w' ∧
          s.Waits k ((Step.enterCopy k).run s.toSurroundings u).2 v after w' inner step := by
  obtain ⟨before, u, inner, step, v, after, rfl, paused⟩ :=
    run.paused made hMade attended hNone hUnfinished
  exact ⟨before, u, inner, step, v, after, rfl, paused, paused.waits made run.leads.beyond⟩

/-- A source gives six bytes. One of them is read before the size of its buffer is set and a copy in
the background starts. -/
def tappedSetting : Setting Bool where
  driver id call given := match id, call with
    | 0, .input room =>
      if h : 6 ≤ room ∧ given = false then
        { answer := .ok ⟨List.replicate 6 97, h.1⟩, env := true }
      else { answer := .error .wouldBlock, env := given }
    | _, .output bytes =>
      let n := bytes.length
      { answer := .ok ⟨n, n.le_refl⟩, env := given }
    | _, call => { answer := call.unsupported, env := given }
  ready _ _ := .none
  users _ _ := false
  routine u := .done u.unit
  fire _ _ := .done ()

def tappedWorld : World Bool where
  channels := [{ name := "source", type := "file", mode := .readOnly },
    { name := "target", type := "file", mode := .writeOnly }]
  env := false

def tappedProgram (size : String) : Program Bool (Except Report Unit) := do
  let _ ← Program.read 0 1
  let _ ← setOption 0 "-buffersize" size
  copyInBackground 0 1 none 0

theorem madeOf_tappedSetting : tappedSetting.MadeOf copyParts where
  fire _ _ := .done ()
  routine _ := .done _

theorem madeOf_tappedProgram (size : String) : (tappedProgram size).MadeOf copyParts :=
  (copyParts_basic.operating.toTransfers.read 0 1).bind fun _ =>
    (copyParts_basic.operating.operate 0 (.setOption "-buffersize" size) trivial).bind fun _ =>
      .of_whole .background

theorem attended_tappedWorld : tappedWorld.Attended := by
  refine World.attended_of_none rfl ?_
  simp [tappedWorld]

theorem copy_waits_for_driver_tapped :
    ∃ events a w', tappedSetting.Runs (tappedProgram "8") tappedWorld events a w' ∧
      ((w'.copy 0).unfinished = true ∧ (w'.copy 0).sourceHandler?.isSome ∧
        (w'.channel 0).input = []) ∧
      ∃ before u inner step v after,
        events = before ++ .made (.enterCopy 0) u :: (inner ++ after) ∧
          tappedSetting.Paused 0 ((Step.enterCopy 0).run tappedSetting.toSurroundings u).2 inner
            step v after w' ∧
          tappedSetting.Waits 0 ((Step.enterCopy 0).run tappedSetting.toSurroundings u).2 v after w'
            inner step := by
  have hTrace : (tappedSetting.trace 4 (tappedProgram "8") tappedWorld).any (fun r =>
      decide ((r.2.2.copy 0).unfinished = true ∧ (r.2.2.copy 0).sourceHandler?.isSome ∧
        (r.2.2.channel 0).input = [])) = true := by
    decide +kernel
  obtain ⟨events, a, w', run, hChecked⟩ := Setting.exists_runs hTrace
  have hWaits := of_decide_eq_true hChecked
  exact ⟨events, a, w', run, hWaits, copy_waits_for_driver madeOf_tappedSetting
    (madeOf_tappedProgram "8") attended_tappedWorld rfl run hWaits.1⟩

/-- With a smaller buffer the copy waits for its driver, and three bytes are left in the source that
it could move. -/
theorem copy_waits_beside_input :
    tappedSetting.MadeOf copyParts ∧ (tappedProgram "2").MadeOf copyParts ∧
      tappedWorld.Attended ∧ tappedWorld.copies = [] ∧
      ∃ events a w', tappedSetting.Runs (tappedProgram "2") tappedWorld events a w' ∧
        (w'.copy 0).unfinished = true ∧ (w'.copy 0).sourceHandler?.isSome ∧
          (w'.channel 0).isOpen = true ∧ (w'.channel 1).isOpen = true ∧
            (w'.channel 0).input = List.replicate 3 97 ∧ (w'.channel 1).output.toBytes = [] := by
  have hTrace : (tappedSetting.trace 4 (tappedProgram "2") tappedWorld).any (fun r =>
      decide ((r.2.2.copy 0).unfinished = true ∧ (r.2.2.copy 0).sourceHandler?.isSome ∧
        (r.2.2.channel 0).isOpen = true ∧ (r.2.2.channel 1).isOpen = true ∧
          (r.2.2.channel 0).input = List.replicate 3 97 ∧
            (r.2.2.channel 1).output.toBytes = [])) = true := by
    decide +kernel
  obtain ⟨events, a, w', run, hChecked⟩ := Setting.exists_runs hTrace
  exact ⟨madeOf_tappedSetting, madeOf_tappedProgram "2", attended_tappedWorld, rfl, events, a, w',
    run, of_decide_eq_true hChecked⟩

end EventChannel
