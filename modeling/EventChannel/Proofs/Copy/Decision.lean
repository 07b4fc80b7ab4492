import EventChannel.Proofs.Copy.Service

/-! A copy in the background comes to rest only after a step of its own: the step has told what to
wait for, and a handler for that has been made and noted. From then on the record of the copy stays
as it is until the copy goes on. So a copy at rest waits for what its last step has asked for. -/

namespace EventChannel

open Program

variable {σ α : Type}

/-- The operation by which a copy in the background makes its next step. -/
inductive AdvanceWhole : {α : Type} → Program σ α → Prop
  | advanced {k : CopyId} : AdvanceWhole (advance k)

def Event.Rests : Event σ → Prop
  | .made t _ => t.Rests
  | .called _ _ => False

/-- What programs are made of that put copies to rest only by that operation. -/
def restingParts : Parts σ where
  step t := ¬t.Rests
  call _ := True
  whole := AdvanceWhole

theorem restingParts_basic : (restingParts : Parts σ).Basic where
  step t basic := by
    cases t with
    | restCopy => cases basic
    | _ => exact not_false
  call _ _ := trivial

theorem restingParts_working (k : CopyId) : (restingParts : Parts σ).Working k where
  toTransfers := restingParts_basic.operating.toTransfers
  copy := not_false
  count _ := not_false
  moveAll := trivial
  note _ _ := not_false
  leaving j handler := restingParts_basic.operating.operate j (.deleteHandler handler) trivial
  waiting j mask :=
    restingParts_basic.simple.notifying.hold j (.createHandler mask (.copy k)) not_false

theorem restingParts_starting : (restingParts : Parts σ).Starting where
  toTransfers := restingParts_basic.operating.toTransfers
  step _ _ hNot := hNot
  moveChunks k := (restingParts_working k).moveChunks
  advance _ := .of_whole .advanced

/-- Programs that copy only by the operations for that put copies to rest only in that way. -/
theorem Program.MadeOf.toRestingParts {p : Program σ α} (made : p.MadeOf copyParts) :
    p.MadeOf restingParts := by
  refine made.mono (fun t allowed => ?_) (fun _ _ => trivial) fun _ allowed => ?_
  · rcases allowed with basic | dispatches
    · exact restingParts_basic.step t basic
    · cases t with
      | restCopy => cases dispatches
      | _ => exact not_false
  · cases allowed with
    | waited => exact restingParts_starting.copy _ _ _
    | background => exact restingParts_starting.copyInBackground _ _ _ _

theorem Setting.MadeOf.toRestingParts {s : Setting σ} (made : s.MadeOf copyParts) :
    s.MadeOf restingParts where
  routine u := (made.routine u).toRestingParts
  fire handler ready := (made.fire handler ready).toRestingParts

namespace Setting

variable {s : Setting σ} {w w' v z : World σ} {k : CopyId}
  {events first second past inner waiting : List (Event σ)} {step : CopyStep}

/-- A copy begins to wait for what its step has told. -/
inductive WaitsFor (s : Setting σ) (k : CopyId) (v : World σ) (waiting : List (Event σ))
    (z : World σ) : CopyStep → Prop
  | source (run : s.Runs (waitForSource k) v waiting () z) : WaitsFor s k v waiting z .waitReadable
  | target (run : s.Runs (waitForTarget k) v waiting () z) : WaitsFor s k v waiting z .waitWritable

/-- Last of all a copy has gone on from its rest, made a step, and begun to wait. -/
def Settled (s : Setting σ) (k : CopyId) (past : List (Event σ)) (z : World σ) : Prop :=
  ∃ before u inner step v waiting,
    past = before ++ .made (.enterCopy k) u :: (inner ++ waiting) ∧ (u.copy k).phase = .resting ∧
      s.Runs (copyStep k) ((Step.enterCopy k).run s.toSurroundings u).2 inner step v ∧
        s.WaitsFor k v waiting z step

/-- Copies come to rest only then. -/
def RestsSettled (s : Setting σ) (events : List (Event σ)) : Prop :=
  ∀ before k z after, events = before ++ .made (.restCopy k) z :: after → s.Settled k before z

theorem Settled.prepend (settled : s.Settled k past z) (first : List (Event σ)) :
    s.Settled k (first ++ past) z := by
  obtain ⟨before, u, inner, step, v, waiting, rfl, settled⟩ := settled
  exact ⟨first ++ before, u, inner, step, v, waiting, (List.append_assoc ..).symm, settled⟩

namespace RestsSettled

theorem nil : s.RestsSettled [] := by
  intro before k z after hEvents
  simp at hEvents

theorem append (left : s.RestsSettled first) (right : s.RestsSettled second) :
    s.RestsSettled (first ++ second) := by
  intro before k z after hEvents
  rcases List.append_eq_append_iff.1 hEvents with
    ⟨middle, rfl, hSecond⟩ | ⟨middle, hFirst, hAfter⟩
  · exact (right middle k z after hSecond).prepend first
  · cases middle with
    | nil =>
      rw [List.append_nil] at hFirst
      rw [List.nil_append] at hAfter
      have settled := (right [] k z after hAfter.symm).prepend before
      rwa [List.append_nil] at settled
    | cons e middle =>
      obtain ⟨rfl, -⟩ := List.cons.inj hAfter
      exact left before k z middle hFirst

theorem single {e : Event σ} (hNot : ¬e.Rests) : s.RestsSettled [e] := by
  intro before k z after hEvents
  cases before with
  | nil =>
    rw [(List.cons.inj hEvents).1] at hNot
    exact absurd trivial hNot
  | cons e' before =>
    have hNone := (List.cons.inj hEvents).2
    simp at hNone

theorem cons {e : Event σ} (hNot : ¬e.Rests)
    (rest : s.RestsSettled events) : s.RestsSettled (e :: events) :=
  (single hNot).append rest

theorem rest (prior : s.RestsSettled past) (settled : s.Settled k past z) :
    s.RestsSettled (past ++ [.made (.restCopy k) z]) := by
  intro before k' z' after hEvents
  rcases List.eq_nil_or_concat after with rfl | ⟨after, e, rfl⟩
  · obtain ⟨rfl, hLast⟩ := List.append_inj' hEvents rfl
    cases hLast
    exact settled
  · rw [List.concat_eq_append, ← List.cons_append, ← List.append_assoc] at hEvents
    exact prior before k' z' after (List.append_inj' hEvents rfl).1

end RestsSettled

/-- What is called for a copy either comes to nothing, or the copy makes a step and then waits or
ends. -/
theorem runs_advance {a : Unit} (run : s.Runs (advance k) w events a w') :
    events = [.made (.enterCopy k) w] ∨
      (w.copy k).phase = .resting ∧ ∃ inner step v rest,
        events = .made (.enterCopy k) w :: (inner ++ rest) ∧
        s.Runs (copyStep k) ((Step.enterCopy k).run s.toSurroundings w).2 inner step v ∧
        ((∃ waiting z, rest = waiting ++ [.made (.restCopy k) z] ∧ s.WaitsFor k v waiting z step) ∨
          ∃ error?, s.Runs (endCopy k error?) v rest () w') := by
  cases run with
  | step run =>
    by_cases hResting : (w.copy k).phase = .resting
    · rw [Step.run_enterCopy hResting] at run ⊢
      have run : s.Runs ((copyStep k).bind _) _ _ a w' := run
      obtain ⟨inner, rest, step, v, rfl, stepped, after⟩ := run.of_bind
      refine .inr ⟨hResting, inner, step, v, rest, rfl, stepped, ?_⟩
      cases step with
      | waitReadable =>
        obtain ⟨waiting, last, u, z, rfl, waits, rests⟩ := after.of_bind
        cases rests with
        | step ended =>
          cases ended
          exact .inl ⟨waiting, z, rfl, .source waits⟩
      | waitWritable =>
        obtain ⟨waiting, last, u, z, rfl, waits, rests⟩ := after.of_bind
        cases rests with
        | step ended =>
          cases ended
          exact .inl ⟨waiting, z, rfl, .target waits⟩
      | ended error? => exact .inr ⟨error?, after⟩
    · have hRun : (Step.enterCopy k).run s.toSurroundings w = (false, w) := by
        simp only [Step.run, if_neg hResting]
      rw [hRun] at run
      cases run
      exact .inl rfl

/-- Whatever programs do that put copies to rest only by their own operation, they do so when the
copy has made a step and waits. -/
theorem Runs.restsSettled (made : s.MadeOf restingParts) {p : Program σ α}
    (hMade : p.MadeOf restingParts) {a : α} (run : s.Runs p w events a w') :
    s.RestsSettled events := by
  induction hLength : events.length using Nat.strongRecOn generalizing α p w events a w' with
  | ind n ih =>
    subst hLength
    have hStep {w : World σ} {inner : List (Event σ)} {β : Type} {q : Program σ β} {b : β}
        {w' : World σ} (hShorter : inner.length < events.length) (hMade : q.MadeOf restingParts)
        (run : s.Runs q w inner b w') : s.RestsSettled inner :=
      ih inner.length hShorter hMade run rfl
    cases hMade with
    | done a =>
      cases run
      exact .nil
    | step allowed rest =>
      cases run with
      | step run =>
        exact .cons allowed (hStep (Nat.lt_succ_self _) (rest _) run)
    | @call c _ _ rest =>
      cases run with
      | call body run =>
        have hBody := made.body restingParts_starting (fun _ _ => trivial) c
        refine .cons not_false ((hStep ?_ hBody body).append (hStep ?_ (rest _) run))
        · simp only [List.length_cons, List.length_append]
          omega
        · simp only [List.length_cons, List.length_append]
          omega
    | whole allowed rest =>
      cases allowed with
      | @advanced k =>
        obtain ⟨front, last, b, v, rfl, advanced, later⟩ := run.of_bind
        rcases runs_advance advanced with
          rfl | ⟨hResting, inner, step, v, more, rfl, stepped, settles⟩
        · exact .cons not_false (hStep (Nat.lt_succ_self _) (rest _) later)
        simp only [List.cons_append, List.length_cons, List.length_append] at hStep
        have hInner := hStep (by omega) (restingParts_working k).copyStep stepped
        refine .append ?_ (hStep (by omega) (rest _) later)
        rcases settles with ⟨waiting, z, rfl, waits⟩ | ⟨error?, ended⟩
        · rw [← List.append_assoc, ← List.cons_append]
          rw [List.length_append] at hStep
          refine .rest (.cons not_false (hInner.append ?_)) ?_
          · cases waits with
            | source run => exact hStep (by omega) (restingParts_working k).waitForSource run
            | target run => exact hStep (by omega) (restingParts_working k).waitForTarget run
          · exact ⟨[], w, inner, step, v, waiting, rfl, hResting, stepped, waits⟩
        · have hEnd : (endCopy k error? : Program σ Unit).MadeOf restingParts :=
              (restingParts_working (σ := σ) k).endCopy not_false not_false (fun _ _ _ => trivial)
              error?
          exact .cons not_false (hInner.append (hStep (by omega) hEnd ended))

end Setting

section

variable {s : Surroundings σ} {w w' : World σ} {k : CopyId} {events : List (Event σ)}

/-- A copy that is at rest has been so before, with the same record, or it has just come to rest, or
it has not gone on yet since it has been begun. -/
theorem Step.rested_run (t : Step σ α) (fits : t.Fits w)
    (hResting : ((t.run s w).2.copy k).phase = .resting) :
    (t.run s w).2.copy k = w.copy k ∨ Event.made t w = .made (.restCopy k) w ∨
      ((t.run s w).2.copy k).sourceHandler? = none ∧
        ((t.run s w).2.copy k).targetHandler? = none := by
  by_cases hThere : k < w.copies.length
  · by_cases hRecopies : t.Recopies k
    · have hRecord (f : Copy → Copy) : (w.modifyCopy k f).copy k = f (w.copy k) :=
        World.copy_modifyCopy_self f hThere
      cases t with
      | restCopy k' =>
        obtain rfl : k' = k := hRecopies
        exact .inr (.inl rfl)
      | fixChunk k' =>
        obtain rfl : k' = k := hRecopies
        have hFixed : ((Step.fixChunk k').run s w).2.copy k' = _ := hRecord _
        rw [hFixed]
        exact .inr (.inr fits.2)
      | enterCopy k' =>
        obtain rfl : k' = k := hRecopies
        by_cases hRested : (w.copy k').phase = .resting
        · rw [Step.run_enterCopy hRested, hRecord] at hResting
          cases hResting
        · simp only [Step.run, if_neg hRested]
          exact .inl trivial
      | countCopied k' n =>
        obtain rfl : k' = k := hRecopies
        have hCounted : ((Step.countCopied k' n).run s w).2.copy k' = _ := hRecord _
        rw [hCounted] at hResting
        exact absurd hResting fits.1
      | setCopyHandlers k' source? target? =>
        obtain rfl : k' = k := hRecopies
        have hNoted : ((Step.setCopyHandlers k' source? target?).run s w).2.copy k' = _ :=
          hRecord _
        rw [hNoted] at hResting
        exact absurd hResting fits.1
      | endCopying k' =>
        obtain rfl : k' = k := hRecopies
        have hEnding : ((Step.endCopying k').run s w).2.copy k' = _ := hRecord _
        rw [hEnding] at hResting
        cases hResting
      | finishCopy k' =>
        obtain rfl : k' = k := hRecopies
        have hDone : ((Step.finishCopy k').run s w).2.copy k' = _ :=
          World.copy_modifyCopy_self (w := w.markCopying _ _ false) _ hThere
        rw [hDone] at hResting
        cases hResting
      | _ => cases hRecopies
    · exact .inl ((t.copies_run s w k).2 hThere hRecopies)
  · by_cases hThere' : k < (t.run s w).2.copies.length
    · obtain ⟨_, _, _, _, -, -, -, hBegun⟩ := t.begun_run (Nat.le_of_not_lt hThere) hThere'
      rw [hBegun] at hResting
      cases hResting
    · rw [World.phase_of_absent (Nat.le_of_not_lt hThere')] at hResting
      cases hResting

/-- The record of a copy at rest is that with which it has come to rest. -/
theorem Surroundings.Leads.rested (history : s.Leads w events w') (fits : ∀ e ∈ events, e.Fits)
    (hNone : w.copies = []) (attended : w'.Attended) (hResting : (w'.copy k).phase = .resting) :
    ∃ before z after, events = before ++ .made (.restCopy k) z :: after ∧
      ((Step.restCopy k).run s z).2.copy k = w'.copy k ∧
        ∀ e ∈ after, e.before.copy k = w'.copy k := by
  have hLast : (∃ before z after, events = before ++ .made (.restCopy k) z :: after ∧
      ((Step.restCopy k).run s z).2.copy k = w'.copy k ∧
        ∀ e ∈ after, e.before.copy k = w'.copy k) ∨
      (w'.copy k).sourceHandler? = none ∧ (w'.copy k).targetHandler? = none := by
    clear attended
    induction history with
    | refl =>
      rw [World.phase_of_absent (by rw [hNone]; exact Nat.zero_le k)] at hResting
      cases hResting
    | @snoc events e prior ih =>
      obtain ⟨hPrior, hFits⟩ := List.forall_mem_append.1 fits
      have hFits := List.forall_mem_singleton.1 hFits
      have hCases : (e.after s).copy k = e.before.copy k ∨ e = .made (.restCopy k) e.before ∨
          ((e.after s).copy k).sourceHandler? = none ∧
            ((e.after s).copy k).targetHandler? = none := by
        cases e with
        | called c v => exact .inl rfl
        | made t v => exact t.rested_run hFits hResting
      rcases hCases with hSame | hRests | hBare
      · rw [hSame] at hResting ⊢
        rcases ih hPrior hResting with ⟨before, z, after, rfl, hRecord, hEach⟩ | hBare
        · refine .inl ⟨before, z, after ++ [e], by simp, hRecord, ?_⟩
          exact List.forall_mem_append.2 ⟨hEach, List.forall_mem_singleton.2 rfl⟩
        · exact .inr hBare
      · refine .inl ⟨events, e.before, [], by rw [← hRests], ?_, List.forall_mem_nil _⟩
        exact congrArg (fun e => (Event.after s e).copy k) hRests.symm
      · exact .inr hBare
  rcases hLast with rests | ⟨hSource, hTarget⟩
  · exact rests
  · have hangs := (attended.rests k hResting).1
    rw [Copy.Hangs, hSource, hTarget] at hangs
    cases hangs

end

/-- What serves a copy under way does not change the size of its chunks. -/
theorem chunk_served {s : Surroundings σ} {w : World σ} {k : CopyId} {t : Step σ α}
    (allowed : (serviceParts k).step t) (stands : Duty.working.Stands k w) :
    ((t.run s w).2.copy k).chunk = (w.copy k).chunk := by
  have hExists := World.exists_of_unfinished stands.2.2
  by_cases hRecopies : t.Recopies k
  · cases t with
    | countCopied k' | setCopyHandlers k' | endCopying k' =>
      obtain rfl : k' = k := hRecopies
      exact (congrArg Copy.chunk (World.copy_modifyCopy_self _ hExists)).trans rfl
    | fixChunk | enterCopy | restCopy | finishCopy =>
      rcases allowed with (basic | dispatches) | serves
      · cases basic
      · cases dispatches
      · cases serves
    | _ => cases hRecopies
  · rw [(t.copies_run s w k).2 hExists hRecopies]

namespace Setting

variable {s : Setting σ} {w w' u v z : World σ} {k : CopyId} {a : α}
  {events inner waiting : List (Event σ)} {step : CopyStep}

/-- What serves a copy leaves it under way, and its chunks of the same size. -/
theorem Runs.stands (made : s.MadeOf copyParts) {p : Program σ α}
    (hMade : p.MadeOf (serviceParts k)) (stands : Duty.working.Stands k w)
    (run : s.Runs p w events a w') :
    Duty.working.Stands k w' ∧ (w'.copy k).chunk = (w.copy k).chunk := by
  induction hMade generalizing w events with
  | done a =>
    cases run
    exact ⟨stands, rfl⟩
  | step allowed rest ih =>
    cases run with
    | step run =>
      obtain ⟨stands', hChunk⟩ := ih _ (stands_served allowed stands) run
      exact ⟨stands', hChunk.trans (chunk_served allowed stands)⟩
  | call allowed rest ih =>
    cases run with
    | call body run =>
      obtain ⟨stands₁, hSame⟩ := stands_called made allowed stands body
      obtain ⟨stands', hChunk⟩ := ih _ stands₁ run
      refine ⟨stands', hChunk.trans ?_⟩
      rw [hSame]
  | whole allowed => exact absurd allowed not_false

/-- While others are at work, the record of a copy under way changes at most in the number of the
bytes moved. -/
theorem Runs.record (made : s.MadeOf copyParts) {p : Program σ α} (hMade : p.MadeOf copyParts)
    (stands : Duty.working.Stands k w) (run : s.Runs p w events a w') :
    Duty.working.Stands k w' ∧ w'.copy k = { w.copy k with total := (w'.copy k).total } := by
  have respects : s.Respects none w events w' :=
    ((governs_copyParts.keeps hMade).of_run (honoured_attendance made) run stands.1 trivial).1
  exact respects.working stands

/-- A copy under way notes a handler, if there is none yet a new one, and deletes another. -/
theorem Runs.hung (made : s.MadeOf copyParts) {i j : ChannelId} {mask : Interest}
    {wanted? other? : Option HandlerId} (note : Option HandlerId → Step σ Unit)
    (Noted : Option HandlerId → Copy → Prop)
    (hNote : ∀ w handler?, Duty.working.Stands k w →
      Duty.working.Stands k ((note handler?).run s.toSurroundings w).2 ∧
        Noted handler? (((note handler?).run s.toSurroundings w).2.copy k))
    (hTotal : ∀ handler? c n, Noted handler? c → Noted handler? { c with total := n })
    (stands : Duty.working.Stands k v) {a : Unit}
    (run : s.Runs (act (note wanted?) >>= fun _ => deleteHandler? i other? >>= fun _ =>
      if wanted?.isNone then createHandler j mask (.copy k) >>= fun id => act (note (some id))
      else .done ()) v waiting a z) :
    ∃ handler, Noted (some handler) (z.copy k) := by
  have hDeletes : (deleteHandler? i other? : Program σ Unit).MadeOf copyParts := by
    cases other? with
    | none => exact .done ()
    | some handler => exact copyParts_basic.operating.operate i (.deleteHandler handler) trivial
  cases run with
  | step run =>
    obtain ⟨stands₁, noted⟩ := hNote v wanted? stands
    have run : s.Runs ((deleteHandler? i other?).bind _) _ _ a z := run
    obtain ⟨deletion, last, _, v₂, rfl, deleted, later⟩ := run.of_bind
    obtain ⟨stands₂, hSame⟩ := deleted.record made hDeletes stands₁
    split at later
    · obtain ⟨creation, last, handler, v₃, rfl, created, later⟩ := later.of_bind
      have stands₃ := (created.stands made ((serviceParts_working k).waiting j mask) stands₂).1
      cases later with
      | step ended =>
        cases ended
        exact ⟨handler, (hNote v₃ (some handler) stands₃).2⟩
    · next hSome =>
      cases later
      obtain ⟨handler, rfl⟩ := Option.ne_none_iff_exists'.1 (mt Option.isNone_iff_eq_none.2 hSome)
      refine ⟨handler, ?_⟩
      rw [hSame]
      exact hTotal _ _ _ noted

/-- A copy that has begun to wait has noted one handler, on the channel that it waits for. -/
theorem WaitsFor.noted (made : s.MadeOf copyParts) (stands : Duty.working.Stands k v)
    (waits : s.WaitsFor k v waiting z step) :
    step = .waitReadable ∧ (z.copy k).sourceHandler?.isSome ∧ (z.copy k).targetHandler? = none ∨
      step = .waitWritable ∧ (z.copy k).targetHandler?.isSome ∧
        (z.copy k).sourceHandler? = none := by
  have hNotes (w : World σ) (source? target? : Option HandlerId)
      (stands : Duty.working.Stands k w) :
      Duty.working.Stands k ((Step.setCopyHandlers k source? target?).run s.toSurroundings w).2 ∧
        ((Step.setCopyHandlers k source? target?).run s.toSurroundings w).2.copy k =
          (w.copy k).noting source? target? :=
    ⟨stands_served (.inr rfl) stands,
      World.copy_modifyCopy_self _ (World.exists_of_unfinished stands.2.2)⟩
  cases waits with
  | source run =>
    refine .inl ⟨rfl, ?_⟩
    cases run with
    | step run =>
      obtain ⟨handler, hSource, hTarget⟩ := Runs.hung made
        (fun handler? => .setCopyHandlers k handler? none)
        (fun handler? c => c.sourceHandler? = handler? ∧ c.targetHandler? = none)
        (fun w handler? stands => by
          obtain ⟨stands₁, hNoted⟩ := hNotes w handler? none stands
          exact ⟨stands₁, by rw [hNoted]; exact ⟨rfl, rfl⟩⟩)
        (fun _ _ _ noted => noted) stands run
      exact ⟨Option.isSome_of_eq_some hSource, hTarget⟩
  | target run =>
    refine .inr ⟨rfl, ?_⟩
    cases run with
    | step run =>
      obtain ⟨handler, hTarget, hSource⟩ := Runs.hung made
        (fun handler? => .setCopyHandlers k none handler?)
        (fun handler? c => c.targetHandler? = handler? ∧ c.sourceHandler? = none)
        (fun w handler? stands => by
          obtain ⟨stands₁, hNoted⟩ := hNotes w none handler? stands
          exact ⟨stands₁, by rw [hNoted]; exact ⟨rfl, rfl⟩⟩)
        (fun _ _ _ noted => noted) stands run
      exact ⟨Option.isSome_of_eq_some hTarget, hSource⟩

/-- The last step of a copy has led from one world to another. From then on the copy has been
waiting for what the step has told: it has come to rest with a handler for that, and its record has
stayed as it was. -/
structure Paused (s : Setting σ) (k : CopyId) (u : World σ) (inner : List (Event σ))
    (step : CopyStep) (v : World σ) (after : List (Event σ)) (w' : World σ) : Prop where
  stands : Duty.working.Stands k u
  stepped : s.Runs (copyStep k) u inner step v
  rested : ∃ waiting z later, after = waiting ++ .made (.restCopy k) z :: later ∧
    s.WaitsFor k v waiting z step ∧
      ((Step.restCopy k).run s.toSurroundings z).2.copy k = w'.copy k ∧
        ∀ e ∈ later, e.before.copy k = w'.copy k

/-- The copy waits by the handler that it has noted, and its chunks are still of the same size. -/
theorem Paused.noted (made : s.MadeOf copyParts) {after : List (Event σ)}
    (paused : s.Paused k u inner step v after w') :
    (w'.copy k).chunk = (u.copy k).chunk ∧
      (step = .waitReadable ∧ (w'.copy k).sourceHandler?.isSome ∧
          (w'.copy k).targetHandler? = none ∨
        step = .waitWritable ∧ (w'.copy k).targetHandler?.isSome ∧
          (w'.copy k).sourceHandler? = none) := by
  obtain ⟨waiting, z, later, -, waits, hRecord, -⟩ := paused.rested
  obtain ⟨stands, hChunk⟩ :=
    paused.stepped.stands made (serviceParts_working k).copyStep paused.stands
  obtain ⟨stands', hChunk'⟩ :
      Duty.working.Stands k z ∧ (z.copy k).chunk = (v.copy k).chunk := by
    cases waits with
    | source run => exact run.stands made (serviceParts_working k).waitForSource stands
    | target run => exact run.stands made (serviceParts_working k).waitForTarget stands
  have hRested : ((Step.restCopy k).run s.toSurroundings z).2.copy k =
      { z.copy k with phase := .resting } :=
    World.copy_modifyCopy_self _ (World.exists_of_unfinished stands'.2.2)
  rw [← hRecord, hRested]
  exact ⟨hChunk'.trans hChunk, waits.noted made stands⟩

/-- A copy that is not finished, when programs have ended, waits since its last step. -/
theorem Runs.paused (made : s.MadeOf copyParts) {p : Program σ α} (hMade : p.MadeOf copyParts)
    (attended : w.Attended) (hNone : w.copies = []) (run : s.Runs p w events a w')
    (hUnfinished : (w'.copy k).unfinished = true) :
    ∃ before u inner step v after, events = before ++ .made (.enterCopy k) u :: (inner ++ after) ∧
      s.Paused k ((Step.enterCopy k).run s.toSurroundings u).2 inner step v after w' := by
  have respects : s.Respects none w events w' :=
    ((governs_copyParts.keeps hMade).of_run (honoured_attendance made) run attended trivial).1
  have hResting : (w'.copy k).phase = .resting := by
    rcases respects.fresh k (by rw [hNone]; exact Nat.zero_le k) nofun with hRests | hDone
    · exact hRests
    · rw [Copy.unfinished, hDone] at hUnfinished
      cases hUnfinished
  obtain ⟨before, z, later, rfl, hRecord, hLater⟩ :=
    run.leads.rested respects.fits hNone respects.ends hResting
  obtain ⟨before, u, inner, step, v, waiting, rfl, hEnters, stepped, waits⟩ :=
    run.restsSettled made.toRestingParts hMade.toRestingParts _ k z later rfl
  refine ⟨before, u, inner, step, v, waiting ++ .made (.restCopy k) z :: later, by simp, ?_,
    stepped, waiting, z, later, rfl, waits, hRecord, hLater⟩
  refine ⟨respects.tended (.made (.enterCopy k) u) (by simp) hEnters, ?_⟩
  rw [Step.run_enterCopy hEnters, World.copy_modifyCopy_self _ (World.exists_of_resting hEnters)]
  exact ⟨(fun hStill => by cases hStill), rfl⟩

end Setting

end EventChannel
