import EventChannel.Proofs.Copy.Bystander
import EventChannel.Proofs.Copy.Chunk

/-! Between its events a copy in the background rests. An event of it makes one step; then it rests
again with a handler on one of its channels, or it ends and its routine is called. -/

namespace EventChannel

namespace Program

variable {σ : Type}

/-- Conditions come up on one channel after the other. -/
def notifyAll : List (ChannelId × Interest) → Program σ Unit
  | [] => .done ()
  | (channel, raised) :: rest => do
    notify channel raised
    notifyAll rest

/-- A copy is started in the background, and if that succeeds, conditions come up on channels. -/
def copyAmid (source target : ChannelId) (limit? : Option Nat) (onDone : RoutineId)
    (schedule : List (ChannelId × Interest)) : Program σ (Except Report Unit) := do
  match ← copyInBackground source target limit? onDone with
  | .error r => return .error r
  | .ok () =>
    notifyAll schedule
    return .ok ()

end Program

namespace Route

variable {σ α : Type} {r : Route} {s : Surroundings σ} {start : World σ} {K : Contract σ}
  {w w' : World σ} {past inner : List (Event σ)} {id : ChannelId} {c c' : Copy}
  {error? : Option Report}

/-- Between its events a copy in the background rests, or it is done. -/
inductive Rests (r : Route) (s : Surroundings σ) (start : World σ) (past : List (Event σ))
    (w : World σ) : Prop
  | resting (c : Copy) (phase : c.phase = .resting) (level : r.Level s start past w c)
  | done (c : Copy) (phase : c.phase = .done) (error? : Option Report)
      (ends : r.Ends s start past w c error?)

/-- What is promised about the calls around a copy in the background. -/
def background (r : Route) (s : Surroundings σ) (start : World σ) : Contract σ where
  pre
    | .user u, past, w => r.Finds s start u past w
    | .advance k, past, w => k = r.copy ∧
        (r.Rests s start past w ∨ ∃ c, r.Ground s start past w c ∧ c.phase ≠ .resting)
    | _, _, _ => False
  post
    | .user u, past, w, past', _, w' =>
      ∃ inner, past' = past ++ .called (.user u) w :: inner ∧ s.Leads w inner w' ∧
        ∀ e ∈ inner, r.Apart e
    | .advance k, past, w, past', _, w' =>
      if (w.copy k).phase = .resting then r.Rests s start past' w'
      else past' = past ++ [.called (.advance k) w, .made (.enterCopy k) w] ∧ w' = w
    | _, _, _, _, _, _ => True

theorem shields_background : r.Shields s start (r.background s start) where
  event _ _ _ _ _ _ ground := .of_ground rfl ground
  user _ _ _ _ _ _ hPost := hPost
  advance _ _ c ground hBusy := ⟨rfl, .inr ⟨c, ground, hBusy⟩⟩
  busy _ _ _ _ _ hPhase hPost := by simpa only [background, if_neg hPhase] using hPost

/-- A copy at rest outlasts what happens around its channels, its own steps among it. -/
theorem Rests.lasting : r.Lasting s start (r.background s start) id (r.Rests s start) where
  ground rests := by
    cases rests with
    | resting c phase level => exact ⟨c, level.toGround⟩
    | done c phase error? ends => exact ⟨c, ends.toGround⟩
  interlude rests interlude := by
    cases rests with
    | resting c phase level => exact .resting c phase (level.interlude interlude)
    | done c phase error? ends => exact .done c phase error? (ends.interlude interlude)
  advance {past w} rests := by
    refine ⟨⟨rfl, .inl rests⟩, fun past' b w' hPost => ?_⟩
    cases rests with
    | resting c phase level =>
      have hPhase : (w.copy r.copy).phase = .resting := level.record ▸ phase
      simpa only [background, if_pos hPhase] using hPost
    | done c phase error? ends =>
      have hPhase : (w.copy r.copy).phase ≠ .resting := by
        rw [ends.record, phase]
        decide
      obtain ⟨rfl, rfl⟩ := shields_background.busy _ _ _ _ _ hPhase hPost
      exact .done c phase error?
        (ends.interlude ((Interlude.of_called id _ w').trans (.of_enter id hPhase)))

/-- A copy that waits for its source has a handler there and none on its target. -/
theorem wp_waitForSource (shields : r.Shields s start K) (hHook : r.copy ∈ r.hook?)
    (level : r.Level s start past w c) (busy : c.phase ≠ .resting)
    {Q : List (Event σ) → Unit → World σ → Prop}
    (hQ : ∀ past' w' c', r.Level s start past' w' c' → c'.phase ≠ .resting → Q past' () w') :
    (Program.waitForSource r.copy).wp s K Q past w := by
  have copied := level.interlude (.of_copy r.source level.toThere r.copy)
  refine Program.wp_copy.2 (Program.wp_act.2 ?_)
  rw [level.record, level.task.source, level.task.target]
  have forgotten := copied.recorded (t := .setCopyHandlers r.copy c.sourceHandler? none)
    ({ · with sourceHandler? := c.sourceHandler?, targetHandler? := none })
    (fun _ => ⟨not_false, not_false⟩) rfl rfl
  refine Program.wp_bind.2 (wp_deleteHandler? shields (forgotten.lasting shields busy) (.inr rfl)
    _ forgotten ?_)
  intro past₁ w₁ level₁
  split
  · refine Program.wp_bind.2 (wp_createHandler shields (forgotten.lasting shields busy) (.inl rfl)
      hHook .reading level₁ ?_)
    intro past₂ handler w₂ level₂
    exact hQ _ _ _ (level₂.recorded (t := .setCopyHandlers r.copy (some handler) none)
      ({ · with sourceHandler? := some handler, targetHandler? := none })
      (fun _ => ⟨not_false, not_false⟩) rfl rfl) busy
  · exact hQ past₁ w₁ _ level₁ busy

/-- A copy that waits for its target has a handler there and none on its source. -/
theorem wp_waitForTarget (shields : r.Shields s start K) (hHook : r.copy ∈ r.hook?)
    (level : r.Level s start past w c) (busy : c.phase ≠ .resting)
    {Q : List (Event σ) → Unit → World σ → Prop}
    (hQ : ∀ past' w' c', r.Level s start past' w' c' → c'.phase ≠ .resting → Q past' () w') :
    (Program.waitForTarget r.copy).wp s K Q past w := by
  have copied := level.interlude (.of_copy r.source level.toThere r.copy)
  refine Program.wp_copy.2 (Program.wp_act.2 ?_)
  rw [level.record, level.task.source, level.task.target]
  have forgotten := copied.recorded (t := .setCopyHandlers r.copy none c.targetHandler?)
    ({ · with sourceHandler? := none, targetHandler? := c.targetHandler? })
    (fun _ => ⟨not_false, not_false⟩) rfl rfl
  refine Program.wp_bind.2 (wp_deleteHandler? shields (forgotten.lasting shields busy) (.inl rfl)
    _ forgotten ?_)
  intro past₁ w₁ level₁
  split
  · refine Program.wp_bind.2 (wp_createHandler shields (forgotten.lasting shields busy) (.inr rfl)
      hHook .writing level₁ ?_)
    intro past₂ handler w₂ level₂
    exact hQ _ _ _ (level₂.recorded (t := .setCopyHandlers r.copy none (some handler))
      ({ · with sourceHandler? := none, targetHandler? := some handler })
      (fun _ => ⟨not_false, not_false⟩) rfl rfl) busy
  · exact hQ past₁ w₁ _ level₁ busy

/-- At the end of a copy its handlers and modes are put back; then its routine is called. -/
theorem wp_endCopy {routine : RoutineId} (hOnDone : r.onDone? = some routine)
    (ends : r.Ends s start past w c error?)
    {Q : List (Event σ) → Unit → World σ → Prop}
    (hQ : ∀ past' w', r.Rests s start past' w' → Q past' () w') :
    (Program.endCopy r.copy error?).wp s (r.background s start) Q past w := by
  have ending := ends.recorded (t := .endCopying r.copy) ({ · with phase := .ending })
    (fun _ => ⟨not_false, not_false⟩) rfl rfl
  apply Program.wp_act.2
  generalize ((Step.endCopying r.copy).run s w).2 = w₁ at ending ⊢
  have copied := ending.interlude (.of_copy r.source ending.toThere r.copy)
  refine Program.wp_copy.2 (Program.wp_act.2 ?_)
  rw [ending.record]
  simp only [ends.task.source, ends.task.target, ends.task.onDone, hOnDone]
  have forgotten := copied.recorded (t := .setCopyHandlers r.copy none none)
    ({ · with sourceHandler? := none, targetHandler? := none })
    (fun _ => ⟨not_false, not_false⟩) rfl rfl
  have hBusy : CopyPhase.ending ≠ .resting := by decide
  have enduring := forgotten.enduring hBusy
  have lasting (id : ChannelId) : r.Lasting s start (r.background s start) id _ :=
    enduring.lasting shields_background
  refine Program.wp_bind.2 (wp_deleteHandler? shields_background (lasting _) (.inl rfl) _
    forgotten ?_)
  intro past₂ w₂ ends₂
  refine Program.wp_bind.2 (wp_deleteHandler? shields_background (lasting _) (.inr rfl) _
    ends₂ ?_)
  intro past₃ w₃ ends₃
  refine Program.wp_bind.2 (wp_switchModes shields_background enduring _ ends₃ ?_)
  intro past₄ answer w₄ ends₄ _
  have done := ends₄.recorded (t := .finishCopy r.copy) ({ · with phase := .done })
    (fun _ => ⟨not_false, not_false⟩) rfl rfl
  refine Program.wp_act.2 ⟨⟨⟨_, done.toGround⟩, fun _ _ _ hCall _ => ?_⟩, ?_⟩
  · cases hCall
    refine ⟨?_, ?_, done.record ▸ done⟩
    · rw [done.record]
    · rw [done.record]
  · rintro past₅ answer₅ w₅ ⟨inner, rfl, history, apart⟩
    refine hQ _ _ (.done _ rfl error? (done.interlude
      ((Interlude.of_called r.source _ _).trans ?_)))
    exact .of_leads history done.source done.target apart

/-- An event of a copy at rest makes its next step. -/
theorem wp_advance {routine : RoutineId} (hOnDone : r.onDone? = some routine)
    (origin : r.Origin start) (rests : r.Rests s start past w)
    {Q : List (Event σ) → Unit → World σ → Prop}
    (hQ : ∀ past' w', r.Rests s start past' w' → Q past' () w') :
    (Program.advance r.copy).wp s (r.background s start) Q past w := by
  apply Program.wp_act.2
  cases rests with
  | resting c phase level =>
    have hRun : (Step.enterCopy r.copy).run s w =
        (true, w.modifyCopy r.copy ({ · with phase := .moving })) :=
      if_pos (level.record ▸ phase)
    have entered := level.recorded (t := .enterCopy r.copy) ({ · with phase := .moving })
      (fun _ => ⟨not_false, not_false⟩) (by rw [hRun]) rfl
    rw [hRun] at entered ⊢
    have hBusy : CopyPhase.moving ≠ .resting := by decide
    have hHook := hook_of_onDone hOnDone
    refine Program.wp_bind.2 (wp_copyStep shields_background origin entered hBusy ?_)
    intro past₁ step w₁ stepped
    cases stepped with
    | waitReadable c₁ busy level₁ =>
      refine Program.wp_bind.2 (wp_waitForSource shields_background hHook level₁ busy ?_)
      intro past₂ w₂ c₂ level₂ busy₂
      exact hQ _ _ (.resting _ rfl (level₂.recorded (t := .restCopy r.copy)
        ({ · with phase := .resting }) (fun _ => ⟨not_false, not_false⟩) rfl rfl))
    | waitWritable c₁ busy level₁ =>
      refine Program.wp_bind.2 (wp_waitForTarget shields_background hHook level₁ busy ?_)
      intro past₂ w₂ c₂ level₂ busy₂
      exact hQ _ _ (.resting _ rfl (level₂.recorded (t := .restCopy r.copy)
        ({ · with phase := .resting }) (fun _ => ⟨not_false, not_false⟩) rfl rfl))
    | ended c₁ busy error? ends => exact wp_endCopy hOnDone ends hQ
  | done c phase error? ends =>
    have hPhase : (w.copy r.copy).phase ≠ .resting := by
      rw [ends.record, phase]
      decide
    have hRun : (Step.enterCopy r.copy).run s w = (false, w) := if_neg hPhase
    rw [hRun]
    exact hQ _ _ (.done c phase error? (ends.interlude (.of_enter r.source hPhase)))

theorem Rests.plain {t : Step σ α} (rests : r.Rests s start past w)
    (hPlain : ∀ id, ¬t.Moves id ∧ ¬t.Clears id) (hRecopies : ¬t.Recopies r.copy) :
    r.Rests s start (past ++ [.made t w]) (t.run s w).2 := by
  have lasting : r.Lasting s start (r.background s start) r.source (r.Rests s start) :=
    Rests.lasting
  obtain ⟨c, ground⟩ := lasting.ground rests
  exact lasting.interlude rests (.of_plain ground.toThere hPlain hRecopies)

/-- A copy in the background that could be started rests, or it has come to its end already. -/
theorem wp_copyInBackground {routine : RoutineId} (hOnDone : r.onDone? = some routine)
    (origin : r.Origin start) {Q : List (Event σ) → Except Report Unit → World σ → Prop}
    (hFailed : ∀ past' report w', Q past' (.error report) w')
    (hDone : ∀ past' w', r.Rests s start past' w' → Q past' (.ok ()) w') :
    (Program.copyInBackground r.source r.target r.limit? routine).wp s (r.background s start) Q []
      start := by
  unfold Program.copyInBackground
  rw [← hOnDone]
  refine wp_beginCopy origin (fun past₁ w₁ m _ => hFailed _ _ _) ?_
  intro past₁ w₁ c intact hPhase hCount _
  have hBusy : c.phase ≠ .resting := by rw [hPhase]; decide
  refine Program.wp_bind.2
    (wp_openModes shields_background (fun _ => rfl) intact hCount hBusy ?_ ?_)
  · intro past₂ w₂ level
    obtain ⟨c', hPhase', resting⟩ := level.fixed
    rw [hOnDone, Option.isSome_some, if_pos rfl] at hPhase'
    have rests : r.Rests s start _ _ := .resting c' hPhase' resting
    refine Program.wp_act.2 (Program.wp_act.2 (Program.wp_bind.2 ?_))
    refine Program.wp_bind.2 (wp_advance hOnDone origin
      (rests.plain (t := .grasp (.copy r.copy)) (fun _ => ⟨not_false, not_false⟩) not_false) ?_)
    intro past₃ w₃ rests₃
    exact hDone _ _ (rests₃.plain (t := .letGo (.copy r.copy))
      (fun _ => ⟨not_false, not_false⟩) not_false)
  · intro past₂ w₂ report broken
    have enduring : r.Enduring s start fun past w => r.Broken s start past w c :=
      { ground := fun broken => ⟨c, broken.toGround, hBusy⟩
        interlude := Broken.interlude
        quiet := fun broken hQuiet hRecord =>
          broken.quiet hQuiet (hRecord.trans broken.record) broken.task rfl }
    apply Program.wp_copy.2
    rw [broken.record]
    refine Program.wp_bind.2 (wp_switchModes shields_background enduring _
      (broken.interlude (.of_copy r.source broken.toThere r.copy)) ?_)
    exact fun _ _ _ _ _ => hFailed _ _ _

/-- A copy at rest sits out all that comes up on its channels. -/
theorem wp_notifyAll (schedule : List (ChannelId × Interest))
    (hSchedule : ∀ occasion ∈ schedule, occasion.1 = r.source ∨ occasion.1 = r.target)
    (rests : r.Rests s start past w) {Q : List (Event σ) → Unit → World σ → Prop}
    (hQ : ∀ past' w', r.Rests s start past' w' → Q past' () w') :
    (Program.notifyAll schedule).wp s (r.background s start) Q past w := by
  induction schedule generalizing past w with
  | nil => exact hQ past w rests
  | cons occasion rest ih =>
    refine Program.wp_bind.2 (wp_notify shields_background Rests.lasting
      (hSchedule _ List.mem_cons_self) _ rests ?_)
    intro past₁ w₁ rests₁
    exact ih (fun occasion hMem => hSchedule occasion (List.mem_cons_of_mem _ hMem)) rests₁

theorem wp_copyAmid {routine : RoutineId} (hOnDone : r.onDone? = some routine)
    (origin : r.Origin start) (schedule : List (ChannelId × Interest))
    (hSchedule : ∀ occasion ∈ schedule, occasion.1 = r.source ∨ occasion.1 = r.target) :
    (Program.copyAmid r.source r.target r.limit? routine schedule).wp s (r.background s start)
      (fun past answer w => answer = .ok () → r.Rests s start past w) [] start := by
  refine Program.wp_bind.2 (wp_copyInBackground hOnDone origin ?_ ?_)
  · exact fun _ _ _ hAnswer => by cases hAnswer
  · intro past₁ w₁ rests
    refine Program.wp_bind.2 (wp_notifyAll schedule hSchedule rests ?_)
    exact fun _ _ rests _ => rests

/-- Where the routines of the user leave a copy in the background alone, the promises about the
calls around it are kept. -/
theorem honours_background {s : Setting σ} {routine : RoutineId}
    (hOnDone : r.onDone? = some routine) (origin : r.Origin start)
    (apart : ∀ u w inner w', s.Begins (s.routine u) w inner w' → ∀ e ∈ inner, r.Apart e) :
    s.Honours (r.background s.toSurroundings start) (r.Watched s.toSurroundings start) where
  good call past w hPre := by
    cases call with
    | user u => exact hPre
    | _ => trivial
  kept call past w hPre := by
    cases call with
    | user u =>
      obtain ⟨c, ground⟩ := hPre.ground
      exact .inr (ground.bystander (apart u w))
    | advance k =>
      obtain ⟨rfl, hState⟩ := hPre
      refine .inl ?_
      by_cases hPhase : (w.copy r.copy).phase = .resting
      · simp only [background, if_pos hPhase]
        have rests : r.Rests s.toSurroundings start past w := by
          rcases hState with rests | ⟨c, ground, hBusy⟩
          · exact rests
          · exact absurd (ground.record ▸ hPhase) hBusy
        exact wp_advance hOnDone origin (Rests.lasting.interlude rests
          (.of_called r.source (.advance r.copy) w)) fun _ _ rests => rests
      · simp only [background, if_neg hPhase]
        have hRun : (Step.enterCopy r.copy).run s.toSurroundings w = (false, w) := if_neg hPhase
        apply Program.wp_act.2
        rw [hRun]
        exact ⟨by simp, rfl⟩
    | fire | moveAll | readAll => exact hPre.elim

section Runs

variable {s : Setting σ} {routine : RoutineId} {schedule : List (ChannelId × Interest)}
  {events : List (Event σ)}

/-- Up to the end of a copy in the background, each routine of the user finds what it has to. -/
theorem finds_of_begins (hOnDone : r.onDone? = some routine) (origin : r.Origin start)
    (spares : s.Spares r)
    (hSchedule : ∀ occasion ∈ schedule, occasion.1 = r.source ∨ occasion.1 = r.target)
    (run : s.Begins (Program.copyAmid r.source r.target r.limit? routine schedule) start events w)
    {before after : List (Event σ)} {u : UserCall} {v : World σ}
    (hEvents : events = before ++ .called (.user u) v :: after)
    (hBefore : Without (r.speaks · = true) before) :
    r.Finds s.toSurroundings start u before v :=
  run.allowed_until (r.hushed_same s)
    (honours_background hOnDone origin fun _ _ _ _ => hushed_apart spares)
    (wp_copyAmid hOnDone origin schedule hSchedule) hEvents hBefore

/-- Between its events a copy in the background rests. It need not be so any more when its end has
been told to a routine that does not leave the channels alone. -/
theorem rests_of_runs (hOnDone : r.onDone? = some routine) (origin : r.Origin start)
    (spares : s.Spares r)
    (hSchedule : ∀ occasion ∈ schedule, occasion.1 = r.source ∨ occasion.1 = r.target)
    (run : s.Runs (Program.copyAmid r.source r.target r.limit? routine schedule) start events
      (.ok ()) w)
    (hEnd : Without (r.speaks · = true) events ∨ ∀ u v inner v', r.speaks (.user u) = true →
      s.Begins (s.routine u) v inner v' → ∀ e ∈ inner, r.Apart e) :
    r.Rests s.toSurroundings start events w := by
  have hProgram := wp_copyAmid (s := s.toSurroundings) hOnDone origin schedule hSchedule
  rcases hEnd with hWithout | hApart
  · exact run.end_without (r.hushed_same s)
      (honours_background hOnDone origin fun _ _ _ _ => hushed_apart spares) hWithout hProgram rfl
  · have apart u v inner v' (begun : s.Begins (s.routine u) v inner v') :
        ∀ e ∈ inner, r.Apart e := by
      cases hSpeaks : r.speaks (.user u) with
      | true => exact hApart u v inner v' hSpeaks begun
      | false => exact spares u v inner v' hSpeaks begun
    exact (run.of_wp (honours_background hOnDone origin apart) hProgram).1 rfl

end Runs

end Route

end EventChannel
