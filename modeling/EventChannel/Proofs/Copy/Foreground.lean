import EventChannel.Proofs.Copy.Bystander
import EventChannel.Proofs.Copy.Chunk
import EventChannel.Proofs.Copy.Marks
import EventChannel.Proofs.Copy.Streams

/-! A copy that its caller waits for moves chunk after chunk, then writes what is left of its
output. Where its drivers do as they are asked it ends when it has copied all; else it may fail. -/

namespace EventChannel.Route

variable {σ α : Type} {r : Route} {s : Surroundings σ} {start : World σ} {K : Contract σ}
  {w w' : World σ} {past inner : List (Event σ)} {id : ChannelId} {c : Copy}
  {Silent : UserCall → Prop}

/-- A copy that has come to its end, if its drivers have done as they had to. -/
structure Settled (r : Route) (s : Surroundings σ) (start : World σ) (c : Copy)
    (past : List (Event σ)) (w : World σ) : Prop extends r.Ground s start past w c where
  ends : r.Drives s past r.kind → r.Ends s start past w c none
  stop : r.limit? = some c.total ∨ r.Exhausted s past w

/-- What a copy that is waited for has come to: its end, or a failure of its drivers. -/
def Moved (r : Route) (s : Surroundings σ) (start : World σ) (past : List (Event σ)) (w : World σ)
    (answer : Except Report Unit) : Prop :=
  ∃ c, c.phase ≠ .resting ∧ r.Tuned s start c (r.Settled s start c) past w answer

/-- A copy that is over. It has stopped where it had to, and its channels are free and in the modes
that they were found in. -/
structure Over (r : Route) (s : Surroundings σ) (start : World σ) (past : List (Event σ))
    (w : World σ) (c : Copy) : Prop extends r.Ends s start past w c none where
  stop : r.limit? = some c.total ∨ r.AtEnd s past w
  modes : r.Switched w ((start.channel r.source).blocking, (start.channel r.target).blocking)
  free : (w.channel r.source).copying = false ∧ (w.channel r.target).copying = false

/-- What is promised about the calls around a copy that is waited for. Only silent routines are
called. The rest of the copy is left to a call when at least so many bytes have been written. -/
def foreground (r : Route) (s : Surroundings σ) (start : World σ) (Silent : UserCall → Prop)
    (least : Nat) : Contract σ where
  pre
    | .user u, past, w => Silent u ∧ ∃ c, r.Ground s start past w c
    | .advance k, past, w => k = r.copy ∧ ∃ c, r.Ground s start past w c ∧ c.phase ≠ .resting
    | .moveAll k, past, w => k = r.copy ∧ least ≤ (r.written past).length ∧
        ∃ c, r.Level s start past w c ∧ c.phase ≠ .resting
    | _, _, _ => False
  post
    | .user u, past, w, past', _, w' =>
      ∃ inner, past' = past ++ .called (.user u) w :: inner ∧ s.Leads w inner w' ∧
        ∀ e ∈ inner, r.Apart e
    | .advance k, past, w, past', _, w' =>
      past' = past ++ [.called (.advance k) w, .made (.enterCopy k) w] ∧ w' = w
    | .moveAll _, _, _, past', answer, w' => r.Moved s start past' w' answer
    | _, _, _, _, _, _ => True

theorem shields_foreground (hSilent : ∀ routine id ready, Silent (.event routine id ready))
    (least : Nat) : r.Shields s start (r.foreground s start Silent least) where
  event routine id ready _ _ c ground := ⟨hSilent routine id ready, c, ground⟩
  user _ _ _ _ _ _ hPost := hPost
  advance _ _ c ground hBusy := ⟨rfl, c, ground, hBusy⟩
  busy _ _ _ _ _ _ hPost := hPost

theorem Settled.interlude (settled : r.Settled s start c past w)
    (interlude : r.Interlude s id w inner w') : r.Settled s start c (past ++ inner) w' where
  toGround := settled.toGround.interlude interlude fun drives => by
    exact interlude.met_of_safe (.inr (.inl (settled.ends drives).empty))
  ends drives := (settled.ends drives.left).interlude interlude
  stop := settled.stop.imp_right fun exhausted => exhausted.later interlude.input

theorem Settled.quiet {t : Step σ α} (settled : r.Settled s start c past w) (quiet : r.Quiet s t w)
    (hRecord : (t.run s w).2.copy r.copy = w.copy r.copy) :
    r.Settled s start c (past ++ [.made t w]) (t.run s w).2 where
  toGround := settled.toGround.quiet quiet (hRecord.trans settled.record) settled.task settled.total
  ends drives :=
    (settled.ends drives.left).quiet quiet (hRecord.trans settled.record) settled.task rfl
  stop := settled.stop.imp_right fun exhausted => exhausted.later quiet.input

/-- What a copy has come to endures that the modes of its channels are put back. -/
theorem enduring_settled (busy : c.phase ≠ .resting) (answer : Except Report Unit) :
    r.Enduring s start fun past w => r.Tuned s start c (r.Settled s start c) past w answer where
  ground tuned := by
    cases tuned with
    | done settled => exact ⟨c, settled.toGround, busy⟩
    | failed report broken => exact ⟨c, broken.toGround, busy⟩
  interlude tuned interlude := by
    cases tuned with
    | done settled => exact .done (settled.interlude interlude)
    | failed report broken => exact .failed report (broken.interlude interlude)
  quiet tuned hQuiet hRecord := by
    cases tuned with
    | done settled => exact .done (settled.quiet hQuiet hRecord)
    | failed report broken =>
      exact .failed report
        (broken.quiet hQuiet (hRecord.trans broken.record) broken.task rfl)

/-- A copy whose end tells a failure has had drivers that have failed it. -/
theorem Ends.broken {report : Report} (ends : r.Ends s start past w c (some report))
    (origin : r.Origin start) (hUnreported : (start.channel r.target).unreported? = none) :
    r.Broken s start past w c where
  toGround := ends.toGround
  failed drives := by
    have hNone := ends.clean origin hUnreported drives
    cases hNone

/-- A copy that is waited for and has come to a halt with nothing left of its output is settled. -/
theorem Level.settled (level : r.Level s start past w c)
    (hEmpty : r.Drives s past r.kind → (w.channel r.target).output.toBytes = [])
    (stop : r.limit? = some c.total ∨ r.Exhausted s past w) :
    r.Settled s start c past w where
  toGround := level.toGround
  ends drives := level.ends (hEmpty drives) (stop.imp_right fun atEnd _ => atEnd drives)
  stop := stop

/-- A copy with nothing more to read writes what is left of its output. -/
theorem wp_finishMoving (shields : r.Shields s start K) (origin : r.Origin start)
    (hUnreported : (start.channel r.target).unreported? = none) (hWaited : r.onDone? = none)
    (level : r.Level s start past w c) (busy : c.phase ≠ .resting)
    (stop : r.limit? = some c.total ∨ r.Exhausted s past w)
    {Q : List (Event σ) → Except Report Unit → World σ → Prop}
    (hQ : ∀ past' answer w', r.Moved s start past' w' answer → Q past' answer w') :
    (Program.finishMoving r.target).wp s K Q past w := by
  refine Program.wp_bind.2 (wp_write shields origin level.toWorks busy ?_)
  intro past₁ answer w₁ put hWritten hExhausted
  cases put with
  | failed f ends =>
    refine Program.wp_look.2 (hQ _ _ _ ⟨c, busy, .failed _ ?_⟩)
    exact (ends.broken origin hUnreported).interlude (.of_look r.source ends.toThere r.target)
  | done works flushed =>
    have level₁ : r.Level s start past₁ w₁ c :=
      ⟨works, by rw [hWritten rfl, List.append_nil]; exact level.count⟩
    refine hQ _ _ _ ⟨c, busy, .done (level₁.settled (fun drives => ?_) (stop.imp_right hExhausted))⟩
    rw [kind, hWaited] at drives
    exact flushed rfl drives

/-- A copy that is waited for moves chunk after chunk. The rest is left to a call when more bytes
have been written than before. -/
theorem wp_moveChunks (shields : r.Shields s start K) (origin : r.Origin start)
    (hUnreported : (start.channel r.target).unreported? = none) (hWaited : r.onDone? = none)
    (level : r.Level s start past w c) (busy : c.phase ≠ .resting)
    {Q : List (Event σ) → Except Report Unit → World σ → Prop}
    (hNext : ∀ past' w' c', r.Level s start past' w' c' → c'.phase ≠ .resting →
      (r.written past).length < (r.written past').length →
      K.pre (.moveAll r.copy) past' w' ∧
        ∀ past'' answer w'', K.post (.moveAll r.copy) past' w' past'' answer w'' →
          r.Moved s start past'' w'' answer)
    (hQ : ∀ past' answer w', r.Moved s start past' w' answer → Q past' answer w') :
    (Program.moveChunks r.copy).wp s K Q past w := by
  have copied := level.interlude (.of_copy r.source level.toThere r.copy)
  apply Program.wp_copy.2
  rw [level.record, level.task.source, level.task.target]
  split
  · next hWant =>
    exact wp_finishMoving shields origin hUnreported hWaited copied busy
      (.inl (level.limit_of_want hWant)) hQ
  · next hWant =>
    refine Program.wp_bind.2 (wp_read shields (Nat.pos_of_ne_zero hWant) copied.toWorks busy
      copied.room ?_)
    intro past₁ answer w₁ drawn hWritten hOutput
    have hCount : (r.written past₁).length = c.total := hWritten ▸ copied.count
    cases drawn with
    | failed f works unread =>
      have broken : r.Broken s start past₁ w₁ c := ⟨works.toGround, unread.not_drives⟩
      refine Program.wp_look.2 (hQ _ _ _ ⟨c, busy, .failed _ ?_⟩)
      exact broken.interlude (.of_look r.source broken.toThere r.source)
    | nothing works atEnd =>
      have level₁ : r.Level s start past₁ w₁ c := ⟨works, hCount⟩
      have exhausted : r.Exhausted s past₁ w₁ := fun drives => by
        rw [kind, hWaited] at drives
        exact atEnd drives
      exact wp_finishMoving shields origin hUnreported hWaited level₁ busy (.inr exhausted) hQ
    | bytes bytes hSome works =>
      obtain ⟨first, rest, rfl⟩ := List.exists_cons_of_ne_nil hSome
      refine Program.wp_bind.2 (wp_write shields origin works busy ?_)
      intro past₂ answer w₂ put hWritten₂ _
      cases put with
      | failed f ends =>
        refine Program.wp_look.2 (hQ _ _ _ ⟨c, busy, .failed _ ?_⟩)
        exact (ends.broken origin hUnreported).interlude (.of_look r.source ends.toThere r.target)
      | done works₂ flushed =>
        have level₂ := works₂.counted (n := (first :: rest).length)
          (by rw [hWritten₂ rfl, List.length_append, hCount])
        have hMore : (r.written past).length < (r.written (past₂ ++
            [.made (.countCopied r.copy (first :: rest).length) w₂])).length := by
          rw [level.count, level₂.count]
          exact Nat.lt_add_of_pos_right (Nat.succ_pos _)
        obtain ⟨hPre, hMoved⟩ := hNext _ _ _ level₂ busy hMore
        exact Program.wp_act.2 ⟨hPre, fun _ _ _ hPost => hQ _ _ _ (hMoved _ _ _ hPost)⟩

/-- The last steps of a copy that is waited for: the modes are put back and the channels given
free. -/
theorem wp_restore (shields : r.Shields s start K) (busy : c.phase ≠ .resting)
    {answer : Except Report Unit} (tuned : r.Tuned s start c (r.Settled s start c) past w answer)
    {Q : List (Event σ) → Except Report Nat → World σ → Prop}
    (hQ : ∀ past' answer w', (r.Drives s past' r.kind →
      ∃ c, answer = .ok c.total ∧ r.Over s start past' w' c) → Q past' answer w') :
    (do
      let _ ← Program.switchModes r.source r.target
        ((start.channel r.source).blocking, (start.channel r.target).blocking)
      let total := (← Program.act (.copy r.copy)).total
      Program.act (.finishCopy r.copy)
      return answer.map fun _ => total : Program σ (Except Report Nat)).wp s K Q past w := by
  refine Program.wp_bind.2
    (wp_switchModes shields (enduring_settled busy answer) _ tuned ?_)
  intro past₁ _ w₁ tuned₁ hModes
  refine Program.wp_copy.2 (Program.wp_act.2 (hQ _ _ _ fun drives => ?_))
  cases tuned₁ with
  | failed report broken => exact absurd drives.left.left broken.failed
  | done settled =>
    have ends := settled.ends drives.left.left
    have done := (ends.interlude (.of_copy r.source ends.toThere r.copy)).recorded
      (t := .finishCopy r.copy) ({ · with phase := .done }) (fun _ => ⟨not_false, not_false⟩)
      rfl rfl
    have hMode (id : ChannelId) :
        (((Step.finishCopy r.copy).run s w₁).2.channel id).blocking = (w₁.channel id).blocking :=
      World.view_markCopying (fun _ _ => rfl) false
    have hFree (id : ChannelId) (hId : id = r.source ∨ id = r.target) :
        (((Step.finishCopy r.copy).run s w₁).2.channel id).copying = false := by
      show ((w₁.markCopying (w₁.copy r.copy).source (w₁.copy r.copy).target false).channel
        id).copying = false
      rw [ends.record, ends.task.source, ends.task.target,
        World.copying_markCopying ends.source ends.target, if_pos hId]
    obtain ⟨hSource, hTarget⟩ := hModes drives.left.left
    refine ⟨_, ?_, done, ?_, ⟨(hMode _).trans hSource, (hMode _).trans hTarget⟩,
      hFree _ (.inl rfl), hFree _ (.inr rfl)⟩
    · rw [ends.record]
      rfl
    · have hInput : (((Step.finishCopy r.copy).run s w₁).2.channel r.source).input =
          (w₁.channel r.source).input := World.view_markCopying (fun _ _ => rfl) false
      exact settled.stop.imp_right fun exhausted =>
        ((exhausted drives.left.left).later rfl).later hInput

/-- A copy that is waited for, and whose drivers have done as they had to, has answered how many
bytes it has moved. -/
theorem wp_copyWaited (hSilent : ∀ routine id ready, Silent (.event routine id ready))
    (origin : r.Origin start) (hUnreported : (start.channel r.target).unreported? = none)
    (hWaited : r.onDone? = none) (hTaken : start.copyObstacle? r.source r.target = none)
    {Q : List (Event σ) → Except Report Nat → World σ → Prop}
    (hQ : ∀ past' answer w', (r.Drives s past' r.kind →
      ∃ c, answer = .ok c.total ∧ r.Over s start past' w' c) → Q past' answer w') :
    (Program.copy r.source r.target r.limit?).wp s (r.foreground s start Silent 0) Q [] start := by
  have shields : r.Shields s start (r.foreground s start Silent 0) := shields_foreground hSilent 0
  unfold Program.copy
  rw [← hWaited]
  refine wp_beginCopy origin (fun past₁ w₁ m hObstacle => ?_) ?_
  · rw [hTaken] at hObstacle
    cases hObstacle
  intro past₁ w₁ c intact hPhase hCount hModes
  have hBusy : c.phase ≠ .resting := by rw [hPhase]; decide
  have copied := intact.interlude (.of_copy r.source intact.toThere r.copy) (.inl r.distinct)
  apply Program.wp_copy.2
  rw [intact.record, hModes]
  refine Program.wp_bind.2 (wp_openModes shields (fun hBackground => ?_) copied
    ?_ hBusy ?_ ?_)
  · rw [hWaited] at hBackground
    cases hBackground
  · rw [written_append]
    exact (congrArg List.length (List.append_nil _)).trans hCount
  · intro past₂ w₂ level
    obtain ⟨c', hPhase', fixed⟩ := level.fixed
    rw [hWaited, Option.isSome_none, if_neg Bool.false_ne_true] at hPhase'
    apply Program.wp_act.2
    refine Program.wp_bind.2 (wp_moveChunks shields origin hUnreported hWaited fixed
      (hPhase' ▸ hBusy)
      (fun _ _ _ level busy _ => ⟨⟨rfl, Nat.zero_le _, _, level, busy⟩, fun _ _ _ moved => moved⟩)
      ?_)
    rintro past₃ answer w₃ ⟨c₃, hBusy₃, tuned⟩
    exact wp_restore shields hBusy₃ tuned hQ
  · intro past₂ w₂ report broken
    exact wp_restore shields hBusy (.failed report broken) hQ

/-- The calls of routines that are silent. -/
def Hushed (Silent : UserCall → Prop) : Call → List (Event σ) → World σ → Prop
  | .user u, _, _ => Silent u
  | _, _, _ => True

/-- Where the routines of the user leave a copy alone that is waited for, and call none that is not
silent, the promises about the calls around it are kept. -/
theorem honours_foreground {s : Setting σ}
    (hSilent : ∀ routine id ready, Silent (.event routine id ready)) (origin : r.Origin start)
    (hUnreported : (start.channel r.target).unreported? = none) (hWaited : r.onDone? = none)
    (apart : ∀ u w inner w', s.Begins (s.routine u) w inner w' → ∀ e ∈ inner, r.Apart e)
    (silent : ∀ u w inner w', s.Begins (s.routine u) w inner w' →
      ∀ u' v, .called (.user u') v ∈ inner → Silent u') :
    s.Honours (r.foreground s.toSurroundings start Silent 0) (Hushed Silent) where
  good call past w hPre := by
    cases call with
    | user u => exact hPre.1
    | _ => trivial
  kept call past w hPre := by
    cases call with
    | user u =>
      refine .inr ⟨?_, fun inner b w' run => ⟨inner, rfl, run.leads, apart u w inner w' run.begins⟩⟩
      rintro inner w' run before call v after rfl
      cases call with
      | user u' => exact silent u w _ w' run u' v (by simp)
      | _ => trivial
    | advance k =>
      obtain ⟨rfl, c, ground, hBusy⟩ := hPre
      have hRun : (Step.enterCopy r.copy).run s.toSurroundings w = (false, w) :=
        if_neg (ground.record ▸ hBusy)
      refine .inl (Program.wp_act.2 ?_)
      rw [hRun]
      exact ⟨by simp, rfl⟩
    | moveAll k =>
      obtain ⟨rfl, -, c, level, hBusy⟩ := hPre
      exact .inl (wp_moveChunks (shields_foreground hSilent 0) origin hUnreported hWaited
        (level.interlude (.of_called r.source (.moveAll r.copy) w)) hBusy
        (fun _ _ _ level busy _ => ⟨⟨rfl, Nat.zero_le _, _, level, busy⟩, fun _ _ _ moved => moved⟩)
        fun _ _ _ moved => moved)
    | fire | readAll => exact hPre.elim

end EventChannel.Route
