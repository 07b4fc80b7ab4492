import EventChannel.Proofs.Copy.Transfer
import EventChannel.Proofs.World.Modes

/-! Before a copy moves its first byte it takes its channels and switches their modes, and in
between it creates and deletes handlers. None of this moves bytes, but each step may be
interrupted. -/

namespace EventChannel.Route

variable {σ : Type} {r : Route} {s : Surroundings σ} {start : World σ} {K : Contract σ}
  {w w' : World σ} {past inner : List (Event σ)} {id : ChannelId} {c : Copy} {ahead : Bytes}
  {I : List (Event σ) → World σ → Prop}

/-- Looking at a channel changes nothing. -/
theorem Interlude.of_look (id : ChannelId) (there : r.There w) (j : ChannelId) :
    r.Interlude s id w [.made (.look j) w] w :=
  .of_plain (t := .look j) there (fun _ => ⟨not_false, not_false⟩) not_false

/-- Nor does looking at the record of a copy. -/
theorem Interlude.of_copy (id : ChannelId) (there : r.There w) (k : CopyId) :
    r.Interlude s id w [.made (.copy k) w] w :=
  .of_plain (t := .copy k) there (fun _ => ⟨not_false, not_false⟩) not_false

theorem Lasting.look (lasting : r.Lasting s start K id I) (hI : I past w) (j : ChannelId) :
    I (past ++ [.made (.look j) w]) w := by
  obtain ⟨c, ground⟩ := lasting.ground hI
  exact lasting.interlude hI (.of_look id ground.toThere j)

/-- Channels that can be taken for a copy are open in the directions needed. -/
theorem Origin.taken (origin : r.Origin start)
    (hTaken : start.copyObstacle? r.source r.target = none) :
    (start.channel r.source).isOpenFor .read = true ∧
      (start.channel r.target).isOpenFor .write = true := by
  simp only [World.copyObstacle?] at hTaken
  split at hTaken
  · cases hTaken
  · next hReads =>
    split at hTaken
    · cases hTaken
    · next hWrites =>
      exact ⟨Channel.isOpenFor_of_has origin.sourceSound.shut (by simpa [Mode.has] using hReads),
        Channel.isOpenFor_of_has origin.targetSound.shut (by simpa [Mode.has] using hWrites)⟩

/-- What a copy has when it has just been begun. -/
theorem Origin.begun (origin : r.Origin start)
    (hTaken : start.copyObstacle? r.source r.target = none) :
    ∃ c, c.phase = .begun ∧ c.total = 0 ∧
      c.savedModes = ((start.channel r.source).blocking, (start.channel r.target).blocking) ∧
      r.Intact s start [.made (.beginCopy r.source r.target r.limit? r.onDone?) start]
        ((Step.beginCopy r.source r.target r.limit? r.onDone?).run s start).2 c [] := by
  obtain ⟨hReads, hWrites⟩ := origin.taken hTaken
  have hQuiet : r.Quiet s (.beginCopy r.source r.target r.limit? r.onDone?) start :=
    .of_rest origin.source origin.target ⟨not_false, not_false⟩ ⟨not_false, not_false⟩
  have hLonger := ((Step.beginCopy r.source r.target r.limit? r.onDone?).length_run s start)
  obtain ⟨c, hRecord⟩ : ∃ c : Copy, c = {
      source := r.source, target := r.target, limit? := r.limit?, onDone? := r.onDone?
      savedModes := ((start.channel r.source).blocking, (start.channel r.target).blocking) } :=
    ⟨_, rfl⟩
  have hCopies : ((Step.beginCopy r.source r.target r.limit? r.onDone?).run s start).2.copies =
      start.copies ++ [c] := by
    simp only [Step.run, World.beginCopy, hTaken, hRecord]
  refine ⟨c, by rw [hRecord], by rw [hRecord], by rw [hRecord], ?_⟩
  exact
    { source := Nat.lt_of_lt_of_le origin.source hLonger
      target := Nat.lt_of_lt_of_le origin.target hLonger
      copy := by rw [hCopies, origin.copy]; simp
      sourceCalls := hQuiet.source.callsOnly r.copy_of_hook origin.sourceCalls
      targetCalls := hQuiet.target.callsOnly r.copy_of_hook origin.targetCalls
      history := .snoc (.made _ start) .refl
      taken := hTaken
      sourceOpen := (Channel.isOpenFor_congr hQuiet.source.isOpen hQuiet.source.mode).trans hReads
      targetOpen := (Channel.isOpenFor_congr hQuiet.target.isOpen hQuiet.target.mode).trans hWrites
      sourceServes := hQuiet.source
      targetServes := hQuiet.target
      unsought := fun e hMem => by rw [List.mem_singleton.1 hMem]; exact hQuiet.unsought
      record := by rw [World.copy, World.copy?, hCopies, origin.copy]; simp
      task := by rw [hRecord]; exact ⟨rfl, rfl, rfl, rfl⟩
      order := by rw [hQuiet.written_single]; exact List.nil_prefix
      limit := fun limit _ => by rw [hQuiet.read_single]; exact Nat.zero_le _
      total := by rw [hRecord]; exact Nat.zero_le _
      met := fun _ => hQuiet.met_single
      told := hQuiet.told_single
      ahead := by rw [hQuiet.read_single, hQuiet.written_single]; rfl
      clear := fun hSome => absurd hQuiet.written_single hSome
      eof := fun hStart hEof => by rw [hQuiet.eof, hStart] at hEof; cases hEof
      chunk := by rw [hRecord]; exact Nat.one_pos }

/-- A copy is begun where its channels can be taken. -/
theorem wp_beginCopy {α : Type} (origin : r.Origin start)
    {f : Except Misuse CopyId → Program σ α} {Q : List (Event σ) → α → World σ → Prop}
    (hFailed : ∀ past' w' m, start.copyObstacle? r.source r.target = some m →
      (f (.error m)).wp s K Q past' w')
    (hDone : ∀ past' w' c, r.Intact s start past' w' c [] → c.phase = .begun →
      (r.written past').length = c.total →
      c.savedModes = ((start.channel r.source).blocking, (start.channel r.target).blocking) →
      (f (.ok r.copy)).wp s K Q past' w') :
    (Program.act (.beginCopy r.source r.target r.limit? r.onDone?) >>= f).wp s K Q [] start := by
  apply Program.wp_act.2
  cases hTaken : start.copyObstacle? r.source r.target with
  | some m =>
    have hRun : (Step.beginCopy r.source r.target r.limit? r.onDone?).run s start =
        (.error m, start) := by
      simp only [Step.run, World.beginCopy, hTaken]
    rw [hRun]
    exact hFailed _ _ m hTaken
  | none =>
    obtain ⟨c, hPhase, hTotal, hModes, intact⟩ := origin.begun (s := s) hTaken
    have hCount : (r.written [Event.made
        (.beginCopy r.source r.target r.limit? r.onDone?) start]).length = c.total := by
      rw [hTotal]
      rfl
    have hAnswer : ((Step.beginCopy r.source r.target r.limit? r.onDone?).run s start).1 =
        .ok r.copy := by
      simp only [Step.run, World.beginCopy, hTaken, origin.copy]
    rw [hAnswer]
    exact hDone _ _ c intact hPhase hCount hModes

/-- A failure to switch a mode is none that a copy could succeed with. -/
theorem Ground.broken_of_setBlocking (ground : r.Ground s start past w c) (on : Bool)
    (report : Report) (hId : id = r.source ∨ id = r.target)
    (hFailed : ((Step.hold id (.setBlocking on)).run s w).1.1 = .error report) :
    ¬r.Drives s (past ++ [.made (.hold id (.setBlocking on)) w]) r.kind := by
  obtain ⟨c', hEffect, -⟩ := Step.hold_shows s w (.setBlocking on) (ground.exists hId)
  intro drives
  have hCalls := drives.right _ (List.mem_singleton_self _)
  rcases hEffect.2.2 report hFailed with hClosed | ⟨e, hMem⟩
  · rcases hId with rfl | rfl
    · have hOpen := ground.sourceOpen
      rw [Channel.isOpenFor, hClosed] at hOpen
      cases hOpen
    · have hOpen := ground.targetOpen
      rw [Channel.isOpenFor, hClosed] at hOpen
      cases hOpen
  · have hKind : r.kind ⟨.setBlocking on, .error e⟩ = true := by
      rcases hId with rfl | rfl
      · exact hCalls.1 _ hMem
      · exact hCalls.2 _ hMem
    rw [kind] at hKind
    split at hKind <;> cases hKind

/-- Switching the mode of a channel, where it is not in that mode already. -/
theorem wp_switchMode (shields : r.Shields s start K) {on : Bool}
    {J : Except Report Unit → List (Event σ) → World σ → Prop}
    (lasting : ∀ answer, r.Lasting s start K id (J answer)) (hId : id = r.source ∨ id = r.target)
    (hSame : (w.channel id).blocking = on → J (.ok ()) past w)
    (hSwitch : J ((Step.hold id (.setBlocking on)).run s w).1.1
      (past ++ [.made (.look id) w] ++ [.made (.hold id (.setBlocking on)) w])
      ((Step.hold id (.setBlocking on)).run s w).2)
    {Q : List (Event σ) → Except Report Unit → World σ → Prop}
    (hQ : ∀ past' answer w', J answer past' w' → Q past' answer w') :
    (Program.switchMode id on).wp s K Q past w := by
  apply Program.wp_look.2
  split
  · next hIs => exact hQ _ _ _ ((lasting _).look (hSame hIs) id)
  · exact wp_hold shields (lasting _) hId (.setBlocking on) hSwitch fun _ _ => hQ _ _ _

/-- Where the drivers do as they have to, a mode that is chosen is one that the channel goes to. -/
theorem Ground.switched (ground : r.Ground s start past w c) (on : Bool)
    (hId : id = r.source ∨ id = r.target)
    (drives : r.Drives s (past ++ [.made (.hold id (.setBlocking on)) w]) r.kind) :
    ((Step.hold id (.setBlocking on)).run s w).1.1 = .ok () ∧
      (((Step.hold id (.setBlocking on)).run s w).2.channel id).blocking = on := by
  cases hAnswer : ((Step.hold id (.setBlocking on)).run s w).1.1 with
  | ok done => exact ⟨rfl, Step.blocking_of_set hAnswer⟩
  | error report => exact absurd drives (ground.broken_of_setBlocking on report hId hAnswer)

/-- What outlasts interludes around the channels of a busy copy, and the switching of their
modes. -/
structure Enduring (r : Route) (s : Surroundings σ) (start : World σ)
    (I : List (Event σ) → World σ → Prop) : Prop where
  ground : ∀ {past w}, I past w → ∃ c, r.Ground s start past w c ∧ c.phase ≠ .resting
  interlude : ∀ {past w inner w' id}, I past w → r.Interlude s id w inner w' →
    I (past ++ inner) w'
  quiet : ∀ {past w} {α : Type} {t : Step σ α}, I past w → r.Quiet s t w →
    (t.run s w).2.copy r.copy = w.copy r.copy → I (past ++ [.made t w]) (t.run s w).2

theorem Enduring.lasting (enduring : r.Enduring s start I) (shields : r.Shields s start K) :
    r.Lasting s start K id I :=
  .of_busy shields enduring.ground enduring.interlude

theorem Enduring.look (enduring : r.Enduring s start I) (hI : I past w) (j : ChannelId) :
    I (past ++ [.made (.look j) w]) w := by
  obtain ⟨c, ground, -⟩ := enduring.ground hI
  exact enduring.interlude hI (.of_look r.source ground.toThere j)

/-- A tame operation on one of the channels is a quiet step. -/
theorem Enduring.tame (enduring : r.Enduring s start I) {op : ChannelOp}
    (hId : id = r.source ∨ id = r.target) (tame : op.Tame r.hook?) (hI : I past w) :
    I (past ++ [.made (.hold id op) w]) ((Step.hold id op).run s w).2 := by
  obtain ⟨c, ground, -⟩ := enduring.ground hI
  exact enduring.quiet hI (.of_tame hId tame ground.source ground.target)
    (((Step.hold id op).copies_run s w r.copy).2 ground.copy not_false)

/-- Both channels are in their modes. -/
def Switched (r : Route) (w : World σ) (modes : Bool × Bool) : Prop :=
  (w.channel r.source).blocking = modes.1 ∧ (w.channel r.target).blocking = modes.2

theorem Switched.interlude {modes : Bool × Bool} (switched : r.Switched w modes)
    (interlude : r.Interlude s id w inner w') : r.Switched w' modes :=
  ⟨(interlude.blocking _ (.inl rfl)).trans switched.1,
    (interlude.blocking _ (.inr rfl)).trans switched.2⟩

/-- Switching the modes of both channels. They are in these modes then, unless a driver has
refused. -/
theorem wp_switchModes (shields : r.Shields s start K) (enduring : r.Enduring s start I)
    (modes : Bool × Bool) (hI : I past w)
    {Q : List (Event σ) → Except Report Unit → World σ → Prop}
    (hQ : ∀ past' answer w', I past' w' →
      (r.Drives s past' r.kind → r.Switched w' modes) → Q past' answer w') :
    (Program.switchModes r.source r.target modes).wp s K Q past w := by
  have lasting {G : World σ → Prop} (hG : ∀ {j w inner w'}, G w → r.Interlude s j w inner w' → G w')
      (j : ChannelId) :
      r.Lasting s start K j fun past w => I past w ∧ (r.Drives s past r.kind → G w) :=
    .of_busy shields (fun h => enduring.ground h.1) fun h interlude =>
      ⟨enduring.interlude h.1 interlude, fun drives => hG (h.2 drives.left) interlude⟩
  have looked := enduring.look hI r.source
  obtain ⟨c, ground, -⟩ := enduring.ground looked
  refine Program.wp_bind.2 (wp_switchMode shields
    (J := fun answer past w => I past w ∧ (r.Drives s past r.kind →
      answer = .ok () ∧ (w.channel r.source).blocking = modes.1))
    (fun answer => lasting (fun h interlude =>
      ⟨h.1, (interlude.blocking _ (.inl rfl)).trans h.2⟩) _)
    (.inl rfl) (fun hSame => ⟨hI, fun _ => ⟨rfl, hSame⟩⟩)
    ⟨enduring.tame (.inl rfl) trivial looked, ground.switched modes.1 (.inl rfl)⟩ ?_)
  rintro past₁ (report | ⟨⟩) w₁ ⟨hI₁, hSource⟩
  · refine hQ _ _ _ hI₁ fun drives => ?_
    cases (hSource drives).1
  · simp only [if_neg r.distinct]
    have looked₁ := enduring.look hI₁ r.target
    obtain ⟨c₁, ground₁, -⟩ := enduring.ground looked₁
    refine wp_switchMode shields (J := fun _ past w => I past w ∧
        (r.Drives s past r.kind → r.Switched w modes))
      (fun _ => lasting Switched.interlude _) (.inr rfl)
      (fun hSame => ⟨hI₁, fun drives => ⟨(hSource drives).2, hSame⟩⟩)
      ⟨enduring.tame (.inr rfl) trivial looked₁, fun drives => ⟨?_, ?_⟩⟩
      fun past' answer w' h => hQ past' answer w' h.1 h.2
    · rw [Channel.of_core ((Step.hold r.target (.setBlocking modes.2)).core_run s w₁ ground₁.source
        ⟨r.distinct.symm, not_false⟩)]
      exact (hSource drives.left.left).2
    · exact (ground₁.switched modes.2 (.inr rfl) drives).2

/-- What a copy has when a mode has been switched: what it had, or drivers that have failed it. -/
inductive Tuned (r : Route) (s : Surroundings σ) (start : World σ) (c : Copy)
    (I : List (Event σ) → World σ → Prop) (past : List (Event σ)) (w : World σ) :
    Except Report Unit → Prop
  | done (kept : I past w) : Tuned r s start c I past w (.ok ())
  | failed (report : Report) (broken : r.Broken s start past w c) :
      Tuned r s start c I past w (.error report)

theorem Tuned.lasting (id : ChannelId) (shields : r.Shields s start K)
    (I : List (Event σ) → World σ → Prop) (busy : c.phase ≠ .resting)
    (ground : ∀ {past w}, I past w → r.Ground s start past w c)
    (interlude : ∀ {past w inner w'}, I past w → r.Interlude s id w inner w' → I (past ++ inner) w')
    (answer : Except Report Unit) :
    r.Lasting s start K id fun past w => r.Tuned s start c I past w answer := by
  refine .of_busy shields (fun tuned => ⟨c, ?_, busy⟩) fun tuned inner => ?_
  · cases tuned with
    | done kept => exact ground kept
    | failed report broken => exact broken.toGround
  · cases tuned with
    | done kept => exact .done (interlude kept inner)
    | failed report broken => exact .failed report (broken.interlude inner)

/-- Switching the mode of a channel of an intact copy. -/
theorem Intact.switch (intact : r.Intact s start past w c ahead) {on : Bool}
    (hId : id = r.source ∨ id = r.target)
    (hKept : r.Intact s start (past ++ [.made (.hold id (.setBlocking on)) w])
        ((Step.hold id (.setBlocking on)).run s w).2 c ahead →
      (((Step.hold id (.setBlocking on)).run s w).2.channel id).blocking = on →
      I (past ++ [.made (.hold id (.setBlocking on)) w])
        ((Step.hold id (.setBlocking on)).run s w).2) :
    r.Tuned s start c I (past ++ [.made (.hold id (.setBlocking on)) w])
      ((Step.hold id (.setBlocking on)).run s w).2
      ((Step.hold id (.setBlocking on)).run s w).1.1 := by
  have hRecord := ((Step.hold id (.setBlocking on)).copies_run s w r.copy).2 intact.copy not_false
  have hIntact := intact.quiet
    (.of_tame hId (ChannelOp.tame_setBlocking _ on) intact.source intact.target)
    (hRecord.trans intact.record) intact.task intact.total intact.chunk
  have hBroken report := intact.toGround.broken_of_setBlocking on report hId
  obtain ⟨c', hEffect, hChannel⟩ :=
    Step.hold_shows s w (.setBlocking on) (intact.exists hId)
  have hBlocking := hEffect.2.1
  generalize ((Step.hold id (.setBlocking on)).run s w).1.1 = answer at hBroken hBlocking ⊢
  cases answer with
  | error report => exact .failed report ⟨hIntact.toGround, hBroken report rfl⟩
  | ok done =>
    refine .done (hKept hIntact ?_)
    rw [hChannel]
    exact hBlocking rfl

/-- Both channels of a copy are switched to the mode it works in. -/
theorem wp_openModes (shields : r.Shields s start K) {on : Bool}
    (hMode : r.onDone?.isSome → on = false) (intact : r.Intact s start past w c [])
    (hCount : (r.written past).length = c.total) (busy : c.phase ≠ .resting)
    {Q : List (Event σ) → Except Report Unit → World σ → Prop}
    (hDone : ∀ past' w', r.Level s start past' w' c → Q past' (.ok ()) w')
    (hFailed : ∀ past' w' report, r.Broken s start past' w' c → Q past' (.error report) w') :
    (Program.switchModes r.source r.target (on, on)).wp s K Q past w := by
  have hKept {past w inner w'} (hI : r.Intact s start past w c [] ∧
      (r.written past).length = c.total) (interlude : r.Interlude s r.source w inner w') :
      r.Intact s start (past ++ inner) w' c [] ∧ (r.written (past ++ inner)).length = c.total := by
    rw [written_append, interlude.written, List.append_nil]
    exact ⟨hI.1.interlude interlude (.inl r.distinct), hI.2⟩
  obtain ⟨hLooked, hLookedCount⟩ :=
    hKept ⟨intact, hCount⟩ (.of_look r.source intact.toThere r.source)
  have hFirst := Tuned.lasting r.source shields (fun past' w' => r.Intact s start past' w' c [] ∧
    (r.written past').length = c.total) busy (fun hI => hI.1.toGround) hKept
  have hSecond := Tuned.lasting r.target shields (fun past' w' =>
    r.Level s start past' w' c) busy (fun level => level.toGround) Level.interlude
  refine Program.wp_bind.2 (wp_switchMode shields hFirst (.inl rfl)
    (fun _ => .done ⟨intact, hCount⟩) (hLooked.switch (.inl rfl) fun hSwitched _ => ?_) ?_)
  · exact ⟨hSwitched, (congrArg List.length (written_holding_source _ _ _ _)).trans hLookedCount⟩
  · rintro past₁ answer w₁ (⟨hIntact, hCount₁⟩ | ⟨report, broken⟩)
    · obtain ⟨hLooked₁, hLookedCount₁⟩ :=
        hKept ⟨hIntact, hCount₁⟩ (.of_look r.source hIntact.toThere r.target)
      have hQuiet : r.Quiet s (.hold r.target (.setBlocking on)) w₁ :=
        .of_tame (.inr rfl) (ChannelOp.tame_setBlocking _ on) hIntact.source hIntact.target
      simp only [if_neg r.distinct]
      refine wp_switchMode shields hSecond (.inr rfl) (fun hIs => ?_)
        (hLooked₁.switch (.inr rfl) fun hSwitched hIs => ?_) ?_
      · exact .done ⟨⟨hIntact, fun hBackground => hIs.trans (hMode hBackground)⟩, hCount₁⟩
      · refine ⟨⟨hSwitched, fun hBackground => hIs.trans (hMode hBackground)⟩, ?_⟩
        rw [written_append, hQuiet.written_single, List.append_nil]
        exact hLookedCount₁
      · rintro past₂ answer w₂ (level | ⟨report, broken⟩)
        · exact hDone _ _ level
        · exact hFailed _ _ _ broken
    · exact hFailed _ _ _ broken

/-- Deleting a handler, or creating one for the copy, is an interlude. -/
theorem Interlude.of_handlers {op : ChannelOp} (there : r.There w)
    (hId : id = r.source ∨ id = r.target) (tame : op.Tame r.hook?)
    (hKeeps : ∀ c calls answer c', Channel.Effect c op calls answer c' → c'.blocking = c.blocking) :
    r.Interlude s id w [.made (.hold id op) w] ((Step.hold id op).run s w).2 := by
  refine .of_quiet (.of_tame hId tame there.source there.target) ?_ not_false
  intro j hJ
  by_cases hSame : j = id
  · subst hSame
    obtain ⟨c', hEffect, hChannel⟩ := Step.hold_shows s w op (there.exists hJ)
    rw [hChannel]
    exact hKeeps _ _ _ c' hEffect
  · rw [Channel.of_core ((Step.hold id op).core_run s w (there.exists hJ)
      ⟨fun hMoves => hSame hMoves.symm, not_false⟩)]

theorem wp_deleteHandler? (shields : r.Shields s start K) (lasting : r.Lasting s start K id I)
    (hId : id = r.source ∨ id = r.target) (handler? : Option HandlerId) (hI : I past w)
    {Q : List (Event σ) → Unit → World σ → Prop} (hQ : ∀ past' w', I past' w' → Q past' () w') :
    (Program.deleteHandler? id handler?).wp s K Q past w := by
  cases handler? with
  | none => exact hQ past w hI
  | some handler =>
    obtain ⟨c, ground⟩ := lasting.ground hI
    refine wp_hold shields lasting hId (.deleteHandler handler) (lasting.interlude hI ?_)
      hQ
    exact .of_handlers ground.toThere hId trivial fun _ _ _ _ effect => effect.2

theorem wp_createHandler (shields : r.Shields s start K) (lasting : r.Lasting s start K id I)
    (hId : id = r.source ∨ id = r.target) (hHook : r.copy ∈ r.hook?) (mask : Interest)
    (hI : I past w)
    {Q : List (Event σ) → HandlerId → World σ → Prop}
    (hQ : ∀ past' handler w', I past' w' → Q past' handler w') :
    (Program.createHandler id mask (.copy r.copy)).wp s K Q past w := by
  obtain ⟨c, ground⟩ := lasting.ground hI
  refine wp_hold shields lasting hId (.createHandler mask (.copy r.copy))
    (lasting.interlude hI ?_) fun _ _ => hQ _ _ _
  exact .of_handlers ground.toThere hId ⟨r.copy, hHook, rfl⟩ fun _ _ _ _ effect => effect.2

end EventChannel.Route
