import EventChannel.Proofs.Program.Discipline
import EventChannel.Proofs.World.Loops

/-! A pass calls the handlers of the ready descriptors one after the other. Meanwhile they may
delete and replace any registrations, their own included, and run passes inside the pass. Only what
was registered when the pass began is called, as long as it still is, and when the pass ends every
handler is back in its place, unless its registration is gone. -/

namespace EventChannel

open Program

variable {σ α : Type}

/-- The passes, in whatever order they visit the ready descriptors. -/
inductive PassWhole : {α : Type} → Program σ α → Prop
  | pass {order : List (Registration × Interest) → List (Registration × Interest)} {loop : LoopId}
      (visits : ∀ ready, (order ready).Perm ready) : PassWhole (passInOrder order loop)

/-- What programs are made of that take handlers out of their loops only in passes. -/
def passParts : Parts σ where
  step t := ¬t.Dispatches
  call _ := True
  whole := PassWhole

theorem passParts_basic : (passParts : Parts σ).Basic where
  step t basic := by
    cases t with
    | takeHandler | putBack => cases basic
    | _ => exact not_false
  call _ _ := trivial

theorem passParts_copying : (passParts : Parts σ).Copying where
  toTransfers := passParts_basic.operating.toTransfers
  step t ofCopies := by
    cases t with
    | takeHandler | putBack => cases ofCopies
    | _ => exact not_false
  call _ _ := trivial
  leaving j handler := passParts_basic.operating.operate j (.deleteHandler handler) trivial
  waiting j mask k :=
    passParts_basic.simple.notifying.hold j (.createHandler mask (.copy k)) not_false

/-- What a pass visits: what is ready, unless the system does not tell. -/
def visited (polled : Except SystemError (List (Registration × Interest))) :
    List (Registration × Interest) :=
  polled.toOption.getD []

/-- What a pass answers that has called so many handlers. -/
def tally (polled : Except SystemError (List (Registration × Interest))) (calls : Nat) :
    Except Report Nat :=
  match polled with
  | .error e => unpolled e
  | .ok _ => .ok calls

/-- Where nothing is told, nothing is visited. -/
theorem passInOrder_eq {order : List (Registration × Interest) → List (Registration × Interest)}
    {loop : LoopId} (visits : ∀ ready, (order ready).Perm ready) :
    (passInOrder order loop : Program σ (Except Report Nat)) =
      .step (.poll loop) fun polled =>
        (dispatch loop (order (visited polled))).bind fun calls => .done (tally polled calls) := by
  refine congrArg (Program.step (.poll loop)) (funext fun polled => ?_)
  cases polled with
  | error e =>
    have hNone : order (visited (.error e)) = [] := (visits []).eq_nil
    rw [hNone]
    rfl
  | ok ready => rfl

/-- One pass in the order of the table. -/
theorem madeOf_pass (loop : LoopId) :
    (pass loop : Program σ (Except Report Nat)).MadeOf passParts := by
  have whole : PassWhole (passInOrder id loop : Program σ (Except Report Nat)) :=
    .pass fun ready => .refl ready
  exact .of_whole whole

/-- The event enters a registration in a loop. -/
def Event.Enters (s : Surroundings σ) (id : LoopId) (r : Registration) (e : Event σ) : Prop :=
  (e.before.loops.get id).generations < r.generation ∧ r ∈ ((e.after s).loops.get id).entries

/-- The events leave each registration as it was, or delete it. What is new in a table is as one of
the events has entered it. -/
structure Surroundings.Renews (s : Surroundings σ) (w : World σ) (events : List (Event σ))
    (w' : World σ) : Prop where
  begins : ∀ id, (w.loops.get id).Sound
  ends : ∀ id, (w'.loops.get id).Sound
  extend : ∀ id, (w.loops.get id).Extends (w'.loops.get id)
  entered : ∀ id, ∀ r ∈ (w'.loops.get id).entries, (w.loops.get id).generations < r.generation →
    ∃ e ∈ events, e.Enters s id r

namespace Surroundings.Renews

variable {s : Surroundings σ} {w w₁ w₂ : World σ} {first second : List (Event σ)}

theorem refl (sound : ∀ id, (w.loops.get id).Sound) : s.Renews w [] w where
  begins := sound
  ends := sound
  extend _ := .refl _
  entered id r hMem hNew := absurd ((sound id).counted r hMem) (Nat.not_le_of_lt hNew)

theorem trans (left : s.Renews w first w₁) (right : s.Renews w₁ second w₂) :
    s.Renews w (first ++ second) w₂ where
  begins := left.begins
  ends := right.ends
  extend id := (left.extend id).trans (right.extend id)
  entered id r hMem hNew := by
    by_cases hLater : (w₁.loops.get id).generations < r.generation
    · obtain ⟨e, hEvent, enters⟩ := right.entered id r hMem hLater
      exact ⟨e, List.mem_append_right _ hEvent, enters⟩
    · have hOld := (right.extend id).mem_of_le hMem (Nat.le_of_not_lt hLater)
      obtain ⟨e, hEvent, enters⟩ := left.entered id r hOld hNew
      exact ⟨e, List.mem_append_left _ hEvent, enters⟩

/-- An event that leaves each registration as it was, or deletes it, or enters it. -/
theorem single {e : Event σ} (sound : ∀ id, (e.before.loops.get id).Sound)
    (ends : ∀ id, ((e.after s).loops.get id).Sound)
    (extend : ∀ id, (e.before.loops.get id).Extends ((e.after s).loops.get id)) :
    s.Renews e.before [e] (e.after s) where
  begins := sound
  ends := ends
  extend := extend
  entered _ _ hMem hNew := ⟨e, List.mem_singleton_self e, hNew, hMem⟩

theorem called (sound : ∀ id, (w.loops.get id).Sound) (c : Call) :
    s.Renews w [.called c w] w :=
  single (e := .called c w) sound sound fun _ => .refl _

/-- A step that takes no handler out and puts none back. -/
theorem made (sound : ∀ id, (w.loops.get id).Sound) {t : Step σ α} (hOther : ¬t.Dispatches) :
    s.Renews w [.made t w] (t.run s w).2 :=
  single (e := .made t w) sound (fun id => t.soundLoop_run s (sound id))
    fun _ => (EventLoop.lasting_extends _).run hOther s (.refl _)

end Surroundings.Renews

/-- What programs keep to that take handlers out of their loops only in passes. -/
def renewal (s : Surroundings σ) : Discipline σ where
  world w := ∀ id, (w.loops.get id).Sound
  event _ := True
  due _ _ _ := True
  course := s.Renews
  refl sound := .refl sound
  trans := .trans
  called sound := .called sound _
  ends renews := renews.ends
  each _ _ _ := trivial

/-- A pass goes through the ready descriptors in turn, and may have come to its end. Those are
passed by whose registration is gone, or without its handler. The others are current in the moment
in which their handlers are called. -/
inductive Setting.Serves (s : Setting σ) (loop : LoopId) (ended : Bool) :
    List (Registration × Interest) → World σ → List (Event σ) →
      List (Registration × Interest) → World σ → Prop
  | nil (w : World σ) : Serves s loop ended [] w [] [] w
  | stop (ready : List (Registration × Interest)) (w : World σ) (running : ended = false) :
      Serves s loop ended ready w [] [] w
  | passed {r : Registration} {raised : Interest} {rest served : List (Registration × Interest)}
      {w w₁ w' : World σ} {events : List (Event σ)}
      (stale : ∀ r', (w.loops.get loop).find? r.descriptor = some r' →
        r'.generation = r.generation → r'.handler? = none)
      (others : Serves s loop ended rest w₁ events served w') :
      Serves s loop ended ((r, raised) :: rest) w
        (.made (.takeHandler loop r.descriptor r.generation) w :: events) served w'
  | taken {r : Registration} {raised : Interest} {rest : List (Registration × Interest)}
      {w w' : World σ} (running : ended = false) :
      Serves s loop ended ((r, raised) :: rest) w
        [.made (.takeHandler loop r.descriptor r.generation) w] [] w'
  | within {r : Registration} {raised : Interest} {rest : List (Registration × Interest)}
      {handler : FileHandler} {w w₁ w' : World σ} {inner : List (Event σ)} (running : ended = false)
      (current : (w.loops.get loop).find? r.descriptor = some r)
      (callable : r.handler? = some handler) :
      Serves s loop ended ((r, raised) :: rest) w
        (.made (.takeHandler loop r.descriptor r.generation) w ::
          .called (.fire handler raised) w₁ :: inner) [(r, raised)] w'
  | called {r : Registration} {raised : Interest} {rest served : List (Registration × Interest)}
      {handler : FileHandler} {w w₁ w₂ w₃ w' : World σ} {inner outer : List (Event σ)}
      (current : (w.loops.get loop).find? r.descriptor = some r)
      (callable : r.handler? = some handler)
      (others : Serves s loop ended rest w₃ outer served w') :
      Serves s loop ended ((r, raised) :: rest) w
        (.made (.takeHandler loop r.descriptor r.generation) w ::
          .called (.fire handler raised) w₁ ::
            (inner ++ .made (.putBack loop r.descriptor r.generation handler) w₂ :: outer))
        ((r, raised) :: served) w'

section Pass

variable {s : Setting σ} {loop : LoopId} {r : Registration} {raised : Interest}
  {handler : FileHandler} {ready served : List (Registration × Interest)}
  {w₀ w w₁ w₂ : World σ} {past between events : List (Event σ)}

/-- Where nothing is taken out, the tables stay as they are. -/
theorem renews_untaken (sound : ∀ id, (w.loops.get id).Sound) {fd : Descriptor} {generation : Nat}
    (hNone : ((w.loops.get loop).take fd generation).1 = none) :
    s.Renews w [.made (.takeHandler loop fd generation) w]
      ((Step.takeHandler loop fd generation).run s.toSurroundings w).2 := by
  refine .single (e := .made (.takeHandler loop fd generation) w) sound
    (fun id => Step.soundLoop_run _ _ (sound id)) fun id => ?_
  refine EventLoops.get_modify_of (fun hIs => ?_) (.refl _)
  subst hIs
  show (w.loops.get loop).Extends ((w.loops.get loop).take fd generation).2
  rw [(EventLoop.take_none hNone).1]
  exact .refl _

/-- A handler is taken out and called, and put back when it has returned. -/
theorem renews_turn (sound : ∀ id, (w.loops.get id).Sound)
    (current : (w.loops.get loop).find? r.descriptor = some r)
    (callable : r.handler? = some handler)
    (hTaken : ((w.loops.get loop).take r.descriptor r.generation).2 =
      (w.loops.get loop).setHandler r.descriptor none)
    (inner : s.Renews ((Step.takeHandler loop r.descriptor r.generation).run s.toSurroundings w).2
      events w₂) :
    s.Renews w (.made (.takeHandler loop r.descriptor r.generation) w :: (events ++
        [.made (.putBack loop r.descriptor r.generation handler) w₂]))
      ((Step.putBack loop r.descriptor r.generation handler).run s.toSurroundings w₂).2 := by
  obtain ⟨hMem, -⟩ := EventLoop.find?_some current
  have hOut : ((Step.takeHandler loop r.descriptor r.generation).run
      s.toSurroundings w).2.loops.get loop = (w.loops.get loop).setHandler r.descriptor none :=
    (EventLoops.get_modify_self (EventLoops.exists_of_find? current)).trans hTaken
  have hBack : ((Step.putBack loop r.descriptor r.generation handler).run
      s.toSurroundings w₂).2.loops.get loop =
        (w₂.loops.get loop).putBack r.descriptor r.generation handler :=
    EventLoops.get_modify_empty rfl
  have hOutElse (id : LoopId) (hNe : loop ≠ id) :
      ((Step.takeHandler loop r.descriptor r.generation).run s.toSurroundings w).2.loops.get id =
        w.loops.get id :=
    EventLoops.get_modify_ne hNe
  have hBackElse (id : LoopId) (hNe : loop ≠ id) :
      ((Step.putBack loop r.descriptor r.generation handler).run
        s.toSurroundings w₂).2.loops.get id = w₂.loops.get id :=
    EventLoops.get_modify_ne hNe
  have hEntered (id : LoopId) (r' : Registration) (hMem' : r' ∈ (w₂.loops.get id).entries)
      (hNew : (((Step.takeHandler loop r.descriptor r.generation).run
        s.toSurroundings w).2.loops.get id).generations < r'.generation) :
      ∃ e ∈ .made (.takeHandler loop r.descriptor r.generation) w :: (events ++
          [.made (.putBack loop r.descriptor r.generation handler) w₂]),
        e.Enters s.toSurroundings id r' := by
    obtain ⟨e, hEvent, enters⟩ := inner.entered id r' hMem' hNew
    exact ⟨e, List.mem_cons_of_mem _ (List.mem_append_left _ hEvent), enters⟩
  refine ⟨sound, fun id => Step.soundLoop_run _ _ (inner.ends id), fun id => ?_, ?_⟩
  · by_cases hIs : loop = id
    · subst hIs
      have extend := inner.extend loop
      rw [hOut] at extend
      rw [hBack]
      exact EventLoop.extends_putBack (sound loop) (inner.ends loop) current callable extend
    · rw [hBackElse id hIs, ← hOutElse id hIs]
      exact inner.extend id
  · intro id r' hMem' hNew
    by_cases hIs : loop = id
    · subst hIs
      rw [hBack] at hMem'
      rcases EventLoop.mem_putBack (inner.ends loop) hMem' with hThere | hGeneration
      · refine hEntered loop r' hThere ?_
        rw [hOut]
        exact hNew
      · have hCounted := (sound loop).counted r hMem
        omega
    · rw [hBackElse id hIs] at hMem'
      refine hEntered id r' hMem' ?_
      rw [hOutElse id hIs]
      exact hNew

/-- What is taken out is the handler of a registration that was ready when the pass began. -/
theorem take_ready (renews : s.Renews w₀ between w) (hMem : r ∈ (w₀.loops.get loop).entries)
    (hTaken : ((w.loops.get loop).take r.descriptor r.generation).1 = some handler) :
    (w.loops.get loop).find? r.descriptor = some r ∧ r.handler? = some handler ∧
      ((w.loops.get loop).take r.descriptor r.generation).2 =
        (w.loops.get loop).setHandler r.descriptor none := by
  obtain ⟨r', hFind, hGeneration, hHandler, hRest⟩ := EventLoop.take_some hTaken
  obtain ⟨hThere, -⟩ := EventLoop.find?_some hFind
  have hCounted := (renews.begins loop).counted r hMem
  have hOld := (renews.extend loop).mem_of_le hThere (hGeneration ▸ hCounted)
  obtain rfl := (renews.begins loop).eq_of_generation hOld hMem hGeneration
  exact ⟨hFind, hHandler, hRest⟩

/-- A pass that comes to its end has served what was ready, and counts whom it has called. -/
theorem wp_dispatch (renews : s.Renews w₀ between w)
    (hReady : ∀ entry ∈ ready, entry.1 ∈ (w₀.loops.get loop).entries) :
    (dispatch loop ready).wp s.toSurroundings (renewal s.toSurroundings).contract
      (fun past' n w' => ∃ events served, past' = past ++ events ∧ n = served.length ∧
        s.Serves loop true ready w events served w' ∧ s.Renews w events w') past w := by
  induction ready generalizing past between w with
  | nil => exact ⟨[], [], by simp, rfl, .nil w, .refl renews.ends⟩
  | cons entry rest ih =>
    obtain ⟨r, raised⟩ := entry
    obtain ⟨hMem, hRest⟩ := List.forall_mem_cons.1 hReady
    apply wp_act.2
    cases hTaken : ((w.loops.get loop).take r.descriptor r.generation).1 with
    | none =>
      have untaken := renews_untaken (s := s) renews.ends hTaken
      have hAnswer : ((Step.takeHandler loop r.descriptor r.generation).run s.toSurroundings w).1 =
          none := hTaken
      rw [hAnswer]
      refine wp_mono ?_ (ih (renews.trans untaken) hRest)
      rintro past' n w' ⟨events, served, rfl, hCount, serves, renewed⟩
      refine ⟨_ :: events, served, List.append_assoc .., hCount, ?_, untaken.trans renewed⟩
      refine .passed (fun r' hFind hSame => ?_) serves
      exact (EventLoop.take_none hTaken).2 r' hFind hSame
    | some handler =>
      obtain ⟨current, callable, hOut⟩ := take_ready renews hMem hTaken
      have hAnswer : ((Step.takeHandler loop r.descriptor r.generation).run s.toSurroundings w).1 =
          some handler := hTaken
      rw [hAnswer]
      have hSound (id : LoopId) : (((Step.takeHandler loop r.descriptor r.generation).run
          s.toSurroundings w).2.loops.get id).Sound :=
        Step.soundLoop_run _ _ (renews.ends id)
      refine ⟨⟨hSound, fun _ _ => trivial, trivial⟩, ?_⟩
      rintro past₂ - w₂ ⟨inner, rfl, called⟩
      apply wp_act.2
      have turn := renews_turn renews.ends current callable hOut called
      refine wp_bind.2 (wp_mono ?_ (ih (renews.trans turn) hRest))
      rintro past' n w' ⟨events, served, rfl, hCount, serves, renewed⟩
      refine ⟨.made (.takeHandler loop r.descriptor r.generation) w ::
        .called (.fire handler raised)
            ((Step.takeHandler loop r.descriptor r.generation).run s.toSurroundings w).2 ::
          (inner ++ .made (.putBack loop r.descriptor r.generation handler) w₂ :: events),
        (r, raised) :: served, by simp, congrArg (· + 1) hCount,
        .called current callable serves, ?_⟩
      simpa using turn.trans renewed

/-- What is ready was registered when the pass began, for conditions that had come up. -/
theorem of_mem_ready {s : Surroundings σ} {entry : Registration × Interest}
    (hMem : entry ∈ w.ready s loop) : entry.1 ∈ (w.loops.get loop).entries ∧
      entry.2 = s.ready entry.1.descriptor w.env ∩ entry.1.mask ∧ entry.2.isEmpty = false := by
  obtain ⟨hVisited, hRaised⟩ := List.mem_filter.1 hMem
  obtain ⟨r, hWaiting, rfl⟩ := List.mem_map.1 hVisited
  exact ⟨(List.mem_filter.1 hWaiting).1, rfl, by simpa using hRaised⟩

theorem visited_sublist (s : Surroundings σ) (w : World σ) (loop : LoopId) :
    (visited (w.poll s loop)).Sublist (w.ready s loop) := by
  rw [World.poll]
  split
  · exact List.nil_sublist _
  · split
    · exact List.nil_sublist _
    · exact .refl _

theorem of_mem_visited {s : Surroundings σ}
    {order : List (Registration × Interest) → List (Registration × Interest)}
    (visits : ∀ ready, (order ready).Perm ready) :
    ∀ entry ∈ order (visited (w.poll s loop)), entry.1 ∈ (w.loops.get loop).entries :=
  fun _ hMem => (of_mem_ready ((visited_sublist s w loop).subset ((visits _).mem_iff.1 hMem))).1

theorem nodup_visited {s : Surroundings σ} (sound : (w.loops.get loop).Sound) :
    ((visited (w.poll s loop)).map (·.1.generation)).Nodup := by
  refine sound.generations.sublist (((visited_sublist s w loop).map _).trans ?_)
  have hWaiting : ((w.loops.get loop).waiting.map (·.generation)).Sublist
      ((w.loops.get loop).entries.map (·.generation)) := List.filter_sublist.map _
  refine .trans ?_ hWaiting
  refine (List.filter_sublist.map _).trans ?_
  rw [List.map_map]
  exact .refl _

/-- Passes renew the tables like all that is made of the other parts. -/
theorem governs_passParts : (renewal s.toSurroundings).Governs s (fun _ => True) passParts where
  stable _ _ := trivial
  step t w allowed sound _ := .made sound allowed
  call _ _ _ _ _ _ := trivial
  whole p allowed := by
    obtain @⟨order, loop, visits⟩ := allowed
    intro past w sound _ _
    have polled : s.Renews w [.made (.poll loop) w] w := .made (t := .poll loop) sound not_false
    rw [passInOrder_eq visits]
    refine wp_bind.2 (wp_mono ?_ (wp_dispatch polled (of_mem_visited visits)))
    rintro past' n w' ⟨events, served, rfl, -, -, renewed⟩
    exact ⟨_ :: events, List.append_assoc .., polled.trans renewed⟩

theorem honoured_renewal (made : s.MadeOf passParts) : (renewal s.toSurroundings).Honoured s :=
  Discipline.honoured_of fun c _ _ permits =>
    have body := made.body passParts_copying.starting (fun _ _ => trivial) c
    (governs_passParts.keeps body).called trivial permits

/-- So it is with all that is called. -/
theorem renews_body (made : s.MadeOf passParts) {c : Call} {b : c.Answer}
    (run : s.Runs (s.body c) w events b w₁) (sound : ∀ id, (w.loops.get id).Sound) :
    s.Renews w events w₁ :=
  have body := made.body passParts_copying.starting (fun _ _ => trivial) c
  ((governs_passParts.keeps body).of_run (honoured_renewal made) run sound trivial).1

/-- A pass that is still under way, in the midst of a handler perhaps. -/
theorem serves_of_begins (made : s.MadeOf passParts) (renews : s.Renews w₀ between w)
    (hReady : ∀ entry ∈ ready, entry.1 ∈ (w₀.loops.get loop).entries)
    (run : s.Begins (dispatch loop ready) w events w₁) :
    ∃ served, s.Serves loop false ready w events served w₁ := by
  induction ready generalizing between events w with
  | nil =>
    cases run
    exact ⟨[], .nil _⟩
  | cons entry rest ih =>
    obtain ⟨r, raised⟩ := entry
    obtain ⟨hMem, hRest⟩ := List.forall_mem_cons.1 hReady
    cases run with
    | stop => exact ⟨[], .stop _ _ rfl⟩
    | step run =>
      cases hTaken : ((w.loops.get loop).take r.descriptor r.generation).1 with
      | none =>
        have hAnswer : ((Step.takeHandler loop r.descriptor r.generation).run
            s.toSurroundings w).1 = none := hTaken
        rw [hAnswer] at run
        obtain ⟨served, serves⟩ := ih (renews.trans (renews_untaken renews.ends hTaken)) hRest run
        exact ⟨served, .passed (EventLoop.take_none hTaken).2 serves⟩
      | some handler =>
        obtain ⟨current, callable, hOut⟩ := take_ready renews hMem hTaken
        have hAnswer : ((Step.takeHandler loop r.descriptor r.generation).run
            s.toSurroundings w).1 = some handler := hTaken
        rw [hAnswer] at run
        cases run with
        | stop => exact ⟨[], .taken rfl⟩
        | inside body => exact ⟨_, .within rfl current callable⟩
        | after body run =>
          have hSound (id : LoopId) : (((Step.takeHandler loop r.descriptor r.generation).run
              s.toSurroundings w).2.loops.get id).Sound :=
            Step.soundLoop_run _ _ (renews.ends id)
          have turn := renews_turn renews.ends current callable hOut (renews_body made body hSound)
          cases run with
          | stop => exact ⟨_, .within rfl current callable⟩
          | step run =>
            have run : s.Begins ((dispatch loop rest).bind fun n => .done (n + 1)) _ _ _ := run
            obtain ⟨served, serves⟩ := ih (renews.trans turn) hRest run.of_bind_done
            exact ⟨_, .called current callable serves⟩

theorem Setting.Serves.sublist {ended : Bool}
    (serves : s.Serves loop ended ready w events served w₁) : served.Sublist ready := by
  induction serves with
  | nil => exact .refl _
  | stop => exact List.nil_sublist _
  | passed stale others ih => exact ih.cons _
  | taken => exact List.nil_sublist _
  | within running current callable => exact (List.nil_sublist _).cons_cons _
  | called current callable others ih => exact ih.cons_cons _

end Pass

/-- Of the ready descriptors some are served, each with one registration and once. They were
registered when the pass began, and what they are called with is what of their masks had come up. -/
structure Surroundings.Picks (s : Surroundings σ) (w : World σ) (loop : LoopId)
    (served : List (Registration × Interest)) : Prop where
  once : (served.map (·.1.generation)).Nodup
  registered : ∀ entry ∈ served, entry.1 ∈ (w.loops.get loop).entries
  raised : ∀ entry ∈ served, entry.2 = s.ready entry.1.descriptor w.env ∩ entry.1.mask ∧
    entry.2.isEmpty = false

/-- Every registration that a table still holds is as it was, or as one of the events has entered
it. So if all had their handlers, all have. What was deleted or replaced has not come back. -/
structure Surroundings.Restores (s : Surroundings σ) (w : World σ) (events : List (Event σ))
    (w' : World σ) (id : LoopId) : Prop where
  sound : (w'.loops.get id).Sound
  entries : ∀ r ∈ (w'.loops.get id).entries, r ∈ (w.loops.get id).entries ∨
    r.handler?.isSome ∧ ∃ e ∈ events, e.Enters s id r
  complete : (w.loops.get id).Complete → (w'.loops.get id).Complete
  gone : ∀ e ∈ events, (e.before.loops.get id).Descends (w'.loops.get id)

section

variable {s : Setting σ} {loop : LoopId} {w w' : World σ} {events rest : List (Event σ)}
  {served : List (Registration × Interest)} {ended : Bool}
  {order : List (Registration × Interest) → List (Registration × Interest)}

/-- Whom a pass serves, it picks from the ready descriptors. -/
theorem Setting.Serves.picks (visits : ∀ ready, (order ready).Perm ready)
    (sound : (w.loops.get loop).Sound)
    (serves : s.Serves loop ended (order (visited (w.poll s.toSurroundings loop))) w rest served
      w') : s.Picks w loop served := by
  have hVisited := visits (visited (w.poll s.toSurroundings loop))
  have hMem (entry : Registration × Interest) (hServed : entry ∈ served) :
      entry ∈ w.ready s.toSurroundings loop :=
    (visited_sublist _ w loop).subset (hVisited.mem_iff.1 (serves.sublist.subset hServed))
  refine ⟨?_, fun entry hServed => ?_, fun entry hServed => ?_⟩
  · have hNodup := (hVisited.map (·.1.generation)).nodup_iff.2 (nodup_visited sound)
    exact hNodup.sublist (serves.sublist.map _)
  · exact (of_mem_ready (hMem entry hServed)).1
  · exact (of_mem_ready (hMem entry hServed)).2

/-- What renews the tables restores them. -/
theorem Surroundings.Renews.restores (renews : s.Renews w events w')
    (history : s.Leads w events w') (id : LoopId) : s.Restores w events w' id where
  sound := renews.ends id
  entries r hMem := by
    rcases (renews.extend id).entries r hMem with hOld | ⟨hNew, hSome⟩
    · exact .inl hOld
    · exact .inr ⟨hSome, renews.entered id r hMem hNew⟩
  complete := (renews.extend id).complete
  gone e hMem := ((history.loops (renews.begins id)).2.2 e hMem).2

/-- In one pass over an event loop, whatever the order, a handler is called only if its registration
is current in that moment and was there when the pass began, with conditions of its mask that have
come up, and once at most; the pass counts its calls. At the end each registration in the tables has
its own handler, and none that was deleted or replaced has come back. If the system does not tell
what is ready, nobody is called, and the pass answers with the failure. -/
theorem current_handlers_called (made : s.MadeOf passParts)
    (visits : ∀ ready, (order ready).Perm ready) (sound : ∀ id, (w.loops.get id).Sound) :
    (s.Begins (passInOrder order loop) w events w' → events = [] ∨
      ∃ rest served, events = .made (.poll loop) w :: rest ∧
        s.Serves loop false (order (visited (w.poll s.toSurroundings loop))) w rest served w' ∧
        s.Picks w loop served) ∧
    ∀ answer, s.Runs (passInOrder order loop) w events answer w' →
      ∃ rest served, events = .made (.poll loop) w :: rest ∧
        s.Serves loop true (order (visited (w.poll s.toSurroundings loop))) w rest served w' ∧
        s.Picks w loop served ∧ answer = tally (w.poll s.toSurroundings loop) served.length ∧
        ∀ id, s.Restores w events w' id := by
  have polled : s.Renews w [.made (.poll loop) w] w := .made (t := .poll loop) sound not_false
  have hVisited : ∀ entry ∈ order (visited (w.poll s.toSurroundings loop)),
      entry.1 ∈ (w.loops.get loop).entries := of_mem_visited visits
  rw [passInOrder_eq visits]
  constructor
  · intro run
    cases run with
    | stop => exact .inl rfl
    | step run =>
      obtain ⟨served, serves⟩ := serves_of_begins made polled hVisited run.of_bind_done
      exact .inr ⟨_, served, rfl, serves, serves.picks visits (sound loop)⟩
  · intro answer run
    have history := run.leads
    cases run with
    | step run =>
      obtain ⟨n, ran, rfl⟩ := Setting.runs_bind_done.1 run
      obtain ⟨⟨rest, served, hEvents, rfl, serves, renewed⟩, -⟩ :=
        ran.of_wp (honoured_renewal made) (@wp_dispatch σ s loop _ w w [] _ polled hVisited)
      obtain rfl := List.append_cancel_left hEvents
      exact ⟨_, served, rfl, serves, serves.picks visits (sound loop), rfl,
        (polled.trans renewed).restores history⟩

end

/-- Three descriptors that are always ready. The handler of one runs a pass of its own; another
replaces its own registration and deletes that of the third. -/
def nestingRoutine : (u : UserCall) → Program Unit u.Answer
  | .ready 0 _ => (pass 0).bind fun _ => .done ()
  | .ready 1 _ =>
    .step (.command (.create 0 4 .reading (.routine 2))) fun _ =>
      .step (.command (.delete 0 5)) fun _ => .done ()
  | u => .done u.unit

def nestingSetting : Setting Unit where
  driver _ call _ := { answer := call.unsupported, env := () }
  ready _ _ := .reading
  users _ _ := false
  routine := nestingRoutine
  fire _ _ := .done ()

def nestingWorld : World Unit where
  loops := [{ entries := [⟨5, .reading, 1, some (.routine 2)⟩, ⟨4, .reading, 2, some (.routine 1)⟩,
    ⟨3, .reading, 3, some (.routine 0)⟩], generations := 3 }]
  env := ()

theorem madeOf_nestingSetting : nestingSetting.MadeOf passParts where
  fire _ _ := .done ()
  routine u := by
    show (nestingRoutine u).MadeOf passParts
    unfold nestingRoutine
    split
    · exact (madeOf_pass 0).bind fun _ => .done ()
    · exact .step not_false fun _ => .step not_false fun _ => .done ()
    · exact .done _

theorem sound_nestingWorld (id : LoopId) : (nestingWorld.loops.get id).Sound := by
  cases id with
  | zero => exact ⟨by decide, by decide, by decide⟩
  | succ n => exact .empty

/-- The first that is called runs a pass inside the pass, which calls the two others. After that one
of them is replaced and the other is gone, and neither is called any more. -/
theorem current_handlers_called_nesting :
    ∃ rest served w', nestingSetting.Runs (passInOrder List.reverse 0) nestingWorld
        (.made (.poll 0) nestingWorld :: rest) (.ok 1) w' ∧
      nestingSetting.Serves 0 true [(⟨3, .reading, 3, some (.routine 0)⟩, .reading),
        (⟨4, .reading, 2, some (.routine 1)⟩, .reading),
        (⟨5, .reading, 1, some (.routine 2)⟩, .reading)] nestingWorld rest served w' ∧
      1 = served.length ∧
      (w'.loops.get 0).entries =
        [⟨3, .reading, 3, some (.routine 0)⟩, ⟨4, .reading, 4, some (.routine 2)⟩] ∧
      (w'.loops.get 0).Complete := by
  have hTrace : (nestingSetting.trace 4 (passInOrder List.reverse 0) nestingWorld).any (fun r =>
      decide (r.2.1 = .ok 1 ∧ (r.2.2.loops.get 0).entries =
        [⟨3, .reading, 3, some (.routine 0)⟩, ⟨4, .reading, 4, some (.routine 2)⟩])) = true := by
    decide +kernel
  obtain ⟨events, answer, w', run, hChecked⟩ := Setting.exists_runs hTrace
  obtain ⟨hAnswer, hEntries⟩ := of_decide_eq_true hChecked
  obtain rfl : answer = .ok 1 := hAnswer
  obtain ⟨rest, served, rfl, serves, -, hCount, restores⟩ :=
    (current_handlers_called madeOf_nestingSetting (fun ready => ready.reverse_perm)
      sound_nestingWorld).2 (.ok 1) run
  refine ⟨rest, served, w', run, serves, Except.ok.inj hCount, hEntries, ?_⟩
  exact (restores 0).complete (by decide)

end EventChannel
