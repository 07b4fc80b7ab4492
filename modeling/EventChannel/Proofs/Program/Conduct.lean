import EventChannel.Proofs.Program.Whole
import EventChannel.Proofs.World.Interps

/-! An operation is not to blame for what is done in its calls. So it is said how far the calls go
that are made in some events, and what the program does on its own is added to that. Copies and the
closing of a channel do nothing to interpreters, and call no scripts. Closing a channel does nothing
to any other. -/

namespace EventChannel

open Program

variable {σ α : Type}

/-- The call is one of a routine of the user. -/
def Call.OfUser : Call → Prop
  | .user _ => True
  | _ => False

/-- The call is neither one of a script nor of a handler of a descriptor. -/
def Call.Aside : Call → Prop
  | .fire .. | .user (.script ..) => False
  | _ => True

/-- The call is one that closing a channel makes. -/
def Call.OfClosing : Call → Prop
  | .user (.closing _) | .user (.event ..) | .advance _ => True
  | _ => False

/-- A script is called. -/
def Event.CallsScript : Event σ → Prop
  | .called (.user (.script ..)) _ => True
  | _ => False

theorem Call.Aside.not_script {c : Call} (aside : c.Aside) (w : World σ) :
    ¬(Event.called c w).CallsScript := by
  cases c with
  | user u =>
    cases u with
    | script => exact absurd aside not_false
    | _ => exact not_false
  | _ => exact not_false

namespace Setting

variable {s : Setting σ} {v w w' : World σ} {events : List (Event σ)} {a : α}

/-- Each call of a kind that is made in some events goes, from its beginning to its end, no further
than it may. -/
def Bound (s : Setting σ) (kind : Call → Prop)
    (R : World σ → List (Event σ) → World σ → Prop) (events : List (Event σ)) : Prop :=
  ∀ before c v inner (b : c.Answer) v' after,
    events = before ++ .called c v :: (inner ++ after) → kind c →
    s.Runs (s.body c) v inner b v' → R v inner v'

namespace Bound

variable {kind : Call → Prop} {R : World σ → List (Event σ) → World σ → Prop}
  {first second : List (Event σ)}

theorem part (bound : s.Bound kind R events) (before after : List (Event σ))
    {inner : List (Event σ)} (hEvents : events = before ++ (inner ++ after)) :
    s.Bound kind R inner := by
  intro first c v innermost b v' last hSplit
  apply bound (before ++ first) c v innermost b v' (last ++ after)
  simp [hEvents, hSplit]

theorem left (bound : s.Bound kind R (first ++ second)) : s.Bound kind R first :=
  bound.part [] second rfl

theorem right (bound : s.Bound kind R (first ++ second)) : s.Bound kind R second :=
  bound.part first [] (by rw [List.append_nil])

theorem tail {e : Event σ} (bound : s.Bound kind R (e :: events)) : s.Bound kind R events :=
  bound.part [e] [] (by rw [List.append_nil]; rfl)

end Bound

/-- What single steps and calls of their own come to for programs that are made of them, if the
calls of a kind go no further. What else is called is made of the same steps and calls. -/
structure Habit (s : Setting σ) (parts : Parts σ) (kind : Call → Prop)
    (R : World σ → List (Event σ) → World σ → Prop) : Prop where
  nil : ∀ v, R v [] v
  append : ∀ {v v₁ v₂ first second}, R v first v₁ → R v₁ second v₂ → R v (first ++ second) v₂
  step : ∀ {α : Type} (t : Step σ α) v, parts.step t → R v [.made t v] (t.run s.toSurroundings v).2
  called : ∀ c v, parts.call c → R v [.called c v] v
  body : ∀ c, parts.call c → ¬kind c → (s.body c).MadeOf parts
  single : ∀ {α : Type} (p : Program σ α), ¬parts.whole p

/-- A program goes no further than its steps and calls. -/
theorem Habit.of_run {parts : Parts σ} {kind : Call → Prop}
    {R : World σ → List (Event σ) → World σ → Prop} (habit : s.Habit parts kind R)
    {p : Program σ α} (made : p.MadeOf parts) (run : s.Runs p w events a w')
    (bound : s.Bound kind R events) : R w events w' := by
  induction hLength : events.length using Nat.strongRecOn generalizing α p w events a w' with
  | ind n ih =>
    subst hLength
    cases made with
    | done a =>
      cases run
      exact habit.nil w
    | @step _ t next allowed rest =>
      cases run with
      | step run =>
        have later := ih _ (by simp) (rest _) run bound.tail rfl
        exact habit.append (habit.step t w allowed) later
    | @call c next allowed rest =>
      cases run with
      | @call _ _ _ _ v _ inner outer b _ body run =>
        have hLength : (.called c w :: (inner ++ outer)).length =
            inner.length + outer.length + 1 := by
          rw [List.length_cons, List.length_append]
        have hInner : R w inner v := by
          by_cases hKind : kind c
          · exact bound [] c w inner b v outer rfl hKind body
          · exact ih _ (by omega) (habit.body c allowed hKind) body bound.tail.left rfl
        have hOuter := ih _ (by omega) (rest b) run bound.tail.right rfl
        exact habit.append (habit.called c w allowed) (habit.append hInner hOuter)
    | whole allowed rest => exact absurd allowed (habit.single _)

end Setting

/-- The step does nothing to interpreters. -/
def Step.Aside : {α : Type} → Step σ α → Prop
  | _, .newInterp | _, .register .. | _, .unregister .. | _, .setVariable .. => False
  | _, .addBackgroundError .. | _, .takeBackgroundErrors _ => False
  | _, .markDeleted _ | _, .newRecord .. => False
  | _, _ => True

theorem Step.interps_run {s : Surroundings σ} {w : World σ} (t : Step σ α) (aside : t.Aside) :
    (t.run s w).2.interps = w.interps := by
  cases t with
  | newInterp | register | unregister | setVariable => cases aside
  | addBackgroundError | takeBackgroundErrors | markDeleted | newRecord => cases aside
  | raise j raised => exact World.interps_graspCopies _
  | handle j d | takeCloseActions j | enterCopy k =>
    rw [Step.run]
    split <;> rfl
  | beginCopy source target limit? onDone? =>
    simp only [Step.run, World.beginCopy]
    split <;> rfl
  | _ => rfl

/-- What does nothing to interpreters on its own. -/
def asideParts : Parts σ where
  step := Step.Aside
  call := Call.Aside
  whole _ := False

theorem asideParts_alerting (j : ChannelId) : (asideParts : Parts σ).Alerting j where
  raise _ := trivial
  letGo _ := trivial
  event _ _ := trivial
  advance _ := trivial

theorem asideParts_shutting (j : ChannelId) : (asideParts : Parts σ).Shutting j where
  detach _ := trivial
  closing _ := trivial
  take := trivial
  shut := (asideParts_alerting j).hold .shut trivial
  clear := trivial

theorem asideParts_copying : (asideParts : Parts σ).Copying where
  hold j op _ := (asideParts_alerting j).hold op trivial
  look _ := trivial
  readAll _ _ _ := trivial
  step t ofCopies := by
    cases t with
    | look | grasp | letGo | copy | beginCopy | fixChunk | enterCopy | restCopy => trivial
    | countCopied | setCopyHandlers | endCopying | finishCopy => trivial
    | _ => cases ofCopies
  call c ofCopies := by
    cases c with
    | moveAll k => trivial
    | user u =>
      cases u with
      | completed => trivial
      | _ => cases ofCopies
    | _ => cases ofCopies
  leaving j handler := (asideParts_alerting j).hold (.deleteHandler handler) trivial
  waiting j mask k := (asideParts_alerting j).hold (.createHandler mask (.copy k)) trivial

namespace Setting

variable {s : Setting σ} {v w w' : World σ} {events : List (Event σ)} {a : α}

/-- Whatever is called aside, other than the user, does nothing to interpreters on its own. -/
theorem madeOf_aside {c : Call} (aside : c.Aside) (hOther : ¬c.OfUser) :
    (s.body c).MadeOf asideParts := by
  cases c with
  | user u => exact absurd trivial hOther
  | fire handler ready => cases aside
  | advance k => exact asideParts_copying.undertaking.advance k
  | moveAll k => exact (asideParts_copying.working k).moveChunks
  | readAll j chunk sofar => exact asideParts_copying.readChunks j chunk sofar

theorem Runs.aside {R : World σ → World σ → Prop}
    (hSame : ∀ v v', v'.interps = v.interps → R v v')
    (hTrans : ∀ {v v₁ v₂}, R v v₁ → R v₁ v₂ → R v v₂) {p : Program σ α}
    (made : p.MadeOf asideParts) (run : s.Runs p w events a w')
    (bound : s.Bound Call.OfUser (fun v _ v' => R v v') events) : R w w' := by
  have habit : s.Habit asideParts Call.OfUser fun v _ v' => R v v' :=
    { nil := fun v => hSame v v rfl
      append := hTrans
      step := fun t v allowed => hSame v _ (t.interps_run allowed)
      called := fun _ v _ => hSame v v rfl
      body := fun _ => madeOf_aside
      single := fun _ => not_false }
  exact habit.of_run made run bound

/-- No script is called but by routines of the user. -/
theorem Runs.unscripted {p : Program σ α} (made : p.MadeOf asideParts)
    (run : s.Runs p w events a w')
    (bound : s.Bound Call.OfUser (fun _ inner _ => ∀ e ∈ inner, ¬e.CallsScript) events) :
    ∀ e ∈ events, ¬e.CallsScript := by
  have habit : s.Habit asideParts Call.OfUser fun _ inner _ => ∀ e ∈ inner, ¬e.CallsScript :=
    { nil := fun _ => List.forall_mem_nil _
      append := fun first second => List.forall_mem_append.2 ⟨first, second⟩
      step := fun _ _ _ => List.forall_mem_singleton.2 not_false
      called := fun _ v aside => List.forall_mem_singleton.2 (aside.not_script v)
      body := fun _ => madeOf_aside
      single := fun _ => not_false }
  exact habit.of_run made run bound

end Setting

/-- The step is one by which a channel is closed. -/
def Step.OfClosing (j : ChannelId) : {α : Type} → Step σ α → Prop
  | _, .takeCloseActions i | _, .clearHandlers i | _, .hold i _ | _, .raise i _ => i = j
  | _, .detach _ | _, .letGo _ => True
  | _, _ => False

/-- Such a step leaves all other channels as they are. -/
theorem Step.OfClosing.channel_run {s : Surroundings σ} {w : World σ} {j k : ChannelId}
    {t : Step σ α} (own : t.OfClosing j) (hNe : k ≠ j) :
    (t.run s w).2.channel k = w.channel k := by
  cases t with
  | takeCloseActions i =>
    obtain rfl : i = j := own
    rw [Step.run]
    split
    · exact World.channel_modifyChannel_ne _ (Ne.symm hNe)
    · rfl
  | clearHandlers i =>
    obtain rfl : i = j := own
    exact World.channel_modifyChannel_ne _ (Ne.symm hNe)
  | hold i op =>
    obtain rfl : i = j := own
    exact World.hold_channel_ne _ (Ne.symm hNe)
  | raise i raised =>
    obtain rfl : i = j := own
    have hHeld := World.hold_channel_ne (w := w)
      (fun h => ((h.flushInBackground (s.driver i) raised).channel.targets raised,
        h.flushInBackground (s.driver i) raised)) (Ne.symm hNe)
    exact (World.channel_congr (World.channels_graspCopies _)).trans hHeld
  | detach record => rfl
  | letGo e => rfl
  | _ => cases own

/-- What closing a channel is made of. -/
def closeParts (j : ChannelId) : Parts σ where
  step := Step.OfClosing j
  call := Call.OfClosing
  whole _ := False

theorem closeParts_shutting (j : ChannelId) : (closeParts j : Parts σ).Shutting j where
  detach _ := trivial
  closing _ := trivial
  take := rfl
  shut := by
    have alerting : (closeParts j : Parts σ).Alerting j :=
      ⟨fun _ => rfl, fun _ => trivial, fun _ _ => trivial, fun _ => trivial⟩
    exact alerting.hold .shut rfl
  clear := rfl

/-- Closing a channel does nothing to another one, unless it is done in calls. -/
theorem Setting.Runs.close_apart {s : Setting σ} {w w' : World σ} {events : List (Event σ)}
    {j k : ChannelId} {r : Except Report Unit} {β : Type} {view : Channel → β} (hNe : k ≠ j)
    (run : s.Runs (Program.close j) w events r w')
    (bound : s.Bound (fun _ => True) (fun v _ v' => view (v'.channel k) = view (v.channel k))
      events) : view (w'.channel k) = view (w.channel k) := by
  have habit : s.Habit (closeParts j) (fun _ => True) fun v _ v' =>
      view (v'.channel k) = view (v.channel k) :=
    { nil := fun _ => rfl
      append := fun first second => second.trans first
      step := fun _ _ own => congrArg view (own.channel_run hNe)
      called := fun _ _ _ => rfl
      body := fun _ _ hNot => absurd trivial hNot
      single := fun _ => not_false }
  exact habit.of_run (closeParts_shutting j).close run bound

/-- What the deletion of an interpreter is made of, whichever channels are closed by it. -/
def deletionParts : Parts σ where
  step _ := True
  call := Call.OfClosing
  whole _ := False

theorem deletionParts_shutting (j : ChannelId) : (deletionParts : Parts σ).Shutting j where
  detach _ := trivial
  closing _ := trivial
  take := trivial
  shut := by
    have alerting : (deletionParts : Parts σ).Alerting j :=
      ⟨fun _ => trivial, fun _ => trivial, fun _ _ => trivial, fun _ => trivial⟩
    exact alerting.hold .shut trivial
  clear := trivial

theorem deletionParts_deleting : (deletionParts : Parts σ).Deleting where
  mark _ := trivial
  interp _ := trivial
  unregister := by
    have removing : (deletionParts : Parts σ).Removing :=
      ⟨fun _ _ => trivial, fun _ => trivial, fun _ => trivial, fun _ => trivial,
        fun j => (deletionParts_shutting j).close⟩
    exact removing.unregister

namespace Setting

variable {s : Setting σ}

/-- Whatever closing a channel calls comes to an end whenever it is called. -/
def Returns (s : Setting σ) : Prop :=
  ∀ c, c.OfClosing → ∀ v, ∃ inner b v', s.Runs (s.body c) v inner b v'

/-- A program that makes no other calls comes to an end, too. -/
theorem Returns.exists_run (returns : s.Returns) {p : Program σ α}
    (made : p.MadeOf deletionParts) (w : World σ) : ∃ events a w', s.Runs p w events a w' := by
  induction made generalizing w with
  | done a => exact ⟨[], a, w, .done a w⟩
  | @step _ t next allowed rest ih =>
    obtain ⟨events, a, w', run⟩ :=
      ih (t.run s.toSurroundings w).1 (t.run s.toSurroundings w).2
    exact ⟨_, a, w', .step run⟩
  | call ofClosing rest ih =>
    obtain ⟨inner, b, v, body⟩ := returns _ ofClosing w
    obtain ⟨outer, a, w', run⟩ := ih b v
    exact ⟨_, a, w', .call body run⟩
  | whole allowed rest ih => exact absurd allowed not_false

end Setting

end EventChannel
