import EventChannel.Proofs.Program.Proper
import EventChannel.Proofs.World.Registry

/-! What happens while a proper program runs to its end is made of whole operations: what comes out
of a channel is raised at once and its handlers are called in turn, and an entry that is removed is
followed by what its channel is owed. A fact about the run of a proper program is proved by
induction on this. -/

namespace EventChannel

variable {σ α : Type}

/-- The step is not followed by others that belong to it. -/
def Step.Lone : {α : Type} → Step σ α → Prop
  | _, .hold .. | _, .raise .. | _, .dropReference _ | _, .unregister .. => False
  | _, _ => True

theorem Step.Plain.lone {t : Step σ α} (plain : t.Plain) : t.Lone := by
  cases t <;> trivial

/-- What holds of each of some events and of those that come after it. -/
def Followed (P : Event σ → List (Event σ) → Prop) (events : List (Event σ)) : Prop :=
  ∀ before e after, events = before ++ e :: after → P e after

namespace Followed

variable {P : Event σ → List (Event σ) → Prop} {events first second : List (Event σ)}

theorem nil : Followed P [] := by
  intro before e after hSplit
  simp at hSplit

theorem cons {e : Event σ} (here : P e events) (rest : Followed P events) :
    Followed P (e :: events) := by
  intro before e' after hSplit
  cases before with
  | nil =>
    obtain ⟨rfl, rfl⟩ := List.cons.inj hSplit
    exact here
  | cons first before =>
    obtain ⟨-, hTail⟩ := List.cons.inj hSplit
    exact rest before e' after hTail

theorem append (hLater : ∀ e after later, P e after → P e (after ++ later))
    (left : Followed P first) (right : Followed P second) : Followed P (first ++ second) := by
  intro before e after hSplit
  rcases List.append_eq_append_iff.1 hSplit with ⟨middle, rfl, hSecond⟩ | ⟨middle, hFirst, hAfter⟩
  · exact right middle e after hSecond
  · cases middle with
    | nil =>
      rw [List.nil_append] at hAfter
      exact right [] e after hAfter.symm
    | cons e' middle =>
      obtain ⟨rfl, rfl⟩ := List.cons.inj hAfter
      exact hLater e middle second (left before e middle hFirst)

end Followed

namespace Setting

/-- Events that are made of whole operations. -/
inductive Whole (s : Setting σ) : World σ → List (Event σ) → World σ → Prop
  | nil (w : World σ) : Whole s w [] w
  | append {w w₁ w₂ : World σ} {first second : List (Event σ)} (left : Whole s w first w₁)
      (right : Whole s w₁ second w₂) : Whole s w (first ++ second) w₂
  | alone {β : Type} {t : Step σ β} (w : World σ) (lone : t.Lone) :
      Whole s w [.made t w] (t.run s.toSurroundings w).2
  | called {c : Call} {w w' : World σ} {inner : List (Event σ)} {b : c.Answer}
      (body : s.Runs (s.body c) w inner b w') (whole : Whole s w inner w') :
      Whole s w (.called c w :: inner) w'
  /-- Conditions come up, and the handlers concerned are called. -/
  | raised {j : ChannelId} {raised : Interest} {w w' : World σ} {delivery : List (Event σ)}
      (delivers : s.Runs
        (Program.deliver j ((Step.raise j raised).run s.toSurroundings w).1)
        ((Step.raise j raised).run s.toSurroundings w).2 delivery () w')
      (whole : Whole s ((Step.raise j raised).run s.toSurroundings w).2 delivery w') :
      Whole s w (.made (.raise j raised) w :: delivery) w'
  /-- A channel is held, and what comes out of it is raised. -/
  | held {j : ChannelId} {op : ChannelOp} {w w' : World σ} {rest : List (Event σ)} {a : op.Answer}
      (run : s.Runs (Program.hold j op) w (.made (.hold j op) w :: rest) a w')
      (whole : Whole s ((Step.hold j op).run s.toSurroundings w).2 rest w') :
      Whole s w (.made (.hold j op) w :: rest) w'
  /-- There is no entry to remove. -/
  | unknown {i : InterpId} {name : String} {w : World σ}
      (missing : (w.interp i).lookup? name = none) :
      Whole s w [.made (.unregister i name) w] w
  /-- An entry is removed, and its channel is closed if that was its last reference. -/
  | withdrawn {i : InterpId} {name : String} {j : ChannelId} {w w' : World σ}
      {closing : List (Event σ)} {r : Except Report Unit}
      (entry : (w.interp i).lookup? name = some j)
      (run : s.Runs (if (w.channel j).references ≤ 1 then Program.close j else .done (.ok ()))
        (w.withdraw i name j) closing r w')
      (whole : Whole s (w.withdraw i name j) closing w') :
      Whole s w (.made (.unregister i name) w ::
        .made (.grasp (.channel j)) (w.modifyInterp i (·.remove name)) ::
        .made (.dropReference j) ((w.modifyInterp i (·.remove name)).grasp (.channel j)) ::
        (closing ++ [.made (.letGo (.channel j)) w'])) (w'.letGo (.channel j))

variable {s : Setting σ} {w w' : World σ} {events : List (Event σ)} {a : α} {n : Nat}

theorem Whole.before {β : Type} {t : Step σ β} (lone : t.Lone)
    (rest : s.Whole (t.run s.toSurroundings w).2 events w') :
    s.Whole w (.made t w :: events) w' :=
  (Whole.alone w lone).append rest

theorem Whole.calling {c : Call} {w₁ : World σ} {inner outer : List (Event σ)} {b : c.Answer}
    (body : s.Runs (s.body c) w inner b w₁) (whole : s.Whole w inner w₁)
    (rest : s.Whole w₁ outer w') : s.Whole w (.called c w :: (inner ++ outer)) w' :=
  (Whole.called body whole).append rest

/-- What happens in calls is whole, as far as it is no longer than that. -/
def WholeCalls (s : Setting σ) (n : Nat) : Prop :=
  ∀ {c : Call} {w w' : World σ} {inner : List (Event σ)} {b : c.Answer}, inner.length < n →
    s.Runs (s.body c) w inner b w' → s.Whole w inner w'

theorem whole_deliver {j : ChannelId} {targets : List (Interest × Callback)}
    {u : Unit} (calls : s.WholeCalls n) (hBound : events.length ≤ n)
    (run : s.Runs (Program.deliver j targets) w events u w') : s.Whole w events w' := by
  induction targets generalizing w events with
  | nil =>
    cases run
    exact .nil _
  | cons target rest ih =>
    obtain ⟨ready, r | k⟩ := target
    · cases run with
      | call body run =>
        simp only [List.length_cons, List.length_append] at hBound
        exact .calling body (calls (by omega) body) (ih (by omega) run)
    · cases run with
      | call body run =>
        cases run with
        | step run =>
          simp only [List.length_cons, List.length_append] at hBound
          refine .calling body (calls (by omega) body) ?_
          exact .before (t := .letGo (.copy k)) trivial (ih (by omega) run)

theorem whole_notify {j : ChannelId} {raised : Interest} {u : Unit} (calls : s.WholeCalls n)
    (hBound : events.length ≤ n) (run : s.Runs (Program.notify j raised) w events u w') :
    s.Whole w events w' := by
  cases run with
  | step run =>
    exact .raised run (whole_deliver calls (by simp only [List.length_cons] at hBound; omega) run)

theorem whole_hold {j : ChannelId} {op : ChannelOp} {a : op.Answer} (calls : s.WholeCalls n)
    (hBound : events.length ≤ n) (run : s.Runs (Program.hold j op) w events a w') :
    s.Whole w events w' := by
  have hRun := run
  cases run with
  | step run =>
    refine .held hRun ?_
    dsimp only at run
    split at run
    · cases run
      exact .nil _
    · obtain ⟨_, notified, -⟩ := runs_bind_done.1 run
      rw [List.length_cons] at hBound
      exact whole_notify calls (by omega) notified

theorem whole_runCloseActions {actions : List CloseAction} {u : Unit} (calls : s.WholeCalls n)
    (hBound : events.length ≤ n) (run : s.Runs (Program.runCloseActions actions) w events u w') :
    s.Whole w events w' := by
  induction actions generalizing w events with
  | nil =>
    cases run
    exact .nil _
  | cons action rest ih =>
    cases action with
    | routine r =>
      cases run with
      | call body run =>
        simp only [List.length_cons, List.length_append] at hBound
        exact .calling body (calls (by omega) body) (ih (by omega) run)
    | detach record =>
      cases run with
      | step run =>
        simp only [List.length_cons] at hBound
        exact .before (t := .detach record) trivial (ih (by omega) run)

/-- What closing does: nothing to a channel that is closed already. Otherwise the actions are
carried out, the driver is closed, and the handlers are cleared away. -/
theorem Runs.of_close {j : ChannelId} {r : Except Report Unit}
    (run : s.Runs (Program.close j) w events r w') :
    (w.channel j).isOpen = false ∧ events = [.made (.takeCloseActions j) w] ∧ r = .ok () ∧ w' = w ∨
      ∃ acted shut answer w₁ w₂, (w.channel j).isOpen = true ∧
        events = .made (.takeCloseActions j) w ::
          (acted ++ (shut ++ [.made (.clearHandlers j) w₂])) ∧
        s.Runs (Program.runCloseActions (w.channel j).closeActions)
          (w.modifyChannel j ({ · with closeActions := [] })) acted () w₁ ∧
        s.Runs (Program.hold j .shut) w₁ shut answer w₂ ∧
        r = answer.mapError (.ofSystem "conduit.channel.io" "error closing channel") ∧
        w' = w₂.modifyChannel j ({ · with handlers := [] }) := by
  obtain ⟨first, second, actions?, w₁, rfl, taken, run⟩ := Runs.of_bind run
  cases taken with
  | step taken =>
    cases taken
    cases hOpen : (w.channel j).isOpen with
    | false =>
      rw [Step.takeCloseActions_of_shut hOpen] at run
      cases run
      exact .inl ⟨rfl, rfl, rfl, rfl⟩
    | true =>
      rw [Step.takeCloseActions_of_open hOpen] at run
      obtain ⟨acted, second, u, w₁, rfl, left, run⟩ := Runs.of_bind run
      obtain ⟨shut, last, answer, w₂, rfl, middle, run⟩ := Runs.of_bind run
      cases run with
      | step run =>
        cases run
        exact .inr ⟨acted, shut, answer, w₁, w₂, rfl, rfl, left, middle, rfl, rfl⟩

theorem whole_close {j : ChannelId} {r : Except Report Unit} (calls : s.WholeCalls n)
    (hBound : events.length ≤ n) (run : s.Runs (Program.close j) w events r w') :
    s.Whole w events w' := by
  rcases run.of_close with
    ⟨hShut, rfl, rfl, rfl⟩ | ⟨acted, shut, answer, w₁, w₂, hOpen, rfl, left, middle, rfl, rfl⟩
  · refine .before (t := .takeCloseActions j) trivial ?_
    rw [Step.takeCloseActions_of_shut hShut]
    exact .nil _
  · refine .before (t := .takeCloseActions j) trivial ?_
    rw [Step.takeCloseActions_of_open hOpen]
    simp only [List.length_cons, List.length_append] at hBound
    have wholeShut := whole_hold calls (by omega) middle
    refine (whole_runCloseActions calls (by omega) left).append (wholeShut.append ?_)
    exact .alone (t := .clearHandlers j) w₂ trivial

/-- What a removal does: there is no such entry, or it is gone with its reference, and its channel
is closed if that was the last one. -/
theorem Runs.of_unregister {i : InterpId} {name : String} {r : Except Report Unit}
    (run : s.Runs (Program.unregister i name) w events r w') :
    (w.interp i).lookup? name = none ∧ events = [.made (.unregister i name) w] ∧ w' = w ∨
      ∃ j closing u, (w.interp i).lookup? name = some j ∧
        events = .made (.unregister i name) w ::
          .made (.grasp (.channel j)) (w.modifyInterp i (·.remove name)) ::
          .made (.dropReference j) ((w.modifyInterp i (·.remove name)).grasp (.channel j)) ::
          (closing ++ [.made (.letGo (.channel j)) u]) ∧
        s.Runs (if (w.channel j).references ≤ 1 then Program.close j else .done (.ok ()))
          (w.withdraw i name j) closing r u ∧
        w' = u.letGo (.channel j) := by
  cases run with
  | step run =>
    cases hEntry : (w.interp i).lookup? name with
    | none =>
      rw [Step.unregister_of_none hEntry] at run
      cases run
      exact .inl ⟨rfl, rfl, rfl⟩
    | some j =>
      rw [Step.unregister_of_some hEntry] at run
      obtain ⟨inner, u, rfl, released, rfl⟩ := Runs.of_referring run
      cases released with
      | @step _ _ _ _ _ _ closing _ released =>
        have closed : s.Runs (if decide ((w.channel j).references ≤ 1) = true
            then Program.close j else .done (.ok ())) (w.withdraw i name j) closing r u := released
        simp only [decide_eq_true_eq] at closed
        exact .inr ⟨j, closing, u, rfl, rfl, closed, rfl⟩

theorem whole_unregister {i : InterpId} {name : String} {r : Except Report Unit}
    (calls : s.WholeCalls n) (hBound : events.length ≤ n)
    (run : s.Runs (Program.unregister i name) w events r w') : s.Whole w events w' := by
  rcases run.of_unregister with ⟨missing, rfl, rfl⟩ | ⟨j, closing, u, entry, rfl, closed, rfl⟩
  · exact .unknown missing
  · refine .withdrawn entry closed ?_
    simp only [List.length_cons, List.length_append] at hBound
    split at closed
    · exact whole_close calls (by omega) closed
    · cases closed
      exact .nil _

/-- What happens while a proper program runs to its end is made of whole operations. -/
theorem Runs.whole (proper : s.Proper) {p : Program σ α} (hProper : p.Proper)
    (run : s.Runs p w events a w') : s.Whole w events w' := by
  -- a call is shorter than what it is part of, and so is what is left when an operation has ended
  induction hLength : events.length using Nat.strongRecOn generalizing α p w events a w' with
  | ind n ih =>
    have calls : s.WholeCalls n := fun hShorter body =>
      ih _ hShorter (proper.body _) body rfl
    subst hLength
    have hBlock {β : Type} {q : Program σ β} {next : β → Program σ α}
        (rest : ∀ b, (next b).Proper) (run : s.Runs (q.bind next) w events a w')
        (hSome : ∀ b w₁, ¬s.Runs q w [] b w₁)
        (whole : ∀ {first b w₁}, first.length ≤ events.length → s.Runs q w first b w₁ →
          s.Whole w first w₁) : s.Whole w events w' := by
      obtain ⟨first, second, b, w₁, rfl, left, right⟩ := run.of_bind
      have hShorter : second.length < (first ++ second).length := by
        cases first with
        | nil => exact absurd left (hSome b w₁)
        | cons e first => simp only [List.length_append, List.length_cons]; omega
      exact (whole (by simp) left).append (ih _ hShorter (rest b) right rfl)
    cases hProper with
    | done a =>
      cases run
      exact .nil _
    | step plain rest =>
      cases run with
      | step run => exact .before plain.lone (ih _ (by simp) (rest _) run rfl)
    | call rest =>
      cases run with
      | call body run =>
        refine .calling body (calls ?_ body) (ih _ ?_ (rest _) run rfl)
        all_goals
          simp only [List.length_cons, List.length_append]
          omega
    | held stays rest =>
      exact hBlock rest run (fun _ _ left => by cases left)
        fun hBound left => whole_hold calls hBound left
    | notified rest =>
      exact hBlock rest run (fun _ _ left => by cases left)
        fun hBound left => whole_notify calls hBound left
    | closed rest =>
      exact hBlock rest run (fun _ _ left => by cases left)
        fun hBound left => whole_close calls hBound left
    | unregistered rest =>
      exact hBlock rest run (fun _ _ left => by cases left)
        fun hBound left => whole_unregister calls hBound left

theorem Whole.leads (whole : s.Whole w events w') : s.Leads w events w' := by
  induction whole with
  | nil w => exact .refl
  | append left right ihLeft ihRight => exact ihLeft.trans ihRight
  | alone w lone => exact .cons (.made _ w) .refl
  | called body whole ih => exact .cons (.called _ _) ih
  | raised delivers whole ih => exact .cons (.made _ _) ih
  | held run whole ih => exact .cons (.made _ _) ih
  | @unknown i name w missing =>
    have single : s.Leads w [.made (.unregister i name) w]
        ((Step.unregister i name).run s.toSurroundings w).2 := .cons (.made _ _) .refl
    rwa [Step.unregister_of_none missing] at single
  | @withdrawn i name j w w' closing r entry run whole ih =>
    have last : s.Leads w' [.made (.letGo (.channel j)) w'] (w'.letGo (.channel j)) :=
      .cons (.made _ _) .refl
    refine .cons (.made _ w) ?_
    show s.Leads ((Step.unregister i name).run s.toSurroundings w).2 _ _
    rw [Step.unregister_of_some entry]
    exact .cons (.made _ _) (.cons (.made _ _) (ih.trans last))

end Setting

end EventChannel
