import EventChannel.Proofs.Copy.Interruption
import EventChannel.Proofs.Replacement

/-! Routines of the user are called while a copy is under way. As long as they leave the copy alone
it does not matter what else they do. The routine at the end of the copy need not leave it alone:
the copy is over by then. So it is replaced by one that does nothing, and what is known of a run
with that one is known of every run up to where the copy ends. -/

namespace EventChannel

variable {σ : Type}

/-- The routines of the user leave a copy alone, except for the one at its end. -/
def Setting.Spares (s : Setting σ) (r : Route) : Prop :=
  ∀ u w inner w', r.speaks (.user u) = false → s.Begins (s.routine u) w inner w' →
    ∀ e ∈ inner, r.Apart e

namespace Route

variable {r : Route} {s : Surroundings σ} {start : World σ} {w w' : World σ}
  {past inner : List (Event σ)} {c : Copy}

/-- What holds when the routine at the end of a copy is called. -/
structure Completed (r : Route) (s : Surroundings σ) (start : World σ) (past : List (Event σ))
    (w : World σ) (total : Nat) (error? : Option Report) : Prop where
  phase : (w.copy r.copy).phase = .done
  total : (w.copy r.copy).total = total
  ends : r.Ends s start past w (w.copy r.copy) error?

/-- What a routine of the user finds when it is called. -/
structure Finds (r : Route) (s : Surroundings σ) (start : World σ) (u : UserCall)
    (past : List (Event σ)) (w : World σ) : Prop where
  ground : ∃ c, r.Ground s start past w c
  completed : ∀ routine total error?, u = .completed routine total error? →
    r.onDone? = some routine → r.Completed s start past w total error?

/-- The calls around a copy of which something is known are those of the user. -/
def Watched (r : Route) (s : Surroundings σ) (start : World σ) :
    Call → List (Event σ) → World σ → Prop
  | .user u, past, w => r.Finds s start u past w
  | _, _, _ => True

/-- A call that does not speak for the copy finds no more than the ground. -/
theorem Finds.of_ground {u : UserCall} (hSilent : r.speaks (.user u) = false)
    (ground : r.Ground s start past w c) : r.Finds s start u past w where
  ground := ⟨c, ground⟩
  completed routine total error? hCall hOnDone := by
    rw [hCall, speaks, decide_eq_false_iff_not] at hSilent
    exact absurd hOnDone hSilent

/-- What is left alone keeps its ground. -/
theorem Ground.beside (ground : r.Ground s start past w c) (history : s.Leads w inner w')
    (apart : ∀ e ∈ inner, r.Apart e) : r.Ground s start (past ++ inner) w' c := by
  have interlude : r.Interlude s r.source w inner w' :=
    .of_leads history ground.source ground.target apart
  exact ground.interlude interlude fun _ _ => (interlude.still (.inl r.distinct)).2.2

/-- The setting in which the routine at the end of a copy does nothing. -/
def hushed (r : Route) (s : Setting σ) : Setting σ :=
  s.replacing fun u => if r.speaks (.user u) then .done u.unit else s.routine u

theorem hushed_same (r : Route) (s : Setting σ) (u : UserCall)
    (hNot : ¬r.speaks (.user u) = true) :
    (if r.speaks (.user u) then .done u.unit else s.routine u) = s.routine u :=
  if_neg hNot

/-- Without the routine at the end, all routines leave the copy alone. -/
theorem hushed_apart {s : Setting σ} (spares : s.Spares r) {u : UserCall}
    (run : (r.hushed s).Begins ((r.hushed s).routine u) w inner w') :
    ∀ e ∈ inner, r.Apart e := by
  by_cases hSpeaks : r.speaks (.user u) = true
  · rw [show (r.hushed s).routine u = .done u.unit from if_pos hSpeaks] at run
    cases run
    intro e hMem
    cases hMem
  · rw [show (r.hushed s).routine u = s.routine u from if_neg hSpeaks] at run
    have hSilent := Bool.eq_false_iff.2 hSpeaks
    have hBack : Without (r.speaks · = true) inner ∧ s.Begins (s.routine u) w inner w' ∨
        s.StopsIn (r.speaks · = true) (s.routine u) w inner :=
      run.replaced fun u hNot => (hushed_same r s u hNot).symm
    rcases hBack with ⟨-, run⟩ | ⟨before, call, v, after, rfl, hStops, -, run⟩
    · exact spares u w inner w' hSilent run
    · have hApart := spares u w _ v hSilent run (.called call v) (by simp)
      exact absurd hStops (Bool.eq_false_iff.1 hApart)

/-- What is promised about the call of a routine that leaves the copy alone is kept. -/
theorem Ground.bystander {s : Setting σ} {u : UserCall}
    (ground : r.Ground s.toSurroundings start past w c)
    (apart : ∀ inner w', s.Begins (s.routine u) w inner w' → ∀ e ∈ inner, r.Apart e) :
    (∀ inner w', s.Begins (s.body (.user u)) w inner w' →
      Setting.Allowed (r.Watched s.toSurroundings start) (past ++ [.called (.user u) w]) inner) ∧
    ∀ inner b w', s.Runs (s.body (.user u)) w inner b w' →
      ∃ inner', past ++ .called (.user u) w :: inner = past ++ .called (.user u) w :: inner' ∧
        s.Leads w inner' w' ∧ ∀ e ∈ inner', r.Apart e := by
  constructor
  · rintro inner w' run before call v after rfl
    have hApart := apart _ w' run
    cases call with
    | user u' =>
      have called := ground.interlude (.of_called r.source (.user u) w) fun _ _ => rfl
      refine .of_ground (hApart (.called (.user u') v) (by simp)) (called.beside run.leads.up_to ?_)
      exact fun e hMem => hApart e (List.mem_append_left _ hMem)
    | fire | advance | moveAll | readAll => trivial
  · exact fun inner b w' run => ⟨inner, rfl, run.leads, apart inner w' run.begins⟩

end Route

end EventChannel
