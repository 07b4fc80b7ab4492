import EventChannel.Proofs.Contract

/-! What a call does is of no concern to what has happened before it. Two settings run a program
alike until a routine is called in which they differ. -/

namespace EventChannel

variable {σ α : Type}

/-- Nobody makes a call of some kind in the events. -/
def Without (Stops : Call → Prop) (events : List (Event σ)) : Prop :=
  ∀ c v, .called c v ∈ events → ¬Stops c

namespace Without

variable {Stops : Call → Prop} {first second : List (Event σ)}

theorem nil : Without Stops ([] : List (Event σ)) := by
  intro c v hMem
  cases hMem

theorem append (left : Without Stops first) (right : Without Stops second) :
    Without Stops (first ++ second) :=
  fun c v hMem => (List.mem_append.1 hMem).elim (left c v) (right c v)

theorem made {β : Type} (t : Step σ β) (w : World σ) (rest : Without Stops first) :
    Without Stops (.made t w :: first) := by
  intro c v hMem
  rcases List.mem_cons.1 hMem with hHead | hTail
  · cases hHead
  · exact rest c v hTail

theorem called {c : Call} (hNot : ¬Stops c) (w : World σ) (rest : Without Stops first) :
    Without Stops (.called c w :: first) := by
  intro c' v hMem
  rcases List.mem_cons.1 hMem with hHead | hTail
  · cases hHead
    exact hNot
  · exact rest c' v hTail

theorem tail {e : Event σ} (without : Without Stops (e :: first)) : Without Stops first :=
  fun c v hMem => without c v (List.mem_cons_of_mem e hMem)

/-- Either nobody makes a call of some kind, or there is a first one. -/
theorem or_first (Stops : Call → Prop) (events : List (Event σ)) :
    Without Stops events ∨ ∃ before c v after, events = before ++ .called c v :: after ∧ Stops c ∧
      Without Stops before := by
  induction events with
  | nil => exact .inl nil
  | cons e rest ih =>
    cases e with
    | made t w =>
      rcases ih with hRest | ⟨before, c, v, after, rfl, hStops, hBefore⟩
      · exact .inl (hRest.made t w)
      · exact .inr ⟨_, c, v, after, rfl, hStops, hBefore.made t w⟩
    | called c w =>
      by_cases hStops : Stops c
      · exact .inr ⟨[], c, w, rest, rfl, hStops, nil⟩
      · rcases ih with hRest | ⟨before, c', v, after, rfl, hStops', hBefore⟩
        · exact .inl (hRest.called hStops w)
        · exact .inr ⟨_, c', v, after, rfl, hStops', hBefore.called hStops w⟩

instance decidable [DecidablePred Stops] : (events : List (Event σ)) →
    Decidable (Without Stops events)
  | [] => isTrue nil
  | .made t w :: rest =>
    match decidable rest with
    | isTrue hRest => isTrue (hRest.made t w)
    | isFalse hRest => isFalse fun without => hRest without.tail
  | .called c w :: rest =>
    if hStops : Stops c then isFalse fun without => without c w List.mem_cons_self hStops
    else
      match decidable rest with
      | isTrue hRest => isTrue (hRest.called hStops w)
      | isFalse hRest => isFalse fun without => hRest without.tail

end Without

namespace Setting

/-- The setting with other routines. -/
def replacing (s : Setting σ) (routine : (u : UserCall) → Program σ u.Answer) : Setting σ :=
  { s with routine }

/-- A program has run up to the first call of some kind, and then on. -/
def StopsIn (s : Setting σ) (Stops : Call → Prop) (p : Program σ α) (w : World σ)
    (events : List (Event σ)) : Prop :=
  ∃ before c v after, events = before ++ .called c v :: after ∧ Stops c ∧ Without Stops before ∧
    s.Begins p w (before ++ [.called c v]) v

variable {s : Setting σ} {Stops : Call → Prop} {routine : (u : UserCall) → Program σ u.Answer}

theorem body_replacing (hSame : ∀ u, ¬Stops (.user u) → routine u = s.routine u) {c : Call}
    (hNot : ¬Stops c) : (s.replacing routine).body c = s.body c := by
  cases c with
  | user u => exact hSame u hNot
  | fire handler ready => cases handler <;> rfl
  | advance | moveAll | readAll => rfl

namespace StopsIn

variable {w w₁ : World σ} {inner outer : List (Event σ)}

theorem step {β : Type} {t : Step σ β} {next : β → Program σ α}
    (rest : s.StopsIn Stops (next (t.run s.toSurroundings w).1) (t.run s.toSurroundings w).2
      outer) :
    s.StopsIn Stops (.step t next) w (.made t w :: outer) := by
  obtain ⟨before, c, v, after, rfl, hStops, hWithout, run⟩ := rest
  exact ⟨_, c, v, after, rfl, hStops, hWithout.made t w, .step run⟩

theorem here {c : Call} (hStops : Stops c) (next : c.Answer → Program σ α) (w : World σ)
    (outer : List (Event σ)) : s.StopsIn Stops (.call c next) w (.called c w :: outer) :=
  ⟨[], c, w, outer, rfl, hStops, .nil, .inside (.stop _ w)⟩

theorem inside {c : Call} (hNot : ¬Stops c) {next : c.Answer → Program σ α}
    (body : s.StopsIn Stops (s.body c) w inner) (outer : List (Event σ)) :
    s.StopsIn Stops (.call c next) w (.called c w :: (inner ++ outer)) := by
  obtain ⟨before, c', v, after, rfl, hStops, hWithout, run⟩ := body
  exact ⟨.called c w :: before, c', v, after ++ outer, by simp, hStops, hWithout.called hNot w,
    .inside run⟩

theorem after {c : Call} (hNot : ¬Stops c) {next : c.Answer → Program σ α} {b : c.Answer}
    (body : s.Runs (s.body c) w inner b w₁) (hInner : Without Stops inner)
    (rest : s.StopsIn Stops (next b) w₁ outer) :
    s.StopsIn Stops (.call c next) w (.called c w :: (inner ++ outer)) := by
  obtain ⟨before, c', v, after, rfl, hStops, hWithout, run⟩ := rest
  refine ⟨.called c w :: (inner ++ before), c', v, after, by simp, hStops,
    (hInner.append hWithout).called hNot w, ?_⟩
  have hRun : s.Begins (.call c next) w (.called c w :: (inner ++ (before ++ [.called c' v]))) v :=
    .after body run
  rwa [← List.append_assoc] at hRun

end StopsIn

/-- A run to the end is one with the other routines, or it is up to the first call of one that is
replaced. -/
theorem Runs.replaced (hSame : ∀ u, ¬Stops (.user u) → routine u = s.routine u)
    {p : Program σ α} {w w' : World σ} {events : List (Event σ)} {a : α}
    (run : s.Runs p w events a w') :
    Without Stops events ∧ (s.replacing routine).Runs p w events a w' ∨
      (s.replacing routine).StopsIn Stops p w events := by
  induction run with
  | done a w => exact .inl ⟨.nil, .done a w⟩
  | @step _ _ t next w w' events a rest ih =>
    rcases ih with ⟨hWithout, run⟩ | stops
    · exact .inl ⟨hWithout.made t w, .step run⟩
    · exact .inr stops.step
  | @call _ c next w w₁ w₂ inner outer b a body rest ihBody ihRest =>
    by_cases hStops : Stops c
    · exact .inr (.here hStops next w _)
    · rw [← body_replacing hSame hStops] at ihBody
      rcases ihBody with ⟨hInner, body'⟩ | stops
      · rcases ihRest with ⟨hOuter, rest'⟩ | stops
        · exact .inl ⟨(hInner.append hOuter).called hStops w, .call body' rest'⟩
        · exact .inr (.after hStops body' hInner stops)
      · exact .inr (.inside hStops stops outer)

/-- The same of a program that has run for some time. -/
theorem Begins.replaced (hSame : ∀ u, ¬Stops (.user u) → routine u = s.routine u)
    {p : Program σ α} {w w' : World σ} {events : List (Event σ)} (run : s.Begins p w events w') :
    Without Stops events ∧ (s.replacing routine).Begins p w events w' ∨
      (s.replacing routine).StopsIn Stops p w events := by
  induction run with
  | stop p w => exact .inl ⟨.nil, .stop p w⟩
  | @step _ _ t next w w' events rest ih =>
    rcases ih with ⟨hWithout, run⟩ | stops
    · exact .inl ⟨hWithout.made t w, .step run⟩
    · exact .inr stops.step
  | @inside _ c next w w' inner body ih =>
    by_cases hStops : Stops c
    · exact .inr (.here hStops next w _)
    · rw [← body_replacing hSame hStops] at ih
      rcases ih with ⟨hInner, body'⟩ | stops
      · exact .inl ⟨hInner.called hStops w, .inside body'⟩
      · have hInside : (s.replacing routine).StopsIn Stops (.call c next) w
            (.called c w :: (inner ++ [])) := .inside hStops stops []
        rw [List.append_nil] at hInside
        exact .inr hInside
  | @after _ c next w w₁ w₂ inner outer b body rest ih =>
    by_cases hStops : Stops c
    · exact .inr (.here hStops next w _)
    · have hBody := body.replaced hSame
      rw [← body_replacing hSame hStops] at hBody
      rcases hBody with ⟨hInner, body'⟩ | stops
      · rcases ih with ⟨hOuter, rest'⟩ | stops
        · exact .inl ⟨(hInner.append hOuter).called hStops w, .after body' rest'⟩
        · exact .inr (.after hStops body' hInner stops)
      · exact .inr (.inside hStops stops outer)

/-- The calls of a program up to the first of a routine that is replaced are allowed, if those of
the program with the other routines are. -/
theorem Begins.allowed_until {K : Contract σ} {Good : Call → List (Event σ) → World σ → Prop}
    (hSame : ∀ u, ¬Stops (.user u) → routine u = s.routine u)
    (honours : (s.replacing routine).Honours K Good) {p : Program σ α} {w w' : World σ}
    {past events : List (Event σ)} (run : s.Begins p w events w')
    {Q : List (Event σ) → α → World σ → Prop} (h : p.wp s.toSurroundings K Q past w)
    {before after : List (Event σ)} {c : Call} {v : World σ}
    (hEvents : events = before ++ .called c v :: after) (hBefore : Without Stops before) :
    Good c (past ++ before) v := by
  rcases run.replaced hSame with ⟨-, run'⟩ | ⟨first, c', v', rest, hFirst, hStops, -, run'⟩
  · exact run'.of_wp honours h before c v after hEvents
  · have hAllowed := run'.of_wp honours h
    rw [hEvents] at hFirst
    rcases List.append_eq_append_iff.1 hFirst with ⟨middle, rfl, hMiddle⟩ | ⟨middle, rfl, hMiddle⟩
    · cases middle with
      | nil =>
        obtain ⟨hHere, -⟩ := List.cons.inj hMiddle
        cases hHere
        exact hAllowed before c v [] (by rw [List.append_nil])
      | cons e middle =>
        obtain ⟨rfl, -⟩ := List.cons.inj hMiddle
        exact hAllowed before c v (middle ++ [.called c' v']) (by simp)
    · cases middle with
      | nil =>
        obtain ⟨hHere, -⟩ := List.cons.inj hMiddle
        cases hHere
        rw [List.append_nil]
        exact hAllowed first c v [] rfl
      | cons e middle =>
        obtain ⟨rfl, -⟩ := List.cons.inj hMiddle
        exact absurd hStops (hBefore c' v' (by simp))

/-- The end of a run without calls of a routine that is replaced is that of the program with the
other routines. -/
theorem Runs.end_without {K : Contract σ} {Good : Call → List (Event σ) → World σ → Prop}
    (hSame : ∀ u, ¬Stops (.user u) → routine u = s.routine u)
    (honours : (s.replacing routine).Honours K Good) {p : Program σ α} {w w' : World σ}
    {past events : List (Event σ)} {a : α} (run : s.Runs p w events a w')
    (hWithout : Without Stops events) {Q : List (Event σ) → α → World σ → Prop}
    (h : p.wp s.toSurroundings K Q past w) : Q (past ++ events) a w' := by
  rcases run.replaced hSame with ⟨-, run'⟩ | ⟨first, c, v, rest, rfl, hStops, -, -⟩
  · exact (run'.of_wp honours h).1
  · exact absurd hStops (hWithout c v (by simp))

end Setting

end EventChannel
