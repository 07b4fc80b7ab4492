import EventChannel.Proofs.Execution

/-! A program is reasoned about along its own tree; of a call no more is known than what is promised
about it. Assertions are about the events so far and the world they have led to. What a call does is
bound to its promise in one of two ways: its program is reasoned about in the same manner, or it is
foreign, and its runs are known to keep the promise. -/

namespace EventChannel

variable {σ α β : Type}

/-- What is promised about calls: what holds when one is made, and what holds when it has ended. -/
structure Contract (σ : Type) where
  pre : Call → List (Event σ) → World σ → Prop
  post : (c : Call) → List (Event σ) → World σ → List (Event σ) → c.Answer → World σ → Prop

namespace Program

/-- What has to hold before a program so that it makes its calls as promised and that, if it ends,
an assertion holds of its answer. -/
def wp (s : Surroundings σ) (K : Contract σ) : Program σ α →
    (List (Event σ) → α → World σ → Prop) → List (Event σ) → World σ → Prop
  | .done a, Q, past, w => Q past a w
  | .step t next, Q, past, w =>
    (next (t.run s w).1).wp s K Q (past ++ [.made t w]) (t.run s w).2
  | .call c next, Q, past, w =>
    K.pre c past w ∧ ∀ past' b w', K.post c past w past' b w' → (next b).wp s K Q past' w'

variable {s : Surroundings σ} {K : Contract σ} {past : List (Event σ)} {w : World σ}

/-- Of two programs the first has to lead to what the second needs. -/
theorem wp_bind {p : Program σ α} {f : α → Program σ β}
    {Q : List (Event σ) → β → World σ → Prop} :
    (p.bind f).wp s K Q past w ↔ p.wp s K (fun past a w => (f a).wp s K Q past w) past w := by
  induction p generalizing past w with
  | done a => exact Iff.rfl
  | step t next ih => exact ih _
  | call c next ih =>
    constructor
    · exact fun h => ⟨h.1, fun past' b w' hPost => (ih b).1 (h.2 past' b w' hPost)⟩
    · exact fun h => ⟨h.1, fun past' b w' hPost => (ih b).2 (h.2 past' b w' hPost)⟩

/-- What leads to an assertion leads to every weaker one. -/
theorem wp_mono {p : Program σ α} {Q Q' : List (Event σ) → α → World σ → Prop}
    (hQ : ∀ past a w, Q past a w → Q' past a w) (h : p.wp s K Q past w) : p.wp s K Q' past w := by
  induction p generalizing past w with
  | done a => exact hQ _ _ _ h
  | step t next ih => exact ih _ h
  | call c next ih => exact ⟨h.1, fun past' b w' hPost => ih b (h.2 past' b w' hPost)⟩

/-- A single step of a program. -/
theorem wp_act {t : Step σ α} {f : α → Program σ β} {Q : List (Event σ) → β → World σ → Prop} :
    (act t >>= f).wp s K Q past w ↔
      (f (t.run s w).1).wp s K Q (past ++ [.made t w]) (t.run s w).2 :=
  Iff.rfl

theorem wp_look {j : ChannelId} {f : Channel → Program σ α}
    {Q : List (Event σ) → α → World σ → Prop} :
    (act (.look j) >>= f).wp s K Q past w ↔
      (f (w.channel j)).wp s K Q (past ++ [.made (.look j) w]) w :=
  Iff.rfl

theorem wp_copy {k : CopyId} {f : Copy → Program σ α} {Q : List (Event σ) → α → World σ → Prop} :
    (act (.copy k) >>= f).wp s K Q past w ↔
      (f (w.copy k)).wp s K Q (past ++ [.made (.copy k) w]) w :=
  Iff.rfl

end Program

namespace Setting

/-- Every call in some events is one that is allowed after what came before it. -/
def Allowed (Good : Call → List (Event σ) → World σ → Prop) (past events : List (Event σ)) :
    Prop :=
  ∀ before c v after, events = before ++ .called c v :: after → Good c (past ++ before) v

/-- What is promised about calls is kept, and the calls made meanwhile are all allowed. -/
structure Honours (s : Setting σ) (K : Contract σ)
    (Good : Call → List (Event σ) → World σ → Prop) : Prop where
  good : ∀ c past w, K.pre c past w → Good c past w
  kept : ∀ c past w, K.pre c past w →
    (s.body c).wp s.toSurroundings K (K.post c past w) (past ++ [.called c w]) w ∨
      (∀ inner w', s.Begins (s.body c) w inner w' →
        Allowed Good (past ++ [.called c w]) inner) ∧
      ∀ inner b w', s.Runs (s.body c) w inner b w' →
        K.post c past w (past ++ .called c w :: inner) b w'

variable {Good : Call → List (Event σ) → World σ → Prop} {past : List (Event σ)}

theorem allowed_nil : Allowed Good past [] := by
  intro before c v after hEq
  simp at hEq

/-- A step calls nobody. -/
theorem Allowed.made {events : List (Event σ)} {t : Step σ β} {w : World σ}
    (rest : Allowed Good (past ++ [.made t w]) events) :
    Allowed Good past (.made t w :: events) := by
  intro before c v after hEq
  cases before with
  | nil => cases hEq
  | cons e before =>
    obtain ⟨rfl, hTail⟩ := List.cons.inj hEq
    have hGood := rest before c v after hTail
    rwa [List.append_assoc] at hGood

theorem Allowed.called {events : List (Event σ)} {c : Call} {w : World σ} (hGood : Good c past w)
    (rest : Allowed Good (past ++ [.called c w]) events) :
    Allowed Good past (.called c w :: events) := by
  intro before c' v after hEq
  cases before with
  | nil =>
    obtain ⟨hHead, -⟩ := List.cons.inj hEq
    cases hHead
    rwa [List.append_nil]
  | cons e before =>
    obtain ⟨rfl, hTail⟩ := List.cons.inj hEq
    have hLater := rest before c' v after hTail
    rwa [List.append_assoc] at hLater

theorem Allowed.append {first second : List (Event σ)} (left : Allowed Good past first)
    (right : Allowed Good (past ++ first) second) : Allowed Good past (first ++ second) := by
  intro before c v after hEq
  rcases List.append_eq_append_iff.1 hEq with ⟨middle, hBefore, hSecond⟩ | ⟨middle, hFirst, hAfter⟩
  · rw [hBefore, ← List.append_assoc]
    exact right middle c v after hSecond
  · cases middle with
    | nil =>
      rw [List.append_nil] at hFirst
      rw [List.nil_append] at hAfter
      have hGood := right [] c v after hAfter.symm
      rwa [List.append_nil, hFirst] at hGood
    | cons e middle =>
      obtain ⟨rfl, -⟩ := List.cons.inj hAfter
      exact left before c v middle hFirst

variable {s : Setting σ} {K : Contract σ}

/-- A run of a program from where what it needs holds. -/
theorem Runs.of_wp (honours : s.Honours K Good) {p : Program σ α} {w w' : World σ}
    {events : List (Event σ)} {a : α} (run : s.Runs p w events a w')
    {Q : List (Event σ) → α → World σ → Prop} (h : p.wp s.toSurroundings K Q past w) :
    Q (past ++ events) a w' ∧ Allowed Good past events := by
  induction run generalizing past with
  | done a w => exact ⟨by rwa [List.append_nil], allowed_nil⟩
  | step rest ih =>
    obtain ⟨hEnd, hAllowed⟩ := ih h
    rw [List.append_assoc] at hEnd
    exact ⟨hEnd, hAllowed.made⟩
  | @call _ c next w w₁ w₂ inner outer b a body rest ihBody ihRest =>
    obtain ⟨hPre, hNext⟩ := h
    obtain ⟨hPost, hInner⟩ : K.post c past w (past ++ .called c w :: inner) b w₁ ∧
        Allowed Good (past ++ [.called c w]) inner := by
      rcases honours.kept c past w hPre with hBody | ⟨hBegins, hRuns⟩
      · obtain ⟨hPost, hInner⟩ := ihBody hBody
        rw [List.append_assoc] at hPost
        exact ⟨hPost, hInner⟩
      · exact ⟨hRuns inner b w₁ body, hBegins inner w₁ body.begins⟩
    obtain ⟨hEnd, hOuter⟩ := ihRest (hNext _ b w₁ hPost)
    refine ⟨?_, .called (honours.good c past w hPre) (hInner.append ?_)⟩
    · simpa using hEnd
    · simpa using hOuter

/-- The calls of a program that has run for some time, from where what it needs holds. -/
theorem Begins.of_wp (honours : s.Honours K Good) {p : Program σ α} {w w' : World σ}
    {events : List (Event σ)} (run : s.Begins p w events w')
    {Q : List (Event σ) → α → World σ → Prop} (h : p.wp s.toSurroundings K Q past w) :
    Allowed Good past events := by
  induction run generalizing past with
  | stop p w => exact allowed_nil
  | step rest ih => exact (ih h).made
  | @inside _ c next w w' inner body ih =>
    refine .called (honours.good c past w h.1) ?_
    rcases honours.kept c past w h.1 with hBody | ⟨hBegins, -⟩
    · exact ih hBody
    · exact hBegins inner w' body
  | @after _ c next w w₁ w₂ inner outer b body rest ih =>
    obtain ⟨hPre, hNext⟩ := h
    obtain ⟨hPost, hInner⟩ : K.post c past w (past ++ .called c w :: inner) b w₁ ∧
        Allowed Good (past ++ [.called c w]) inner := by
      rcases honours.kept c past w hPre with hBody | ⟨hBegins, hRuns⟩
      · obtain ⟨hPost, hInner⟩ := body.of_wp honours hBody
        rw [List.append_assoc] at hPost
        exact ⟨hPost, hInner⟩
      · exact ⟨hRuns inner b w₁ body, hBegins inner w₁ body.begins⟩
    refine .called (honours.good c past w hPre) (hInner.append ?_)
    simpa using ih (hNext _ b w₁ hPost)

/-- Calls that are made where their promise asks for it come to an end and keep it, if all goes as
it has to up to then. -/
def Answers (s : Setting σ) (K : Contract σ) (Favoured : List (Event σ) → World σ → Prop) : Prop :=
  ∀ c past w, K.pre c past w →
    (∀ inner v, s.Begins (s.body c) w inner v → Favoured (past ++ .called c w :: inner) v) →
    ∃ inner b w', s.Runs (s.body c) w inner b w' ∧
      K.post c past w (past ++ .called c w :: inner) b w'

/-- A program whose calls come to an end does so too, from where what it needs holds. -/
theorem Answers.runs_of_wp {Favoured : List (Event σ) → World σ → Prop}
    (answers : s.Answers K Favoured) {p : Program σ α} {w : World σ}
    {Q : List (Event σ) → α → World σ → Prop} (h : p.wp s.toSurroundings K Q past w)
    (favoured : ∀ events v, s.Begins p w events v → Favoured (past ++ events) v) :
    ∃ events a w', s.Runs p w events a w' ∧ Q (past ++ events) a w' := by
  induction p generalizing past w with
  | done a => exact ⟨[], a, w, .done a w, by rwa [List.append_nil]⟩
  | step t next ih =>
    obtain ⟨events, a, w', run, hQ⟩ := ih _ h fun events v begun => by
      rw [List.append_assoc]
      exact favoured _ v (.step begun)
    refine ⟨_, a, w', .step run, ?_⟩
    rwa [List.append_assoc] at hQ
  | call c next ih =>
    obtain ⟨hPre, hNext⟩ := h
    obtain ⟨inner, b, w₁, body, hPost⟩ :=
      answers c past w hPre fun inner v begun => favoured _ v (.inside begun)
    obtain ⟨outer, a, w', run, hQ⟩ := ih b (hNext _ b w₁ hPost) fun events v begun => by
      rw [List.append_assoc]
      exact favoured _ v (.after body begun)
    refine ⟨_, a, w', .call body run, ?_⟩
    rwa [List.append_assoc] at hQ

end Setting

end EventChannel
