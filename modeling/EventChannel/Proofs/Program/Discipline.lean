import EventChannel.Proofs.Contract
import EventChannel.Proofs.Program.Parts

/-! What programs keep to in whatever they do: which worlds they may call others in, which events
there may be, and how the world after some events is related to the one before. What is shown of the
parts of a program holds of the whole, and of all that it calls. -/

namespace EventChannel

variable {σ α β : Type}

/-- What programs keep to. Something may be due when a call is made, given what has happened. -/
structure Discipline (σ : Type) where
  world : World σ → Prop
  event : Event σ → Prop
  due : Call → List (Event σ) → World σ → Prop
  course : World σ → List (Event σ) → World σ → Prop
  refl : ∀ {w}, world w → course w [] w
  trans : ∀ {w w₁ w₂ first second}, course w first w₁ → course w₁ second w₂ →
    course w (first ++ second) w₂
  called : ∀ {c w}, world w → course w [.called c w] w
  ends : ∀ {w events w'}, course w events w' → world w'
  each : ∀ {w events w'}, course w events w' → ∀ e ∈ events, event e

namespace Discipline

variable (d : Discipline σ) (s : Setting σ)

/-- The call keeps to the discipline. -/
def Permits (c : Call) (past : List (Event σ)) (w : World σ) : Prop :=
  d.world w ∧ (∀ e ∈ past, d.event e) ∧ d.due c past w

/-- The events since some moment have taken the course of the discipline. -/
def Since (past : List (Event σ)) (w : World σ) (past' : List (Event σ)) (w' : World σ) : Prop :=
  ∃ events, past' = past ++ events ∧ d.course w events w'

/-- What is promised about calls. -/
def contract : Contract σ where
  pre := d.Permits
  post c past w past' _ w' :=
    ∃ inner, past' = past ++ .called c w :: inner ∧ d.course w (.called c w :: inner) w'

/-- From each world of a kind, the program takes the course of the discipline. -/
def Keeps (P : World σ → Prop) (p : Program σ α) : Prop :=
  ∀ past w, d.world w → P w → (∀ e ∈ past, d.event e) →
    p.wp s.toSurroundings d.contract (fun past' _ w' => d.Since past w past' w') past w

/-- What holds of a world goes on to hold on the course of the discipline. -/
def Stable (P : World σ → Prop) : Prop :=
  ∀ {w events w'}, P w → d.course w events w' → P w'

/-- The parts of a program keep to the discipline. -/
structure Governs (P : World σ → Prop) (parts : Parts σ) : Prop where
  stable : d.Stable P
  step : ∀ {α : Type} (t : Step σ α) w, parts.step t → d.world w → P w →
    d.course w [.made t w] (t.run s.toSurroundings w).2
  call : ∀ c past w, parts.call c → d.world w → P w → d.due c past w
  whole : ∀ {α : Type} (p : Program σ α), parts.whole p → d.Keeps s P p

variable {d s} {P : World σ → Prop} {past past₁ past₂ : List (Event σ)} {w w₁ w₂ : World σ}

theorem Since.refl (world : d.world w) : d.Since past w past w :=
  ⟨[], by rw [List.append_nil], d.refl world⟩

theorem Since.trans (left : d.Since past w past₁ w₁) (right : d.Since past₁ w₁ past₂ w₂) :
    d.Since past w past₂ w₂ := by
  obtain ⟨first, rfl, course₁⟩ := left
  obtain ⟨second, rfl, course₂⟩ := right
  exact ⟨first ++ second, List.append_assoc .., d.trans course₁ course₂⟩

theorem Since.world (since : d.Since past w past₁ w₁) : d.world w₁ := by
  obtain ⟨events, -, course⟩ := since
  exact d.ends course

theorem Since.stable (since : d.Since past w past₁ w₁) (stable : d.Stable P) (hP : P w) : P w₁ := by
  obtain ⟨events, -, course⟩ := since
  exact stable hP course

theorem Since.each (since : d.Since past w past₁ w₁) (hPast : ∀ e ∈ past, d.event e) :
    ∀ e ∈ past₁, d.event e := by
  obtain ⟨events, rfl, course⟩ := since
  exact List.forall_mem_append.2 ⟨hPast, d.each course⟩

/-- After one program comes another that keeps to the discipline from where the first has ended. -/
theorem wp_bind_of {p : Program σ α} {f : α → Program σ β}
    {Q : List (Event σ) → β → World σ → Prop} (keeps : d.Keeps s P p) (world : d.world w)
    (hP : P w) (hPast : ∀ e ∈ past, d.event e)
    (next : ∀ past' a w', d.Since past w past' w' →
      (f a).wp s.toSurroundings d.contract Q past' w') :
    (p.bind f).wp s.toSurroundings d.contract Q past w :=
  Program.wp_bind.2 (Program.wp_mono next (keeps past w world hP hPast))

/-- After an operation on a channel comes what it lets out, and then the rest. -/
theorem wp_hold_bind {j : ChannelId} {op : ChannelOp} {f : op.Answer → Program σ β}
    {Q : List (Event σ) → β → World σ → Prop}
    (notifies : ∀ raised, d.Keeps s P (Program.notify j raised))
    (world : d.world ((Step.hold j op).run s.toSurroundings w).2)
    (hP : P ((Step.hold j op).run s.toSurroundings w).2)
    (hPast : ∀ e ∈ past ++ [.made (.hold j op) w], d.event e)
    (next : ∀ past' w', d.Since (past ++ [.made (.hold j op) w])
        ((Step.hold j op).run s.toSurroundings w).2 past' w' →
      (f ((Step.hold j op).run s.toSurroundings w).1.1).wp s.toSurroundings d.contract Q past' w') :
    (Program.hold j op >>= f).wp s.toSurroundings d.contract Q past w := by
  apply Program.wp_bind.2
  rw [Program.hold, Program.wp]
  generalize (Step.hold j op).run s.toSurroundings w = r at world hP next ⊢
  obtain ⟨⟨answer, raised⟩, w₁⟩ := r
  dsimp only
  split
  · exact next _ _ (.refl world)
  · refine wp_bind_of (notifies raised) world hP hPast fun past' _ w' since => ?_
    exact next past' w' since

theorem Keeps.bind {p : Program σ α} {f : α → Program σ β} (keeps : d.Keeps s P p)
    (stable : d.Stable P) (second : ∀ a, d.Keeps s P (f a)) : d.Keeps s P (p.bind f) := by
  intro past w world hP hPast
  refine wp_bind_of keeps world hP hPast fun past' a w' since => ?_
  refine Program.wp_mono (fun _ _ _ => since.trans) ?_
  exact second a past' w' since.world (since.stable stable hP) (since.each hPast)

/-- Whatever is made of parts that keep to the discipline keeps to it. -/
theorem Governs.keeps {parts : Parts σ} (governs : d.Governs s P parts) {p : Program σ α}
    (made : p.MadeOf parts) : d.Keeps s P p := by
  induction made with
  | done a => exact fun past w world _ _ => .refl world
  | @step _ t next allowed rest ih =>
    intro past w world hP hPast
    have since : d.Since past w (past ++ [.made t w]) (t.run s.toSurroundings w).2 :=
      ⟨_, rfl, governs.step t w allowed world hP⟩
    refine Program.wp_mono (fun _ _ _ => since.trans) ?_
    exact ih _ _ _ since.world (since.stable governs.stable hP) (since.each hPast)
  | @call c next allowed rest ih =>
    intro past w world hP hPast
    refine ⟨⟨world, hPast, governs.call c past w allowed world hP⟩, ?_⟩
    rintro past' b w' ⟨inner, hEvents, course⟩
    have since : d.Since past w past' w' := ⟨_, hEvents, course⟩
    refine Program.wp_mono (fun _ _ _ => since.trans) ?_
    exact ih b _ _ since.world (since.stable governs.stable hP) (since.each hPast)
  | whole allowed rest ih => exact (governs.whole _ allowed).bind governs.stable ih

/-- A call keeps to the discipline if its program does. -/
theorem Keeps.called {c : Call} (keeps : d.Keeps s P (s.body c)) (hP : P w)
    (permits : d.Permits c past w) :
    (s.body c).wp s.toSurroundings d.contract (d.contract.post c past w)
      (past ++ [.called c w]) w := by
  obtain ⟨world, hPast, -⟩ := permits
  have since : d.Since past w (past ++ [.called c w]) w := ⟨_, rfl, d.called world⟩
  refine Program.wp_mono ?_ (keeps _ _ world hP (since.each hPast))
  rintro past' b w' ⟨inner, rfl, course⟩
  exact ⟨inner, by simp, d.trans (d.called world) course⟩

/-- All calls keep to the discipline. -/
def Honoured (d : Discipline σ) (s : Setting σ) : Prop := s.Honours d.contract d.Permits

/-- What is called takes the course of the discipline. -/
theorem Honoured.course (honoured : d.Honoured s) {c : Call} (permits : d.Permits c past w)
    {inner : List (Event σ)} {b : c.Answer} (run : s.Runs (s.body c) w inner b w₁) :
    d.course w (.called c w :: inner) w₁ := by
  have hPost : d.contract.post c past w (past ++ .called c w :: inner) b w₁ := by
    rcases honoured.kept c past w permits with walked | ⟨-, promised⟩
    · have hEnd := (run.of_wp honoured walked).1
      rwa [List.append_assoc] at hEnd
    · exact promised inner b w₁ run
  obtain ⟨inner', hEvents, course⟩ := hPost
  rw [List.append_cancel_left hEvents]
  exact course

theorem honoured_of
    (bodies : ∀ c past w, d.Permits c past w →
      (s.body c).wp s.toSurroundings d.contract (d.contract.post c past w)
        (past ++ [.called c w]) w) : d.Honoured s where
  good _ _ _ permits := permits
  kept c past w permits := .inl (bodies c past w permits)

/-- A run of a program takes the course of the discipline, and each call is one that keeps to it. -/
theorem Keeps.of_run {p : Program σ α} (keeps : d.Keeps s P p) (honoured : d.Honoured s)
    {events : List (Event σ)} {a : α} (run : s.Runs p w events a w₁) (world : d.world w)
    (hP : P w) : d.course w events w₁ ∧ Setting.Allowed d.Permits [] events := by
  obtain ⟨⟨events', hEvents, course⟩, allowed⟩ :=
    run.of_wp honoured (keeps [] w world hP (by simp))
  rw [List.nil_append, List.nil_append] at hEvents
  exact ⟨hEvents ▸ course, allowed⟩

/-- So it is while the program is still running. -/
theorem Keeps.of_begins {p : Program σ α} (keeps : d.Keeps s P p) (honoured : d.Honoured s)
    {events : List (Event σ)} (run : s.Begins p w events w₁) (world : d.world w) (hP : P w) :
    (∀ e ∈ events, d.event e) ∧ Setting.Allowed d.Permits [] events := by
  refine ⟨fun e hMem => ?_, run.of_wp honoured (keeps [] w world hP (by simp))⟩
  obtain ⟨more, ⟨c, v, later⟩ | ⟨a, v, later⟩⟩ := run.goes_on
  · have allowed := later.of_wp honoured (keeps [] w world hP (by simp))
    obtain ⟨-, hEach, -⟩ := allowed _ c v [] rfl
    exact hEach e (by simp [hMem])
  · exact d.each (keeps.of_run honoured later world hP).1 e (List.mem_append_left _ hMem)

end Discipline

end EventChannel
