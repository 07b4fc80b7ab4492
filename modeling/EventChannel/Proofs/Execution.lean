import EventChannel.Program.Setting

/-! What happens while programs run, as one sequence: the steps in the order in which they are made,
and the calls. Callbacks run inside the programs that call them, so the sequence holds what they do
too. A fact about all sequences of steps is a fact about all programs with all callbacks. -/

namespace EventChannel

/-- The answer of a routine that has nothing to say. -/
def UserCall.unit : (u : UserCall) → u.Answer
  | .script .. => .ok ()
  | .event .. | .closing _ | .completed .. | .arrival .. | .ready .. => ()

variable {σ α β : Type}

/-- Something that happens: a step is made in a world, or a call is made. -/
inductive Event (σ : Type) : Type 1
  | made {α : Type} (t : Step σ α) (before : World σ)
  | called (c : Call) (before : World σ)

namespace Event

/-- The world in which it happens. -/
def before : Event σ → World σ
  | made _ w => w
  | called _ w => w

/-- The world that it leaves behind. A call alone changes nothing; what it leads to does. -/
def after (s : Surroundings σ) : Event σ → World σ
  | made t w => (t.run s w).2
  | called _ w => w

/-- The call that is made in it. -/
def call? : Event σ → Option Call
  | called c _ => some c
  | made _ _ => none

theorem of_call? {c : Call} {e : Event σ} (hCall : e.call? = some c) : ∃ w, e = called c w := by
  cases e with
  | called c' w =>
    cases hCall
    exact ⟨w, rfl⟩
  | made t w => cases hCall

end Event

/-- Events that follow one another, each in the world that the one before it has left behind. -/
inductive Surroundings.Leads (s : Surroundings σ) (start : World σ) :
    List (Event σ) → World σ → Prop
  | refl : Leads s start [] start
  | snoc {events : List (Event σ)} (e : Event σ) (prior : Leads s start events e.before) :
      Leads s start (events ++ [e]) (e.after s)

/-- Events that follow one another can be followed by more. -/
theorem Surroundings.Leads.trans {s : Surroundings σ} {start middle finish : World σ}
    {first second : List (Event σ)} (left : s.Leads start first middle)
    (right : s.Leads middle second finish) : s.Leads start (first ++ second) finish := by
  induction right with
  | refl => rwa [List.append_nil]
  | snoc e prior ih =>
    rw [← List.append_assoc]
    exact .snoc e ih

theorem Surroundings.Leads.cons {s : Surroundings σ} {finish : World σ} (e : Event σ)
    {events : List (Event σ)} (rest : s.Leads (e.after s) events finish) :
    s.Leads e.before (e :: events) finish :=
  (Surroundings.Leads.snoc e .refl).trans rest

/-- The events before one of them lead to where it happens. -/
theorem Surroundings.Leads.up_to {s : Surroundings σ} {start finish : World σ} {e : Event σ}
    {before after : List (Event σ)} (history : s.Leads start (before ++ e :: after) finish) :
    s.Leads start before e.before := by
  generalize hEvents : before ++ e :: after = events at history
  induction history generalizing after with
  | refl => simp at hEvents
  | snoc last prior ih =>
    rcases List.eq_nil_or_concat after with rfl | ⟨rest, e', rfl⟩
    · obtain ⟨rfl, hLast⟩ := List.append_inj' hEvents rfl
      obtain rfl : e = last := by simpa using hLast
      exact prior
    · rw [List.concat_eq_append, ← List.cons_append, ← List.append_assoc] at hEvents
      obtain ⟨hRest, -⟩ := List.append_inj' hEvents rfl
      exact ih hRest

/-- The events after one of them go on from the world that it has left behind. -/
theorem Surroundings.Leads.beyond {s : Surroundings σ} {start finish : World σ} {e : Event σ}
    {before after : List (Event σ)} (history : s.Leads start (before ++ e :: after) finish) :
    s.Leads (e.after s) after finish := by
  generalize hEvents : before ++ e :: after = events at history
  induction history generalizing after with
  | refl => simp at hEvents
  | snoc last prior ih =>
    rcases List.eq_nil_or_concat after with rfl | ⟨rest, e', rfl⟩
    · obtain ⟨rfl, hLast⟩ := List.append_inj' hEvents rfl
      obtain rfl : e = last := by simpa using hLast
      exact .refl
    · rw [List.concat_eq_append, ← List.cons_append, ← List.append_assoc] at hEvents
      obtain ⟨hRest, hLast⟩ := List.append_inj' hEvents rfl
      obtain rfl : e' = last := by simpa using hLast
      rw [List.concat_eq_append]
      exact .snoc e' (ih hRest)

/-- A fact that every event keeps, as long as another one holds to the end, is one of all worlds on
the way. The other one is traced back from the end; for that a third may be needed that nothing
takes away. -/
theorem Surroundings.Leads.along {s : Surroundings σ} {w w' : World σ} {events : List (Event σ)}
    (history : s.Leads w events w') (Always Kept Lasting : World σ → Prop)
    (hAlways : ∀ e : Event σ, Always e.before → Always (e.after s))
    (hLasting : ∀ e : Event σ, Always e.before → Lasting (e.after s) → Lasting e.before)
    (hKept : ∀ e : Event σ, Always e.before → Kept e.before → Lasting (e.after s) →
      Kept (e.after s))
    (hStart : Always w) (hBegin : Kept w) (hEnd : Lasting w') :
    Kept w' ∧ ∀ e ∈ events, Always e.before ∧ Kept e.before ∧ Lasting (e.after s) := by
  have hThere {w' : World σ} {events : List (Event σ)} (history : s.Leads w events w') :
      Always w' := by
    induction history with
    | refl => exact hStart
    | snoc e prior ih => exact hAlways e ih
  induction history with
  | refl => exact ⟨hBegin, fun e hMem => by cases hMem⟩
  | snoc e prior ih =>
    have hBefore := hThere prior
    obtain ⟨hKeptBefore, hEach⟩ := ih (hLasting e hBefore hEnd)
    refine ⟨hKept e hBefore hKeptBefore hEnd, fun e' hMem => ?_⟩
    rcases List.mem_append.1 hMem with hMem | hMem
    · exact hEach e' hMem
    · rw [List.mem_singleton.1 hMem]
      exact ⟨hBefore, hKeptBefore, hEnd⟩

/-- What enters a queue in each event leaves it in the same order, or is still there at the end. -/
theorem Surroundings.Leads.balance {s : Surroundings σ} {w w' : World σ}
    {events : List (Event σ)} {entering leaving : Event σ → List α}
    (history : s.Leads w events w') (queue : World σ → List α)
    (hEach : ∀ e ∈ events,
      queue e.before ++ entering e = leaving e ++ queue (e.after s)) :
    queue w ++ events.flatMap entering = events.flatMap leaving ++ queue w' := by
  induction history with
  | refl => simp
  | @snoc events e prior ih =>
    have hPrior := ih fun e' hMem => hEach e' (List.mem_append_left _ hMem)
    have hLast := hEach e (List.mem_append_right _ (List.mem_singleton_self e))
    calc queue w ++ (events ++ [e]).flatMap entering
        = (queue w ++ events.flatMap entering) ++ entering e := by simp
      _ = events.flatMap leaving ++ (queue e.before ++ entering e) := by
          rw [hPrior, List.append_assoc]
      _ = (events ++ [e]).flatMap leaving ++ queue (e.after s) := by
          rw [hLast]
          simp

namespace Program

/-- Runs a program and tells what happens on the way; `callee` does so for its calls. -/
def trace (s : Surroundings σ)
    (callee : (c : Call) → World σ → Option (List (Event σ) × c.Answer × World σ)) :
    Program σ α → World σ → Option (List (Event σ) × α × World σ)
  | .done a, w => some ([], a, w)
  | .step t next, w =>
    ((next (t.run s w).1).trace s callee (t.run s w).2).map fun (events, r) =>
      (.made t w :: events, r)
  | .call c next, w =>
    (callee c w).bind fun (inner, b, w₁) =>
      ((next b).trace s callee w₁).map fun (outer, r) => (.called c w :: (inner ++ outer), r)

/-- Telling what happens changes nothing about it. -/
theorem map_trace (s : Surroundings σ)
    (callee : (c : Call) → World σ → Option (List (Event σ) × c.Answer × World σ))
    (p : Program σ α) (w : World σ) :
    (p.trace s callee w).map (·.2) = p.run s (fun c w => (callee c w).map (·.2)) w := by
  induction p generalizing w with
  | done a => rfl
  | step t next ih =>
    rw [trace, Option.map_map]
    exact ih _ _
  | call c next ih =>
    rw [trace, run]
    cases callee c w with
    | none => rfl
    | some r =>
      simp only [Option.bind_some, Option.map_some, Option.map_map]
      exact ih _ _

/-- Delivers what comes out of a channel that is let go of. -/
def letOut (channel : ChannelId) (raised : Interest) : Program σ Unit :=
  if raised.isEmpty then .done () else notify channel raised

end Program

namespace Setting

/-- A program runs to its end, with all that its calls do. The events are those on the way. -/
inductive Runs (s : Setting σ) : {α : Type} → Program σ α → World σ → List (Event σ) → α →
    World σ → Prop
  | done {α : Type} (a : α) (w : World σ) : Runs s (.done a) w [] a w
  | step {α β : Type} {t : Step σ β} {next : β → Program σ α} {w w' : World σ}
      {events : List (Event σ)} {a : α}
      (rest : Runs s (next (t.run s.toSurroundings w).1) (t.run s.toSurroundings w).2 events a w') :
      Runs s (.step t next) w (.made t w :: events) a w'
  | call {α : Type} {c : Call} {next : c.Answer → Program σ α} {w w₁ w₂ : World σ}
      {inner outer : List (Event σ)} {b : c.Answer} {a : α}
      (body : Runs s (s.body c) w inner b w₁) (rest : Runs s (next b) w₁ outer a w₂) :
      Runs s (.call c next) w (.called c w :: (inner ++ outer)) a w₂

/-- A program has run for some time, and may be in the midst of calls. It need not ever end. -/
inductive Begins (s : Setting σ) : {α : Type} → Program σ α → World σ → List (Event σ) →
    World σ → Prop
  | stop {α : Type} (p : Program σ α) (w : World σ) : Begins s p w [] w
  | step {α β : Type} {t : Step σ β} {next : β → Program σ α} {w w' : World σ}
      {events : List (Event σ)}
      (rest : Begins s (next (t.run s.toSurroundings w).1) (t.run s.toSurroundings w).2 events w') :
      Begins s (.step t next) w (.made t w :: events) w'
  | inside {α : Type} {c : Call} {next : c.Answer → Program σ α} {w w' : World σ}
      {inner : List (Event σ)} (body : Begins s (s.body c) w inner w') :
      Begins s (.call c next) w (.called c w :: inner) w'
  | after {α : Type} {c : Call} {next : c.Answer → Program σ α} {w w₁ w₂ : World σ}
      {inner outer : List (Event σ)} {b : c.Answer}
      (body : Runs s (s.body c) w inner b w₁) (rest : Begins s (next b) w₁ outer w₂) :
      Begins s (.call c next) w (.called c w :: (inner ++ outer)) w₂

/-- A run to the end is one that has come so far. -/
theorem Runs.begins {s : Setting σ} {p : Program σ α} {w w' : World σ} {events : List (Event σ)}
    {a : α} (run : s.Runs p w events a w') : s.Begins p w events w' := by
  induction run with
  | done a w => exact .stop _ w
  | step rest ih => exact .step ih
  | call body rest _ ih => exact .after body ih

/-- There is one way to run a program to its end. -/
theorem Runs.unique {s : Setting σ} {p : Program σ α} {w w₁ w₂ : World σ}
    {first second : List (Event σ)} {a b : α} (run : s.Runs p w first a w₁)
    (other : s.Runs p w second b w₂) : first = second ∧ a = b ∧ w₁ = w₂ := by
  induction run generalizing second w₂ with
  | done a w =>
    cases other
    exact ⟨rfl, rfl, rfl⟩
  | step rest ih =>
    cases other with
    | step rest' =>
      obtain ⟨rfl, rfl, rfl⟩ := ih rest'
      exact ⟨rfl, rfl, rfl⟩
  | call body rest ihBody ihRest =>
    cases other with
    | call body' rest' =>
      obtain ⟨rfl, rfl, rfl⟩ := ihBody body'
      obtain ⟨rfl, rfl, rfl⟩ := ihRest rest'
      exact ⟨rfl, rfl, rfl⟩

/-- What happens in a run that need not have ended happens at the beginning of one that has. -/
theorem Begins.at_start {s : Setting σ} {p : Program σ α} {w w₁ w₂ : World σ}
    {first all : List (Event σ)} {a : α} (begun : s.Begins p w first w₁)
    (run : s.Runs p w all a w₂) : first <+: all := by
  induction begun generalizing all w₂ with
  | stop p w => exact List.nil_prefix
  | step rest ih =>
    cases run with
    | step rest' => exact (List.prefix_cons_inj _).2 (ih rest')
  | inside body ih =>
    cases run with
    | call body' rest' =>
      exact (List.prefix_cons_inj _).2 ((ih body').trans (List.prefix_append _ _))
  | after body rest ih =>
    cases run with
    | call body' rest' =>
      obtain ⟨rfl, rfl, rfl⟩ := body.unique body'
      exact (List.prefix_cons_inj _).2 ((List.prefix_append_right_inj _).2 (ih rest'))

/-- What has happened so far goes on to the next call or to the end. -/
theorem Begins.goes_on {s : Setting σ} {p : Program σ α} {w w' : World σ} {events : List (Event σ)}
    (run : s.Begins p w events w') :
    ∃ more, (∃ c v, s.Begins p w (events ++ more ++ [.called c v]) v) ∨
      ∃ a v, s.Runs p w (events ++ more) a v := by
  have hStop {α : Type} (p : Program σ α) (w : World σ) :
      ∃ more, (∃ c v, s.Begins p w (more ++ [.called c v]) v) ∨ ∃ a v, s.Runs p w more a v := by
    induction p generalizing w with
    | done a => exact ⟨[], .inr ⟨a, w, .done a w⟩⟩
    | step t next ih =>
      obtain ⟨more, ⟨c, v, run⟩ | ⟨a, v, run⟩⟩ := ih _ (t.run s.toSurroundings w).2
      · exact ⟨.made t w :: more, .inl ⟨c, v, .step run⟩⟩
      · exact ⟨.made t w :: more, .inr ⟨a, v, .step run⟩⟩
    | call c next ih => exact ⟨[], .inl ⟨c, w, .inside (.stop _ w)⟩⟩
  induction run with
  | stop p w => exact hStop p w
  | @step _ _ t next w w' events rest ih =>
    obtain ⟨more, ⟨c, v, run⟩ | ⟨a, v, run⟩⟩ := ih
    · exact ⟨more, .inl ⟨c, v, .step run⟩⟩
    · exact ⟨more, .inr ⟨a, v, .step run⟩⟩
  | @inside _ c next w w' inner body ih =>
    obtain ⟨more, ⟨c', v, run⟩ | ⟨b, v, run⟩⟩ := ih
    · exact ⟨more, .inl ⟨c', v, .inside run⟩⟩
    · obtain ⟨rest, ⟨c', u, later⟩ | ⟨a, u, later⟩⟩ := hStop (next b) v
      · refine ⟨more ++ rest, .inl ⟨c', u, ?_⟩⟩
        simpa using Begins.after run later
      · refine ⟨more ++ rest, .inr ⟨a, u, ?_⟩⟩
        simpa using Runs.call run later
  | @after _ c next w w₁ w₂ inner outer b body rest ih =>
    obtain ⟨more, ⟨c', v, run⟩ | ⟨a, v, run⟩⟩ := ih
    · refine ⟨more, .inl ⟨c', v, ?_⟩⟩
      simpa using Begins.after body run
    · refine ⟨more, .inr ⟨a, v, ?_⟩⟩
      simpa using Runs.call body run

/-- After some events the program makes a step itself, and not in one of its calls. -/
inductive Does (s : Setting σ) : {α : Type} → Program σ α → World σ → List (Event σ) → Event σ →
    Prop
  | here {α β : Type} {t : Step σ β} {next : β → Program σ α} {w : World σ} :
      Does s (.step t next) w [] (.made t w)
  | step {α β : Type} {t : Step σ β} {next : β → Program σ α} {w : World σ}
      {events : List (Event σ)} {e : Event σ}
      (rest : Does s (next (t.run s.toSurroundings w).1) (t.run s.toSurroundings w).2 events e) :
      Does s (.step t next) w (.made t w :: events) e
  | call {α : Type} {c : Call} {next : c.Answer → Program σ α} {w w₁ : World σ}
      {inner outer : List (Event σ)} {b : c.Answer} {e : Event σ}
      (body : Runs s (s.body c) w inner b w₁) (rest : Does s (next b) w₁ outer e) :
      Does s (.call c next) w (.called c w :: (inner ++ outer)) e

/-- What a program does itself, it does on its way. -/
theorem Does.begins {s : Setting σ} {p : Program σ α} {w : World σ} {events : List (Event σ)}
    {e : Event σ} (does : s.Does p w events e) :
    s.Begins p w (events ++ [e]) (e.after s.toSurroundings) := by
  induction does with
  | here => exact .step (.stop _ _)
  | step rest ih => exact .step ih
  | call body rest ih => simpa using Begins.after body ih

/-- What two programs do one after the other, the first of them does, or the second when the first
has ended. -/
theorem Does.of_bind {s : Setting σ} {p : Program σ α} {f : α → Program σ β} {w : World σ}
    {events : List (Event σ)} {e : Event σ} (does : s.Does (p.bind f) w events e) :
    s.Does p w events e ∨ ∃ first second a w₁, events = first ++ second ∧ s.Runs p w first a w₁ ∧
      s.Does (f a) w₁ second e := by
  induction p generalizing w events with
  | done a => exact .inr ⟨[], events, a, w, rfl, .done a w, does⟩
  | step t next ih =>
    cases does with
    | here => exact .inl .here
    | step rest =>
      rcases ih _ rest with does | ⟨first, second, a, w₁, rfl, left, right⟩
      · exact .inl (.step does)
      · exact .inr ⟨_, second, a, w₁, rfl, .step left, right⟩
  | call c next ih =>
    cases does with
    | call body rest =>
      rcases ih _ rest with does | ⟨first, second, a, w₁, rfl, left, right⟩
      · exact .inl (.call body does)
      · exact .inr ⟨_, second, a, w₁, by simp, .call body left, right⟩

/-- What has happened so far is a sequence of events that follow one another. -/
theorem Begins.leads {s : Setting σ} {p : Program σ α} {w w' : World σ}
    {events : List (Event σ)} (run : s.Begins p w events w') : s.Leads w events w' := by
  have hRuns {α : Type} {p : Program σ α} {w w' : World σ} {events : List (Event σ)} {a : α}
      (run : s.Runs p w events a w') : s.Leads w events w' := by
    induction run with
    | done a w => exact .refl
    | step rest ih => exact .cons (.made _ _) ih
    | call body rest ihBody ihRest => exact .cons (.called _ _) (ihBody.trans ihRest)
  induction run with
  | stop p w => exact .refl
  | step rest ih => exact .cons (.made _ _) ih
  | inside body ih => exact .cons (.called _ _) ih
  | after body rest ih => exact .cons (.called _ _) ((hRuns body).trans ih)

theorem Runs.leads {s : Setting σ} {p : Program σ α} {w w' : World σ} {events : List (Event σ)}
    {a : α} (run : s.Runs p w events a w') : s.Leads w events w' :=
  run.begins.leads

/-- A program that is run after another takes up where that has ended. -/
theorem Runs.bind {s : Setting σ} {p : Program σ α} {f : α → Program σ β} {w w₁ w₂ : World σ}
    {first second : List (Event σ)} {a : α} {b : β} (left : s.Runs p w first a w₁)
    (right : s.Runs (f a) w₁ second b w₂) : s.Runs (p.bind f) w (first ++ second) b w₂ := by
  induction left with
  | done a w => exact right
  | step rest ih => exact .step (ih right)
  | call body rest _ ih =>
    rw [List.cons_append, List.append_assoc]
    exact .call body (ih right)

/-- A program that has begun has begun what is made of it and of one after it. -/
theorem Begins.bind {s : Setting σ} {p : Program σ α} {f : α → Program σ β} {w w₁ : World σ}
    {events : List (Event σ)} (begun : s.Begins p w events w₁) :
    s.Begins (p.bind f) w events w₁ := by
  induction begun with
  | stop p w => exact .stop _ w
  | step rest ih => exact .step ih
  | inside body => exact .inside body
  | after body rest ih => exact .after body ih

theorem Runs.bind_begins {s : Setting σ} {p : Program σ α} {f : α → Program σ β}
    {w w₁ w₂ : World σ} {first second : List (Event σ)} {a : α} (left : s.Runs p w first a w₁)
    (right : s.Begins (f a) w₁ second w₂) : s.Begins (p.bind f) w (first ++ second) w₂ := by
  induction left with
  | done a w => exact right
  | step rest ih => exact .step (ih right)
  | call body rest _ ih =>
    rw [List.cons_append, List.append_assoc]
    exact .after body (ih right)

/-- A run of two programs one after the other falls into a run of each. -/
theorem Runs.of_bind {s : Setting σ} {p : Program σ α} {f : α → Program σ β} {w w₂ : World σ}
    {events : List (Event σ)} {b : β} (run : s.Runs (p.bind f) w events b w₂) :
    ∃ first second a w₁, events = first ++ second ∧ s.Runs p w first a w₁ ∧
      s.Runs (f a) w₁ second b w₂ := by
  induction p generalizing w events with
  | done a => exact ⟨[], events, a, w, rfl, .done a w, run⟩
  | step t next ih =>
    cases run with
    | step rest =>
      obtain ⟨first, second, a, w₁, rfl, left, right⟩ := ih _ rest
      exact ⟨_, second, a, w₁, rfl, .step left, right⟩
  | call c next ih =>
    cases run with
    | call body rest =>
      obtain ⟨first, second, a, w₁, rfl, left, right⟩ := ih _ rest
      exact ⟨_, second, a, w₁, by simp, .call body left, right⟩

/-- A program that is run after another is begun when that has ended. -/
theorem Begins.of_bind {s : Setting σ} {p : Program σ α} {f : α → Program σ β} {w w₂ : World σ}
    {events : List (Event σ)} (run : s.Begins (p.bind f) w events w₂) :
    s.Begins p w events w₂ ∨ ∃ first second a w₁, events = first ++ second ∧
      s.Runs p w first a w₁ ∧ s.Begins (f a) w₁ second w₂ := by
  induction p generalizing w events with
  | done a => exact .inr ⟨[], events, a, w, rfl, .done a w, run⟩
  | step t next ih =>
    cases run with
    | stop => exact .inl (.stop _ _)
    | step rest =>
      rcases ih _ rest with begun | ⟨first, second, a, w₁, rfl, left, right⟩
      · exact .inl (.step begun)
      · exact .inr ⟨_, second, a, w₁, rfl, .step left, right⟩
  | call c next ih =>
    cases run with
    | stop => exact .inl (.stop _ _)
    | inside body => exact .inl (.inside body)
    | after body rest =>
      rcases ih _ rest with begun | ⟨first, second, a, w₁, rfl, left, right⟩
      · exact .inl (.after body begun)
      · exact .inr ⟨_, second, a, w₁, by simp, .call body left, right⟩

/-- What is only done to the answer is no part of a run. -/
theorem runs_bind_done {s : Setting σ} {p : Program σ α} {f : α → β} {w w' : World σ}
    {events : List (Event σ)} {b : β} :
    s.Runs (p.bind fun a => .done (f a)) w events b w' ↔
      ∃ a, s.Runs p w events a w' ∧ b = f a := by
  constructor
  · intro run
    obtain ⟨first, last, a, w₁, rfl, ran, ended⟩ := run.of_bind
    cases ended
    rw [List.append_nil]
    exact ⟨a, ran, rfl⟩
  · rintro ⟨a, run, rfl⟩
    rw [← List.append_nil events]
    exact run.bind (.done _ w')

theorem Begins.of_bind_done {s : Setting σ} {p : Program σ α} {f : α → β} {w w' : World σ}
    {events : List (Event σ)} (run : s.Begins (p.bind fun a => .done (f a)) w events w') :
    s.Begins p w events w' := by
  rcases run.of_bind with begun | ⟨first, second, a, w₁, rfl, ran, ended⟩
  · exact begun
  · cases ended
    rw [List.append_nil]
    exact ran.begins

/-- What is referred to while a program runs is let go of when that has ended. -/
theorem Runs.of_referring {s : Setting σ} {e : Entity} {p : Program σ α} {w w' : World σ}
    {events : List (Event σ)} {a : α} (run : s.Runs (Program.referring e p) w events a w') :
    ∃ inner u, events = .made (.grasp e) w :: (inner ++ [.made (.letGo e) u]) ∧
      s.Runs p (w.grasp e) inner a u ∧ w' = u.letGo e := by
  cases run with
  | step run =>
    have run : s.Runs (p.bind fun a => .step (.letGo e) fun _ => .done a) (w.grasp e) _ a w' := run
    obtain ⟨inner, last, a', u, rfl, body, left⟩ := run.of_bind
    cases left with
    | step left =>
      cases left
      exact ⟨inner, u, rfl, body, rfl⟩

/-- Nothing is delivered where nothing comes out. -/
theorem runs_letOut_none {s : Setting σ} {id : ChannelId} {w w' : World σ}
    {events : List (Event σ)} {a : Unit} :
    s.Runs (Program.letOut id .none) w events a w' ↔ events = [] ∧ w' = w := by
  constructor
  · intro run
    cases run
    exact ⟨rfl, rfl⟩
  · rintro ⟨rfl, rfl⟩
    exact .done () _

/-- An operation that holds a channel is one step, and then what comes out is delivered. -/
theorem runs_hold {s : Setting σ} {id : ChannelId} {op : ChannelOp} {w w' : World σ}
    {events : List (Event σ)} {answer : op.Answer} :
    s.Runs (Program.hold id op) w events answer w' ↔
      answer = ((Step.hold id op).run s.toSurroundings w).1.1 ∧
        ∃ rest, events = .made (.hold id op) w :: rest ∧
          s.Runs (Program.letOut id ((Step.hold id op).run s.toSurroundings w).1.2)
            ((Step.hold id op).run s.toSurroundings w).2 rest () w' := by
  constructor
  · intro run
    cases run with
    | step run =>
      dsimp only at run
      unfold Program.letOut
      split at run
      · next hNone =>
        cases run
        exact ⟨rfl, [], rfl, by rw [if_pos hNone]; exact .done () _⟩
      · next hSome =>
        obtain ⟨_, delivered, rfl⟩ := runs_bind_done.1 run
        exact ⟨rfl, _, rfl, by rwa [if_neg hSome]⟩
  · rintro ⟨rfl, rest, rfl, run⟩
    refine .step ?_
    unfold Program.letOut at run
    dsimp only
    split at run
    · next hNone =>
      cases run
      rw [if_pos hNone]
      exact .done _ _
    · next hSome =>
      rw [if_neg hSome]
      exact runs_bind_done.2 ⟨_, run, rfl⟩

/-- Tells what happens in a call whose own calls nest at most `depth` deep. -/
def traceCall (s : Setting σ) :
    Nat → (c : Call) → World σ → Option (List (Event σ) × c.Answer × World σ)
  | 0, _, _ => none
  | depth + 1, c, w => (s.body c).trace s.toSurroundings (s.traceCall depth) w

/-- Tells what happens while a program runs whose calls nest at most `depth` deep. -/
def trace (s : Setting σ) (depth : Nat) (p : Program σ α) (w : World σ) :
    Option (List (Event σ) × α × World σ) :=
  p.trace s.toSurroundings (s.traceCall depth) w

/-- A program runs to its end if its calls do, whoever tells what happens in them. -/
theorem runs_of_callee {s : Setting σ}
    {callee : (c : Call) → World σ → Option (List (Event σ) × c.Answer × World σ)}
    (hCallee : ∀ c w inner b w', callee c w = some (inner, b, w') → s.Runs (s.body c) w inner b w')
    {p : Program σ α} {w w' : World σ} {events : List (Event σ)} {a : α}
    (traced : p.trace s.toSurroundings callee w = some (events, a, w')) :
    s.Runs p w events a w' := by
  induction p generalizing w events with
  | done b =>
    cases traced
    exact .done _ _
  | step t next ih =>
    obtain ⟨⟨rest, b, w₁⟩, hRest, hEq⟩ := Option.map_eq_some_iff.1 traced
    cases hEq
    exact .step (ih _ hRest)
  | call c next ih =>
    obtain ⟨⟨inner, b, w₁⟩, hInner, hNext⟩ := Option.bind_eq_some_iff.1 traced
    obtain ⟨⟨outer, a', w₂⟩, hOuter, hEq⟩ := Option.map_eq_some_iff.1 hNext
    cases hEq
    exact .call (hCallee c w inner b w₁ hInner) (ih _ hOuter)

/-- What is told is what happens. -/
theorem runs_of_trace {s : Setting σ} {depth : Nat} {p : Program σ α} {w w' : World σ}
    {events : List (Event σ)} {a : α} (traced : s.trace depth p w = some (events, a, w')) :
    s.Runs p w events a w' := by
  induction depth generalizing α p w w' events a with
  | zero => exact runs_of_callee (fun _ _ _ _ _ h => by cases h) traced
  | succ depth ih => exact runs_of_callee (fun _ _ _ _ _ h => ih h) traced

/-- What is told and passes a check is a run that passes it. -/
theorem exists_runs {s : Setting σ} {depth : Nat} {p : Program σ α} {w : World σ}
    {check : List (Event σ) × α × World σ → Bool}
    (told : (s.trace depth p w).any check = true) :
    ∃ events a w', s.Runs p w events a w' ∧ check (events, a, w') = true := by
  obtain ⟨⟨events, a, w'⟩, traced, hChecked⟩ := (Option.any_eq_true _ _).1 told
  exact ⟨events, a, w', runs_of_trace traced, hChecked⟩

/-- What a bounded run comes to does not depend on whether it is told what happens. -/
theorem exec_eq_trace (s : Setting σ) (depth : Nat) (p : Program σ α) (w : World σ) :
    s.exec depth p w = (s.trace depth p w).map (·.2) := by
  have hCalls (depth : Nat) (c : Call) (w : World σ) :
      s.answer depth c w = (s.traceCall depth c w).map (·.2) := by
    induction depth generalizing c w with
    | zero => rfl
    | succ depth ih =>
      rw [traceCall, Program.map_trace, answer]
      exact congrArg (fun callee => (s.body c).run s.toSurroundings callee w)
        (funext fun c => funext fun w => ih c w)
  rw [trace, Program.map_trace, exec]
  exact congrArg (fun callee => p.run s.toSurroundings callee w)
    (funext fun c => funext fun w => hCalls depth c w)

/-- Whatever a bounded run comes to, a run to the end comes to. -/
theorem runs_of_exec {s : Setting σ} {depth : Nat} {p : Program σ α} {w w' : World σ} {a : α}
    (run : s.exec depth p w = some (a, w')) : ∃ events, s.Runs p w events a w' := by
  rw [exec_eq_trace] at run
  obtain ⟨⟨events, r⟩, traced, rfl⟩ := Option.map_eq_some_iff.1 run
  exact ⟨events, runs_of_trace traced⟩

/-- A run to the end stays within some bound. -/
theorem Runs.exec {s : Setting σ} {p : Program σ α} {w w' : World σ} {events : List (Event σ)}
    {a : α} (run : s.Runs p w events a w') : ∃ depth, s.exec depth p w = some (a, w') := by
  induction run with
  | done a w => exact ⟨0, rfl⟩
  | step rest ih =>
    obtain ⟨depth, h⟩ := ih
    exact ⟨depth, h⟩
  | @call _ c next w w₁ w₂ inner outer b a body rest ihBody ihRest =>
    obtain ⟨first, hBody⟩ := ihBody
    obtain ⟨second, hRest⟩ := ihRest
    refine ⟨max (first + 1) second, ?_⟩
    have answered : s.answer (max (first + 1) second) c w = some (b, w₁) :=
      s.answer_mono (Nat.le_max_left (first + 1) second) hBody
    have rested := s.exec_mono (Nat.le_max_right (first + 1) second) hRest
    simp only [Setting.exec, Program.run, answered]
    exact rested

end Setting

end EventChannel
