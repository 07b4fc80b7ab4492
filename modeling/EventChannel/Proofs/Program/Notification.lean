import EventChannel.Proofs.Program.Whole
import EventChannel.Proofs.World.Deferred

/-! A driver may raise conditions of its channel while an operation calls it. They are put off until
the operation lets go of the channel. Then they are raised, all at once and before anything else
happens, and the handlers that they concern are called. But not every call to the driver is part of
such an operation: what a driver raises while output is written in the background stays put off. -/

namespace EventChannel

variable {σ α : Type}

/-- The handlers that are found are those of the channel as it is left behind. -/
theorem Step.targets_raise (s : Surroundings σ) (w : World σ) (id : ChannelId)
    (raised : Interest) :
    ((Step.raise id raised).run s w).1 =
      (((Step.raise id raised).run s w).2.channel id).targets raised := by
  by_cases hExists : id < w.channels.length
  · exact (raise_shows s w raised hExists).2
  · have hAbsent {w' : World σ} (hLength : w'.channels.length = w.channels.length) :
        w'.channel id = .absent := by
      rw [World.channel, List.getElem?_eq_none (hLength ▸ Nat.le_of_not_lt hExists)]
      rfl
    have hHeld : (w.held id).flushInBackground (s.driver id) raised = w.held id := by
      apply Held.flushInBackground_idle
      rw [World.held, hAbsent rfl, Channel.absent, Bool.and_false]
    have hAfter : ((Step.raise id raised).run s w).2.channel id = .absent := by
      apply hAbsent
      apply (congrArg List.length (World.channels_graspCopies _)).trans
      exact World.length_modifyChannel _
    rw [hAfter]
    show ((w.held id).flushInBackground (s.driver id) raised).channel.targets raised = _
    rw [hHeld, World.held, hAbsent rfl]

namespace Event

/-- The event is a step, not a call. -/
def isMade : Event σ → Bool
  | made _ _ => true
  | called _ _ => false

/-- The operation that an event holds a channel for. -/
def heldFor? : Event σ → Option (ChannelId × ChannelOp)
  | made (.hold j op) _ => some (j, op)
  | _ => none

theorem of_heldFor? {j : ChannelId} {op : ChannelOp} {e : Event σ}
    (hHeld : e.heldFor? = some (j, op)) : ∃ w, e = made (.hold j op) w := by
  cases e with
  | called c w => cases hHeld
  | made t w =>
    cases t with
    | hold j' op' =>
      cases hHeld
      exact ⟨w, rfl⟩
    | _ => cases hHeld

theorem hold_inj {j j' : ChannelId} {op op' : ChannelOp} {w w' : World σ}
    (hEq : made (.hold j op) w = made (.hold j' op') w') : j = j' ∧ op = op' ∧ w = w' := by
  have hOp : some (j, op) = some (j', op') := congrArg heldFor? hEq
  have hWorld : w = w' := congrArg before hEq
  simp only [Option.some.injEq, Prod.mk.injEq] at hOp
  exact ⟨hOp.1, hOp.2, hWorld⟩

end Event

namespace Setting

/-- Handlers are called one after the other, each with the conditions that it waits for. A copy is
let go of when it has gone on. -/
inductive Delivers (s : Setting σ) (id : ChannelId) :
    List (Interest × Callback) → World σ → List (Event σ) → World σ → Prop
  | nil (w : World σ) : Delivers s id [] w [] w
  | routine {ready : Interest} {r : RoutineId} {rest : List (Interest × Callback)}
      {w w₁ w' : World σ} {inner outer : List (Event σ)}
      (body : s.Runs (s.routine (.event r id ready)) w inner () w₁)
      (later : Delivers s id rest w₁ outer w') :
      Delivers s id ((ready, .routine r) :: rest) w
        (.called (.user (.event r id ready)) w :: (inner ++ outer)) w'
  | copy {ready : Interest} {k : CopyId} {rest : List (Interest × Callback)}
      {w w₁ w' : World σ} {inner outer : List (Event σ)}
      (body : s.Runs (Program.advance k) w inner () w₁)
      (later : Delivers s id rest (w₁.letGo (.copy k)) outer w') :
      Delivers s id ((ready, .copy k) :: rest) w
        (.called (.advance k) w :: (inner ++ .made (.letGo (.copy k)) w₁ :: outer)) w'

variable {s : Setting σ} {w w' : World σ} {id : ChannelId} {events : List (Event σ)}

theorem Runs.delivers {targets : List (Interest × Callback)} {u : Unit}
    (run : s.Runs (Program.deliver id targets) w events u w') :
    s.Delivers id targets w events w' := by
  induction targets generalizing w events with
  | nil =>
    cases run
    exact .nil _
  | cons target rest ih =>
    obtain ⟨ready, r | k⟩ := target
    · cases run with
      | call body run => exact .routine body (ih run)
    · cases run with
      | call body run =>
        cases run with
        | step run => exact .copy body (ih run)

/-- Events begin with the raising of conditions and go on with the calls of all handlers that wait
for some of them. -/
def Dispatches (s : Setting σ) (id : ChannelId) (raised : Interest) (events : List (Event σ)) :
    Prop :=
  ∃ v delivery v' later, events = .made (.raise id raised) v :: (delivery ++ later) ∧
    s.Delivers id ((((Step.raise id raised).run s.toSurroundings v).2.channel id).targets raised)
      ((Step.raise id raised).run s.toSurroundings v).2 delivery v'

theorem Dispatches.append {raised : Interest} {later : List (Event σ)}
    (dispatches : s.Dispatches id raised events) : s.Dispatches id raised (events ++ later) := by
  obtain ⟨v, delivery, v', rest, rfl, delivers⟩ := dispatches
  exact ⟨v, delivery, v', rest ++ later, by simp, delivers⟩

/-- When an operation lets go of the channel, what comes out is dispatched at once. -/
def Prompt (s : Setting σ) (id : ChannelId) (e : Event σ) (after : List (Event σ)) : Prop :=
  ∀ op v, e = .made (.hold id op) v → ((Step.hold id op).run s.toSurroundings v).1.2 ≠ .none →
    s.Dispatches id ((Step.hold id op).run s.toSurroundings v).1.2 after

/-- An event in which no operation ends owes nothing. -/
theorem prompt_of_none {e : Event σ} (hNone : e.heldFor? = none) : s.Prompt id e events := by
  rintro op v rfl
  cases hNone

/-- What follows an operation that has let go of a channel with some conditions. -/
theorem Runs.dispatches {j : ChannelId} {op : ChannelOp} {a : op.Answer}
    (run : s.Runs (Program.hold j op) w (.made (.hold j op) w :: events) a w')
    (hSome : ((Step.hold j op).run s.toSurroundings w).1.2 ≠ .none) :
    s.Dispatches j ((Step.hold j op).run s.toSurroundings w).1.2 events := by
  cases run with
  | step run =>
    dsimp only at run
    split at run
    · next hEmpty => exact absurd (eq_of_beq hEmpty) hSome
    · obtain ⟨first, second, u, w₁, rfl, notified, finished⟩ := run.of_bind
      cases notified with
      | @step _ _ _ _ v _ delivery _ delivered =>
        have delivers := delivered.delivers
        rw [Step.targets_raise] at delivers
        exact ⟨_, delivery, w₁, second, rfl, delivers⟩

/-- So it is while whole operations are carried out. -/
theorem Whole.prompt (whole : s.Whole w events w') : Followed (s.Prompt id) events := by
  have hLater (e : Event σ) (after later : List (Event σ)) (prompt : s.Prompt id e after) :
      s.Prompt id e (after ++ later) := fun op v hEq hSome => (prompt op v hEq hSome).append
  have hNext {e : Event σ} {events : List (Event σ)} (hNone : e.heldFor? = none)
      (rest : Followed (s.Prompt id) events) : Followed (s.Prompt id) (e :: events) :=
    .cons (prompt_of_none hNone) rest
  induction whole with
  | nil w => exact .nil
  | append left right ihLeft ihRight => exact ihLeft.append hLater ihRight
  | @alone _ t w lone =>
    refine hNext ?_ .nil
    cases t with
    | hold j op => cases lone
    | _ => rfl
  | called body whole ih => exact hNext rfl ih
  | raised delivers whole ih => exact hNext rfl ih
  | held run whole ih =>
    refine .cons ?_ ih
    intro op v hEq hSome
    obtain ⟨rfl, rfl, rfl⟩ := Event.hold_inj hEq
    exact run.dispatches hSome
  | unknown missing => exact hNext rfl .nil
  | withdrawn entry run whole ih =>
    exact hNext rfl (hNext rfl (hNext rfl (ih.append hLater (hNext rfl .nil))))

end Setting

/-- While a proper program runs, the conditions that are put off on a channel are those that its
driver has raised since an operation held it last. Each time that an operation lets go of the
channel with some conditions, those put off before and those raised meanwhile, they are raised at
once and the handlers that wait for some of them are called. -/
theorem raised_dispatched {s : Setting σ} {p : Program σ α} {w w' : World σ} {id : ChannelId}
    {events : List (Event σ)} {a : α} (proper : s.Proper) (hProper : p.Proper)
    (hExists : id < w.channels.length) (run : s.Runs p w events a w') :
    (w'.channel id).deferred = putOff s.toSurroundings id (w.channel id).deferred events ∧
      ∀ before op v after conditions, events = before ++ .made (.hold id op) v :: after →
        conditions = putOff s.toSurroundings id (w.channel id).deferred before ∪
          (Event.made (.hold id op) v).raised s.toSurroundings id →
        conditions ≠ .none → s.Dispatches id conditions after := by
  refine ⟨run.leads.deferred hExists, ?_⟩
  intro before op v after conditions hSplit hConditions hSome
  have prompt : Followed (s.Prompt id) events := (run.whole proper hProper).prompt
  have prior : s.Leads w before v := Surroundings.Leads.up_to (hSplit ▸ run.leads)
  have hReleased : ((Step.hold id op).run s.toSurroundings v).1.2 = conditions := by
    rw [Step.released_hold, prior.deferred hExists, hConditions]
    rfl
  rw [← hReleased]
  exact prompt before _ after hSplit op v rfl (hReleased ▸ hSome)

/-- A driver that takes no output at first. From then on it takes all and has input each time. -/
def echoingSetting : Setting Nat where
  driver _ call offers :=
    { answer := match call with
        | .output bytes =>
          if offers = 0 then .error .wouldBlock else .ok ⟨bytes.length, Nat.le_refl _⟩
        | call => call.unsupported
      env := match call with
        | .output _ => offers + 1
        | _ => offers
      raised := match call with
        | .output _ => if offers = 0 then .none else .reading
        | _ => .none }
  ready _ _ := .none
  users _ _ := false
  routine u := .done u.unit
  fire _ _ := .done ()

def echoingChannel : Channel := { name := "echo", type := "tcp", mode := .both }

theorem proper_echoingSetting : echoingSetting.Proper where
  routine _ := .done _
  fire _ _ := .done _

/-- Output is flushed while a handler waits for input. -/
def flushingProgram : Program Nat (Except Report Unit) := do
  let _ ← Program.createHandler 0 .reading (.routine 0)
  let _ ← Program.write 0 [1]
  Program.flush 0

theorem proper_flushingProgram : flushingProgram.Proper := by
  apply Program.proper_bind (Program.proper_hold 0 (.createHandler .reading (.routine 0)) nofun)
  intro _
  apply Program.proper_bind (Program.proper_write 0 [1])
  intro _
  exact Program.proper_flush 0

/-- What the driver raises when it takes the byte is dispatched after the flush. -/
theorem raised_dispatched_flush :
    ∃ before op v after a w', echoingSetting.Runs flushingProgram
        (World.openChannel echoingSetting.toSurroundings { env := 1 } echoingChannel).2
        (before ++ .made (.hold 0 op) v :: after) a w' ∧
      echoingSetting.Dispatches 0 .reading after ∧ (w'.channel 0).deferred = .none := by
  let opened := World.openChannel echoingSetting.toSurroundings { env := 1 } echoingChannel
  have hTrace : (echoingSetting.trace 2 flushingProgram opened.2).any (fun r =>
      decide (putOff echoingSetting.toSurroundings 0 (opened.2.channel 0).deferred r.1 = .none) &&
      match r.1.drop 3 with
      | [] => false
      | e :: _ => decide (e.heldFor? = some (0, .write [] true) ∧
          Interest.reading = putOff echoingSetting.toSurroundings 0
            (opened.2.channel 0).deferred (r.1.take 3) ∪
              e.raised echoingSetting.toSurroundings 0)) = true := by
    decide +kernel
  obtain ⟨events, a, w', run, hChecked⟩ := Setting.exists_runs hTrace
  obtain ⟨hEnd, hSince⟩ := Bool.and_eq_true_iff.1 hChecked
  cases hDrop : events.drop 3 with
  | nil =>
    rw [hDrop] at hSince
    cases hSince
  | cons e after =>
    rw [hDrop] at hSince
    obtain ⟨hHeld, hRaised⟩ := of_decide_eq_true hSince
    obtain ⟨v, rfl⟩ := Event.of_heldFor? hHeld
    have hSplit : events = events.take 3 ++ .made (.hold 0 (.write [] true)) v :: after := by
      rw [← hDrop, List.take_append_drop]
    obtain ⟨hDeferred, hDispatched⟩ := raised_dispatched proper_echoingSetting
      proper_flushingProgram (by decide : 0 < opened.2.channels.length) run
    refine ⟨events.take 3, .write [] true, v, after, a, w', hSplit ▸ run, ?_, ?_⟩
    · exact hDispatched _ _ v after .reading hSplit hRaised (by decide)
    · exact hDeferred.trans (of_decide_eq_true hEnd)

/-- Output that was left is written in the background while a handler waits for input. -/
def backgroundProgram : Program Nat Unit := do
  let _ ← Program.createHandler 0 .reading (.routine 0)
  let _ ← Program.setBlocking 0 false
  let _ ← Program.write 0 [1]
  let _ ← Program.flush 0
  Program.notify 0 .writing

/-- What the driver raises when it takes the byte stays put off, although nothing is under way any
more, and the handler that waits for it is not called. -/
theorem raised_stays_put_off :
    ∃ events a w', echoingSetting.Runs backgroundProgram
        (World.openChannel echoingSetting.toSurroundings { env := 0 } echoingChannel).2
        events a w' ∧
      (w'.channel 0).deferred = .reading ∧
      (w'.channel 0).targets .reading = [(.reading, .routine 0)] ∧
      ∀ c v, Event.called c v ∉ events := by
  let opened := World.openChannel echoingSetting.toSurroundings { env := 0 } echoingChannel
  have hTrace : (echoingSetting.trace 2 backgroundProgram opened.2).any (fun r =>
      decide ((r.2.2.channel 0).deferred = .reading ∧
        (r.2.2.channel 0).targets .reading = [(.reading, .routine 0)]) &&
      r.1.all (·.isMade)) = true := by
    decide +kernel
  obtain ⟨events, a, w', run, hChecked⟩ := Setting.exists_runs hTrace
  obtain ⟨hEnd, hMade⟩ := Bool.and_eq_true_iff.1 hChecked
  obtain ⟨hDeferred, hTargets⟩ := of_decide_eq_true hEnd
  refine ⟨events, a, w', run, hDeferred, hTargets, fun c v hMem => ?_⟩
  have hNot := List.all_eq_true.1 hMade _ hMem
  cases hNot

end EventChannel
