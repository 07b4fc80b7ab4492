import EventChannel.Proofs.Program.Closure
import EventChannel.Proofs.Stream.HalfClose

/-! Who closes one direction of a channel closes the whole channel with the last one, and is refused
where the direction is not open. Conditions that were put off earlier come out first. So the last
direction is closed exactly as the channel would be, unless there are such conditions: these are
delivered before the channel is closed. -/

namespace EventChannel

variable {σ α : Type}

namespace Program

/-- What is to be done when one direction has been dealt with. -/
def afterHalf (channel : ChannelId) : Except Report HalfClosed → Program σ (Except Report Unit)
  | .error r => .done (.error r)
  | .ok .done => .done (.ok ())
  | .ok .last => close channel

end Program

/-- A channel of the world is let go of. -/
def World.released (w : World σ) (id : ChannelId) : World σ :=
  w.modifyChannel id ({ · with deferred := .none })

theorem World.released_same {w : World σ} {id : ChannelId}
    (hNone : (w.channel id).deferred = .none) : w.released id = w :=
  modifyChannel_same (by rw [← hNone])

namespace Setting

variable {s : Setting σ} {id : ChannelId} {d : Direction} {v w w' : World σ}
  {events : List (Event σ)}

/-- Closing one direction is one step, a delivery, and what is left to be done. -/
theorem runs_closeHalf {answer : Except Report Unit} :
    s.Runs (Program.closeHalf id d) w events answer w' ↔
      ∃ first second u, events = .made (.hold id (.closeHalf d)) w :: (first ++ second) ∧
        s.Runs (Program.letOut id ((Step.hold id (.closeHalf d)).run s.toSurroundings w).1.2)
          ((Step.hold id (.closeHalf d)).run s.toSurroundings w).2 first () u ∧
        s.Runs (Program.afterHalf id ((Step.hold id (.closeHalf d)).run s.toSurroundings w).1.1)
          u second answer w' := by
  have hProgram : (Program.closeHalf id d : Program σ (Except Report Unit)) =
      (Program.hold id (.closeHalf d)).bind (Program.afterHalf id) := by
    refine congrArg (Program.bind _) (funext fun half => ?_)
    obtain r | _ | _ := half <;> rfl
  rw [hProgram]
  constructor
  · intro run
    obtain ⟨held, second, half, u, rfl, hold, after⟩ := run.of_bind
    obtain ⟨rfl, first, rfl, delivered⟩ := runs_hold.1 hold
    exact ⟨first, second, u, rfl, delivered, after⟩
  · rintro ⟨first, second, u, rfl, delivered, after⟩
    exact (runs_hold.2 ⟨rfl, first, rfl, delivered⟩).bind after

/-- What closing one direction of a channel comes to. -/
structure HalfCloses (s : Setting σ) (id : ChannelId) (d : Direction) (v : World σ) : Prop where
  /-- A direction that is not open is refused. No driver is called, and nothing changes but that
  what was put off is delivered. -/
  refused : (v.channel id).isOpenFor d = false →
    (∀ j, (Step.hold id (.closeHalf d)).calls s.toSurroundings j v = []) ∧
      ∀ events answer v', s.Runs (Program.closeHalf id d) v events answer v' ↔
        answer = .error (.ofMisuse ((v.channel id).halfCloseRefusal d)) ∧
          ∃ rest, events = .made (.hold id (.closeHalf d)) v :: rest ∧
            s.Runs (Program.letOut id (v.channel id).deferred) (v.released id) rest () v'
  /-- The same where nothing was put off. -/
  unchanged : (v.channel id).isOpenFor d = false → (v.channel id).deferred = .none →
    s.Runs (Program.closeHalf id d) v [.made (.hold id (.closeHalf d)) v]
      (.error (.ofMisuse ((v.channel id).halfCloseRefusal d))) v
  /-- With the last direction the channel is closed, when what was put off has been delivered. -/
  last : (v.channel id).isOpenFor d = true → (v.channel id).mode.without d = .none →
    (∀ j, (Step.hold id (.closeHalf d)).calls s.toSurroundings j v = []) ∧
      ∀ events answer v', s.Runs (Program.closeHalf id d) v events answer v' ↔
        ∃ first second u, events = .made (.hold id (.closeHalf d)) v :: (first ++ second) ∧
          s.Runs (Program.letOut id (v.channel id).deferred) (v.released id) first () u ∧
          s.Runs (Program.close id) u second answer v'
  /-- The same where nothing was put off. -/
  closed : (v.channel id).isOpenFor d = true → (v.channel id).mode.without d = .none →
    (v.channel id).deferred = .none →
      ∀ events answer v', s.Runs (Program.closeHalf id d) v events answer v' ↔
        ∃ rest, events = .made (.hold id (.closeHalf d)) v :: rest ∧
          s.Runs (Program.close id) v rest answer v'
  /-- With another direction open, output that waits is written first and the driver closes this
  one. If either fails, that is the answer, and the direction is as it was. -/
  narrowed : (v.channel id).isOpenFor d = true → (v.channel id).mode.without d ≠ .none →
    (∃ c', (v.channel id).Narrowing d ((Step.hold id (.closeHalf d)).calls s.toSurroundings id v)
        ((Step.hold id (.closeHalf d)).run s.toSurroundings v).1.1 c' ∧
      ((Step.hold id (.closeHalf d)).run s.toSurroundings v).2.channel id =
        { c' with deferred := .none }) ∧
      ∀ events answer v', s.Runs (Program.closeHalf id d) v events answer v' →
        ∃ rest v₁, events = .made (.hold id (.closeHalf d)) v :: rest ∧
          v₁ = ((Step.hold id (.closeHalf d)).run s.toSurroundings v).2 ∧
          s.Runs (Program.letOut id
            ((Step.hold id (.closeHalf d)).run s.toSurroundings v).1.2) v₁ rest () v' ∧
          (v₁.channel id).isOpen = true ∧
          (answer = .ok () → (v₁.channel id).mode = (v.channel id).mode.without d) ∧
          ∀ r, answer = .error r → (v₁.channel id).mode = (v.channel id).mode ∧
            (v₁.channel id).input = (v.channel id).input ∧
            (v₁.channel id).eof = (v.channel id).eof

theorem halfCloses (s : Setting σ) (id : ChannelId) (d : Direction) (v : World σ) :
    s.HalfCloses id d v := by
  have hRefused (hNot : (v.channel id).isOpenFor d = false) (events : List (Event σ))
      (answer : Except Report Unit) (v' : World σ) :
      s.Runs (Program.closeHalf id d) v events answer v' ↔
        answer = .error (.ofMisuse ((v.channel id).halfCloseRefusal d)) ∧
          ∃ rest, events = .made (.hold id (.closeHalf d)) v :: rest ∧
            s.Runs (Program.letOut id (v.channel id).deferred) (v.released id) rest () v' := by
    rw [runs_closeHalf, (Step.closeHalf_refused hNot).1]
    constructor
    · rintro ⟨first, second, u, rfl, delivered, ended⟩
      cases ended
      exact ⟨rfl, first, by rw [List.append_nil], delivered⟩
    · rintro ⟨rfl, rest, rfl, delivered⟩
      exact ⟨rest, [], v', by rw [List.append_nil], delivered, .done _ v'⟩
  have hLast (hOpen : (v.channel id).isOpenFor d = true)
      (hOnly : (v.channel id).mode.without d = .none) (events : List (Event σ))
      (answer : Except Report Unit) (v' : World σ) :
      s.Runs (Program.closeHalf id d) v events answer v' ↔
        ∃ first second u, events = .made (.hold id (.closeHalf d)) v :: (first ++ second) ∧
          s.Runs (Program.letOut id (v.channel id).deferred) (v.released id) first () u ∧
          s.Runs (Program.close id) u second answer v' := by
    rw [runs_closeHalf, (Step.closeHalf_last hOpen hOnly).1]
    rfl
  refine ⟨fun hNot => ⟨(Step.closeHalf_refused hNot).2, hRefused hNot⟩, ?_,
    fun hOpen hOnly => ⟨(Step.closeHalf_last hOpen hOnly).2, hLast hOpen hOnly⟩, ?_, ?_⟩
  · intro hNot hNone
    refine (hRefused hNot _ _ _).2 ⟨rfl, [], rfl, ?_⟩
    rw [hNone]
    exact runs_letOut_none.2 ⟨rfl, (World.released_same hNone).symm⟩
  · intro hOpen hOnly hNone events answer v'
    rw [hLast hOpen hOnly, hNone, World.released_same hNone]
    constructor
    · rintro ⟨first, second, u, rfl, delivered, close⟩
      obtain ⟨rfl, rfl⟩ := runs_letOut_none.1 delivered
      exact ⟨second, rfl, close⟩
    · rintro ⟨rest, rfl, close⟩
      exact ⟨[], rest, v, rfl, runs_letOut_none.2 ⟨rfl, rfl⟩, close⟩
  · intro hOpen hOther
    obtain ⟨c', narrowing, hChannel⟩ :=
      Step.closeHalf_narrows (s := s.toSurroundings) hOpen hOther
    have hIsOpen : (v.channel id).isOpen = true := (Bool.and_eq_true _ _ ▸ hOpen :
      (v.channel id).isOpen = true ∧ (v.channel id).mode.has d = true).1
    refine ⟨⟨c', narrowing, hChannel⟩, fun events answer v' run => ?_⟩
    obtain ⟨first, second, u, rfl, delivered, ended⟩ := runs_closeHalf.1 run
    refine ⟨first ++ second, _, rfl, rfl, ?_⟩
    rw [hChannel]
    generalize ((Step.hold id (.closeHalf d)).run s.toSurroundings v).1.1 = half
      at narrowing ended
    cases half with
    | error r =>
      cases ended
      obtain ⟨hKept, hMode, hInlet, -⟩ := narrowing.failed
      rw [List.append_nil]
      refine ⟨delivered, hKept.trans hIsOpen, nofun, fun r' hError => ⟨hMode, ?_, ?_⟩⟩
      · exact congrArg Inlet.input hInlet
      · exact congrArg Inlet.eof hInlet
    | ok closed =>
      obtain ⟨rfl, hKept, hMode, -⟩ := narrowing.succeeded
      cases ended
      rw [List.append_nil]
      exact ⟨delivered, hKept.trans hIsOpen, fun _ => hMode, nofun⟩

end Setting

/-- Closing the directions of a channel, after whatever has been done to it. One that is not open is
refused, the last one goes with the channel, and one of two is closed by the driver once what waits
has been written. The driver closes each direction once at most, and never the last one. -/
theorem directions_closed_in_turn {s : Setting σ} {id : ChannelId} {w w' : World σ}
    {events : List (Event σ)} (history : s.Leads w events w') (hExists : id < w.channels.length)
    (d : Direction) :
    s.HalfCloses id d w' ∧
      (events.flatMap (·.calls s.toSurroundings id)).countP (·.closesHalf d) ≤ 1 ∧
      ∀ e ∈ events, 0 < (e.calls s.toSurroundings id).countP (·.closesHalf d) →
        (e.before.channel id).isOpenFor d = true ∧
          (e.before.channel id).mode.without d ≠ .none := by
  obtain ⟨hOnce, -, hEach⟩ := history.closesHalf hExists d
  exact ⟨s.halfCloses id d w', hOnce, hEach⟩

/-- A driver that takes no output, and says at each offer that there is room. -/
def fickleSetting : Setting Unit where
  driver _ call env :=
    match call with
    | .output _ => { answer := .error .wouldBlock, env, raised := .writing }
    | .closeHalf _ => { answer := .ok (), env }
    | call => { answer := call.unsupported, env }
  ready _ _ := .none
  users _ _ := false
  routine u := .done u.unit
  fire _ _ := .done ()

def fickleWorld (mode : Mode) : World Unit where
  channels := [{ name := "sink", type := "file", mode, blocking := false, bufferSize := 1 }]
  env := ()

/-- The calls to the driver in some events. -/
def fickleCalls (events : List (Event Unit)) : List DriverCall :=
  (events.flatMap (·.calls fickleSetting.toSurroundings 0)).map (·.call)

def fickleProgram : Program Unit (Except Report Unit) := do
  let _ ← Program.closeHalf 0 .read
  Program.closeHalf 0 .read

/-- The reading direction is closed, and not a second time. -/
theorem directions_closed_in_turn_fickle :
    ∃ events w', fickleSetting.Runs fickleProgram (fickleWorld .both) events
        (.error (.ofMisuse (.halfCloseNotOpened "read"))) w' ∧
      fickleCalls events = [.closeHalf .read] ∧
      (events.flatMap (·.calls fickleSetting.toSurroundings 0)).countP (·.closesHalf .read) ≤ 1 ∧
      fickleSetting.HalfCloses 0 .write w' := by
  have hTrace : (fickleSetting.trace 1 fickleProgram (fickleWorld .both)).any (fun r =>
      match r.2.1 with
      | .error m => decide (m = .ofMisuse (.halfCloseNotOpened "read") ∧
          fickleCalls r.1 = [.closeHalf .read])
      | .ok _ => false) = true := by decide +kernel
  obtain ⟨events, answer, w', run, hChecked⟩ := Setting.exists_runs hTrace
  cases answer with
  | ok done => cases hChecked
  | error m =>
    obtain ⟨rfl, hCalls⟩ := of_decide_eq_true hChecked
    have hExists : 0 < (fickleWorld .both).channels.length := by decide
    exact ⟨events, w', run, hCalls,
      (directions_closed_in_turn run.leads hExists .read).2.1,
      (directions_closed_in_turn run.leads hExists .write).1⟩

/-- A byte that the driver has not taken waits, and that there is room has been put off. To close
the only direction offers the byte once more than to close the channel. -/
theorem last_direction_delivers_first :
    ∃ past w half v whole v',
      fickleSetting.Runs (Program.writeBytes 0 [1] false) (fickleWorld .writeOnly) past (.ok ()) w ∧
      (w.channel 0).isOpenFor .write = true ∧ (w.channel 0).mode.without .write = .none ∧
      fickleSetting.Runs (Program.closeHalf 0 .write) w half (.ok ()) v ∧
      fickleSetting.Runs (Program.close 0) w whole (.ok ()) v' ∧
      fickleCalls half = [.output [1], .output [1], .watch .none, .close] ∧
      fickleCalls whole = [.output [1], .watch .none, .close] := by
  have hTrace : (fickleSetting.trace 1 (Program.writeBytes 0 [1] false)
      (fickleWorld .writeOnly)).any (fun r =>
        r.2.1.isOk && decide ((r.2.2.channel 0).isOpenFor .write = true ∧
          (r.2.2.channel 0).mode.without .write = .none) &&
        (fickleSetting.trace 1 (Program.closeHalf 0 .write) r.2.2).any (fun half =>
          half.2.1.isOk && decide (fickleCalls half.1 =
            [.output [1], .output [1], .watch .none, .close])) &&
        (fickleSetting.trace 1 (Program.close 0) r.2.2).any (fun whole =>
          whole.2.1.isOk && decide (fickleCalls whole.1 =
            [.output [1], .watch .none, .close]))) = true := by decide +kernel
  obtain ⟨past, answer, w, run, hChecked⟩ := Setting.exists_runs hTrace
  simp only [Bool.and_eq_true, decide_eq_true_eq] at hChecked
  obtain ⟨⟨⟨hWritten, hOpen, hLast⟩, hHalf⟩, hWhole⟩ := hChecked
  obtain ⟨half, halfAnswer, v, runHalf, hHalfChecked⟩ := Setting.exists_runs hHalf
  obtain ⟨whole, wholeAnswer, v', runWhole, hWholeChecked⟩ := Setting.exists_runs hWhole
  simp only [Bool.and_eq_true, decide_eq_true_eq] at hHalfChecked hWholeChecked
  obtain ⟨hHalfOk, hHalfCalls⟩ := hHalfChecked
  obtain ⟨hWholeOk, hWholeCalls⟩ := hWholeChecked
  rcases answer with r | written
  · cases hWritten
  rcases halfAnswer with r | halfDone
  · cases hHalfOk
  rcases wholeAnswer with r | wholeDone
  · cases hWholeOk
  exact ⟨past, w, half, v, whole, v', run, hOpen, hLast, runHalf, runWhole, hHalfCalls,
    hWholeCalls⟩

end EventChannel
