import EventChannel.Proofs.Program.Registry
import EventChannel.Proofs.World.Closed

/-! A channel may be closed from inside anything that its closing leads to: from an action that is
carried out on closing, from a handler that is called while the last output is written. Whoever is
the first takes the actions, and whoever comes to the driver first closes it. What the others still
do changes nothing about that. -/

namespace EventChannel

variable {σ : Type}

namespace Setting

/-- Actions are carried out one after the other: a routine is called, a record is detached. -/
inductive Acts (s : Setting σ) :
    List CloseAction → World σ → List (Event σ) → World σ → Prop
  | nil (w : World σ) : Acts s [] w [] w
  | routine {r : RoutineId} {rest : List CloseAction} {w w₁ w' : World σ}
      {inner outer : List (Event σ)} (body : s.Runs (s.routine (.closing r)) w inner () w₁)
      (later : Acts s rest w₁ outer w') :
      Acts s (.routine r :: rest) w (.called (.user (.closing r)) w :: (inner ++ outer)) w'
  | detach {record : RecordId} {rest : List CloseAction} {w w' : World σ}
      {events : List (Event σ)}
      (later : Acts s rest ((Step.detach record).run s.toSurroundings w).2 events w') :
      Acts s (.detach record :: rest) w (.made (.detach record) w :: events) w'

variable {s : Setting σ} {id : ChannelId} {u v w w' : World σ} {events : List (Event σ)}

theorem Runs.acts {actions : List CloseAction} {a : Unit}
    (run : s.Runs (Program.runCloseActions actions) w events a w') :
    s.Acts actions w events w' := by
  induction actions generalizing w events with
  | nil =>
    cases run
    exact .nil _
  | cons action rest ih =>
    cases action with
    | routine r =>
      cases run with
      | call body run => exact .routine body (ih run)
    | detach record =>
      cases run with
      | step run => exact .detach (ih run)

/-- To close the channel does nothing, and the operations that need its driver are refused because
it is closed. All of them leave everything as it is. -/
structure Defunct (s : Setting σ) (id : ChannelId) (u : World σ) : Prop where
  close : ∃ events, s.Runs (Program.close id) u events (.ok ()) u
  read : ∀ n, n ≠ 0 →
    ∃ events, s.Runs (Program.read id n) u events (.error (.ofMisuse (u.channel id).closed)) u
  write : ∀ bytes,
    ∃ events, s.Runs (Program.write id bytes) u events (.error (.ofMisuse (u.channel id).closed)) u
  flush :
    ∃ events, s.Runs (Program.flush id) u events (.error (.ofMisuse (u.channel id).closed)) u
  seek : ∀ target,
    ∃ events, s.Runs (Program.seek id target) u events (.error (.ofMisuse (u.channel id).closed)) u
  setBlocking : ∀ on,
    ∃ events, s.Runs (Program.setBlocking id on) u events (.error (.ofMisuse (u.channel id).closed))
      u
  closeHalf : ∀ d,
    ∃ events, s.Runs (Program.closeHalf id d) u events (.error (.ofMisuse (u.channel id).closed)) u
  getOptions : ∀ reverseDns,
    ∃ events, s.Runs (Program.getOptions id reverseDns) u events
      (.error (.ofMisuse (u.channel id).closed)) u

/-- An operation that leaves a channel alone on which nothing was put off leaves everything as it
is. -/
theorem runs_hold_idle {op : ChannelOp} {answer : op.Answer}
    (hDeferred : (u.channel id).deferred = .none)
    (hIdle : (u.held id).perform (s.driver id) op = (answer, u.held id)) :
    s.Runs (Program.hold id op) u [.made (.hold id op) u] answer u := by
  have hWorld : u.modifyChannel id ({ · with deferred := .none }) = u :=
    World.modifyChannel_same (by rw [← hDeferred])
  have hRun : (Step.hold id op).run s.toSurroundings u = ((answer, .none), u) := by
    rw [Step.run_hold_idle hIdle, hWorld, hDeferred]
  refine .step ?_
  rw [hRun]
  exact .done answer u

/-- The answer of a transfer that fails for such a reason is reported as it is. -/
theorem runs_reported_misuse {β : Type} {p : Program σ (Except TransferFailure β)}
    {code doing : String} {m : Misuse} (run : s.Runs p u events (.error (.misuse m)) u) :
    s.Runs (Program.reported id code doing p) u (events ++ [.made (.look id) u])
      (.error (.ofMisuse m)) u :=
  run.bind (.step (.done _ u))

theorem defunct_of_gone (gone : (u.channel id).Gone) : s.Defunct id u := by
  have hShut : (u.held id).channel.isOpen = false := gone.isOpen
  have hRefused (op : ChannelOp) {answer : op.Answer}
      (hIdle : (u.held id).perform (s.driver id) op = (answer, u.held id)) :
      s.Runs (Program.hold id op) u [.made (.hold id op) u] answer u :=
    runs_hold_idle gone.deferred hIdle
  constructor
  · refine ⟨[.made (.takeCloseActions id) u], .step ?_⟩
    rw [Step.takeCloseActions_of_shut gone.isOpen]
    exact .done _ u
  · intro n hRoom
    have hRead := hRefused (.read n) (Held.read_closed hShut)
    have hBytes : Program.readBytes (σ := σ) id n = Program.hold id (.read n) := if_neg hRoom
    exact ⟨_, runs_reported_misuse (hBytes ▸ hRead)⟩
  · intro bytes
    have hWrite := hRefused (.write bytes false) (Held.write_closed hShut)
    exact ⟨_, (runs_reported_misuse hWrite).bind (.done _ u)⟩
  · exact ⟨_, runs_reported_misuse (hRefused (.write [] true) (Held.write_closed hShut))⟩
  · exact fun target => ⟨_, hRefused (.seek target) (Held.seek_closed hShut)⟩
  · exact fun on => ⟨_, hRefused (.setBlocking on) (Held.setBlocking_closed hShut)⟩
  · intro d
    exact ⟨_, (hRefused (.closeHalf d) (Held.closeHalf_closed hShut)).bind (.done _ u)⟩
  · exact fun dns => ⟨_, hRefused (.getOptions dns) (Held.getOptions_closed hShut)⟩

/-- What closing an open channel does. Its actions are carried out, and it has none from then on but
those that are added later. -/
structure Closes (s : Setting σ) (id : ChannelId) (v : World σ) (actions : List CloseAction)
    (closing : List (Event σ)) (v' : World σ) : Prop where
  acts : ∃ acts v₁ rest, closing = .made (.takeCloseActions id) v :: (acts ++ rest) ∧
    s.Acts actions (v.modifyChannel id ({ · with closeActions := [] })) acts v₁
  closes : closesDriver (closing.flatMap (·.calls s.toSurroundings id)) = true
  gone : (v'.channel id).Gone
  handlers : (v'.channel id).handlers = []

theorem Runs.closes {closing : List (Event σ)} {r : Except Report Unit} {v' : World σ}
    (run : s.Runs (Program.close id) v closing r v') (hOpen : (v.channel id).isOpen = true) :
    s.Closes id v (v.channel id).closeActions closing v' := by
  have hExists := World.exists_of_isOpen hOpen
  rcases run.of_close with ⟨hShut, -⟩ | ⟨acts, shut, answer, v₁, v₂, -, rfl, left, middle, -, rfl⟩
  · rw [hOpen] at hShut
    cases hShut
  obtain ⟨gone, hCloses⟩ := run.leads.gone_of_closed hOpen (run.close_shut hExists)
  refine ⟨⟨acts, v₁, _, rfl, left.acts⟩, hCloses, gone, ?_⟩
  have hThere : id < v₂.channels.length := by
    have hFirst := left.leads.length
    rw [World.length_modifyChannel] at hFirst
    exact Nat.lt_of_lt_of_le hExists (Nat.le_trans hFirst middle.leads.length)
  rw [World.channel_modifyChannel_self _ hThere]

end Setting

/-- Closing happens once, whatever closes the channel again meanwhile or afterwards. The driver of a
channel is never closed twice, nor called after it was closed. Closing an open channel carries out
all that was asked for and not taken by a close before, in that order; what is taken after that was
asked for later. Whatever its driver answers, it leaves a channel that is closed, without bytes and
without handlers. From then on, to close it again changes nothing, its driver is left alone, and the
operations that need it are refused. -/
theorem closed_once {s : Setting σ} {id : ChannelId} {w v v' : World σ}
    {before closing : List (Event σ)} {r : Except Report Unit} (hExists : id < w.channels.length)
    (history : s.Leads w before v) (hOpen : (v.channel id).isOpen = true)
    (run : s.Runs (Program.close id) v closing r v') :
    (∀ {start finish events}, s.Leads start events finish →
      ClosesLast (events.flatMap (·.calls s.toSurroundings id))) ∧
    ∃ actions, (w.channel id).closeActions ++ before.flatMap (·.enlists id) =
        before.flatMap (·.takes id) ++ actions ∧
      s.Closes id v actions closing v' ∧
      ∀ {later u}, s.Leads v' later u →
        (closing ++ later).flatMap (·.enlists id) =
          (closing.tail ++ later).flatMap (·.takes id) ++ (u.channel id).closeActions ∧
        later.flatMap (·.calls s.toSurroundings id) = [] ∧ (u.channel id).Gone ∧
        s.Defunct id u := by
  have closes := run.closes hOpen
  have hThere := Nat.lt_of_lt_of_le hExists history.length
  refine ⟨fun history => history.closesLast.1, _, history.closeActions hExists, closes, ?_⟩
  intro later u hLater
  have hAfter := Nat.lt_of_lt_of_le hThere run.leads.length
  obtain ⟨gone, hNone⟩ := hLater.gone hAfter closes.gone
  refine ⟨?_, hNone, gone, Setting.defunct_of_gone gone⟩
  obtain ⟨acts, v₁, rest, rfl, -⟩ := closes.acts
  have hQueue := (run.leads.trans hLater).closeActions hThere
  have hTaken : Event.takes id (.made (.takeCloseActions id) v) = (v.channel id).closeActions :=
    if_pos ⟨rfl, hOpen⟩
  have hFirst :
      (Event.made (.takeCloseActions id) v :: (acts ++ rest) ++ later).flatMap (·.takes id) =
        (v.channel id).closeActions ++ (acts ++ rest ++ later).flatMap (·.takes id) := by
    rw [List.cons_append, List.flatMap_cons, hTaken]
  rw [hFirst, List.append_assoc] at hQueue
  exact List.append_cancel_left hQueue

/-- A driver that raises a condition while it takes output. Its channel is closed again from inside
an action that is carried out on closing, and from a handler. -/
def relentlessSetting : Setting Unit where
  driver _ call env :=
    { answer := match call with
        | .output bytes => let n := bytes.length; .ok ⟨n, n.le_refl⟩
        | call => call.unsupported
      env
      raised := match call with
        | .output _ => .reading
        | _ => .none }
  ready _ _ := .none
  users _ _ := false
  routine
    | .closing 0 => (Program.close 0).bind fun _ => .done ()
    | .event _ channel _ => (Program.close channel).bind fun _ => .done ()
    | u => .done u.unit
  fire _ _ := .done ()

def relentlessChannel : Channel := { name := "pipe", type := "file", mode := .both }

/-- Two actions are asked for, a handler waits for input, and a byte waits to be written. -/
def busyProgram : Program Unit Unit := do
  let _ ← Program.createHandler 0 .reading (.routine 0)
  Program.act (.addCloseAction 0 (.routine 0))
  Program.act (.addCloseAction 0 (.routine 1))
  let _ ← Program.write 0 [1]

/-- The first action closes the channel, the handler tries to while the byte is written, and the
second action finds it closed. -/
theorem closed_once_relentless :
    ∃ before v closing r v', relentlessSetting.Leads
        (World.openChannel relentlessSetting.toSurroundings { env := () } relentlessChannel).2
        before v ∧
      (v.channel 0).isOpen = true ∧ before.flatMap (·.takes 0) = [] ∧
      relentlessSetting.Runs (Program.close 0) v closing r v' ∧
      closing.filterMap (·.call?) =
        [.user (.closing 0), .user (.event 0 0 .reading), .user (.closing 1)] ∧
      relentlessSetting.Closes 0 v [.routine 0, .routine 1] closing v' ∧
      relentlessSetting.Defunct 0 v' := by
  let opened := World.openChannel relentlessSetting.toSurroundings { env := () } relentlessChannel
  have hTrace : (relentlessSetting.trace 2 busyProgram opened.2).any (fun r =>
      decide ((r.2.2.channel 0).isOpen = true ∧ r.1.filterMap (·.call?) = [] ∧
        r.1.flatMap (·.takes 0) = [] ∧
        r.1.flatMap (·.enlists 0) = [.routine 0, .routine 1])) = true := by
    decide +kernel
  have hTrace' : (relentlessSetting.trace 4 (busyProgram.bind fun _ => Program.close 0)
      opened.2).any (fun r => decide (r.1.filterMap (·.call?) =
        [.user (.closing 0), .user (.event 0 0 .reading), .user (.closing 1)])) = true := by
    decide +kernel
  obtain ⟨before, a, v, prior, hChecked⟩ := Setting.exists_runs hTrace
  obtain ⟨all, r, v', run, hChecked'⟩ := Setting.exists_runs hTrace'
  obtain ⟨hOpen, hQuiet, hTaken, hAsked⟩ := of_decide_eq_true hChecked
  have hCalls := of_decide_eq_true hChecked'
  obtain ⟨first, closing, b, v₁, rfl, prior', run⟩ := run.of_bind
  obtain ⟨rfl, -, rfl⟩ := prior'.unique prior
  dsimp only at hOpen hQuiet hTaken hAsked hCalls
  rw [List.filterMap_append, hQuiet, List.nil_append] at hCalls
  obtain ⟨-, actions, hActions, closes, later⟩ :=
    closed_once (by decide : 0 < opened.2.channels.length) prior.leads hOpen run
  have hBoth : [.routine 0, .routine 1] = actions := by
    rw [hTaken, hAsked] at hActions
    exact hActions
  exact ⟨_, _, closing, r, v', prior.leads, hOpen, hTaken, run, hCalls, hBoth ▸ closes,
    (later .refl).2.2.2⟩

end EventChannel
