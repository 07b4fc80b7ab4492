import EventChannel.Proofs.Program.Orderly
import EventChannel.Proofs.Stream.Input

/-! From the time a channel is opened on, its driver waits for what the handlers of the channel wait
for, and for writing exactly as long as output is to be written in the background. It is told so
when there is something new to tell, and not otherwise, except when it is put into another event
loop or closed. -/

namespace EventChannel

variable {σ α : Type}

/-- Nothing has been asked of the channel yet. -/
structure Channel.Unused (c : Channel) : Prop where
  isOpen : c.isOpen = true
  watched : c.watched = .none
  handlers : c.handlers = []
  flushPending : c.flushPending = false

/-- Before anything is asked of a channel, its driver has been told nothing and need not be. -/
theorem Channel.Unused.follows {c : Channel} (unused : c.Unused) : c.Follows .none where
  opened _ := by
    simp [wantedMask, handlerMask, unused.watched, unused.handlers, unused.flushPending,
      Interest.unions]
  closed _ := rfl

/-- A channel is as it was made when it has been opened. -/
theorem World.unused_openChannel {s : Surroundings σ} {w : World σ} {c : Channel}
    (unused : c.Unused) : ((w.openChannel s c).2.channel (w.openChannel s c).1).Unused := by
  obtain ⟨deferred, hOpened⟩ := World.channel_openChannel s w c
  rw [hOpened]
  exact ⟨unused.isOpen, unused.watched, unused.handlers, unused.flushPending⟩

/-- The mask that the driver of a channel was told last in some events, none if it was never told
one. -/
def toldMask (s : Surroundings σ) (id : ChannelId) (events : List (Event σ)) : Interest :=
  lastMask .none (events.flatMap (·.calls s id))

/-- From the time a channel is opened on, and as long as handlers are taken away by closing alone,
the driver of the channel was told last to wait for what the handlers wait for, together with
writing if and only if output is to be written in the background. When the channel is closed, it was
told last to wait for nothing. Unless it is put into another event loop or closed, it is told only
what differs from what it was told before. -/
theorem watch_follows_channel {s : Setting σ} {id : ChannelId} {p : Program σ α}
    {w w' : World σ} {events : List (Event σ)} (unused : (w.channel id).Unused)
    (orderly : s.Orderly id) (hOrderly : p.Orderly id False) (run : s.Begins p w events w') :
    ((w'.channel id).isOpen = true → toldMask s.toSurroundings id events =
        (w'.channel id).handlerMask ∪ if (w'.channel id).flushPending then .writing else .none) ∧
      ((w'.channel id).isOpen = false → toldMask s.toSurroundings id events = .none) ∧
      ∀ before e after, events = before ++ e :: after → ¬e.Retells id →
        Changing (toldMask s.toSurroundings id before) (e.calls s.toSurroundings id) := by
  have hExists := World.exists_of_isOpen unused.isOpen
  have hClears := run.clears_shut orderly hOrderly False.elim hExists
  have follows := run.leads.follows hExists hClears unused.follows
  refine ⟨?_, follows.closed, ?_⟩
  · intro hOpen
    obtain ⟨-, hWanted⟩ := follows.opened hOpen
    rw [toldMask, ← hWanted, Channel.wantedMask]
    split
    · rfl
    · rw [Interest.union_none]
  · intro before e after hSplit hRetells
    exact run.leads.changing hExists hClears unused.follows hSplit hRetells

/-- A driver that has writers wait. A handler that waits for input deletes itself when it is
called. -/
def reluctantSetting : Setting Unit where
  driver _ call env :=
    { answer := match call with
        | .output _ => .error .wouldBlock
        | call => call.unsupported
      env }
  ready _ _ := .none
  users _ _ := false
  routine
    | .event _ channel _ => Program.deleteHandler channel 1
    | u => .done u.unit
  fire _ _ := .done ()

def reluctantChannel : Channel := { name := "tty", type := "file", mode := .both }

/-- The channel is made and then used without blocking. -/
def reluctantProgram : Program Unit Unit := do
  let _ ← Program.createHandler 0 .reading (.routine 0)
  let _ ← Program.setBlocking 0 false
  let _ ← Program.write 0 [1]
  let _ ← Program.flush 0
  Program.notify 0 .reading

theorem orderly_reluctantSetting : reluctantSetting.Orderly 0 where
  routine u := by
    cases u with
    | event r channel ready => exact (Program.proper_hold channel (.deleteHandler 1) nofun).orderly
    | _ => trivial
  fire _ _ := trivial

theorem orderly_reluctantProgram : reluctantProgram.Orderly 0 False := by
  apply Program.Proper.orderly
  apply Program.proper_bind (Program.proper_hold 0 (.createHandler .reading (.routine 0)) nofun)
  intro _
  apply Program.proper_bind (Program.proper_hold 0 (.setBlocking false) nofun)
  intro _
  apply Program.proper_bind (Program.proper_write 0 [1])
  intro _
  apply Program.proper_bind (Program.proper_flush 0)
  intro _
  exact Program.proper_notify 0 .reading

/-- The handler is gone, and the driver is left to wait for room for the byte that waits. -/
theorem watch_follows_channel_reluctant :
    ∃ events w', reluctantSetting.Begins reluctantProgram
        (World.openChannel reluctantSetting.toSurroundings { env := () } reluctantChannel).2
        events w' ∧
      (w'.channel 0).handlers = [] ∧ (w'.channel 0).flushPending = true ∧
      toldMask reluctantSetting.toSurroundings 0 events = .writing := by
  let opened := World.openChannel reluctantSetting.toSurroundings { env := () } reluctantChannel
  have hTrace : (reluctantSetting.trace 3 reluctantProgram opened.2).any (fun r =>
      decide ((r.2.2.channel 0).isOpen = true ∧ (r.2.2.channel 0).handlers = [] ∧
        (r.2.2.channel 0).flushPending = true)) = true := by decide +kernel
  obtain ⟨⟨events, answer, w'⟩, traced, hChecked⟩ := (Option.any_eq_true _ _).1 hTrace
  obtain ⟨hOpen, hHandlers, hPending⟩ := of_decide_eq_true hChecked
  have run := (Setting.runs_of_trace traced).begins
  have unused : (opened.2.channel 0).Unused :=
    World.unused_openChannel (c := reluctantChannel) ⟨rfl, rfl, rfl, rfl⟩
  obtain ⟨hTold, -, -⟩ :=
    watch_follows_channel unused orderly_reluctantSetting orderly_reluctantProgram run
  refine ⟨events, w', run, hHandlers, hPending, ?_⟩
  rw [hTold hOpen, Channel.handlerMask, hHandlers, hPending]
  rfl

end EventChannel
