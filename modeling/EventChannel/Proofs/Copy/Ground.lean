import EventChannel.Program.Copy
import EventChannel.Proofs.Copy.Interlude
import EventChannel.Proofs.World.Sound

/-! Facts about the events since before a copy was begun and the world they have led to. Some hold
at all times, some while the copy is at work and nothing has failed, some from its end on. Each is
kept by what may happen in between, and by steps that move no bytes. -/

namespace EventChannel

/-- The driver answers that there is no more input. -/
def DriverEvent.isEnd : DriverEvent → Bool
  | ⟨.input _, .ok bytes⟩ => bytes.1.isEmpty
  | _ => false

namespace Route

variable {σ α : Type}

/-- How the two drivers have to behave for a copy to succeed: in the background they may have to
wait, while its caller waits for it they may not. -/
def kind (r : Route) : DriverEvent → Bool :=
  if r.onDone?.isSome then (·.isMild) else (·.isPrompt)

/-- What a copy finds before it is begun: both channels are there and sound, and neither calls any
other copy. -/
structure Origin (r : Route) (w : World σ) : Prop where
  source : r.source < w.channels.length
  target : r.target < w.channels.length
  copy : r.copy = w.copies.length
  sourceCalls : (w.channel r.source).CallsOnly r.copy
  targetCalls : (w.channel r.target).CallsOnly r.copy
  sourceSound : (w.channel r.source).Sound
  targetSound : (w.channel r.target).Sound

theorem Origin.alone {r : Route} {w : World σ} (origin : r.Origin w) :
    (w.channel r.target).ParkedAlone :=
  origin.targetSound.toParkedAlone

/-- The channels and the copy of a route are there, and no other copy is called. -/
structure There (r : Route) (w : World σ) : Prop where
  source : r.source < w.channels.length
  target : r.target < w.channels.length
  copy : r.copy < w.copies.length
  sourceCalls : (w.channel r.source).CallsOnly r.copy
  targetCalls : (w.channel r.target).CallsOnly r.copy

/-- A copy is recorded as the one of a route. -/
structure Records (r : Route) (c : Copy) : Prop where
  source : c.source = r.source
  target : c.target = r.target
  limit : c.limit? = r.limit?
  onDone : c.onDone? = r.onDone?

/-- The source has come to its end: its driver has answered so, and no input is left. -/
def AtEnd (r : Route) (s : Surroundings σ) (past : List (Event σ)) (w : World σ) : Prop :=
  (w.channel r.source).input = [] ∧
    ∃ e ∈ past, ∃ call ∈ e.calls s r.source, call.isEnd = true

/-- The source has come to its end, if the drivers have done as they had to. -/
def Exhausted (r : Route) (s : Surroundings σ) (past : List (Event σ)) (w : World σ) : Prop :=
  r.Drives s past r.kind → r.AtEnd s past w

/-- What holds of a copy at all times, whatever its drivers do. Its channels could be taken; what
has been written was read before, and no more was read than the limit allows. -/
structure Ground (r : Route) (s : Surroundings σ) (start : World σ) (past : List (Event σ))
    (w : World σ) (c : Copy) : Prop extends r.There w where
  history : s.Leads start past w
  taken : start.copyObstacle? r.source r.target = none
  sourceOpen : (w.channel r.source).isOpenFor .read = true
  targetOpen : (w.channel r.target).isOpenFor .write = true
  sourceServes : (start.channel r.source).Serves r.hook? (w.channel r.source)
  targetServes : (start.channel r.target).Serves r.hook? (w.channel r.target)
  unsought : ∀ e ∈ past, ¬e.Seeks r.source
  record : w.copy r.copy = c
  task : r.Records c
  order : r.written past <+: r.read s past
  limit : ∀ limit, r.limit? = some limit → (r.read s past).length ≤ limit
  total : c.total ≤ (r.written past).length
  met : r.Drives s past r.kind → r.met s past = []

/-- A copy of which no failure has been told. What it has read and not yet written is at hand. -/
structure Intact (r : Route) (s : Surroundings σ) (start : World σ) (past : List (Event σ))
    (w : World σ) (c : Copy) (ahead : Bytes) : Prop extends r.Ground s start past w c where
  told : r.told s past = []
  ahead : r.read s past = r.written past ++ ahead
  clear : r.written past ≠ [] → (start.channel r.target).unreported? = none
  eof : (start.channel r.source).eof = false → (w.channel r.source).eof = true → r.AtEnd s past w
  chunk : 0 < c.chunk

/-- A copy at work. In the background its target does not block. -/
structure Works (r : Route) (s : Surroundings σ) (start : World σ) (past : List (Event σ))
    (w : World σ) (c : Copy) (ahead : Bytes) : Prop
    extends r.Intact s start past w c ahead where
  mode : r.onDone?.isSome → (w.channel r.target).blocking = false

/-- A copy at work that has counted all it has written and has nothing at hand. -/
structure Level (r : Route) (s : Surroundings σ) (start : World σ) (past : List (Event σ))
    (w : World σ) (c : Copy) : Prop extends r.Works s start past w c [] where
  count : (r.written past).length = c.total

/-- Some call to the driver of the source has failed, and not only because it would have had to
wait. -/
def Unread (r : Route) (s : Surroundings σ) (past : List (Event σ)) : Prop :=
  ∃ e ∈ past, ∃ call ∈ e.calls s r.source, call.isMild = false

/-- What has come of a copy that has moved so many bytes. -/
inductive Outcome (r : Route) (s : Surroundings σ) (start : World σ) (past : List (Event σ))
    (w : World σ) (total : Nat) : Option Report → Prop
  | copied (told : r.told s past = []) (all : r.read s past = r.written past)
      (count : (r.written past).length = total)
      (clear : r.written past ≠ [] → (start.channel r.target).unreported? = none)
      (stop : r.limit? = some total ∨
        ((start.channel r.source).eof = false → r.AtEnd s past w)) :
      Outcome r s start past w total none
  | unread (report : Report) (told : r.told s past = []) (unread : r.Unread s past) :
      Outcome r s start past w total (some report)
  | unwritten (f : DriverFailure) (told : r.told s past = [f])
      (parked : (w.channel r.target).unreported? = none) :
      Outcome r s start past w total
        (some (Program.writeReport (start.channel r.target).name (.driver f)))

/-- A copy that has come to its end. Its target has no output left. -/
structure Ends (r : Route) (s : Surroundings σ) (start : World σ) (past : List (Event σ))
    (w : World σ) (c : Copy) (error? : Option Report) : Prop
    extends r.Ground s start past w c where
  empty : (w.channel r.target).output.toBytes = []
  outcome : r.Outcome s start past w c.total error?

variable {r : Route} {s : Surroundings σ} {start w w' : World σ} {past inner : List (Event σ)}
  {id : ChannelId} {c c' : Copy} {ahead : Bytes} {error? : Option Report}

/-- A channel around which nothing can fail that would not count: another than the target, or one
with nothing to write, or one that does not block. -/
def Safe (r : Route) (id : ChannelId) (w : World σ) : Prop :=
  id ≠ r.target ∨ (w.channel r.target).output.toBytes = [] ∨
    (r.onDone?.isSome → (w.channel r.target).blocking = false)

theorem Interlude.there (interlude : r.Interlude s id w inner w') (there : r.There w) :
    r.There w' where
  source := Nat.lt_of_lt_of_le there.source interlude.leads.length
  target := Nat.lt_of_lt_of_le there.target interlude.leads.length
  copy := Nat.lt_of_lt_of_le there.copy interlude.copies
  sourceCalls := interlude.source.callsOnly r.copy_of_hook there.sourceCalls
  targetCalls := interlude.target.callsOnly r.copy_of_hook there.targetCalls

theorem There.exists (there : r.There w) (hId : id = r.source ∨ id = r.target) :
    id < w.channels.length := by
  rcases hId with rfl | rfl
  · exact there.source
  · exact there.target

theorem There.callsOnly (there : r.There w) (hId : id = r.source ∨ id = r.target) :
    (w.channel id).CallsOnly r.copy := by
  rcases hId with rfl | rfl
  · exact there.sourceCalls
  · exact there.targetCalls

theorem Interlude.met_of_safe (interlude : r.Interlude s id w inner w') (safe : r.Safe id w)
    (drives : r.Drives s inner r.kind) : r.met s inner = [] := by
  rcases safe with hOther | hEmpty | hBlocking
  · exact (interlude.still (.inl hOther)).2.2
  · exact (interlude.still (.inr hEmpty)).2.2
  · cases hBackground : r.onDone?.isSome with
    | true =>
      rw [kind, if_pos hBackground] at drives
      exact interlude.met (.inl ⟨hBlocking hBackground, drives⟩)
    | false =>
      rw [kind, hBackground, if_neg Bool.false_ne_true] at drives
      exact interlude.met (.inr drives)

/-- The end of the source stays reached. -/
theorem AtEnd.later (atEnd : r.AtEnd s past w)
    (hInput : (w'.channel r.source).input = (w.channel r.source).input) :
    r.AtEnd s (past ++ inner) w' := by
  obtain ⟨hEmpty, e, hMem, hCall⟩ := atEnd
  exact ⟨hInput.trans hEmpty, e, List.mem_append_left _ hMem, hCall⟩

theorem Exhausted.later (exhausted : r.Exhausted s past w)
    (hInput : (w'.channel r.source).input = (w.channel r.source).input) :
    r.Exhausted s (past ++ inner) w' :=
  fun drives => (exhausted drives.left).later hInput

namespace Ground

theorem name (ground : r.Ground s start past w c) :
    (w.channel r.target).name = (start.channel r.target).name :=
  ground.targetServes.name

/-- An interlude in which nothing fails that would count keeps the ground. -/
theorem interlude (ground : r.Ground s start past w c) (interlude : r.Interlude s id w inner w')
    (hMet : r.Drives s past r.kind → r.Drives s inner r.kind → r.met s inner = []) :
    r.Ground s start (past ++ inner) w' c where
  toThere := interlude.there ground.toThere
  history := ground.history.trans interlude.leads
  taken := ground.taken
  sourceOpen :=
    (Channel.isOpenFor_congr interlude.source.isOpen interlude.source.mode).trans ground.sourceOpen
  targetOpen :=
    (Channel.isOpenFor_congr interlude.target.isOpen interlude.target.mode).trans ground.targetOpen
  sourceServes := ground.sourceServes.trans interlude.source
  targetServes := ground.targetServes.trans interlude.target
  unsought e hMem := (List.mem_append.1 hMem).elim (ground.unsought e) (interlude.unsought e)
  record := (interlude.copy ground.copy).trans ground.record
  task := ground.task
  order := by
    rw [read_append, written_append, interlude.read, interlude.written, List.append_nil,
      List.append_nil]
    exact ground.order
  limit := by
    rw [read_append, interlude.read, List.append_nil]
    exact ground.limit
  total := by
    rw [written_append, interlude.written, List.append_nil]
    exact ground.total
  met drives := by
    rw [met_append, ground.met drives.left, hMet drives.left drives.right]
    rfl

/-- A step keeps the ground if both channels go on to serve, what has been written was read, and
nothing fails that would count. It may change the record of the copy. -/
theorem step {t : Step σ α} (ground : r.Ground s start past w c)
    (source : (w.channel r.source).Serves r.hook? ((t.run s w).2.channel r.source))
    (target : (w.channel r.target).Serves r.hook? ((t.run s w).2.channel r.target))
    (hSeeks : ¬t.Seeks r.source) (hRecord : (t.run s w).2.copy r.copy = c') (task : r.Records c')
    (order : r.written (past ++ [.made t w]) <+: r.read s (past ++ [.made t w]))
    (limit : ∀ limit, r.limit? = some limit → (r.read s (past ++ [.made t w])).length ≤ limit)
    (total : c'.total ≤ (r.written (past ++ [.made t w])).length)
    (met : r.Drives s [.made t w] r.kind → r.met s [.made t w] = []) :
    r.Ground s start (past ++ [.made t w]) (t.run s w).2 c' where
  source := Nat.lt_of_lt_of_le ground.source (t.length_run s w)
  target := Nat.lt_of_lt_of_le ground.target (t.length_run s w)
  copy := Nat.lt_of_lt_of_le ground.copy (t.copies_run s w r.copy).1
  sourceCalls := source.callsOnly r.copy_of_hook ground.sourceCalls
  targetCalls := target.callsOnly r.copy_of_hook ground.targetCalls
  history := .snoc (.made t w) ground.history
  taken := ground.taken
  sourceOpen := (Channel.isOpenFor_congr source.isOpen source.mode).trans ground.sourceOpen
  targetOpen := (Channel.isOpenFor_congr target.isOpen target.mode).trans ground.targetOpen
  sourceServes := ground.sourceServes.trans source
  targetServes := ground.targetServes.trans target
  unsought e hMem := by
    rcases List.mem_append.1 hMem with hMem | hMem
    · exact ground.unsought e hMem
    · rw [List.mem_singleton.1 hMem]
      exact hSeeks
  record := hRecord
  task := task
  order := order
  limit := limit
  total := total
  met drives := by
    rw [met_append, ground.met drives.left, met drives.right]
    rfl

/-- A step that moves no bytes keeps the ground. -/
theorem quiet {t : Step σ α} (ground : r.Ground s start past w c) (quiet : r.Quiet s t w)
    (hRecord : (t.run s w).2.copy r.copy = c') (task : r.Records c')
    (hTotal : c'.total ≤ (r.written past).length) :
    r.Ground s start (past ++ [.made t w]) (t.run s w).2 c' := by
  have hRead : r.read s (past ++ [.made t w]) = r.read s past := by
    rw [read_append, quiet.read_single, List.append_nil]
  have hWritten : r.written (past ++ [.made t w]) = r.written past := by
    rw [written_append, quiet.written_single, List.append_nil]
  refine ground.step quiet.source quiet.target quiet.unsought hRecord task ?_ ?_ ?_
    fun _ => quiet.met_single
  · rw [hRead, hWritten]
    exact ground.order
  · rw [hRead]
    exact ground.limit
  · rw [hWritten]
    exact hTotal

end Ground

namespace Intact

theorem interlude (intact : r.Intact s start past w c ahead)
    (interlude : r.Interlude s id w inner w') (safe : r.Safe id w) :
    r.Intact s start (past ++ inner) w' c ahead where
  toGround := intact.toGround.interlude interlude fun _ => interlude.met_of_safe safe
  told := by rw [told_append, intact.told, interlude.told]; rfl
  ahead := by
    rw [read_append, written_append, interlude.read, interlude.written, List.append_nil,
      List.append_nil]
    exact intact.ahead
  clear hWritten := by
    rw [written_append, interlude.written, List.append_nil] at hWritten
    exact intact.clear hWritten
  eof hStart hEof := (intact.eof hStart (interlude.eof ▸ hEof)).later interlude.input
  chunk := intact.chunk

theorem quiet {t : Step σ α} (intact : r.Intact s start past w c ahead) (quiet : r.Quiet s t w)
    (hRecord : (t.run s w).2.copy r.copy = c') (task : r.Records c')
    (hTotal : c'.total ≤ (r.written past).length) (hChunk : 0 < c'.chunk) :
    r.Intact s start (past ++ [.made t w]) (t.run s w).2 c' ahead where
  toGround := intact.toGround.quiet quiet hRecord task hTotal
  told := by rw [told_append, intact.told, quiet.told_single]; rfl
  ahead := by
    rw [read_append, written_append, quiet.read_single, quiet.written_single, List.append_nil,
      List.append_nil]
    exact intact.ahead
  clear hWritten := by
    rw [written_append, quiet.written_single, List.append_nil] at hWritten
    exact intact.clear hWritten
  eof hStart hEof := (intact.eof hStart (quiet.eof ▸ hEof)).later quiet.input
  chunk := hChunk

end Intact

namespace Works

theorem safe (works : r.Works s start past w c ahead) : r.Safe id w := .inr (.inr works.mode)

theorem interlude (works : r.Works s start past w c ahead)
    (interlude : r.Interlude s id w inner w') : r.Works s start (past ++ inner) w' c ahead where
  toIntact := works.toIntact.interlude interlude works.safe
  mode hBackground := (interlude.blocking _ (.inr rfl)).trans (works.mode hBackground)

theorem quiet {t : Step σ α} (works : r.Works s start past w c ahead) (quiet : r.Quiet s t w)
    (hBlocking : ((t.run s w).2.channel r.target).blocking = (w.channel r.target).blocking)
    (hRecord : (t.run s w).2.copy r.copy = c') (task : r.Records c')
    (hTotal : c'.total ≤ (r.written past).length) (hChunk : 0 < c'.chunk) :
    r.Works s start (past ++ [.made t w]) (t.run s w).2 c' ahead where
  toIntact := works.toIntact.quiet quiet hRecord task hTotal hChunk
  mode hBackground := hBlocking.trans (works.mode hBackground)

end Works

namespace Level

theorem interlude (level : r.Level s start past w c) (interlude : r.Interlude s id w inner w') :
    r.Level s start (past ++ inner) w' c where
  toWorks := level.toWorks.interlude interlude
  count := by
    rw [written_append, interlude.written, List.append_nil]
    exact level.count

theorem quiet {t : Step σ α} (level : r.Level s start past w c) (quiet : r.Quiet s t w)
    (hBlocking : ((t.run s w).2.channel r.target).blocking = (w.channel r.target).blocking)
    (hRecord : (t.run s w).2.copy r.copy = c') (task : r.Records c') (hTotal : c'.total = c.total)
    (hChunk : 0 < c'.chunk) : r.Level s start (past ++ [.made t w]) (t.run s w).2 c' where
  toWorks := level.toWorks.quiet quiet hBlocking hRecord task (hTotal ▸ level.total) hChunk
  count := by
    rw [written_append, quiet.written_single, List.append_nil, hTotal]
    exact level.count

end Level

theorem Unread.later (unread : r.Unread s past) : r.Unread s (past ++ inner) := by
  obtain ⟨e, hMem, hCall⟩ := unread
  exact ⟨e, List.mem_append_left _ hMem, hCall⟩

/-- Of what has come of a copy nothing is taken back by what is neither read, written nor told. -/
theorem Outcome.later {total : Nat} (outcome : r.Outcome s start past w total error?)
    (hRead : r.read s inner = []) (hWritten : r.written inner = []) (hTold : r.told s inner = [])
    (hInput : (w'.channel r.source).input = (w.channel r.source).input)
    (hParked : (w'.channel r.target).unreported? = (w.channel r.target).unreported?) :
    r.Outcome s start (past ++ inner) w' total error? := by
  have hToldAll : r.told s (past ++ inner) = r.told s past := by
    rw [told_append, hTold, List.append_nil]
  have hReadAll : r.read s (past ++ inner) = r.read s past := by
    rw [read_append, hRead, List.append_nil]
  have hWrittenAll : r.written (past ++ inner) = r.written past := by
    rw [written_append, hWritten, List.append_nil]
  cases outcome with
  | copied told all count clear stop =>
    refine .copied (hToldAll.trans told) ?_ ?_ ?_ ?_
    · rw [hReadAll, hWrittenAll, all]
    · rw [hWrittenAll, count]
    · rw [hWrittenAll]
      exact clear
    · exact stop.imp_right fun atEnd hStart => (atEnd hStart).later hInput
  | unread report told unread => exact .unread report (hToldAll.trans told) unread.later
  | unwritten f told parked => exact .unwritten f (hToldAll.trans told) (hParked.trans parked)

namespace Ends

theorem interlude (ends : r.Ends s start past w c error?)
    (interlude : r.Interlude s id w inner w') : r.Ends s start (past ++ inner) w' c error? := by
  obtain ⟨hOutput, hParked, -⟩ := interlude.still (.inr ends.empty)
  exact
    { toGround := ends.toGround.interlude interlude fun _ =>
        interlude.met_of_safe (.inr (.inl ends.empty))
      empty := hOutput.trans ends.empty
      outcome := ends.outcome.later interlude.read interlude.written interlude.told interlude.input
        hParked }

theorem quiet {t : Step σ α} (ends : r.Ends s start past w c error?) (quiet : r.Quiet s t w)
    (hRecord : (t.run s w).2.copy r.copy = c') (task : r.Records c')
    (hTotal : c'.total = c.total) :
    r.Ends s start (past ++ [.made t w]) (t.run s w).2 c' error? where
  toGround := ends.toGround.quiet quiet hRecord task (hTotal ▸ ends.total)
  empty := (congrArg ByteQueue.toBytes quiet.output).trans ends.empty
  outcome := hTotal ▸ ends.outcome.later quiet.read_single quiet.written_single quiet.told_single
    quiet.input quiet.parked

end Ends

/-- The drivers have not behaved as they have to for a copy to succeed. -/
structure Broken (r : Route) (s : Surroundings σ) (start : World σ) (past : List (Event σ))
    (w : World σ) (c : Copy) : Prop extends r.Ground s start past w c where
  failed : ¬r.Drives s past r.kind

namespace Broken

theorem interlude (broken : r.Broken s start past w c)
    (interlude : r.Interlude s id w inner w') : r.Broken s start (past ++ inner) w' c where
  toGround := broken.toGround.interlude interlude fun drives _ => absurd drives broken.failed
  failed drives := broken.failed drives.left

theorem quiet {t : Step σ α} (broken : r.Broken s start past w c) (quiet : r.Quiet s t w)
    (hRecord : (t.run s w).2.copy r.copy = c') (task : r.Records c')
    (hTotal : c'.total = c.total) : r.Broken s start (past ++ [.made t w]) (t.run s w).2 c' where
  toGround := broken.toGround.quiet quiet hRecord task (hTotal ▸ broken.total)
  failed drives := broken.failed drives.left

end Broken

end Route

end EventChannel
