import EventChannel.Proofs.Copy.Agreement

/-! Each round of a copy that is waited for moves at least one byte, and there are only so many. So
the copy ends, with as many bytes moved as its limit and its source allow, and what it has found it
leaves behind: another copy can go on where it has stopped. -/

namespace EventChannel

variable {σ : Type}

/-- The event concerns neither of two channels, nor a copy from the one to the other. -/
def Event.Avoids (source target : ChannelId) : Event σ → Prop
  | .made t w => (¬t.Moves source ∧ ¬t.Clears source) ∧ (¬t.Moves target ∧ ¬t.Clears target) ∧
      ∀ k, t.Recopies k → ¬((w.copy k).source = source ∧ (w.copy k).target = target)
  | .called .. => True

/-- No handler of the channel calls a copy. -/
def Channel.CallsNoCopy (c : Channel) : Prop := ∀ h ∈ c.handlers, ∀ k, h.callback ≠ .copy k

theorem Channel.CallsNoCopy.callsOnly {c : Channel} (callsNone : c.CallsNoCopy) (k : CopyId) :
    c.CallsOnly k :=
  fun h hMem j hCopy => absurd hCopy (callsNone h hMem j)

/-- A channel that has served no copy calls none if it did not. -/
theorem Channel.Serves.callsNoCopy {c c' : Channel} (serves : c.Serves none c')
    (callsNone : c.CallsNoCopy) : c'.CallsNoCopy := by
  intro h hMem k hCopy
  rcases serves.handlers h hMem with hOld | ⟨j, hServed, -⟩
  · exact callsNone h hOld k hCopy
  · cases hServed

namespace Route

/-- What a copy finds that can be begun: both channels are sound, open in the directions needed and
free, and the target owes no failure. -/
structure Ready (r : Route) (w : World σ) : Prop where
  reads : (w.channel r.source).isOpenFor .read = true
  writes : (w.channel r.target).isOpenFor .write = true
  sourceFree : (w.channel r.source).copying = false
  targetFree : (w.channel r.target).copying = false
  unreported : (w.channel r.target).unreported? = none
  sourceSound : (w.channel r.source).Sound
  targetSound : (w.channel r.target).Sound
  sourceCalls : (w.channel r.source).CallsNoCopy
  targetCalls : (w.channel r.target).CallsNoCopy

/-- What has happened so far goes well for a copy. The drivers do as they are asked, and that of the
source gives a stream. The routines that are called return, and leave the two channels alone. -/
structure Favours (r : Route) (s : Setting σ) (stream : Bytes) (events : List (Event σ))
    (w : World σ) : Prop where
  drives : r.Drives s.toSurroundings events (·.isPrompt)
  feeds : r.Feeds s.toSurroundings events stream
  returns : ∀ before u v, events = before ++ [.called (.user u) v] →
    ∃ inner b v', s.Runs (s.routine u) v inner b v'
  avoids : ∀ before u v inner, events = before ++ .called (.user u) v :: inner →
    s.Begins (s.routine u) v inner w → ∀ e ∈ inner, e.Avoids r.source r.target

/-- Whatever happens while a program runs goes well for a copy. -/
def Favourable {α : Type} (r : Route) (s : Setting σ) (stream : Bytes) (p : Program σ α)
    (start : World σ) : Prop :=
  ∀ events w, s.Begins p start events w → r.Favours s stream events w

/-- The same way with a limit, for a copy that is begun now and waited for. -/
def next (r : Route) (w : World σ) (limit? : Option Nat) : Route :=
  { r with copy := w.copies.length, limit?, onDone? := none }

variable {r : Route} {s : Setting σ} {start w w' : World σ} {stream : Bytes}
  {past inner : List (Event σ)} {c : Copy} {limit? : Option Nat}

namespace Ready

theorem taken (ready : r.Ready w) : w.copyObstacle? r.source r.target = none := by
  obtain ⟨-, hReads⟩ := Bool.and_eq_true_iff.1 ready.reads
  obtain ⟨-, hWrites⟩ := Bool.and_eq_true_iff.1 ready.writes
  have hReadable : (w.channel r.source).mode.readable = true := hReads
  have hWritable : (w.channel r.target).mode.writable = true := hWrites
  simp [World.copyObstacle?, hReadable, hWritable, ready.sourceFree, ready.targetFree]

theorem origin (ready : r.Ready w) (limit? : Option Nat) : (r.next w limit?).Origin w where
  source := (World.free_of_obstacle ready.taken).1.1
  target := (World.free_of_obstacle ready.taken).2.1
  copy := rfl
  sourceCalls := ready.sourceCalls.callsOnly _
  targetCalls := ready.targetCalls.callsOnly _
  sourceSound := ready.sourceSound
  targetSound := ready.targetSound

end Ready

theorem silent_of_waited (hWaited : r.onDone? = none) (call : Call) : r.speaks call = false := by
  cases call with
  | user u =>
    cases u with
    | completed routine total error? => simp [speaks, hWaited]
    | _ => rfl
  | _ => rfl

/-- What concerns neither channel of a copy goes on apart from it. -/
theorem Ground.apart (ground : r.Ground s.toSurroundings start past w c)
    (hWaited : r.onDone? = none) (history : s.Leads w inner w')
    (avoids : ∀ e ∈ inner, e.Avoids r.source r.target) : ∀ e ∈ inner, r.Apart e := by
  induction history with
  | refl => exact fun e hMem => by cases hMem
  | @snoc events e prior ih =>
    have before := ih fun e hMem => avoids e (List.mem_append_left _ hMem)
    have hLast := avoids e (List.mem_append_right _ (List.mem_singleton_self e))
    intro e' hMem
    rcases List.mem_append.1 hMem with hMem | hMem
    · exact before e' hMem
    · obtain rfl := List.mem_singleton.1 hMem
      cases e' with
      | called call v => exact silent_of_waited hWaited call
      | made t v =>
        obtain ⟨source, target, copies⟩ := hLast
        refine ⟨source, target, fun hRecopies => copies r.copy hRecopies ?_⟩
        have interlude : r.Interlude s.toSurroundings r.source w events v :=
          .of_leads prior ground.source ground.target before
        rw [interlude.copy ground.copy, ground.record]
        exact ⟨ground.task.source, ground.task.target⟩

/-- The calls around a copy come to an end. To move the rest of the bytes comes to one because there
are fewer of them each time. -/
theorem answers_foreground (origin : r.Origin start) (hWaited : r.onDone? = none)
    (hUnreported : (start.channel r.target).unreported? = none) (least : Nat) :
    s.Answers (r.foreground s.toSurroundings start (fun _ => True) least) (r.Favours s stream) := by
  induction hLeft : (r.supply start stream).length + 1 - least using Nat.strongRecOn
    generalizing least with
  | ind left ih =>
    intro call past w hPre favoured
    have met := favoured [] w (.stop _ w)
    cases call with
    | user u =>
      obtain ⟨-, c, ground⟩ := hPre
      obtain ⟨inner, b, w', run⟩ := met.returns past u w rfl
      refine ⟨inner, b, w', run, inner, rfl, run.leads, ground.apart hWaited run.leads ?_⟩
      exact (favoured inner w' run.begins).avoids past u w inner rfl run.begins
    | advance k =>
      obtain ⟨rfl, c, ground, hBusy⟩ := hPre
      have hRun : (Step.enterCopy r.copy).run s.toSurroundings w = (false, w) :=
        if_neg (ground.record ▸ hBusy)
      refine ⟨[.made (.enterCopy r.copy) w], (), w, .step ?_, rfl, rfl⟩
      rw [hRun]
      exact .done () w
    | moveAll k =>
      obtain ⟨rfl, hLeast, c, level, hBusy⟩ := hPre
      have feeds : r.Feeds s.toSurroundings past stream := met.feeds.left
      have hWritten := (level.order.trans (level.read_prefix origin feeds)).length_le
      have called := level.interlude (.of_called r.source (.moveAll r.copy) w)
      have hSame : r.written (past ++ [.called (.moveAll r.copy) w]) = r.written past := by
        rw [written_append]
        exact List.append_nil _
      have later := ih _ (by omega) ((r.written past).length + 1) rfl
      have h : (Program.moveChunks r.copy).wp s.toSurroundings
          (r.foreground s.toSurroundings start (fun _ => True) ((r.written past).length + 1))
          (fun past' answer w' => r.Moved s.toSurroundings start past' w' answer)
          (past ++ [.called (.moveAll r.copy) w]) w :=
        wp_moveChunks (shields_foreground (fun _ _ _ => trivial) _) origin hUnreported hWaited
          called hBusy (fun past' w' c' level' busy' hMore =>
            ⟨⟨rfl, hSame ▸ hMore, c', level', busy'⟩, fun _ _ _ moved => moved⟩)
          fun _ _ _ moved => moved
      obtain ⟨inner, b, w', run, moved⟩ := later.runs_of_wp h fun inner v begun => by
        rw [List.append_assoc]
        exact favoured inner v begun
      rw [List.append_assoc] at moved
      exact ⟨inner, b, w', run, moved⟩
    | fire | readAll => exact hPre.elim

/-- When all goes well for a copy that is waited for, it ends, and answers how many bytes it has
moved. -/
theorem exists_runs_copy (origin : r.Origin start) (hWaited : r.onDone? = none)
    (hUnreported : (start.channel r.target).unreported? = none)
    (hTaken : start.copyObstacle? r.source r.target = none)
    (favourable : r.Favourable s stream (Program.copy r.source r.target r.limit?) start) :
    ∃ events c w, s.Runs (Program.copy r.source r.target r.limit?) start events (.ok c.total) w ∧
      r.Over s.toSurroundings start events w c := by
  have hProgram : (Program.copy r.source r.target r.limit?).wp s.toSurroundings
      (r.foreground s.toSurroundings start (fun _ => True) 0)
      (fun past answer w => r.Drives s.toSurroundings past r.kind →
        ∃ c, answer = .ok c.total ∧ r.Over s.toSurroundings start past w c) [] start :=
    wp_copyWaited (fun _ _ _ => trivial) origin hUnreported hWaited hTaken fun _ _ _ h => h
  obtain ⟨events, answer, w, run, hEnd⟩ :=
    (answers_foreground origin hWaited hUnreported 0).runs_of_wp hProgram favourable
  have hDrives : r.Drives s.toSurroundings events r.kind := by
    rw [kind, hWaited]
    exact (favourable events w run.begins).drives
  obtain ⟨c, rfl, ended⟩ := hEnd hDrives
  exact ⟨events, c, w, run, ended⟩

/-- A copy that is over leaves its channels ready for another. -/
theorem Over.ready (ended : r.Over s.toSurroundings start past w c) (ready : r.Ready start)
    (origin : r.Origin start) (hWaited : r.onDone? = none)
    (drives : r.Drives s.toSurroundings past r.kind) : r.Ready w where
  reads := ended.sourceOpen
  writes := ended.targetOpen
  sourceFree := ended.free.1
  targetFree := ended.free.2
  unreported := by
    have hReports := ended.reports origin
    rw [ready.unreported, ended.met drives] at hReports
    obtain ⟨-, hNone⟩ := List.append_eq_nil_iff.1 hReports.symm
    exact Option.toList_eq_nil_iff.1 hNone
  sourceSound := (ended.history.sound origin.source ready.sourceSound).2
  targetSound := (ended.history.sound origin.target ready.targetSound).2
  sourceCalls := by
    have serves := ended.sourceServes
    rw [hook?, hWaited] at serves
    exact serves.callsNoCopy ready.sourceCalls
  targetCalls := by
    have serves := ended.targetServes
    rw [hook?, hWaited] at serves
    exact serves.callsNoCopy ready.targetCalls

theorem ready_next {v : World σ} : (r.next v limit?).Ready w ↔ r.Ready w :=
  ⟨fun ⟨reads, writes, sourceFree, targetFree, unreported, sourceSound, targetSound, sourceCalls,
      targetCalls⟩ => ⟨reads, writes, sourceFree, targetFree, unreported, sourceSound, targetSound,
      sourceCalls, targetCalls⟩,
    fun ⟨reads, writes, sourceFree, targetFree, unreported, sourceSound, targetSound, sourceCalls,
      targetCalls⟩ => ⟨reads, writes, sourceFree, targetFree, unreported, sourceSound, targetSound,
      sourceCalls, targetCalls⟩⟩

theorem Favours.next (favours : r.Favours s stream past w) (v : World σ) (limit? : Option Nat) :
    (r.next v limit?).Favours s stream past w :=
  ⟨favours.drives, ⟨favours.feeds.given, favours.feeds.ends⟩, favours.returns, favours.avoids⟩

/-- From where it is ready, and if all goes well, a copy moves all it may. Then the channels are in
their modes and ready again. -/
theorem Ready.completes (ready : r.Ready start) (limit? : Option Nat)
    (favourable : r.Favourable s stream (Program.copy r.source r.target limit?) start) :
    ∃ total events w, s.Runs (Program.copy r.source r.target limit?) start events (.ok total) w ∧
      (r.next start limit?).Copied s.toSurroundings start events w stream total ∧
      r.Switched w ((start.channel r.source).blocking, (start.channel r.target).blocking) ∧
      r.Ready w := by
  obtain ⟨events, c, w, run, ended⟩ := exists_runs_copy (ready.origin limit?) rfl ready.unreported
    ready.taken fun events w begun => (favourable events w begun).next start limit?
  have favours := favourable events w run.begins
  have copied := ended.copied (ready.origin limit?) ended.stop favours.drives
    ⟨favours.feeds.given, favours.feeds.ends⟩
  have after := ended.ready (ready_next.2 ready) (ready.origin limit?) rfl favours.drives
  exact ⟨c.total, events, w, run, copied, ended.modes, ready_next.1 after⟩

/-- What goes well from the start goes well from some moment on, with the rest of the stream. -/
theorem Favours.rest {first second : List (Event σ)}
    (favours : r.Favours s stream (first ++ second) w) :
    r.Favours s (stream.drop (givenBytes (r.asked s.toSurroundings first)).length) second w where
  drives := favours.drives.right
  feeds := favours.feeds.right
  returns before u v hEvents := favours.returns (first ++ before) u v (by simp [hEvents])
  avoids before u v inner hEvents := favours.avoids (first ++ before) u v inner (by simp [hEvents])

/-- Two copies one after the other move what one would move. -/
theorem Copied.append {s : Surroundings σ} {first second n m : Nat} {w₁ : World σ}
    {earlier later : List (Event σ)} (hLimit : r.limit? = some (first + second))
    (left : (r.next start (some first)).Copied s start earlier w₁ stream n)
    (right : (r.next w₁ (some second)).Copied s w₁ later w
      (stream.drop (givenBytes (r.asked s earlier)).length) m) :
    r.Copied s start (earlier ++ later) w stream (n + m) := by
  have hSupply : (r.next w₁ (some second)).supply w₁
      (stream.drop (givenBytes (r.asked s earlier)).length) = (r.supply start stream).drop n :=
    left.rest
  constructor
  · have hFirst : n = min first (r.supply start stream).length := left.count
    have hSecond : m = min second ((r.supply start stream).length - n) := by
      rw [← List.length_drop, ← hSupply]
      exact right.count
    simp only [allowance, hLimit]
    omega
  · have hFirst : r.taken s earlier =
        (start.channel r.target).output.toBytes ++ (r.supply start stream).take n := left.taken
    have hSecond : r.taken s later = ((r.supply start stream).drop n).take m := by
      have hTaken := right.taken
      rw [show (w₁.channel (r.next w₁ (some second)).target).output.toBytes = [] from left.emptied,
        hSupply, List.nil_append] at hTaken
      exact hTaken
    calc r.taken s (earlier ++ later)
        = r.taken s earlier ++ r.taken s later := List.flatMap_append
      _ = (start.channel r.target).output.toBytes ++ (r.supply start stream).take (n + m) := by
          rw [hFirst, hSecond, List.append_assoc, List.take_add]
  · exact right.emptied
  · calc r.readable s (earlier ++ later) w stream
        = (r.next w₁ (some second)).readable s later w
            (stream.drop (givenBytes (r.asked s earlier)).length) := by
          rw [readable, asked_append, givenBytes_append, List.length_append, ← List.drop_drop]
          rfl
      _ = (r.supply start stream).drop (n + m) := by
          rw [right.rest, hSupply, List.drop_drop]

end Route

/-- Copies up to one limit, then up to another. -/
def Program.copyTwice (source target : ChannelId) (first second : Nat) :
    Program σ (Except Report Nat × Except Report Nat) := do
  let moved ← copy source target (some first)
  let more ← copy source target (some second)
  return (moved, more)

/-- A copy that its caller waits for, between channels that are ready, ends if all goes well. It has
moved as many bytes as its limit and its source allow, after the output that waited. What it has not
moved can still be read, and the channels are free and in the modes they were in. Copying up to one
limit and then up to another moves the same bytes as copying up to the sum. -/
theorem copy_completes {s : Setting σ} {r : Route} {start : World σ} {stream : Bytes}
    (ready : r.Ready start)
    (favourable : r.Favourable s stream (Program.copy r.source r.target r.limit?) start) :
    (∃ total events w,
      s.Runs (Program.copy r.source r.target r.limit?) start events (.ok total) w ∧
        r.Copied s.toSurroundings start events w stream total ∧
        (∀ id, id = r.source ∨ id = r.target →
          (w.channel id).blocking = (start.channel id).blocking ∧
            (w.channel id).copying = false)) ∧
    ∀ first second, r.limit? = some (first + second) →
      r.Favourable s stream (Program.copyTwice r.source r.target first second) start →
      ∃ n m events w events' w',
        s.Runs (Program.copyTwice r.source r.target first second) start events (.ok n, .ok m) w ∧
        s.Runs (Program.copy r.source r.target r.limit?) start events' (.ok (n + m)) w' ∧
        r.taken s.toSurroundings events = r.taken s.toSurroundings events' ∧
        (w.channel r.target).output.toBytes = [] ∧ (w'.channel r.target).output.toBytes = [] ∧
        r.readable s.toSurroundings events w stream =
          r.readable s.toSurroundings events' w' stream := by
  obtain ⟨total, events, w, run, copied, ⟨hSource, hTarget⟩, after⟩ :=
    ready.completes r.limit? favourable
  replace copied : r.Copied s.toSurroundings start events w stream total :=
    ⟨copied.count, copied.taken, copied.emptied, copied.rest⟩
  refine ⟨⟨total, events, w, run, copied, ?_⟩, fun first second hLimit favourable' => ?_⟩
  · rintro id (rfl | rfl)
    · exact ⟨hSource, after.sourceFree⟩
    · exact ⟨hTarget, after.targetFree⟩
  obtain ⟨n, earlier, w₁, run₁, copied₁, -, ready₁⟩ :=
    ready.completes (some first) fun events w begun => favourable' events w begun.bind
  obtain ⟨m, later, w₂, run₂, copied₂, -, -⟩ :=
    ready₁.completes (some second) fun events w begun =>
      (favourable' _ w (run₁.bind_begins begun.bind)).rest
  have twice := copied₁.append hLimit copied₂
  obtain rfl : total = n + m := copied.count.trans twice.count.symm
  refine ⟨n, m, earlier ++ later, w₂, events, w, run₁.bind ?_, run, ?_, ?_, copied.emptied, ?_⟩
  · rw [← List.append_nil later]
    exact run₂.bind (.done _ w₂)
  · exact twice.taken.trans copied.taken.symm
  · exact twice.emptied
  · exact twice.rest.trans copied.rest.symm

/-- The same pipe, but its source starts in non-blocking mode and tells of its input, for which a
routine of the user is called while bytes are copied. -/
def hailingSetting : Setting PipeEnv :=
  { pipeSetting with
    driver := fun id call env =>
      { pipeSetting.driver id call env with
        raised := match id, call with
          | 0, .input _ => .reading
          | _, _ => .none } }

def hailingWorld : World PipeEnv where
  channels := [
    { name := "source", type := "file", mode := .readOnly, blocking := false, bufferSize := 2
      input := [1], handlers := [⟨1, .reading, .routine 0⟩], lastHandler := 1 },
    { name := "target", type := "file", mode := .writeOnly, output := ByteQueue.empty.push [0] }]
  env := { left := [2, 3, 4] }

theorem ready_hailing : pipeRoute.Ready hailingWorld where
  reads := rfl
  writes := rfl
  sourceFree := rfl
  targetFree := rfl
  unreported := rfl
  sourceSound := Channel.sound_of_new rfl rfl
  targetSound := Channel.sound_of_new rfl rfl
  sourceCalls := by
    intro h hMem k hCopy
    obtain rfl := List.mem_singleton.1 hMem
    cases hCopy
  targetCalls h hMem := by cases hMem

/-- The routine does nothing, so all goes well as long as the drivers do as they are asked. -/
theorem favourable_hailing {α : Type} {p : Program PipeEnv α} {events : List (Event PipeEnv)}
    {a : α} {w : World PipeEnv} {stream : Bytes}
    (run : hailingSetting.Runs p hailingWorld events a w)
    (drives : pipeRoute.Drives hailingSetting.toSurroundings events (·.isPrompt))
    (feeds : pipeRoute.Feeds hailingSetting.toSurroundings events stream) :
    pipeRoute.Favourable hailingSetting stream p hailingWorld := by
  intro first v begun
  obtain ⟨second, rfl⟩ := begun.at_start run
  refine ⟨drives.left, feeds.left, fun _ u v _ => ⟨[], u.unit, v, .done _ v⟩, ?_⟩
  intro _ u v inner _ idle e hMem
  cases idle
  cases hMem

/-- Three bytes are copied, at once or first two and then one. -/
theorem copy_completes_hailing : ∃ events w, hailingSetting.Runs (Program.copy 0 1 (some 3))
      hailingWorld events (.ok 3) w ∧
    pipeRoute.taken hailingSetting.toSurroundings events = [0, 1, 2, 3] ∧
    pipeRoute.readable hailingSetting.toSurroundings events w [2, 3, 4] = [4] ∧
    (w.channel 0).blocking = false ∧
    ∃ n m events' w', hailingSetting.Runs (Program.copyTwice 0 1 2 1) hailingWorld events'
        (.ok n, .ok m) w' ∧
      n + m = 3 ∧ pipeRoute.taken hailingSetting.toSurroundings events' = [0, 1, 2, 3] := by
  have hTrace : (hailingSetting.trace 9 (Program.copy 0 1 (some 3)) hailingWorld).any
      (fun r => decide (pipeRoute.Drives hailingSetting.toSurroundings r.1 (·.isPrompt) ∧
        pipeRoute.Feeds hailingSetting.toSurroundings r.1 [2, 3, 4])) = true := by decide +kernel
  have hTrace' : (hailingSetting.trace 9 (Program.copyTwice 0 1 2 1) hailingWorld).any
      (fun r => decide (pipeRoute.Drives hailingSetting.toSurroundings r.1 (·.isPrompt) ∧
        pipeRoute.Feeds hailingSetting.toSurroundings r.1 [2, 3, 4])) = true := by decide +kernel
  obtain ⟨_, _, _, run, hChecked⟩ := Setting.exists_runs hTrace
  obtain ⟨_, _, _, run', hChecked'⟩ := Setting.exists_runs hTrace'
  obtain ⟨drives, feeds⟩ := of_decide_eq_true hChecked
  obtain ⟨drives', feeds'⟩ := of_decide_eq_true hChecked'
  obtain ⟨⟨total, events, w, moved, copied, hModes⟩, hTwice⟩ :=
    copy_completes ready_hailing (favourable_hailing run drives feeds)
  obtain ⟨n, m, events₂, w₂, events₁, w₁, twice, once, hTaken, -⟩ :=
    hTwice 2 1 rfl (favourable_hailing run' drives' feeds')
  obtain rfl : total = 3 := copied.count
  obtain ⟨rfl, hSum, rfl⟩ := once.unique moved
  refine ⟨_, _, moved, copied.taken, copied.rest, (hModes 0 (.inl rfl)).1, n, m, events₂, w₂, twice,
    ?_, hTaken.trans copied.taken⟩
  exact Except.ok.inj hSum

end EventChannel
