import EventChannel.Proofs.Copy.Background
import EventChannel.Proofs.Copy.Foreground

/-! Whatever comes up on its channels, and when, a copy in the background comes to what a copy comes
to that its caller waits for: the same bytes of the source have reached the target, and the same
bytes are left. -/

namespace EventChannel

namespace Route

variable {σ : Type} {r : Route} {s : Setting σ} {start w : World σ} {events : List (Event σ)}
  {stream : Bytes}

/-- The route of the same copy, if its caller waits for it. -/
def waited (r : Route) : Route := { r with onDone? := none }

theorem Apart.waited {e : Event σ} (apart : r.Apart e) : r.waited.Apart e := by
  cases e with
  | made t w => exact apart
  | called c w =>
    cases c with
    | user u => cases u <;> rfl
    | _ => rfl

theorem Origin.waited (origin : r.Origin start) : r.waited.Origin start :=
  ⟨origin.source, origin.target, origin.copy, origin.sourceCalls, origin.targetCalls,
    origin.sourceSound, origin.targetSound⟩

/-- A copy that is waited for, on drivers that do as they are asked, copies all it can. -/
theorem copied_of_waited (origin : r.Origin start)
    (hUnreported : (start.channel r.target).unreported? = none)
    (hTaken : start.copyObstacle? r.source r.target = none) (spares : s.Spares r)
    {answer : Except Report Nat}
    (run : s.Runs (Program.copy r.source r.target r.limit?) start events answer w)
    (drives : r.Drives s.toSurroundings events (·.isPrompt))
    (feeds : r.Feeds s.toSurroundings events stream) :
    ∃ total, answer = .ok total ∧ r.Copied s.toSurroundings start events w stream total := by
  have hEvent routine id ready : r.speaks (.user (.event routine id ready)) = false := rfl
  have honours : (r.hushed s).Honours
      (r.waited.foreground s.toSurroundings start (fun u => r.speaks (.user u) = false) 0)
      (Hushed fun u => r.speaks (.user u) = false) :=
    honours_foreground (r := r.waited) hEvent origin.waited hUnreported rfl
      (fun u w inner w' begun e hMem => (hushed_apart spares begun e hMem).waited)
      fun u w inner w' begun u' v hMem => hushed_apart spares begun _ hMem
  have hProgram : (Program.copy r.waited.source r.waited.target r.waited.limit?).wp s.toSurroundings
      (r.waited.foreground s.toSurroundings start (fun u => r.speaks (.user u) = false) 0)
      (fun past answer w => r.waited.Drives s.toSurroundings past r.waited.kind →
        ∃ c, answer = .ok c.total ∧ r.waited.Over s.toSurroundings start past w c) [] start :=
    wp_copyWaited hEvent origin.waited hUnreported rfl hTaken fun _ _ _ h => h
  have hReplaced : Without (r.speaks · = true) events ∧
      (r.hushed s).Runs (Program.copy r.source r.target r.limit?) start events answer w ∨
        (r.hushed s).StopsIn (r.speaks · = true) (Program.copy r.source r.target r.limit?) start
          events :=
    run.replaced (r.hushed_same s)
  rcases hReplaced with ⟨-, run'⟩ | ⟨before, call, v, after, rfl, hStops, -, run'⟩
  · obtain ⟨c, hAnswer, ended⟩ := (run'.of_wp honours hProgram).1 drives
    have copied := ended.copied origin.waited ended.stop drives ⟨feeds.given, feeds.ends⟩
    exact ⟨c.total, hAnswer, copied.count, copied.taken, copied.emptied, copied.rest⟩
  · have hSilent := run'.of_wp honours hProgram before call v [] rfl
    cases call with
    | user u => exact absurd hStops (Bool.eq_false_iff.1 hSilent)
    | _ => cases hStops

end Route

/-- A copy in the background agrees with a copy that is waited for. In whatever order conditions
come up, what its target has taken or still holds are the first bytes of the supply, as many as are
counted. That is so while a routine is called too, but not all need be counted then. When the copy
ends it has not failed, and it has copied as much as it can. A copy that is waited for answers and
leaves behind the same. -/
theorem background_agrees {σ : Type} {s : Setting σ} {r : Route} {routine : RoutineId}
    {start w : World σ} {schedule : List (ChannelId × Interest)} {events : List (Event σ)}
    {stream : Bytes} (hOnDone : r.onDone? = some routine) (origin : r.Origin start)
    (hUnreported : (start.channel r.target).unreported? = none)
    (hEof : (start.channel r.source).eof = false) (spares : s.Spares r)
    (hSchedule : ∀ occasion ∈ schedule, occasion.1 = r.source ∨ occasion.1 = r.target)
    (run : s.Begins (Program.copyAmid r.source r.target r.limit? routine schedule) start events w)
    (drives : r.Drives s.toSurroundings events (·.isMild))
    (feeds : r.Feeds s.toSurroundings events stream) :
    (s.Runs (Program.copyAmid r.source r.target r.limit? routine schedule) start events (.ok ()) w →
      (Without (r.speaks · = true) events ∨ ∀ u v inner v', r.speaks (.user u) = true →
        s.Begins (s.routine u) v inner v' → ∀ e ∈ inner, r.Apart e) →
      r.Delivers s.toSurroundings start events w stream (w.copy r.copy).total) ∧
    (∀ before u v after, events = before ++ .called (.user u) v :: after →
      Without (r.speaks · = true) before →
      ∃ n, (v.copy r.copy).total ≤ n ∧ r.Delivers s.toSurroundings start before v stream n) ∧
    ∀ before total error? v after,
      events = before ++ .called (.user (.completed routine total error?)) v :: after →
      Without (r.speaks · = true) before →
      error? = none ∧ r.Copied s.toSurroundings start before v stream total ∧
        ∀ events' answer w',
          s.Runs (Program.copy r.source r.target r.limit?) start events' answer w' →
          r.Drives s.toSurroundings events' (·.isPrompt) →
          r.Feeds s.toSurroundings events' stream →
          answer = .ok total ∧
            r.taken s.toSurroundings events' = r.taken s.toSurroundings before ∧
            (w'.channel r.target).output.toBytes = [] ∧
            r.readable s.toSurroundings events' w' stream =
              r.readable s.toSurroundings before v stream := by
  have hKind : r.kind = (·.isMild) := by rw [Route.kind, hOnDone]; rfl
  rw [← hKind] at drives
  refine ⟨fun ended hEnd => ?_, ?_, ?_⟩
  · cases Route.rests_of_runs hOnDone origin spares hSchedule ended hEnd with
    | resting c phase level =>
      rw [level.record, ← level.count]
      exact level.delivers origin drives feeds
    | done c phase error? ends =>
      obtain rfl := ends.clean origin hUnreported drives
      cases ends.outcome with
      | copied told all count clear stop =>
        rw [ends.record, ← count]
        exact ends.delivers origin drives feeds
  · rintro before u v after rfl hBefore
    obtain ⟨⟨c, ground⟩, -⟩ :=
      Route.finds_of_begins hOnDone origin spares hSchedule run rfl hBefore
    exact ⟨_, ground.record ▸ ground.total, ground.delivers origin drives.left feeds.left⟩
  · rintro before total error? v after rfl hBefore
    obtain ⟨⟨c, ground⟩, hCompleted⟩ :=
      Route.finds_of_begins hOnDone origin spares hSchedule run rfl hBefore
    obtain ⟨-, hTotal, ends⟩ := hCompleted routine total error? rfl hOnDone
    obtain rfl := ends.clean origin hUnreported drives.left
    have copied := ends.copied origin (ends.stop hEof) drives.left feeds.left
    rw [hTotal] at copied
    refine ⟨rfl, copied, fun events' answer w' waited drives' feeds' => ?_⟩
    obtain ⟨total', rfl, copied'⟩ := Route.copied_of_waited origin hUnreported ground.taken
      spares waited drives' feeds'
    obtain rfl : total' = total := copied'.count.trans copied.count.symm
    exact ⟨rfl, copied'.taken.trans copied.taken.symm, copied'.emptied,
      copied'.rest.trans copied.rest.symm⟩

/-- One byte waits on a source whose driver gives three more, two at a time. Another waits on a
target whose driver takes one byte at a time; in the background it would have to wait every other
time. -/
structure PipeEnv where
  left : Bytes
  blocking : Bool := true
  ready : Bool := false

def pipeSetting : Setting PipeEnv where
  driver id call env := match id, call with
    | 0, .input room =>
      { answer := .ok ⟨(env.left.take 2).take room, List.length_take_le _ _⟩
        env := { env with left := env.left.drop (min 2 room) } }
    | 1, .setBlocking on => { answer := .ok (), env := { env with blocking := on } }
    | 1, .output bytes =>
      if env.blocking || env.ready then
        { answer := .ok ⟨min 1 bytes.length, Nat.min_le_right _ _⟩
          env := { env with ready := false } }
      else { answer := .error .wouldBlock, env := { env with ready := true } }
    | _, call => { answer := call.unsupported, env }
  ready _ _ := .none
  users _ _ := false
  routine u := .done u.unit
  fire _ _ := .done ()

def pipeWorld : World PipeEnv where
  channels := [
    { name := "source", type := "file", mode := .readOnly, bufferSize := 2, input := [1] },
    { name := "target", type := "file", mode := .writeOnly, output := ByteQueue.empty.push [0] }]
  env := { left := [2, 3, 4] }

def pipeRoute : Route where
  source := 0
  target := 1
  copy := 0
  limit? := some 3
  onDone? := some 0
  distinct := Nat.zero_ne_one

def pipeSchedule : List (ChannelId × Interest) :=
  [(1, .writing), (0, .reading), (1, .writing), (1, .writing)]

theorem origin_pipe : pipeRoute.Origin pipeWorld where
  source := by decide
  target := by decide
  copy := rfl
  sourceCalls handler hMem := by cases hMem
  targetCalls handler hMem := by cases hMem
  sourceSound := Channel.sound_of_new rfl rfl
  targetSound := Channel.sound_of_new rfl rfl

theorem spares_pipe : pipeSetting.Spares pipeRoute := by
  intro u w inner w' _ begun e hMem
  cases begun
  cases hMem

/-- The copy in the background ends after four events, that which is waited for at once; both have
moved the three bytes that they may. -/
theorem background_agrees_pipe :
    ∃ events w before error? v after, pipeSetting.Runs
        (Program.copyAmid 0 1 (some 3) 0 pipeSchedule) pipeWorld events (.ok ()) w ∧
      events = before ++ .called (.user (.completed 0 3 error?)) v :: after ∧ error? = none ∧
      pipeRoute.taken pipeSetting.toSurroundings before = [0, 1, 2, 3] ∧
      ∃ events' w', pipeSetting.Runs (Program.copy 0 1 (some 3)) pipeWorld events' (.ok 3) w' ∧
        pipeRoute.taken pipeSetting.toSurroundings events' = [0, 1, 2, 3] := by
  have hTrace : (pipeSetting.trace 3 (Program.copyAmid 0 1 (some 3) 0 pipeSchedule) pipeWorld).any
      (fun r => r.2.1.isOk && decide (pipeRoute.Drives pipeSetting.toSurroundings r.1 (·.isMild) ∧
        pipeRoute.Feeds pipeSetting.toSurroundings r.1 [2, 3, 4] ∧
        ¬Without (pipeRoute.speaks · = true) r.1)) = true := by decide +kernel
  have hTrace' : (pipeSetting.trace 9 (Program.copy 0 1 (some 3)) pipeWorld).any
      (fun r => decide (pipeRoute.Drives pipeSetting.toSurroundings r.1 (·.isPrompt) ∧
        pipeRoute.Feeds pipeSetting.toSurroundings r.1 [2, 3, 4])) = true := by decide +kernel
  obtain ⟨⟨events, answer, w⟩, traced, hChecked⟩ := (Option.any_eq_true _ _).1 hTrace
  obtain ⟨⟨events', answer', w'⟩, traced', hChecked'⟩ := (Option.any_eq_true _ _).1 hTrace'
  obtain ⟨hOk, hChecked⟩ := Bool.and_eq_true_iff.1 hChecked
  obtain ⟨drives, feeds, hEnds⟩ := of_decide_eq_true hChecked
  obtain ⟨drives', feeds'⟩ := of_decide_eq_true hChecked'
  have run := Setting.runs_of_trace traced
  have run' := Setting.runs_of_trace traced'
  obtain ⟨before, call, v, after, rfl, hStops, hBefore⟩ :=
    (Without.or_first _ events).resolve_left hEnds
  obtain ⟨-, -, hEnd⟩ := background_agrees (r := pipeRoute) rfl origin_pipe rfl rfl spares_pipe
    (by decide) run.begins drives feeds
  obtain ⟨total, error?, rfl⟩ : ∃ total error?, call = .user (.completed 0 total error?) := by
    cases call with
    | user u =>
      cases u with
      | completed routine total error? =>
        obtain rfl : 0 = routine := Option.some.inj (of_decide_eq_true hStops)
        exact ⟨total, error?, rfl⟩
      | _ => cases hStops
    | _ => cases hStops
  obtain ⟨hNone, copied, hWaited⟩ := hEnd before total error? v after rfl hBefore
  obtain ⟨hAnswer', hTaken', -, -⟩ := hWaited events' answer' w' run' drives' feeds'
  obtain rfl : total = 3 := copied.count
  obtain rfl : answer = .ok () := by
    cases answer with
    | error report => cases hOk
    | ok done => rfl
  rw [hAnswer'] at run'
  exact ⟨_, w, before, error?, v, after, run, rfl, hNone, copied.taken, events', w', run',
    hTaken'.trans copied.taken⟩

end EventChannel
