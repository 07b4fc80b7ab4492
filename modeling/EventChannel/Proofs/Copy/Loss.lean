import EventChannel.Proofs.Copy.Background
import EventChannel.Proofs.Copy.Streams

/-! Where writing to the target fails, bytes are lost. A copy that meets the failure itself tells it
at its end. One that was met in the background waits on the target; the copy tells it if it writes
once more. If it does not, it ends without a word about the bytes that are lost. -/

namespace EventChannel

/-- Lists that are each no longer than their counterparts are no longer together; one that is
shorter makes them shorter. -/
theorem length_flatMap_le {α : Type 1} {β : Type} {f g : α → List β} {l : List α}
    (hLe : ∀ x ∈ l, (f x).length ≤ (g x).length) :
    (l.flatMap f).length ≤ (l.flatMap g).length ∧
      ((∃ x ∈ l, (f x).length < (g x).length) → (l.flatMap f).length < (l.flatMap g).length) := by
  induction l with
  | nil => exact ⟨Nat.le_refl _, fun ⟨x, hMem, _⟩ => by cases hMem⟩
  | cons x rest ih =>
    obtain ⟨hRest, hShorter⟩ := ih fun y hMem => hLe y (List.mem_cons_of_mem x hMem)
    have hHead := hLe x List.mem_cons_self
    simp only [List.flatMap_cons, List.length_append]
    refine ⟨Nat.add_le_add hHead hRest, ?_⟩
    rintro ⟨y, hMem, hLt⟩
    rcases List.mem_cons.1 hMem with rfl | hMem
    · exact Nat.add_lt_add_of_lt_of_le hLt hRest
    · exact Nat.add_lt_add_of_le_of_lt hHead (hShorter ⟨y, hMem, hLt⟩)

namespace Route

variable {σ : Type} {r : Route} {s : Surroundings σ} {start w : World σ} {past : List (Event σ)}
  {c : Copy} {error? : Option Report}

/-- No more is taken than was written, and less if writing fails. -/
theorem Ground.taken_le (ground : r.Ground s start past w c) (origin : r.Origin start)
    (hEmpty : (w.channel r.target).output.toBytes = []) :
    (r.taken s past).length ≤
        (start.channel r.target).output.toBytes.length + (r.written past).length ∧
      (r.met s past ≠ [] → (r.taken s past).length <
        (start.channel r.target).output.toBytes.length + (r.written past).length) := by
  obtain ⟨hStream, -⟩ := ground.history.output origin.target origin.alone ground.targetOpen
  obtain ⟨-, hEach⟩ := ground.history.each_delivers origin.target origin.alone ground.targetOpen
  have hLength := congrArg List.length hStream
  rw [hEmpty, List.append_nil, List.length_append] at hLength
  have hLe : ∀ e ∈ past, (e.sent s r.target).length ≤ (e.spent s r.target).length := by
    intro e hMem
    by_cases hMet : e.met s r.target = []
    · exact Nat.le_of_eq (congrArg List.length (Event.spent_of_noFailure hMet).symm)
    · exact Nat.le_of_lt (e.loses (hEach e hMem).1 (hEach e hMem).2.2 hMet)
  obtain ⟨hAll, hShorter⟩ := length_flatMap_le hLe
  refine ⟨Nat.le_trans hAll (Nat.le_of_eq hLength.symm), fun hMet => ?_⟩
  obtain ⟨f, hFailure⟩ := List.exists_mem_of_ne_nil _ hMet
  obtain ⟨e, hMem, hFailed⟩ := List.mem_flatMap.1 hFailure
  have hLoses := e.loses (hEach e hMem).1 (hEach e hMem).2.2 (List.ne_nil_of_mem hFailed)
  exact Nat.lt_of_lt_of_eq (hShorter ⟨e, hMem, hLoses⟩) hLength.symm

/-- What has been copied has been taken, behind what waited before, exactly if nothing has failed
that waits to be told. -/
theorem Ends.taken_iff (ends : r.Ends s start past w c none) (origin : r.Origin start) :
    (r.read s past).length = c.total ∧
      ((r.taken s past).drop (start.channel r.target).output.toBytes.length = r.read s past ↔
        c.total = 0 ∨ (w.channel r.target).unreported? = none) := by
  cases ends.outcome with
  | copied told all count clear stop =>
    have hReports := ends.reports origin
    rw [told, List.nil_append] at hReports
    obtain ⟨hTaken, hShorter⟩ := ends.taken_le origin ends.empty
    refine ⟨all ▸ count, ?_⟩
    rw [all]
    constructor
    · intro hAll
      by_cases hZero : c.total = 0
      · exact .inl hZero
      · have hMet : r.met s past = [] := by
          by_cases hMet : r.met s past = []
          · exact hMet
          · have hLength := congrArg List.length hAll
            rw [List.length_drop] at hLength
            have hLess := hShorter hMet
            omega
        have hUnreported := clear (List.ne_nil_of_length_pos (by omega))
        rw [hUnreported, hMet] at hReports
        exact .inr (Option.toList_eq_nil_iff.1 hReports.symm)
    · rintro (hZero | hParked)
      · have hNone : r.written past = [] := List.eq_nil_of_length_eq_zero (count.trans hZero)
        rw [hNone, List.length_nil, Nat.add_zero] at hTaken
        rw [hNone, List.drop_of_length_le hTaken]
      · rw [hParked] at hReports
        have hOutput := ends.output origin (List.append_eq_nil_iff.1 hReports).2
        rw [ends.empty, List.append_nil] at hOutput
        rw [hOutput, List.drop_left]

/-- A failure to write that a copy has met is told at its end, unless it waits on the target. -/
theorem Ends.told_of_met (ends : r.Ends s start past w c error?) (origin : r.Origin start)
    (hParked : (w.channel r.target).unreported? = none) :
    ∀ f ∈ r.met s past, error? =
      some (Program.writeReport (start.channel r.target).name (.driver f)) := by
  intro f hMet
  have hReports := ends.reports origin
  rw [hParked] at hReports
  have hTold : f ∈ r.told s past := by
    have hMem := List.mem_append_right (start.channel r.target).unreported?.toList hMet
    rw [hReports] at hMem
    simpa using hMem
  cases ends.outcome with
  | copied told | unread report told =>
    rw [told] at hTold
    cases hTold
  | unwritten g told =>
    rw [told, List.mem_singleton] at hTold
    rw [hTold]

/-- While a failure waits on the target, a copy that has ended has told none. -/
theorem Ends.told_of_parked (ends : r.Ends s start past w c error?)
    (hParked : (w.channel r.target).unreported? ≠ none) : r.told s past = [] := by
  cases ends.outcome with
  | copied told | unread report told => exact told
  | unwritten f told parked => exact absurd parked hParked

end Route

/-- What a copy in the background tells of what it has lost, when its routine is called at its end.
If it tells no failure, the driver of its target has taken all that it has copied, unless there was
something to copy and a failure waits on the target. If none waits there, the copy tells each that
it has met; else it tells none. -/
theorem loss_told_unless_parked {σ : Type} {s : Setting σ} {r : Route} {routine : RoutineId}
    {start w : World σ} {schedule : List (ChannelId × Interest)} {events : List (Event σ)}
    (hOnDone : r.onDone? = some routine) (origin : r.Origin start) (spares : s.Spares r)
    (hSchedule : ∀ occasion ∈ schedule, occasion.1 = r.source ∨ occasion.1 = r.target)
    (run : s.Begins (Program.copyAmid r.source r.target r.limit? routine schedule) start events w) :
    ∀ before total error? v after,
      events = before ++ .called (.user (.completed routine total error?)) v :: after →
      Without (r.speaks · = true) before →
      (error? = none → (r.read s.toSurroundings before).length = total ∧
        ((r.taken s.toSurroundings before).drop (start.channel r.target).output.toBytes.length =
            r.read s.toSurroundings before ↔
          total = 0 ∨ (v.channel r.target).unreported? = none)) ∧
      ((v.channel r.target).unreported? = none → ∀ f ∈ r.met s.toSurroundings before,
        error? = some (Program.writeReport (start.channel r.target).name (.driver f))) ∧
      ((v.channel r.target).unreported? ≠ none → r.told s.toSurroundings before = []) := by
  rintro before total error? v after rfl hBefore
  obtain ⟨-, hCompleted⟩ := Route.finds_of_begins hOnDone origin spares hSchedule run rfl hBefore
  obtain ⟨-, hTotal, ends⟩ := hCompleted routine total error? rfl hOnDone
  refine ⟨?_, ends.told_of_met origin, ends.told_of_parked⟩
  rintro rfl
  rw [← hTotal]
  exact ends.taken_iff origin

/-- Two bytes wait on a source. The driver of the target first has to wait and then fails. -/
def lossySetting : Setting Bool where
  driver id call failing := match id, call with
    | 1, .output _ =>
      { answer := .error (if failing then ⟨.number Errno.brokenPipe, none⟩ else .wouldBlock)
        env := true }
    | _, call => { answer := call.unsupported, env := failing }
  ready _ _ := .none
  users _ _ := false
  routine u := .done u.unit
  fire _ _ := .done ()

def lossyWorld : World Bool where
  channels := [
    { name := "source", type := "file", mode := .readOnly, input := [1, 2] },
    { name := "target", type := "file", mode := .writeOnly }]
  env := false

def lossyRoute : Route where
  source := 0
  target := 1
  copy := 0
  limit? := some 2
  onDone? := some 0
  distinct := Nat.zero_ne_one

theorem origin_lossy : lossyRoute.Origin lossyWorld where
  source := by decide
  target := by decide
  copy := rfl
  sourceCalls handler hMem := by cases hMem
  targetCalls handler hMem := by cases hMem
  sourceSound := Channel.sound_of_new rfl rfl
  targetSound := Channel.sound_of_new rfl rfl

theorem spares_lossy : lossySetting.Spares lossyRoute := by
  intro u w inner w' _ begun e hMem
  cases begun
  cases hMem

/-- The copy waits for its target to take more. When conditions come up there, the output fails in
the background, and the copy ends. -/
theorem runs_lossy :
    ∃ events w before v after, lossySetting.Runs
        (Program.copyAmid 0 1 (some 2) 0 [(1, .writing)]) lossyWorld events (.ok ()) w ∧
      events = before ++ .called (.user (.completed 0 2 none)) v :: after ∧
      Without (lossyRoute.speaks · = true) before ∧
      lossyRoute.taken lossySetting.toSurroundings before = [] := by
  have hTrace : (lossySetting.trace 3 (Program.copyAmid 0 1 (some 2) 0 [(1, .writing)])
      lossyWorld).any (fun r => r.2.1.isOk &&
        decide (lossyRoute.taken lossySetting.toSurroundings r.1 = [] ∧
          Without (fun call => lossyRoute.speaks call = true ∧
            call ≠ .user (.completed 0 2 none)) r.1 ∧
          ¬Without (lossyRoute.speaks · = true) r.1)) = true := by decide +kernel
  obtain ⟨⟨events, answer, w⟩, traced, hChecked⟩ := (Option.any_eq_true _ _).1 hTrace
  obtain ⟨hOk, hChecked⟩ := Bool.and_eq_true_iff.1 hChecked
  obtain ⟨hTaken, hOnly, hEnds⟩ := of_decide_eq_true hChecked
  obtain rfl : answer = .ok () := by
    cases answer with
    | error report => cases hOk
    | ok done => rfl
  obtain ⟨before, call, v, after, rfl, hStops, hBefore⟩ :=
    (Without.or_first _ events).resolve_left hEnds
  obtain rfl : call = .user (.completed 0 2 none) :=
    Decidable.byContradiction fun hOther => hOnly call v (by simp) ⟨hStops, hOther⟩
  have hTaken' := hTaken
  rw [Route.taken, List.flatMap_append] at hTaken'
  exact ⟨_, w, before, v, after, Setting.runs_of_trace traced, rfl, hBefore,
    (List.append_eq_nil_iff.1 hTaken').1⟩

/-- The copy has told that it has moved two bytes, and no failure, but the driver of the target has
taken none. -/
theorem copied_bytes_lost :
    ∃ events w before v after, lossySetting.Runs
        (Program.copyAmid 0 1 (some 2) 0 [(1, .writing)]) lossyWorld events (.ok ()) w ∧
      events = before ++ .called (.user (.completed 0 2 none)) v :: after ∧
      Without (lossyRoute.speaks · = true) before ∧
      (lossyRoute.read lossySetting.toSurroundings before).length = 2 ∧
      lossyRoute.taken lossySetting.toSurroundings before = [] := by
  obtain ⟨_, w, before, v, after, run, rfl, hBefore, hTaken⟩ := runs_lossy
  have hFinds := Route.finds_of_begins (r := lossyRoute) rfl origin_lossy spares_lossy (by decide)
    run.begins rfl hBefore
  obtain ⟨-, hTotal, ends⟩ := hFinds.completed 0 2 none rfl rfl
  exact ⟨_, w, before, v, after, run, rfl, hBefore,
    (ends.taken_iff origin_lossy).1.trans hTotal, hTaken⟩

/-- The failure waits on the target, and the copy has told none. -/
theorem loss_told_unless_parked_lossy :
    ∃ events w before v after, lossySetting.Runs
        (Program.copyAmid 0 1 (some 2) 0 [(1, .writing)]) lossyWorld events (.ok ()) w ∧
      events = before ++ .called (.user (.completed 0 2 none)) v :: after ∧
      (v.channel 1).unreported? ≠ none ∧
      lossyRoute.told lossySetting.toSurroundings before = [] := by
  obtain ⟨_, w, before, v, after, run, rfl, hBefore, hTaken⟩ := runs_lossy
  obtain ⟨hSilent, -, hTold⟩ := loss_told_unless_parked (r := lossyRoute) rfl origin_lossy
    spares_lossy (by decide) run.begins before 2 none v after rfl hBefore
  obtain ⟨hCount, hAll⟩ := hSilent rfl
  have hParked : (v.channel 1).unreported? ≠ none := by
    intro hNone
    have hRead := hAll.2 (.inr hNone)
    rw [hTaken, List.drop_nil] at hRead
    rw [← hRead] at hCount
    cases hCount
  exact ⟨_, w, before, v, after, run, rfl, hParked, hTold hParked⟩

end EventChannel
