import EventChannel.Proofs.Copy.Route

/-! While a copy is at work its steps are interrupted: when one of its channels is let go of,
conditions come up on it, output of it is written in the background, and handlers are called. What
such an interlude can do to the copy is bounded here. It reads nothing and writes nothing new, and
on the other channel nothing happens at all. -/

namespace EventChannel

/-- The only copy that the handlers of a channel may call. -/
def Channel.CallsOnly (k : CopyId) (c : Channel) : Prop :=
  ∀ h ∈ c.handlers, ∀ j, h.callback = .copy j → j = k

/-- A channel serves a copy as it did before: it is open as before and in the same mode, and has got
no other handlers than for the copy. -/
structure Channel.Serves (k? : Option CopyId) (c c' : Channel) : Prop where
  name : c'.name = c.name
  isOpen : c'.isOpen = c.isOpen
  mode : c'.mode = c.mode
  handlers : ∀ h ∈ c'.handlers, h ∈ c.handlers ∨ ∃ k ∈ k?, h.callback = .copy k

namespace Channel.Serves

variable {k? : Option CopyId} {c c₁ c₂ : Channel}

theorem of_same (hName : c₁.name = c.name) (hOpen : c₁.isOpen = c.isOpen) (hMode : c₁.mode = c.mode)
    (hHandlers : c₁.handlers = c.handlers) : Serves k? c c₁ :=
  ⟨hName, hOpen, hMode, fun _ hMem => .inl (hHandlers ▸ hMem)⟩

theorem refl (c : Channel) : Serves k? c c := .of_same rfl rfl rfl rfl

theorem trans (left : Serves k? c c₁) (right : Serves k? c₁ c₂) : Serves k? c c₂ where
  name := right.name.trans left.name
  isOpen := right.isOpen.trans left.isOpen
  mode := right.mode.trans left.mode
  handlers h hMem := (right.handlers h hMem).elim (left.handlers h) .inr

theorem of_core (hCore : c₁.core = c.core) : Serves k? c c₁ := by
  rw [Channel.of_core hCore]
  exact .of_same rfl rfl rfl rfl

theorem of_flushed {calls : List DriverEvent} {failure? : Option DriverFailure}
    (flushed : c.Flushed calls failure? c₁) : Serves k? c c₁ := by
  rw [flushed.rest]
  exact .of_same rfl rfl rfl rfl

/-- Writing in the background changes nothing else about a channel. -/
theorem of_raise {calls : List DriverEvent} (effect : c.RaiseEffect calls c₁) :
    Serves k? c c₁ := by
  cases effect with
  | idle => exact refl c
  | written hPending flushed => exact of_flushed flushed
  | failed f hPending flushed =>
    have hServes : Serves k? c _ := of_flushed flushed
    exact ⟨hServes.name, hServes.isOpen, hServes.mode, hServes.handlers⟩

/-- What calls at most one copy still does so when it has served that copy. -/
theorem callsOnly {k : CopyId} (serves : Serves k? c c₁) (hOnly : ∀ j ∈ k?, j = k)
    (hCalls : c.CallsOnly k) : c₁.CallsOnly k := by
  intro h hMem j hCopy
  rcases serves.handlers h hMem with hOld | ⟨k', hServed, hCallback⟩
  · exact hCalls h hOld j hCopy
  · obtain rfl : k' = j := Callback.copy.inj (hCallback.symm.trans hCopy)
    exact hOnly k' hServed

end Channel.Serves

/-- The operation changes no more than the mode of a channel and its handlers, and adds none but for
the copy. -/
def ChannelOp.Tame (k? : Option CopyId) : ChannelOp → Prop
  | setBlocking _ | deleteHandler _ => True
  | createHandler _ callback => ∃ k ∈ k?, callback = .copy k
  | _ => False

theorem ChannelOp.tame_setBlocking (k? : Option CopyId) (on : Bool) :
    (setBlocking on).Tame k? := trivial

/-- What a tame operation may come to: it moves no bytes, and the channel goes on to serve. -/
theorem Channel.Effect.tame {k? : Option CopyId} {op : ChannelOp} {c c' : Channel}
    {calls : List DriverEvent} {answer : op.Answer} (effect : c.Effect op calls answer c')
    (tame : op.Tame k?) :
    op.returned answer = [] ∧ op.appended c = [] ∧ op.told c calls answer = [] ∧
      op.isSeek = false ∧ ∃ callback?, c.Calm callback? calls c' ∧ c.Serves k? c' := by
  have hServes {callback? : Option Callback} (calm : c.Calm callback? calls c')
      (hCallback : ∀ callback ∈ callback?, ∃ k ∈ k?, callback = .copy k) : c.Serves k? c' := by
    refine ⟨by rw [calm.rest], by rw [calm.rest], by rw [calm.rest], ?_⟩
    exact fun handler hMem => (calm.handlers handler hMem).imp_right (hCallback _)
  cases op with
  | setBlocking on =>
    refine ⟨rfl, rfl, ?_, rfl, none, effect.1, hServes effect.1 fun _ hMem => by cases hMem⟩
    cases answer <;> rfl
  | deleteHandler handler =>
    exact ⟨rfl, rfl, rfl, rfl, none, effect.1, hServes effect.1 fun _ hMem => by cases hMem⟩
  | createHandler mask callback =>
    refine ⟨rfl, rfl, rfl, rfl, some callback, effect.1, hServes effect.1 fun other hMem => ?_⟩
    rw [← Option.mem_some.1 hMem]
    exact tame
  | _ => exact tame.elim

/-- Where no output waits, none is written in the background, so nothing can fail. -/
theorem Channel.RaiseEffect.still {c c' : Channel} {calls : List DriverEvent}
    (effect : c.RaiseEffect calls c') (hEmpty : c.output.toBytes = []) :
    c'.output.toBytes = [] ∧ c'.unreported? = c.unreported? ∧ failures c.blocking calls = [] := by
  cases effect with
  | idle => exact ⟨hEmpty, rfl, rfl⟩
  | written hPending flushed =>
    have hStream := flushed.stream
    rw [hEmpty] at hStream
    exact ⟨(List.append_eq_nil_iff.1 hStream.symm).2, flushed.unreported, flushed.failures⟩
  | failed f hPending flushed => exact absurd hEmpty (flushed.waited rfl)

theorem Channel.RaiseEffect.modes {c c' : Channel} {calls : List DriverEvent}
    (effect : c.RaiseEffect calls c') : c'.eof = c.eof ∧ c'.blocking = c.blocking := by
  cases effect with
  | idle => exact ⟨rfl, rfl⟩
  | written hPending flushed => rw [flushed.rest]; exact ⟨rfl, rfl⟩
  | failed f hPending flushed => simp only; rw [flushed.rest]; exact ⟨rfl, rfl⟩

namespace Route

/-- The copy that handlers are created for. One that its caller waits for has none. -/
def hook? (r : Route) : Option CopyId := r.onDone?.map fun _ => r.copy

theorem copy_of_hook (r : Route) : ∀ j ∈ r.hook?, j = r.copy := by
  intro j hHook
  obtain ⟨-, -, rfl⟩ := Option.map_eq_some_iff.1 hHook
  rfl

theorem hook_of_onDone {r : Route} {routine : RoutineId} (hOnDone : r.onDone? = some routine) :
    r.copy ∈ r.hook? := by
  rw [hook?, hOnDone]
  rfl

/-- A step moves no bytes of the two channels of a route. It may concern their handlers, and the
mode of the target. -/
structure Quiet {σ α : Type} (r : Route) (s : Surroundings σ) (t : Step σ α) (w : World σ) :
    Prop where
  read : t.returned s r.source w = []
  written : t.appended r.target w = []
  told : t.told s r.target w = []
  met : failures (w.channel r.target).blocking (t.calls s r.target w) = []
  unsought : ¬t.Seeks r.source
  input : ((t.run s w).2.channel r.source).input = (w.channel r.source).input
  eof : ((t.run s w).2.channel r.source).eof = (w.channel r.source).eof
  source : (w.channel r.source).Serves r.hook? ((t.run s w).2.channel r.source)
  target : (w.channel r.target).Serves r.hook? ((t.run s w).2.channel r.target)
  output : ((t.run s w).2.channel r.target).output = (w.channel r.target).output
  parked : ((t.run s w).2.channel r.target).unreported? = (w.channel r.target).unreported?

namespace Quiet

variable {σ α : Type} {r : Route} {s : Surroundings σ} {w : World σ}

section Single

variable {t : Step σ α} (quiet : r.Quiet s t w)
include quiet

theorem read_single : r.read s [.made t w] = [] := (read_singleton _).trans quiet.read

theorem written_single : r.written [.made t w] = [] := (written_singleton _).trans quiet.written

theorem told_single : r.told s [.made t w] = [] := (told_singleton _).trans quiet.told

theorem met_single : r.met s [.made t w] = [] := (met_singleton _).trans quiet.met

end Single

/-- Of a channel that a step neither moves nor clears nothing is read and nothing written. -/
theorem nothing_moved (s : Surroundings σ) (w : World σ) (t : Step σ α) (id : ChannelId)
    (hMoves : ¬t.Moves id) :
    t.returned s id w = [] ∧ t.appended id w = [] ∧ t.told s id w = [] ∧ ¬t.Seeks id ∧
      failures (w.channel id).blocking (t.calls s id w) = [] := by
  obtain ⟨-, -, hFailures⟩ := spentBytes_of_noOutput (w.channel id).blocking fun e hMem =>
    (t.calls_control s w hMoves e hMem).2
  cases t with
  | hold j op =>
    exact ⟨if_neg hMoves, if_neg hMoves, if_neg hMoves, fun hSeeks => hMoves hSeeks.1, hFailures⟩
  | _ => exact ⟨rfl, rfl, rfl, fun hSeeks => hSeeks, hFailures⟩

theorem of_rest {t : Step σ α} (hSource : r.source < w.channels.length)
    (hTarget : r.target < w.channels.length) (source : ¬t.Moves r.source ∧ ¬t.Clears r.source)
    (target : ¬t.Moves r.target ∧ ¬t.Clears r.target) : r.Quiet s t w := by
  have hSourceCore := t.core_run s w hSource source
  have hTargetCore := t.core_run s w hTarget target
  obtain ⟨hRead, -, -, hSought, -⟩ := nothing_moved s w t r.source source.1
  obtain ⟨-, hWritten, hTold, -, hMet⟩ := nothing_moved s w t r.target target.1
  exact
    { read := hRead
      written := hWritten
      told := hTold
      met := hMet
      unsought := hSought
      input := by rw [Channel.of_core hSourceCore]
      eof := by rw [Channel.of_core hSourceCore]
      source := .of_core hSourceCore
      target := .of_core hTargetCore
      output := by rw [Channel.of_core hTargetCore]
      parked := by rw [Channel.of_core hTargetCore] }

/-- When conditions come up on the source, nothing happens to the target. -/
theorem of_raise_source (raised : Interest) (hSource : r.source < w.channels.length)
    (hTarget : r.target < w.channels.length) : r.Quiet s (.raise r.source raised) w := by
  have hEffect := (Step.raise_shows s w raised hSource).1
  have hTargetCore := (Step.raise r.source raised).core_run s w hTarget
    ⟨r.distinct, fun hClears => hClears⟩
  obtain ⟨-, hWritten, hTold, -, hMet⟩ :=
    nothing_moved s w (.raise r.source raised) r.target r.distinct
  exact
    { read := rfl
      written := hWritten
      told := hTold
      met := hMet
      unsought := fun hSeeks => hSeeks
      input := hEffect.input.2
      eof := hEffect.modes.1
      source := .of_raise hEffect
      target := .of_core hTargetCore
      output := by rw [Channel.of_core hTargetCore]
      parked := by rw [Channel.of_core hTargetCore] }

/-- A tame operation on one of the two channels moves no bytes of either. -/
theorem of_tame {id : ChannelId} {op : ChannelOp} (hId : id = r.source ∨ id = r.target)
    (tame : op.Tame r.hook?) (hSource : r.source < w.channels.length)
    (hTarget : r.target < w.channels.length) : r.Quiet s (.hold id op) w := by
  rcases hId with rfl | rfl
  · obtain ⟨c', hEffect, hChannel⟩ := Step.hold_shows s w op hSource
    obtain ⟨hReturned, -, -, hSeek, callback?, calm, serves⟩ := hEffect.tame tame
    have hTargetCore := (Step.hold r.source op).core_run s w hTarget
      ⟨r.distinct, fun hClears => hClears⟩
    obtain ⟨-, hWritten, hTold, -, hMet⟩ :=
      nothing_moved s w (.hold r.source op) r.target r.distinct
    exact
      { read := (if_pos rfl).trans hReturned
        written := hWritten
        told := hTold
        met := hMet
        unsought := fun hSeeks => Bool.noConfusion (hSeek.symm.trans hSeeks.2)
        input := by rw [hChannel, calm.rest]
        eof := by rw [hChannel, calm.rest]
        source := by
          rw [hChannel]
          exact serves.trans (.of_core rfl)
        target := .of_core hTargetCore
        output := by rw [Channel.of_core hTargetCore]
        parked := by rw [Channel.of_core hTargetCore] }
  · obtain ⟨c', hEffect, hChannel⟩ := Step.hold_shows s w op hTarget
    obtain ⟨-, hAppended, hTold, -, callback?, calm, serves⟩ := hEffect.tame tame
    have hSourceCore := (Step.hold r.target op).core_run s w hSource
      ⟨r.distinct.symm, fun hClears => hClears⟩
    obtain ⟨hRead, -, -, hSought, -⟩ :=
      nothing_moved s w (.hold r.target op) r.source r.distinct.symm
    obtain ⟨-, -, hMet⟩ := spentBytes_of_noOutput (w.channel r.target).blocking fun e hMem =>
      (calm.control e hMem).2
    exact
      { read := hRead
        written := (if_pos rfl).trans hAppended
        told := (if_pos rfl).trans hTold
        met := hMet
        unsought := hSought
        input := by rw [Channel.of_core hSourceCore]
        eof := by rw [Channel.of_core hSourceCore]
        source := .of_core hSourceCore
        target := by
          rw [hChannel]
          exact serves.trans (.of_core rfl)
        output := by rw [hChannel, calm.rest]
        parked := by rw [hChannel, calm.rest] }

end Quiet

/-- What may happen around a channel of the route while the copy is busy. -/
structure Interlude {σ : Type} (r : Route) (s : Surroundings σ) (id : ChannelId) (w : World σ)
    (inner : List (Event σ)) (w' : World σ) : Prop where
  leads : s.Leads w inner w'
  read : r.read s inner = []
  written : r.written inner = []
  told : r.told s inner = []
  unsought : ∀ e ∈ inner, ¬e.Seeks r.source
  input : (w'.channel r.source).input = (w.channel r.source).input
  eof : (w'.channel r.source).eof = (w.channel r.source).eof
  source : (w.channel r.source).Serves r.hook? (w'.channel r.source)
  target : (w.channel r.target).Serves r.hook? (w'.channel r.target)
  blocking : ∀ j, j = r.source ∨ j = r.target →
    (w'.channel j).blocking = (w.channel j).blocking
  /-- The output of the target stays where it is if the channel is another or there is none. -/
  still : id ≠ r.target ∨ (w.channel r.target).output.toBytes = [] →
    (w'.channel r.target).output.toBytes = (w.channel r.target).output.toBytes ∧
      (w'.channel r.target).unreported? = (w.channel r.target).unreported? ∧ r.met s inner = []
  met : (w.channel r.target).blocking = false ∧ r.Drives s inner (·.isMild) ∨
    r.Drives s inner (·.isPrompt) → r.met s inner = []
  copies : w.copies.length ≤ w'.copies.length
  copy : r.copy < w.copies.length → w'.copy r.copy = w.copy r.copy

namespace Interlude

variable {σ α : Type} {r : Route} {s : Surroundings σ} {id : ChannelId} {w w' w₁ w₂ : World σ}
  {first second : List (Event σ)}

theorem refl (w : World σ) : r.Interlude s id w [] w where
  leads := .refl
  read := rfl
  written := rfl
  told := rfl
  unsought e hMem := by cases hMem
  input := rfl
  eof := rfl
  source := .refl _
  target := .refl _
  blocking _ _ := rfl
  still _ := ⟨rfl, rfl, rfl⟩
  met _ := rfl
  copies := Nat.le_refl _
  copy _ := rfl

theorem trans (left : r.Interlude s id w first w₁) (right : r.Interlude s id w₁ second w₂) :
    r.Interlude s id w (first ++ second) w₂ where
  leads := left.leads.trans right.leads
  read := by rw [read_append, left.read, right.read]; rfl
  written := by rw [written_append, left.written, right.written]; rfl
  told := by rw [told_append, left.told, right.told]; rfl
  unsought e hMem := (List.mem_append.1 hMem).elim (left.unsought e) (right.unsought e)
  input := right.input.trans left.input
  eof := right.eof.trans left.eof
  source := left.source.trans right.source
  target := left.target.trans right.target
  blocking j hJ := (right.blocking j hJ).trans (left.blocking j hJ)
  still hStill := by
    obtain ⟨hOutput, hParked, hMet⟩ := left.still hStill
    obtain ⟨hOutput', hParked', hMet'⟩ := right.still (hStill.imp_right hOutput.trans)
    exact ⟨hOutput'.trans hOutput, hParked'.trans hParked, by rw [met_append, hMet, hMet']; rfl⟩
  met hDrives := by
    rw [met_append]
    rcases hDrives with ⟨hBlocking, hMild⟩ | hPrompt
    · rw [left.met (.inl ⟨hBlocking, hMild.left⟩),
        right.met (.inl ⟨(left.blocking _ (.inr rfl)).trans hBlocking, hMild.right⟩)]
      rfl
    · rw [left.met (.inr hPrompt.left), right.met (.inr hPrompt.right)]
      rfl
  copies := Nat.le_trans left.copies right.copies
  copy hExists :=
    (right.copy (Nat.lt_of_lt_of_le hExists left.copies)).trans (left.copy hExists)

/-- A step that moves no bytes is an interlude around any channel, if it changes neither the modes
of the two channels nor the record of the copy. -/
theorem of_quiet {t : Step σ α} (quiet : r.Quiet s t w)
    (hBlocking : ∀ j, j = r.source ∨ j = r.target →
      ((t.run s w).2.channel j).blocking = (w.channel j).blocking)
    (hRecopies : ¬t.Recopies r.copy) : r.Interlude s id w [.made t w] (t.run s w).2 := by
  obtain ⟨hCopies, hCopy⟩ := t.copies_run s w r.copy
  exact
    { leads := .snoc (.made t w) .refl
      read := quiet.read_single
      written := quiet.written_single
      told := quiet.told_single
      unsought := fun e hMem => by rw [List.mem_singleton.1 hMem]; exact quiet.unsought
      input := quiet.input
      eof := quiet.eof
      source := quiet.source
      target := quiet.target
      blocking := hBlocking
      still := fun _ =>
        ⟨congrArg ByteQueue.toBytes quiet.output, quiet.parked, quiet.met_single⟩
      met := fun _ => quiet.met_single
      copies := hCopies
      copy := fun hExists => hCopy hExists hRecopies }

/-- What goes on apart from the copy is an interlude around any channel. -/
theorem of_apart {t : Step σ α} (hSource : r.source < w.channels.length)
    (hTarget : r.target < w.channels.length) (apart : t.Apart r.source r.target r.copy) :
    r.Interlude s id w [.made t w] (t.run s w).2 := by
  refine .of_quiet (.of_rest hSource hTarget apart.source apart.target) ?_ apart.copy
  rintro j (rfl | rfl)
  · rw [Channel.of_core (t.core_run s w hSource apart.source)]
  · rw [Channel.of_core (t.core_run s w hTarget apart.target)]

/-- A call changes nothing by itself. -/
theorem of_called (id : ChannelId) (c : Call) (w : World σ) :
    r.Interlude s id w [.called c w] w where
  leads := .snoc (.called c w) .refl
  read := rfl
  written := rfl
  told := rfl
  unsought e hMem := by rw [List.mem_singleton.1 hMem]; exact fun hSeeks => hSeeks
  input := rfl
  eof := rfl
  source := .refl _
  target := .refl _
  blocking _ _ := rfl
  still _ := ⟨rfl, rfl, rfl⟩
  met _ := rfl
  copies := Nat.le_refl _
  copy _ := rfl

/-- Whatever a foreign routine does apart from the copy is an interlude. -/
theorem of_leads {events : List (Event σ)} (history : s.Leads w events w')
    (hSource : r.source < w.channels.length) (hTarget : r.target < w.channels.length)
    (apart : ∀ e ∈ events, r.Apart e) : r.Interlude s id w events w' := by
  induction history with
  | refl => exact .refl w
  | snoc e prior ih =>
    have hPrior := ih fun e' hMem => apart e' (List.mem_append_left _ hMem)
    have hLast := apart e (List.mem_append_right _ (List.mem_singleton_self e))
    apply hPrior.trans
    cases e with
    | made t w₁ =>
      exact .of_apart (Nat.lt_of_lt_of_le hSource prior.length)
        (Nat.lt_of_lt_of_le hTarget prior.length) hLast
    | called c w₁ => exact .of_called id c w₁

/-- When conditions come up on the source, nothing happens to the target. -/
theorem of_raise_source (raised : Interest) (hSource : r.source < w.channels.length)
    (hTarget : r.target < w.channels.length) :
    r.Interlude s r.source w [.made (.raise r.source raised) w]
      ((Step.raise r.source raised).run s w).2 := by
  refine .of_quiet (.of_raise_source raised hSource hTarget) ?_ fun hRecopies => hRecopies
  rintro j (rfl | rfl)
  · exact (Step.raise_shows s w raised hSource).1.modes.2
  · rw [Channel.of_core ((Step.raise r.source raised).core_run s w hTarget
      ⟨r.distinct, fun hClears => hClears⟩)]

/-- When conditions come up on the target, its output may be written in the background. -/
theorem of_raise_target (raised : Interest) (hSource : r.source < w.channels.length)
    (hTarget : r.target < w.channels.length) :
    r.Interlude s r.target w [.made (.raise r.target raised) w]
      ((Step.raise r.target raised).run s w).2 := by
  obtain ⟨hCopies, hCopy⟩ := (Step.raise r.target raised).copies_run s w r.copy
  have hEffect := (Step.raise_shows s w raised hTarget).1
  have hSourceCore := (Step.raise r.target raised).core_run s w hSource
    ⟨r.distinct.symm, fun hClears => hClears⟩
  have hMet : r.met s [.made (.raise r.target raised) w] =
      failures (w.channel r.target).blocking ((Step.raise r.target raised).calls s r.target w) :=
    met_singleton _
  exact
    { leads := .snoc (.made _ w) .refl
      read := rfl
      written := rfl
      told := rfl
      unsought := fun e hMem => by rw [List.mem_singleton.1 hMem]; exact fun hSeeks => hSeeks
      input := by rw [Channel.of_core hSourceCore]
      eof := by rw [Channel.of_core hSourceCore]
      source := .of_core hSourceCore
      target := .of_raise hEffect
      blocking := by
        rintro j (rfl | rfl)
        · rw [Channel.of_core hSourceCore]
        · exact hEffect.modes.2
      still := fun hStill => by
        rcases hStill with hOther | hEmpty
        · exact absurd rfl hOther
        · obtain ⟨hOutput, hParked, hFailures⟩ := hEffect.still hEmpty
          exact ⟨hOutput.trans hEmpty.symm, hParked, hMet.trans hFailures⟩
      met := fun hDrives => by
        rw [hMet]
        rcases hDrives with ⟨hBlocking, hMild⟩ | hPrompt
        · rw [hBlocking]
          exact DriverEvent.failures_of_mild (hMild _ (List.mem_singleton_self _)).2
        · exact DriverEvent.failures_of_prompt _ (hPrompt _ (List.mem_singleton_self _)).2
      copies := hCopies
      copy := fun hExists => hCopy hExists fun hRecopies => hRecopies }

end Interlude

end Route

end EventChannel
