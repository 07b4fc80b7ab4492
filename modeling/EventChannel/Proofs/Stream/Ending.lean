import EventChannel.Proofs.Stream.Inlet

/-! A read that gets no bytes has met the end of the file or would have had to wait, and two marks
of the channel say which. What a mark says is the last word of all that has happened: of the reads
that the driver has answered and, for the end of the file, also of the seeks and of the closing of
the reading side. A read that the driver fails has no word on the end of the file, so the mark of an
end that was met before stands beside that of a wait. -/

namespace EventChannel

namespace ChannelOp

/-- What an operation says about the end of the file, by its calls to the driver and its answer. -/
def ending? : (op : ChannelOp) → List DriverEvent → op.Answer → Option Bool
  | read _, [⟨.input _, .ok _⟩], .ok bytes => some bytes.isEmpty
  | seek _, _, .ok _ => some false
  | closeHalf .read, _, .ok .done => some true
  | _, _, _ => none

/-- What an operation says about having to wait, by its calls to the driver. -/
def waiting? : ChannelOp → List DriverEvent → Option Bool
  | read _, [⟨.input _, .ok _⟩] => some false
  | read _, [⟨.input _, .error f⟩] => some f.isWouldBlock
  | _, _ => none

end ChannelOp

namespace Channel

variable {c c' : Channel}

theorem ReadEffect.marks {n : Nat} {calls : List DriverEvent}
    {answer : Except TransferFailure Bytes} (effect : c.ReadEffect n calls answer c') :
    c'.eof = ((ChannelOp.read n).ending? calls answer).getD c.eof ∧
      c'.blocked = ((ChannelOp.read n).waiting? calls).getD c.blocked := by
  cases effect with
  | misused | buffered | given => exact ⟨rfl, rfl⟩
  | waits hInput f hWait => exact ⟨rfl, hWait.symm⟩
  | fails hInput f hWait => exact ⟨rfl, hWait.symm⟩

/-- An operation that does not read says what it says about the end of the file by its answer. -/
theorem eof_inlet {op : ChannelOp} (hRead : op.room? = none) (calls : List DriverEvent)
    (answer : op.Answer) : (op.inlet c answer).eof = (op.ending? calls answer).getD c.eof := by
  cases op with
  | read n => cases hRead
  | seek target => cases answer <;> rfl
  | closeHalf d => rcases d with _ | _ <;> rcases answer with r | _ | _ <;> rfl
  | _ => rfl

/-- An operation that does not read says nothing about having to wait. -/
theorem blocked_inlet {op : ChannelOp} (hRead : op.room? = none) (calls : List DriverEvent)
    (answer : op.Answer) : (op.inlet c answer).blocked = (op.waiting? calls).getD c.blocked := by
  cases op with
  | read n => cases hRead
  | seek target => cases answer <;> rfl
  | closeHalf d => rcases d with _ | _ <;> rcases answer with r | _ | _ <;> rfl
  | _ => rfl

end Channel

namespace Step

variable {σ α : Type} {s : Surroundings σ} {w : World σ} {id : ChannelId}

/-- What a step says about the end of the file of a channel. -/
def ending? (s : Surroundings σ) (id : ChannelId) : {α : Type} → Step σ α → World σ → Option Bool
  | _, .hold j op, w =>
    if j = id then op.ending? ((Step.hold j op).calls s id w) ((Step.hold j op).run s w).1.1
    else none
  | _, _, _ => none

/-- What a step says about having to wait for a channel. -/
def waiting? (s : Surroundings σ) (id : ChannelId) : {α : Type} → Step σ α → World σ → Option Bool
  | _, .hold j op, w => if j = id then op.waiting? ((Step.hold j op).calls s id w) else none
  | _, _, _ => none

/-- After a step the marks say what the step says, and where it says nothing, what they said. -/
theorem marks_run (t : Step σ α) (hExists : id < w.channels.length) :
    ((t.run s w).2.channel id).eof = (t.ending? s id w).getD (w.channel id).eof ∧
      ((t.run s w).2.channel id).blocked = (t.waiting? s id w).getD (w.channel id).blocked := by
  by_cases hHolds : t.HoldsAt id
  · cases t with
    | hold j op =>
      obtain rfl : j = id := hHolds
      rw [ending?, waiting?, if_pos rfl, if_pos rfl]
      cases hRead : op.room? with
      | none =>
        have hInlet := inlet_hold (s := s) hRead hExists
        exact ⟨(congrArg Inlet.eof hInlet).trans (Channel.eof_inlet hRead _ _),
          (congrArg Inlet.blocked hInlet).trans (Channel.blocked_inlet hRead _ _)⟩
      | some n =>
        cases op with
        | read n =>
          obtain ⟨c', hEffect, hChannel⟩ := hold_shows s w (.read n) hExists
          have hMarks := Channel.ReadEffect.marks hEffect
          rw [hChannel]
          exact hMarks
        | _ => cases hRead
    | _ => exact hHolds.elim
  · have hInlet := t.inlet_of_not_holds (s := s) hExists hHolds
    have hSilent : t.ending? s id w = none ∧ t.waiting? s id w = none := by
      cases t with
      | hold j op => exact ⟨if_neg hHolds, if_neg hHolds⟩
      | _ => exact ⟨rfl, rfl⟩
    rw [hSilent.1, hSilent.2]
    exact ⟨congrArg Inlet.eof hInlet, congrArg Inlet.blocked hInlet⟩

end Step

namespace Event

variable {σ : Type}

def ending? (s : Surroundings σ) (id : ChannelId) : Event σ → Option Bool
  | made t w => t.ending? s id w
  | called _ _ => none

def waiting? (s : Surroundings σ) (id : ChannelId) : Event σ → Option Bool
  | made t w => t.waiting? s id w
  | called _ _ => none

end Event

/-- The last word of some events. Where none of them says anything, what was said before stands. -/
def lastWord {σ : Type} (word? : Event σ → Option Bool) (earlier : Bool)
    (events : List (Event σ)) : Bool :=
  events.foldl (fun said e => (word? e).getD said) earlier

theorem lastWord_snoc {σ : Type} (word? : Event σ → Option Bool) (earlier : Bool)
    (events : List (Event σ)) (e : Event σ) :
    lastWord word? earlier (events ++ [e]) = (word? e).getD (lastWord word? earlier events) :=
  List.foldl_append

/-- The marks of a channel are the last word of its history. -/
theorem Surroundings.Leads.marks {σ : Type} {s : Surroundings σ} {id : ChannelId} {w w' : World σ}
    {events : List (Event σ)} (history : s.Leads w events w') (hExists : id < w.channels.length) :
    (w'.channel id).eof = lastWord (·.ending? s id) (w.channel id).eof events ∧
      (w'.channel id).blocked = lastWord (·.waiting? s id) (w.channel id).blocked events := by
  induction history with
  | refl => exact ⟨rfl, rfl⟩
  | @snoc events e prior ih =>
    have hThere := Nat.lt_of_lt_of_le hExists prior.length
    rw [lastWord_snoc, lastWord_snoc, ← ih.1, ← ih.2]
    cases e with
    | made t v => exact t.marks_run hThere
    | called c v => exact ⟨rfl, rfl⟩

namespace Channel

variable {c c' : Channel} {n : Nat} {calls : List DriverEvent}
  {answer : Except TransferFailure Bytes}

/-- What the marks say after a read for which the driver was asked. Bytes or their lack are told
from a wait by the driver's answer; if it fails, the mark of the end is as it was. -/
theorem ReadEffect.told (effect : c.ReadEffect n calls answer c') (hRoom : 0 < n) {room : Nat}
    {given : (DriverCall.input room).Answer} (hAsked : ⟨.input room, given⟩ ∈ calls) :
    (c'.blocked = true ↔ ∃ f, given = .error f ∧ f.isWouldBlock = true) ∧
      (c'.eof = true ↔
        (∃ bytes, given = .ok bytes ∧ bytes.1 = []) ∨ (∃ f, given = .error f) ∧ c.eof = true) := by
  cases effect with
  | misused | buffered => cases hAsked
  | given hInput bytes deferred =>
    cases List.mem_singleton.1 hAsked
    have hNone : (bytes.1.take n).isEmpty = true ↔ bytes.1 = [] := by
      rw [List.isEmpty_iff, List.take_eq_nil_iff, or_iff_right (Nat.ne_of_gt hRoom)]
    simpa using hNone
  | waits hInput f hWait deferred =>
    cases List.mem_singleton.1 hAsked
    simp [hWait]
  | fails hInput f hWait deferred =>
    cases List.mem_singleton.1 hAsked
    simp [hWait]

/-- A read that gets no bytes has asked the driver, and at least one of the marks says why it got
none. -/
theorem ReadEffect.told_of_none (effect : c.ReadEffect n calls answer c') (hRoom : 0 < n)
    (hNone : answer = .ok []) :
    (∃ room given, ⟨.input room, given⟩ ∈ calls) ∧
      (c'.eof = (!c'.blocked) ↔ ¬(c'.blocked = true ∧ c.eof = true)) := by
  cases effect with
  | misused | fails => cases hNone
  | buffered hInput =>
    have hTaken : c.input.take n = [] := Except.ok.inj hNone
    rw [List.take_eq_nil_iff, or_iff_right (Nat.ne_of_gt hRoom)] at hTaken
    exact absurd hTaken hInput
  | given hInput bytes deferred =>
    have hTaken : bytes.1.take n = [] := Except.ok.inj hNone
    exact ⟨⟨_, _, List.mem_singleton_self _⟩, by simp [hTaken]⟩
  | waits hInput f hWait deferred =>
    exact ⟨⟨_, _, List.mem_singleton_self _⟩, by simp⟩

end Channel

/-- How the end of the file is told from a wait after any history. The marks are its last word. A
read with room that asks the driver leaves the mark of a wait exactly if the driver would wait, and
that of the end if the driver gives no bytes, or if the driver fails after an end that stands. So
after a read that gets no bytes just one of the marks stands, unless that is a wait after an end
that stands. -/
theorem end_told_from_wait {σ : Type} {s : Setting σ} {id : ChannelId} {n : Nat} {w v : World σ}
    {events : List (Event σ)} (history : s.Leads w events v) (hExists : id < w.channels.length)
    (hRoom : 0 < n) :
    let ended := lastWord (·.ending? s.toSurroundings id) (w.channel id).eof events
    let read : Event σ := .made (.hold id (.read n)) v
    let after := (read.after s.toSurroundings).channel id
    (∀ room given, ⟨.input room, given⟩ ∈ read.calls s.toSurroundings id →
      (after.blocked = true ↔ ∃ f, given = .error f ∧ f.isWouldBlock = true) ∧
      (after.eof = true ↔
        (∃ bytes, given = .ok bytes ∧ bytes.1 = []) ∨ (∃ f, given = .error f) ∧ ended = true)) ∧
    (((Step.hold id (.read n)).run s.toSurroundings v).1.1 = .ok [] →
      (∃ room given, ⟨.input room, given⟩ ∈ read.calls s.toSurroundings id) ∧
      (after.eof = (!after.blocked) ↔ ¬(after.blocked = true ∧ ended = true))) ∧
    ∀ inner answer v', s.Runs (Program.readBytes id n) v inner answer v' →
      ∃ rest, inner = read :: rest ∧
        answer = ((Step.hold id (.read n)).run s.toSurroundings v).1.1 ∧
        (v'.channel id).eof = lastWord (·.ending? s.toSurroundings id) after.eof rest ∧
        (v'.channel id).blocked = lastWord (·.waiting? s.toSurroundings id) after.blocked rest := by
  intro ended read after
  have hThere := Nat.lt_of_lt_of_le hExists history.length
  obtain ⟨c', hEffect, hChannel⟩ := Step.hold_shows s.toSurroundings v (.read n) hThere
  have hEnded : (v.channel id).eof = ended := (history.marks hExists).1
  have hAfter : after = { c' with deferred := .none } := hChannel
  have effect : (v.channel id).ReadEffect n _ _ c' := hEffect
  rw [hAfter, ← hEnded]
  refine ⟨fun room given hAsked => effect.told hRoom hAsked, effect.told_of_none hRoom,
    fun inner answer v' run => ?_⟩
  have hRead := readBytes_runs run
  rw [if_neg (Nat.ne_of_gt hRoom)] at hRead
  obtain ⟨rest, rfl, hAnswer⟩ := hRead
  have hRun : s.Leads v ([] ++ read :: rest) v' := run.leads
  have hRest := hRun.beyond
  have hStill := Nat.lt_of_lt_of_le hThere (read.length_after (s := s.toSurroundings))
  have hMarks := hRest.marks hStill
  rw [show (read.after s.toSurroundings).channel id = _ from hAfter] at hMarks
  exact ⟨rest, rfl, hAnswer, hMarks⟩

/-- A driver without any bytes. Its environment says whether it has told so; after that, a read
would have to wait for more. -/
def drainedSetting : Setting Bool where
  driver _ call told := match call with
    | .input _ =>
      { answer := if told then .error .wouldBlock else .ok ⟨[], Nat.zero_le _⟩, env := true }
    | .seek _ => { answer := .ok 0, env := told }
    | call => { answer := call.unsupported, env := told }
  ready _ _ := .none
  users _ _ := false
  routine u := .done u.unit
  fire _ _ := .done ()

def drainedWorld : World Bool where
  channels := [{ name := "log", type := "file", mode := .readOnly, blocking := false }]
  env := false

def drainedRead : Event Bool := .made (.hold 0 (.read 4)) drainedWorld

def drainedSeek : Event Bool :=
  .made (.hold 0 (.seek (.start 0))) (drainedRead.after drainedSetting.toSurroundings)

/-- The end has been met and the channel sent back to its start: now a read waits, and only that. -/
theorem end_told_from_wait_drained :
    (((Step.hold 0 (.read 4)).run drainedSetting.toSurroundings
      (drainedSeek.after drainedSetting.toSurroundings)).2.channel 0).eof =
    !(((Step.hold 0 (.read 4)).run drainedSetting.toSurroundings
      (drainedSeek.after drainedSetting.toSurroundings)).2.channel 0).blocked := by
  have history : drainedSetting.Leads drainedWorld [drainedRead, drainedSeek]
      (drainedSeek.after drainedSetting.toSurroundings) :=
    .cons drainedRead (.cons drainedSeek .refl)
  have hEnded : lastWord (·.ending? drainedSetting.toSurroundings 0) (drainedWorld.channel 0).eof
      [drainedRead, drainedSeek] = false := rfl
  have hTold := (end_told_from_wait history (by decide : 0 < drainedWorld.channels.length)
    (by decide : 0 < 4)).2.1 rfl
  exact hTold.2.2 fun hBoth => by
    rw [hEnded] at hBoth
    cases hBoth.2

/-- Without the seek, the mark of the end still stands when the driver would wait: the read has got
no bytes, and both marks say why. -/
theorem end_stands_beside_wait :
    (Step.hold 0 (.read 4)).calls drainedSetting.toSurroundings 0
      (drainedRead.after drainedSetting.toSurroundings) = [⟨.input 4096, .error .wouldBlock⟩] ∧
    ((Step.hold 0 (.read 4)).run drainedSetting.toSurroundings
      (drainedRead.after drainedSetting.toSurroundings)).1.1 = .ok [] ∧
    (((Step.hold 0 (.read 4)).run drainedSetting.toSurroundings
      (drainedRead.after drainedSetting.toSurroundings)).2.channel 0).inlet = ⟨[], true, true⟩ :=
  ⟨rfl, rfl, rfl⟩

end EventChannel
