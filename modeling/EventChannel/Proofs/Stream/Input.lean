import EventChannel.Program.Channel
import EventChannel.Proofs.World.Frame

/-! What the driver gives reaches the readers in order: part of a chunk goes to the reader that has
asked for it, the rest waits. The driver is asked only when nothing waits. -/

namespace EventChannel

namespace ChannelOp

def isSeek : ChannelOp → Bool
  | seek _ => true
  | _ => false

/-- The bytes that an answer hands to a reader. -/
def returned : (op : ChannelOp) → op.Answer → Bytes
  | read _, .ok bytes => bytes
  | _, _ => []

/-- How many bytes an operation has room for, if it reads. -/
def room? : ChannelOp → Option Nat
  | read n => some n
  | _ => none

/-- How an operation deals with the input of a channel. -/
structure Draws (op : ChannelOp) (c : Channel) (calls : List DriverEvent) (answer : op.Answer)
    (c' : Channel) : Prop where
  stream : c.input ++ givenBytes calls = op.returned answer ++ c'.input
  /-- The driver is asked once by an operation that reads while nothing waits, else not. -/
  asked : calls.countP (·.isInput) = if op.room?.isSome ∧ c.input = [] then 1 else 0
  fits : (op.returned answer).length ≤ op.room?.getD 0

end ChannelOp

theorem Control.noInput {calls : List DriverEvent} (control : Control calls) :
    ∀ e ∈ calls, e.isInput = false :=
  fun e hMem => (control e hMem).1

namespace Channel

variable {c c' : Channel} {calls : List DriverEvent}

/-- An operation that neither reads nor asks for input leaves it alone. -/
theorem draws_of_kept {op : ChannelOp} {answer : op.Answer} (hRoom : op.room? = none)
    (hReturned : op.returned answer = []) (hCalls : ∀ e ∈ calls, e.isInput = false)
    (hInput : c'.input = c.input) : op.Draws c calls answer c' where
  stream := by rw [givenBytes_of_noInput hCalls, hReturned, hInput, List.append_nil]; rfl
  asked := by
    rw [hRoom, List.countP_eq_zero.2 fun e hMem => by simp [hCalls e hMem]]
    rfl
  fits := by rw [hReturned]; exact Nat.zero_le _

theorem ReadEffect.draws {n : Nat} {answer : Except TransferFailure Bytes}
    (hOpen : c.isOpenFor .read = true) (effect : c.ReadEffect n calls answer c') :
    (ChannelOp.read n).Draws c calls answer c' := by
  cases effect with
  | misused m hNot => rw [hNot] at hOpen; cases hOpen
  | buffered hInput =>
    exact
      { stream := (List.append_nil _).trans (List.take_append_drop n c.input).symm
        asked := (if_neg fun hAsk => hInput hAsk.2).symm
        fits := List.length_take_le n c.input }
  | given hInput bytes deferred =>
    exact
      { stream := by
          rw [hInput]
          simp [givenBytes, DriverEvent.given, ChannelOp.returned]
        asked := (if_pos ⟨rfl, hInput⟩).symm
        fits := List.length_take_le n bytes.1 }
  | waits hInput f hWait deferred =>
    exact
      { stream := List.append_nil _
        asked := (if_pos ⟨rfl, hInput⟩).symm
        fits := Nat.zero_le _ }
  | fails hInput f hWait deferred =>
    exact
      { stream := List.append_nil _
        asked := (if_pos ⟨rfl, hInput⟩).symm
        fits := Nat.zero_le _ }

theorem Cleared.input (cleared : c.Cleared calls c') :
    (∀ e ∈ calls, e.isInput = false) ∧ c'.input = c.input := by
  rcases cleared with ⟨rfl, rfl⟩ | flushed
  · exact ⟨control_nil.noInput, rfl⟩
  · exact ⟨flushed.noInput, by rw [flushed.rest]⟩

/-- Every operation but a seek deals with the input of a channel that stays open for reading. -/
theorem Effect.draws {op : ChannelOp} {answer : op.Answer} (effect : c.Effect op calls answer c')
    (hOpen : c'.isOpenFor .read = true) (hSeek : op.isSeek = false) :
    op.Draws c calls answer c' := by
  have hBefore := effect.isOpenFor hOpen
  cases op with
  | read n => exact ReadEffect.draws hBefore effect
  | write bytes force =>
    refine draws_of_kept rfl rfl ?_ ?_
    · cases effect with
      | misused | unreported | kept => exact control_nil.noInput
      | written hParked flushed => exact flushed.noInput
      | failed f hParked flushed => exact flushed.noInput
    · cases effect with
      | misused | unreported | kept => rfl
      | written hParked flushed => rw [flushed.rest]
      | failed f hParked flushed => rw [flushed.rest]
  | seek target => cases hSeek
  | closeHalf d =>
    cases effect with
    | unchanged => exact draws_of_kept rfl rfl control_nil.noInput rfl
    | failed f hWrite flushed => exact draws_of_kept rfl rfl flushed.noInput (by rw [flushed.rest])
    | went answer cleared control kept mode rest =>
      obtain ⟨hFirst, hInput⟩ := cleared.input
      refine draws_of_kept rfl rfl (fun e hMem => ?_) ?_
      · rcases List.mem_append.1 hMem with hMem | hMem
        · exact hFirst e hMem
        · exact control.noInput e hMem
      · have hReadable : c'.mode.readable = true := (Bool.and_eq_true _ _ ▸ hOpen).2
        rw [kept (.inr hReadable), hInput]
  | shut =>
    rw [Channel.isOpenFor, ShutEffect.isOpen effect] at hOpen
    cases hOpen
  | setBlocking | createHandler | deleteHandler =>
    exact draws_of_kept rfl rfl effect.1.control.noInput (by rw [effect.1.rest])
  | tell | getOption | getOptions | setOption | cut | splice =>
    obtain ⟨control, -, -, -, rest⟩ : c.Calm none calls c' := effect
    exact draws_of_kept rfl rfl control.noInput (by rw [rest])

theorem RaiseEffect.input (effect : c.RaiseEffect calls c') :
    (∀ e ∈ calls, e.isInput = false) ∧ c'.input = c.input := by
  cases effect with
  | idle => exact ⟨control_nil.noInput, rfl⟩
  | written hPending flushed => exact ⟨flushed.noInput, by rw [flushed.rest]⟩
  | failed f hPending flushed => exact ⟨flushed.noInput, by simp only; rw [flushed.rest]⟩

end Channel

namespace Step

variable {σ α : Type}

/-- The bytes of a channel that a step hands to a reader. -/
def returned (s : Surroundings σ) (id : ChannelId) : {α : Type} → Step σ α → World σ → Bytes
  | _, .hold j op, w => if j = id then op.returned ((Step.hold j op).run s w).1.1 else []
  | _, _, _ => []

/-- The step goes to a position in a channel. -/
def Seeks (id : ChannelId) : {α : Type} → Step σ α → Prop
  | _, .hold j op => j = id ∧ op.isSeek = true
  | _, _ => False

variable {s : Surroundings σ} {w : World σ} {id : ChannelId}

theorem draws_hold (op : ChannelOp) (hExists : id < w.channels.length)
    (hSeek : op.isSeek = false)
    (hOpen : (((Step.hold id op).run s w).2.channel id).isOpenFor .read = true) :
    op.Draws (w.channel id) ((Step.hold id op).calls s id w) ((Step.hold id op).run s w).1.1
      (((Step.hold id op).run s w).2.channel id) := by
  obtain ⟨c', hEffect, hChannel⟩ := hold_shows s w op hExists
  rw [hChannel] at hOpen ⊢
  obtain ⟨stream, asked, fits⟩ := hEffect.draws hOpen hSeek
  exact ⟨stream, asked, fits⟩

/-- A channel that is not open for reading refuses to be read from, and is let go of. -/
theorem read_refused {n : Nat} (hNot : (w.channel id).isOpenFor .read = false) :
    ∃ m, (Step.hold id (.read n)).run s w = ((.error (.misuse m), (w.channel id).deferred),
      w.modifyChannel id ({ · with deferred := .none })) := by
  obtain ⟨m, hIdle⟩ : ∃ m, (w.held id).perform (s.driver id) (.read n) =
      (.error (.misuse m), w.held id) := by
    cases hIsOpen : (w.channel id).isOpen with
    | false => exact ⟨_, Held.read_closed (h := w.held id) hIsOpen⟩
    | true =>
      rw [Channel.isOpenFor, hIsOpen] at hNot
      exact ⟨_, Held.read_unreadable (h := w.held id) hIsOpen hNot⟩
  exact ⟨m, run_hold_idle hIdle⟩

/-- A step that moves none of its bytes leaves the input of a channel alone. -/
theorem input_of_keeps {t : Step σ α} (hExists : id < w.channels.length) (hMoves : ¬t.Moves id) :
    (w.channel id).input ++ givenBytes (t.calls s id w) =
      t.returned s id w ++ ((t.run s w).2.channel id).input := by
  have hRest := Channel.of_bare (t.bare_run s w hExists hMoves)
  have hInput : ((t.run s w).2.channel id).input = (w.channel id).input := by rw [hRest]
  have hReturned : t.returned s id w = [] := by
    cases t with
    | hold j op => exact if_neg hMoves
    | _ => rfl
  rw [givenBytes_of_noInput (t.calls_control s w hMoves).noInput, hReturned, hInput,
    List.append_nil]
  rfl

/-- What the driver gives in a step is handed to a reader or waits, in order. -/
theorem input_run (t : Step σ α) (hExists : id < w.channels.length) (hSeeks : ¬t.Seeks id)
    (hOpen : ((t.run s w).2.channel id).isOpenFor .read = true) :
    (w.channel id).input ++ givenBytes (t.calls s id w) =
      t.returned s id w ++ ((t.run s w).2.channel id).input := by
  cases t with
  | hold j op =>
    by_cases hId : j = id
    · subst hId
      have hSeek : op.isSeek = false := Bool.eq_false_iff.2 fun hIs => hSeeks ⟨rfl, hIs⟩
      rw [Step.returned, if_pos rfl]
      exact (draws_hold op hExists hSeek hOpen).stream
    · exact input_of_keeps hExists hId
  | raise j raised =>
    by_cases hId : j = id
    · subst hId
      obtain ⟨hCalls, hInput⟩ := (raise_shows s w raised hExists).1.input
      rw [givenBytes_of_noInput hCalls, hInput, List.append_nil]
      rfl
    · exact input_of_keeps hExists hId
  | _ => exact input_of_keeps hExists fun hMoves => hMoves

end Step

namespace Event

variable {σ : Type}

/-- The bytes of a channel that are handed to readers in an event. -/
def returned (s : Surroundings σ) (id : ChannelId) : Event σ → Bytes
  | made t w => t.returned s id w
  | called _ _ => []

/-- The bytes that the driver of a channel gives in an event. -/
def given (s : Surroundings σ) (id : ChannelId) (e : Event σ) : Bytes :=
  givenBytes (e.calls s id)

/-- In the event somebody goes to a position in a channel. -/
def Seeks (id : ChannelId) : Event σ → Prop
  | made t _ => t.Seeks id
  | called _ _ => False

variable {s : Surroundings σ} {id : ChannelId}

/-- What the driver gives in an event is handed to a reader or waits, in order. -/
theorem input_after (e : Event σ) (hExists : id < e.before.channels.length)
    (hSeeks : ¬e.Seeks id) (hOpen : ((e.after s).channel id).isOpenFor .read = true) :
    (e.before.channel id).input ++ e.given s id =
      e.returned s id ++ ((e.after s).channel id).input := by
  cases e with
  | made t w => exact t.input_run hExists hSeeks hOpen
  | called c w => exact List.append_nil _

/-- The driver is asked for input by those reads that find none waiting, and by nothing else. -/
theorem asks_iff (e : Event σ) (hExists : id < e.before.channels.length) (hSeeks : ¬e.Seeks id)
    (hOpen : ((e.after s).channel id).isOpenFor .read = true) :
    (∃ call ∈ e.calls s id, call.isInput = true) ↔
      ∃ n w, e = .made (.hold id (.read n)) w ∧ (w.channel id).input = [] := by
  constructor
  · rintro ⟨call, hMem, hInput⟩
    cases e with
    | called c w => cases hMem
    | made t w =>
      by_cases hMoves : t.Moves id
      · cases t with
        | hold j op =>
          obtain rfl : j = id := hMoves
          have hSeek : op.isSeek = false := Bool.eq_false_iff.2 fun hIs => hSeeks ⟨rfl, hIs⟩
          have hAsked := (Step.draws_hold op hExists hSeek hOpen).asked
          have hCount : 0 < ((Step.hold j op).calls s j w).countP (·.isInput) :=
            List.countP_pos_iff.2 ⟨call, hMem, hInput⟩
          split at hAsked
          · next hReads =>
            cases op with
            | read n => exact ⟨n, w, rfl, hReads.2⟩
            | _ => cases hReads.1
          · exact absurd hAsked (Nat.ne_of_gt hCount)
        | raise j raised =>
          obtain rfl : j = id := hMoves
          obtain ⟨hCalls, -⟩ := (Step.raise_shows s w raised hExists).1.input
          rw [hCalls call hMem] at hInput
          cases hInput
        | _ => exact hMoves.elim
      · rw [(t.calls_control s w hMoves).noInput call hMem] at hInput
        cases hInput
  · rintro ⟨n, w, rfl, hEmpty⟩
    have hAsked := (Step.draws_hold (.read n) hExists rfl hOpen).asked
    rw [if_pos ⟨rfl, hEmpty⟩] at hAsked
    exact List.countP_pos_iff.1 (hAsked ▸ Nat.one_pos)

end Event

/-- Along events that leave a channel open for reading, it has been open all the time. -/
theorem Surroundings.Leads.each_open {σ : Type} {s : Surroundings σ} {id : ChannelId}
    {w w' : World σ} {events : List (Event σ)} (history : s.Leads w events w')
    (hExists : id < w.channels.length) (hOpen : (w'.channel id).isOpenFor .read = true) :
    ∀ e ∈ events, id < e.before.channels.length ∧
      ((e.after s).channel id).isOpenFor .read = true := by
  obtain ⟨-, hEach⟩ := history.along
    (fun w => id < w.channels.length) (fun _ => True)
    (fun w => (w.channel id).isOpenFor .read = true)
    (fun e hThere => Nat.lt_of_lt_of_le hThere e.length_after)
    (fun e hThere hAfter => e.isOpenFor_after hThere hAfter)
    (fun _ _ _ _ => trivial) hExists trivial hOpen
  exact fun e hMem => ⟨(hEach e hMem).1, (hEach e hMem).2.2⟩

/-- What is read along events in which nobody goes to another position. -/
theorem Surroundings.Leads.input {σ : Type} {s : Surroundings σ} {id : ChannelId}
    {w w' : World σ} {events : List (Event σ)} (history : s.Leads w events w')
    (hExists : id < w.channels.length) (hSeeks : ∀ e ∈ events, ¬e.Seeks id)
    (hOpen : (w'.channel id).isOpenFor .read = true) :
    (w.channel id).input ++ events.flatMap (·.given s id) =
      events.flatMap (·.returned s id) ++ (w'.channel id).input := by
  refine history.balance (fun w => (w.channel id).input) fun e hMem => ?_
  obtain ⟨hThere, hAfter⟩ := history.each_open hExists hOpen e hMem
  exact e.input_after hThere (hSeeks e hMem) hAfter

/-- A transfer with room for bytes begins with the one step that reads; without room there is no
step at all. -/
theorem readBytes_runs {σ : Type} {s : Setting σ} {id : ChannelId} {n : Nat} {w w' : World σ}
    {events : List (Event σ)} {answer : Except TransferFailure Bytes}
    (run : s.Runs (Program.readBytes id n) w events answer w') :
    if n = 0 then events = [] ∧ answer = .ok []
    else ∃ rest, events = .made (.hold id (.read n)) w :: rest ∧
      answer = ((Step.hold id (.read n)).run s.toSurroundings w).1.1 := by
  by_cases hRoom : n = 0
  · rw [Program.readBytes, if_pos hRoom] at run
    rw [if_pos hRoom]
    cases run
    exact ⟨rfl, rfl⟩
  · rw [Program.readBytes, if_neg hRoom] at run
    rw [if_neg hRoom]
    cases run with
    | step rest =>
      refine ⟨_, rfl, ?_⟩
      simp only at rest
      split at rest
      · cases rest
        rfl
      · obtain ⟨-, -, rfl⟩ := Setting.runs_bind_done.1 rest
        rfl

/-- The input of a channel that stays open for reading, whatever else happens but a seek, and
however its driver behaves. What the driver gives is handed to the readers in order or waits. No
reader gets more than it has room for, and the driver is asked exactly by the reads that find
nothing waiting. A transfer without room does not read. -/
theorem input_in_order {σ : Type} {s : Setting σ} {id : ChannelId} {w w' : World σ}
    {events : List (Event σ)} (history : s.Leads w events w') (hExists : id < w.channels.length)
    (hSeeks : ∀ e ∈ events, ¬e.Seeks id) (hOpen : (w'.channel id).isOpenFor .read = true) :
    (w.channel id).input ++ events.flatMap (·.given s.toSurroundings id) =
        events.flatMap (·.returned s.toSurroundings id) ++ (w'.channel id).input ∧
      (∀ n w₁, .made (.hold id (.read n)) w₁ ∈ events →
        (ChannelOp.read n).Draws (w₁.channel id)
          ((Step.hold id (.read n)).calls s.toSurroundings id w₁)
          ((Step.hold id (.read n)).run s.toSurroundings w₁).1.1
          (((Step.hold id (.read n)).run s.toSurroundings w₁).2.channel id)) ∧
      (∀ e ∈ events, (∃ call ∈ e.calls s.toSurroundings id, call.isInput = true) ↔
        ∃ n w₁, e = .made (.hold id (.read n)) w₁ ∧ (w₁.channel id).input = []) ∧
      ∀ n w₁ inner answer w₂, s.Runs (Program.readBytes id n) w₁ inner answer w₂ →
        if n = 0 then inner = [] ∧ answer = .ok []
        else ∃ rest, inner = .made (.hold id (.read n)) w₁ :: rest ∧
          answer = ((Step.hold id (.read n)).run s.toSurroundings w₁).1.1 := by
  have hEach := history.each_open hExists hOpen
  refine ⟨history.input hExists hSeeks hOpen, ?_, ?_,
    fun n w₁ inner answer w₂ run => readBytes_runs run⟩
  · intro n w₁ hMem
    obtain ⟨hThere, hAfter⟩ := hEach _ hMem
    exact Step.draws_hold (.read n) hThere rfl hAfter
  · intro e hMem
    obtain ⟨hThere, hAfter⟩ := hEach e hMem
    exact e.asks_iff hThere (hSeeks e hMem) hAfter

/-- A driver that gives the bytes of its environment as long as there are any. Two readers with
room for one byte and for three take turns; the chunks are of two bytes. -/
def feedingSetting : Setting Bytes where
  driver _ call bytes := match call with
    | .input room =>
      { answer := .ok ⟨bytes.take room, List.length_take_le _ _⟩, env := bytes.drop room }
    | call => { answer := call.unsupported, env := bytes }
  ready _ _ := .none
  users _ _ := false
  routine u := .done u.unit
  fire _ _ := .done ()

def feedingWorld : World Bytes where
  channels := [{ name := "feed", type := "file", mode := .readOnly, bufferSize := 2 }]
  env := [1, 2, 3, 4]

def feedingFirst : Event Bytes := .made (.hold 0 (.read 1)) feedingWorld

def feedingSecond : Event Bytes :=
  .made (.hold 0 (.read 3)) (feedingFirst.after feedingSetting.toSurroundings)

def feedingThird : Event Bytes :=
  .made (.hold 0 (.read 3)) (feedingSecond.after feedingSetting.toSurroundings)

/-- The first read leaves a byte to the second, and only the third asks again. -/
theorem input_in_order_feeding :
    [feedingFirst, feedingSecond, feedingThird].flatMap (·.given feedingSetting.toSurroundings 0) =
      [feedingFirst, feedingSecond, feedingThird].flatMap
        (·.returned feedingSetting.toSurroundings 0) := by
  have history : feedingSetting.Leads feedingWorld [feedingFirst, feedingSecond, feedingThird]
      (feedingThird.after feedingSetting.toSurroundings) :=
    .cons feedingFirst (.cons feedingSecond (.cons feedingThird .refl))
  have hSeeks : ∀ e ∈ [feedingFirst, feedingSecond, feedingThird], ¬e.Seeks 0 := by
    intro e hMem
    simp only [List.mem_cons, List.not_mem_nil, or_false] at hMem
    rcases hMem with rfl | rfl | rfl <;> rintro ⟨-, hIs⟩ <;> cases hIs
  obtain ⟨hStream, -⟩ := input_in_order history
    (by decide : 0 < feedingWorld.channels.length) hSeeks (by decide)
  exact hStream.trans (List.append_nil _)

end EventChannel
