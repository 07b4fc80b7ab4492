import EventChannel.Proofs.Program.HalfClose
import EventChannel.Proofs.Stream.Ending

/-! The output of a command is read in chunks until a read gets no bytes. If the driver never has to
wait and nobody else takes any of the input, what has been read by then is all that was waiting and
all that the driver has given, up to the end of the file. -/

namespace EventChannel

variable {σ α : Type}

namespace Step

variable {s : Surroundings σ} {w : World σ} {id : ChannelId}

/-- The step reads from a channel or goes to a position in it. -/
def TakesInput (id : ChannelId) : {α : Type} → Step σ α → Prop
  | _, .hold j (.read _) | _, .hold j (.seek _) => j = id
  | _, _ => False

/-- A step that takes no input does not ask the driver for any. -/
theorem noInput_run {t : Step σ α} (hTakes : ¬t.TakesInput id) :
    ∀ call ∈ t.calls s id w, call.isInput = false := by
  have hOther {call : DriverEvent} (hFetch : call.call.fetches = false) : call.isInput = false := by
    obtain ⟨call, answer⟩ := call
    cases call with
    | input room => cases hFetch
    | _ => rfl
  by_cases hMoves : t.Moves id
  · cases t with
    | hold j op =>
      obtain rfl : j = id := hMoves
      rw [calls, if_pos rfl]
      cases hFetch : op.fetches with
      | false =>
        exact fun call hMem => hOther ((Held.perform_rests (w.held j) hFetch).calls call hMem)
      | true =>
        cases op with
        | read n => exact absurd rfl hTakes
        | seek target => exact absurd rfl hTakes
        | tell =>
          obtain ⟨calls, hCalls, calm⟩ := Held.tell_shows (s.driver j) (w.held j).recording
          show ∀ call ∈ ((w.held j).recording.tell (s.driver j).traced).2.calls, _
          rw [hCalls]
          exact calm.control.noInput
        | _ => cases hFetch
    | raise j raised =>
      obtain rfl : j = id := hMoves
      rw [calls, if_pos rfl]
      have rests := (Held.rests_recording (w.held j)).flushInBackground (s.driver j) raised
      exact fun call hMem => hOther (rests.calls call hMem)
    | _ => exact hMoves.elim
  · exact (t.calls_control s w hMoves).noInput

theorem returned_of_not_takes {t : Step σ α} (hTakes : ¬t.TakesInput id) :
    t.returned s id w = [] := by
  cases t with
  | hold j op =>
    rw [returned]
    split
    · next hSame =>
      cases op with
      | read n => exact absurd hSame hTakes
      | _ => rfl
    · rfl
  | _ => rfl

theorem Seeks.takesInput {t : Step σ α} (seeks : t.Seeks id) : t.TakesInput id := by
  cases t with
  | hold j op =>
    obtain ⟨rfl, hSeek⟩ := seeks
    cases op with
    | seek target => rfl
    | _ => cases hSeek
  | _ => cases seeks

/-- A read that gets nothing found nothing waiting, and the driver has given nothing: it was at the
end of the file, or would have had to wait. -/
theorem read_nothing {n : Nat} (hExists : id < w.channels.length) (hRoom : n ≠ 0)
    (hNothing : ((Step.hold id (.read n)).run s w).1.1 = .ok []) :
    (w.channel id).isOpenFor .read = true ∧ (w.channel id).input = [] ∧
      ∃ room, (Step.hold id (.read n)).calls s id w = [⟨.input room, .ok ⟨[], Nat.zero_le _⟩⟩] ∨
        ∃ f, f.isWouldBlock = true ∧
          (Step.hold id (.read n)).calls s id w = [⟨.input room, .error f⟩] := by
  have hOpen : (w.channel id).isOpenFor .read = true := by
    refine Bool.of_not_eq_false fun hNot => ?_
    obtain ⟨m, hRefused⟩ := read_refused (s := s) (n := n) hNot
    rw [hRefused] at hNothing
    cases hNothing
  obtain ⟨c', effect, -⟩ := hold_shows s w (.read n) hExists
  generalize (Step.hold id (.read n)).calls s id w = calls,
    ((Step.hold id (.read n)).run s w).1.1 = answer at effect hNothing ⊢
  cases effect with
  | misused | fails => cases hNothing
  | buffered hInput =>
    have hTaken : (w.channel id).input.take n = [] := Except.ok.inj hNothing
    rw [List.take_eq_nil_iff, or_iff_right hRoom] at hTaken
    exact absurd hTaken hInput
  | given hInput bytes deferred =>
    have hTaken : bytes.1.take n = [] := Except.ok.inj hNothing
    rw [List.take_eq_nil_iff, or_iff_right hRoom] at hTaken
    obtain ⟨bytes, hFits⟩ := bytes
    obtain rfl : bytes = [] := hTaken
    exact ⟨hOpen, hInput, _, .inl rfl⟩
  | waits hInput f hWait deferred => exact ⟨hOpen, hInput, _, .inr ⟨f, hWait, rfl⟩⟩

/-- A read that the driver fails is answered with the failure. -/
theorem read_failed {n room : Nat} {f : DriverFailure} (hExists : id < w.channels.length)
    (hCall : ⟨.input room, .error f⟩ ∈ (Step.hold id (.read n)).calls s id w)
    (hHard : f.isWouldBlock = false) :
    ((Step.hold id (.read n)).run s w).1.1 = .error (.driver f) := by
  obtain ⟨c', effect, -⟩ := hold_shows s w (.read n) hExists
  generalize (Step.hold id (.read n)).calls s id w = calls,
    ((Step.hold id (.read n)).run s w).1.1 = answer at effect hCall ⊢
  cases effect with
  | misused | buffered => cases hCall
  | given hInput bytes deferred => cases List.mem_singleton.1 hCall
  | waits hInput f' hWait deferred =>
    cases List.mem_singleton.1 hCall
    rw [hWait] at hHard
    cases hHard
  | fails hInput f' hWait deferred =>
    cases List.mem_singleton.1 hCall
    rfl

/-- A read fails on a channel that is not open for reading, or with its driver. -/
theorem read_fails {n : Nat} {f : TransferFailure} (hExists : id < w.channels.length)
    (hFailed : ((Step.hold id (.read n)).run s w).1.1 = .error f) :
    (w.channel id).isOpenFor .read = false ∨ ∃ room f', f = .driver f' ∧
      (Step.hold id (.read n)).calls s id w = [⟨.input room, .error f'⟩] := by
  obtain ⟨c', effect, -⟩ := hold_shows s w (.read n) hExists
  generalize (Step.hold id (.read n)).calls s id w = calls,
    ((Step.hold id (.read n)).run s w).1.1 = answer at effect hFailed ⊢
  cases effect with
  | misused m hNot => exact .inl hNot
  | buffered | given | waits => cases hFailed
  | fails hInput f' hWait deferred =>
    cases hFailed
    exact .inr ⟨_, f', rfl, rfl⟩

end Step

namespace Event

variable {s : Surroundings σ} {id : ChannelId} {e : Event σ}

/-- In the event somebody reads from a channel or goes to a position in it. -/
def TakesInput (id : ChannelId) : Event σ → Prop
  | made t _ => t.TakesInput id
  | called _ _ => False

theorem noInput (hTakes : ¬e.TakesInput id) : ∀ call ∈ e.calls s id, call.isInput = false := by
  cases e with
  | made t w => exact Step.noInput_run hTakes
  | called c w => exact fun _ hMem => nomatch hMem

theorem returned_of_not_takes (hTakes : ¬e.TakesInput id) : e.returned s id = [] := by
  cases e with
  | made t w => exact Step.returned_of_not_takes hTakes
  | called c w => rfl

theorem Seeks.takesInput (seeks : e.Seeks id) : e.TakesInput id := by
  cases e with
  | made t w => exact Step.Seeks.takesInput seeks
  | called c w => cases seeks

end Event

/-- What is to be done when a chunk has been read. -/
def Program.afterChunk (channel : ChannelId) (chunk : Nat) (sofar : ByteQueue) :
    Except TransferFailure Bytes → Program σ (Except TransferFailure Bytes)
  | .error f => .done (.error f)
  | .ok [] => .done (.ok sofar.toBytes)
  | .ok bytes => invoke (.readAll channel chunk (sofar.push bytes))

namespace Setting

variable {s : Setting σ} {id : ChannelId} {chunk : Nat} {v w w' : World σ}
  {events : List (Event σ)}

/-- Whoever is called in some events takes no input of a channel, unless to read on. -/
def SparesInput (s : Setting σ) (id : ChannelId) (events : List (Event σ)) : Prop :=
  ∀ before c v inner (b : c.Answer) v' after, events = before ++ .called c v :: (inner ++ after) →
    s.Runs (s.body c) v inner b v' → (∀ chunk sofar, c ≠ .readAll id chunk sofar) →
    ∀ e ∈ inner, ¬e.TakesInput id

theorem SparesInput.left {first last : List (Event σ)}
    (spares : s.SparesInput id (first ++ last)) : s.SparesInput id first := by
  rintro before c v inner b v' after rfl run hOther
  exact spares before c v inner b v' (after ++ last) (by simp) run hOther

theorem SparesInput.right {first last : List (Event σ)}
    (spares : s.SparesInput id (first ++ last)) : s.SparesInput id last := by
  rintro before c v inner b v' after rfl run hOther
  exact spares (first ++ before) c v inner b v' after (by simp) run hOther

theorem SparesInput.tail {e : Event σ} (spares : s.SparesInput id (e :: events)) :
    s.SparesInput id events := by
  rw [← List.singleton_append] at spares
  exact spares.right

/-- Where those who are called take no input, none is taken while conditions are let out. -/
theorem SparesInput.delivery {raised : Interest} (spares : s.SparesInput id events)
    (delivered : s.Runs (Program.letOut id raised) w events () w') :
    ∀ e ∈ events, ¬e.TakesInput id := by
  have hDeliver {targets : List (Interest × Callback)} {w : World σ} {events : List (Event σ)}
      (spares : s.SparesInput id events)
      (run : s.Runs (Program.deliver id targets) w events () w') :
      ∀ e ∈ events, ¬e.TakesInput id := by
    induction targets generalizing w events with
    | nil =>
      cases run
      exact List.forall_mem_nil _
    | cons target rest ih =>
      obtain ⟨ready, r | k⟩ := target
      · cases run with
        | @call _ _ _ _ v _ inner outer b _ body later =>
          have hInner := spares [] _ w inner b v outer rfl body nofun
          have hOuter := ih spares.tail.right later
          exact List.forall_mem_cons.2 ⟨not_false, List.forall_mem_append.2 ⟨hInner, hOuter⟩⟩
      · cases run with
        | @call _ _ _ _ v _ inner outer b _ body later =>
          have hInner := spares [] _ w inner b v outer rfl body nofun
          cases later with
          | @step _ _ _ _ _ _ outer _ later =>
            have hOuter := ih spares.tail.right.tail later
            refine List.forall_mem_cons.2 ⟨not_false, List.forall_mem_append.2 ⟨hInner, ?_⟩⟩
            exact List.forall_mem_cons.2 ⟨not_false, hOuter⟩
  unfold Program.letOut at delivered
  split at delivered
  · cases delivered
    exact List.forall_mem_nil _
  · cases delivered with
    | @step _ _ _ _ _ _ rest _ run =>
      exact List.forall_mem_cons.2 ⟨not_false, hDeliver spares.tail run⟩

/-- A channel is read chunk after chunk until a read gets nothing or fails: what happens, and what
comes of it. -/
inductive ReadsOut (s : Setting σ) (id : ChannelId) (chunk : Nat) :
    World σ → List (Event σ) → Except TransferFailure Bytes → Prop
  | ends {v v' : World σ} {delivery : List (Event σ)} {r : Except TransferFailure Bytes}
      (got : ((Step.hold id (.read chunk)).run s.toSurroundings v).1.1 = r)
      (hEnd : ∀ bytes, r = .ok bytes → bytes = [])
      (delivered : s.Runs
        (Program.letOut id ((Step.hold id (.read chunk)).run s.toSurroundings v).1.2)
        ((Step.hold id (.read chunk)).run s.toSurroundings v).2 delivery () v') :
      ReadsOut s id chunk v (.made (.hold id (.read chunk)) v :: delivery) r
  | goes {v u : World σ} {delivery more : List (Event σ)} {bytes : Bytes} {sofar : ByteQueue}
      {r : Except TransferFailure Bytes}
      (got : ((Step.hold id (.read chunk)).run s.toSurroundings v).1.1 = .ok bytes)
      (delivered : s.Runs
        (Program.letOut id ((Step.hold id (.read chunk)).run s.toSurroundings v).1.2)
        ((Step.hold id (.read chunk)).run s.toSurroundings v).2 delivery () u)
      (rest : ReadsOut s id chunk u more r) :
      ReadsOut s id chunk v
        (.made (.hold id (.read chunk)) v ::
          (delivery ++ .called (.readAll id chunk sofar) u :: more))
        (r.map (bytes ++ ·))

/-- One chunk is read by one step, and then what comes out is delivered. -/
theorem runs_readChunks {sofar : ByteQueue} {answer : Except TransferFailure Bytes}
    (hRoom : chunk ≠ 0) (run : s.Runs (Program.readChunks id chunk sofar) w events answer w') :
    ∃ first second u, events = .made (.hold id (.read chunk)) w :: (first ++ second) ∧
      s.Runs (Program.letOut id ((Step.hold id (.read chunk)).run s.toSurroundings w).1.2)
        ((Step.hold id (.read chunk)).run s.toSurroundings w).2 first () u ∧
      s.Runs (Program.afterChunk id chunk sofar
        ((Step.hold id (.read chunk)).run s.toSurroundings w).1.1) u second answer w' := by
  have hProgram : (Program.readChunks id chunk sofar : Program σ (Except TransferFailure Bytes)) =
      (Program.hold id (.read chunk)).bind (Program.afterChunk id chunk sofar) := by
    rw [Program.readChunks, Program.readBytes, if_neg hRoom]
    refine congrArg (Program.bind _) (funext fun answer => ?_)
    obtain f | _ | _ := answer <;> rfl
  rw [hProgram] at run
  obtain ⟨held, second, half, u, rfl, hold, after⟩ := run.of_bind
  obtain ⟨rfl, first, rfl, delivered⟩ := runs_hold.1 hold
  exact ⟨first, second, u, rfl, delivered, after⟩

/-- Reading in chunks with what has been read so far. -/
theorem Runs.readsOut {sofar : ByteQueue} {answer : Except TransferFailure Bytes}
    (hRoom : chunk ≠ 0) (run : s.Runs (Program.readChunks id chunk sofar) w events answer w') :
    ∃ r, s.ReadsOut id chunk w events r ∧ answer = r.map (sofar.toBytes ++ ·) := by
  induction hLength : events.length using Nat.strongRecOn generalizing sofar answer w w' events with
  | ind n ih =>
    subst hLength
    obtain ⟨first, second, u, rfl, delivered, after⟩ := runs_readChunks hRoom run
    generalize hGot : ((Step.hold id (.read chunk)).run s.toSurroundings w).1.1 = got at after
    obtain f | _ | ⟨byte, more⟩ := got
    · cases after
      rw [List.append_nil]
      exact ⟨_, .ends hGot nofun delivered, rfl⟩
    · cases after
      rw [List.append_nil]
      refine ⟨_, .ends hGot (fun bytes hNone => (Except.ok.inj hNone).symm) delivered, ?_⟩
      exact congrArg Except.ok (List.append_nil _).symm
    · cases after with
      | call body ended =>
        cases ended
        obtain ⟨r, reads, rfl⟩ := ih _ (by simp; omega) body rfl
        rw [List.append_nil]
        refine ⟨_, .goes hGot delivered reads, ?_⟩
        cases r with
        | error f => rfl
        | ok bytes => exact congrArg Except.ok (by simp)

/-- Reading to the end comes down to its last read, which gets nothing or fails. What has been read
before has come out of the channel. -/
theorem ReadsOut.ending {r : Except TransferFailure Bytes}
    (reads : s.ReadsOut id chunk w events r) :
    ∃ before u after, events = before ++ .made (.hold id (.read chunk)) u :: after ∧
      ((Step.hold id (.read chunk)).run s.toSurroundings u).1.1 = r.map (fun _ => []) ∧
      (s.SparesInput id events → (∀ e ∈ before, ¬e.Seeks id) ∧ (∀ e ∈ after, ¬e.TakesInput id) ∧
        ∀ bytes, r = .ok bytes → before.flatMap (·.returned s.toSurroundings id) = bytes) := by
  induction reads with
  | @ends v v' delivery r got hEnd delivered =>
    refine ⟨[], v, delivery, rfl, ?_, fun spares => ⟨List.forall_mem_nil _, ?_, ?_⟩⟩
    · cases r with
      | error f => exact got
      | ok bytes =>
        obtain rfl := hEnd bytes rfl
        exact got
    · exact spares.tail.delivery delivered
    · exact fun bytes hRead => (hEnd bytes hRead).symm
  | @goes v u delivery more bytes sofar r got delivered rest ih =>
    obtain ⟨before, u', after, rfl, hLast, hSpared⟩ := ih
    refine ⟨.made (.hold id (.read chunk)) v ::
      (delivery ++ .called (.readAll id chunk sofar) u :: before), u', after, by simp, ?_, ?_⟩
    · rw [hLast]
      cases r <;> rfl
    · intro spares
      have hDelivery := spares.tail.left.delivery delivered
      obtain ⟨hSeeks, hAfter, hRead⟩ := hSpared spares.tail.right.tail
      refine ⟨?_, hAfter, ?_⟩
      · refine List.forall_mem_cons.2 ⟨fun seeks => Bool.noConfusion seeks.2, ?_⟩
        refine List.forall_mem_append.2 ⟨fun e hMem seeks => ?_, ?_⟩
        · exact hDelivery e hMem seeks.takesInput
        · exact List.forall_mem_cons.2 ⟨not_false, hSeeks⟩
      · intro all hAll
        have hNone : delivery.flatMap (·.returned s.toSurroundings id) = [] :=
          List.flatMap_eq_nil_iff.2 fun e hMem => Event.returned_of_not_takes (hDelivery e hMem)
        have hFirst : (Event.made (.hold id (.read chunk)) v).returned s.toSurroundings id =
            bytes := by
          show (if id = id then _ else []) = bytes
          rw [if_pos rfl, got]
          rfl
        cases r with
        | error f => cases hAll
        | ok tail =>
          cases hAll
          rw [List.flatMap_cons, List.flatMap_append, List.flatMap_cons, hFirst, hNone,
            hRead tail rfl]
          rfl

/-- Reading ends where the driver fails, if nobody else reads. -/
theorem ReadsOut.failed {r : Except TransferFailure Bytes} (reads : s.ReadsOut id chunk w events r)
    (hExists : id < w.channels.length) (spares : s.SparesInput id events) {e : Event σ}
    (hMem : e ∈ events) {room : Nat} {f : DriverFailure}
    (hCall : ⟨.input room, .error f⟩ ∈ e.calls s.toSurroundings id)
    (hHard : f.isWouldBlock = false) : r = .error (.driver f) := by
  have hOther (hTakes : ¬e.TakesInput id) : False := by
    have hNone := Event.noInput hTakes _ hCall
    cases hNone
  induction reads with
  | @ends v v' delivery r got hEnd delivered =>
    rcases List.mem_cons.1 hMem with rfl | hMem
    · exact got.symm.trans (Step.read_failed hExists hCall hHard)
    · exact (hOther (spares.tail.delivery delivered e hMem)).elim
  | @goes v u delivery more bytes sofar r got delivered rest ih =>
    rcases List.mem_cons.1 hMem with rfl | hMem
    · have hFailed := got.symm.trans (Step.read_failed hExists hCall hHard)
      cases hFailed
    · rcases List.mem_append.1 hMem with hMem | hMem
      · exact (hOther (spares.tail.left.delivery delivered e hMem)).elim
      · rcases List.mem_cons.1 hMem with rfl | hMem
        · exact (hOther not_false).elim
        · have hThere : id < u.channels.length :=
            Nat.lt_of_lt_of_le hExists (Nat.le_trans (Step.length_run _ _ v) delivered.leads.length)
          rw [ih hThere spares.tail.right.tail hMem]
          rfl

end Setting

/-- What the output of a command comes to while nobody else takes any of it and the driver never
has to wait. All of it ends with the end of the file, told by the driver, and is what was waiting
and what the driver has given before. If the driver fails, its own report is what comes of it, or
else one with the words of the system; nothing else fails but a channel that is closed meanwhile. -/
theorem output_captured_to_end {s : Setting σ} {id : ChannelId} {w w' : World σ}
    {events : List (Event σ)} {answer : Except Report Bytes}
    (run : s.Runs (Program.captureOutput id) w events answer w')
    (hOpen : (w.channel id).isOpenFor .read = true) (spares : s.SparesInput id events)
    (hNever : ∀ e ∈ events, e.waiting? s.toSurroundings id ≠ some true) :
    let chunk := max (w.channel id).bufferSize 1
    (∀ bytes, answer = .ok bytes → ∃ before u after room,
      events = before ++ .made (.hold id (.read chunk)) u :: after ∧
      (Step.hold id (.read chunk)).calls s.toSurroundings id u =
        [⟨.input room, .ok ⟨[], Nat.zero_le _⟩⟩] ∧
      bytes = (w.channel id).input ++ before.flatMap (·.given s.toSurroundings id) ∧
      ∀ e ∈ after, ∀ call ∈ e.calls s.toSurroundings id, call.isInput = false) ∧
    (∀ e ∈ events, ∀ room f, ⟨.input room, .error f⟩ ∈ e.calls s.toSurroundings id →
      f.isWouldBlock = false →
      answer = .error (f.report "conduit.exec.output" "error reading output from command")) ∧
    ∀ r, answer = .error r → ∃ before u after,
      events = before ++ .made (.hold id (.read chunk)) u :: after ∧
      ((u.channel id).isOpenFor .read = false ∨ ∃ room f,
        (Step.hold id (.read chunk)).calls s.toSurroundings id u = [⟨.input room, .error f⟩] ∧
        r = f.report "conduit.exec.output" "error reading output from command") := by
  intro chunk
  have hExists : id < w.channels.length :=
    World.exists_of_isOpen (Bool.and_eq_true _ _ ▸ hOpen :
      (w.channel id).isOpen = true ∧ (w.channel id).mode.has .read = true).1
  have hRoom : chunk ≠ 0 := Nat.ne_of_gt (Nat.lt_of_lt_of_le Nat.one_pos (Nat.le_max_right _ 1))
  cases run with
  | @step _ _ _ _ _ _ reading _ run =>
    have run : s.Runs ((Program.readChunks id chunk .empty).bind fun captured => .done
        (captured.mapError
          (·.report "conduit.exec.output" "error reading output from command")))
        w reading answer w' := run
    obtain ⟨read, chunks, rfl⟩ := Setting.runs_bind_done.1 run
    obtain ⟨r, reads, rfl⟩ := chunks.readsOut hRoom
    obtain ⟨before, u, after, rfl, hLast, hSpared⟩ := reads.ending
    obtain ⟨hSeeks, hAfter, hRead⟩ := hSpared spares.tail
    have sofar : s.Leads w before u := chunks.leads.up_to
    have hThere : id < u.channels.length := Nat.lt_of_lt_of_le hExists sofar.length
    refine ⟨?_, ?_, ?_⟩
    · intro bytes hBytes
      cases r with
      | error f => cases hBytes
      | ok all =>
        obtain rfl : all = bytes := Except.ok.inj hBytes
        obtain ⟨hStill, hNone, room, hEnd | ⟨f, hWait, hWaits⟩⟩ :=
          Step.read_nothing hThere hRoom hLast
        · refine ⟨.made (.look id) w :: before, u, after, room, rfl, hEnd, ?_, fun e hMem =>
            Event.noInput (hAfter e hMem)⟩
          have hStream := sofar.input hExists hSeeks hStill
          rw [hNone, List.append_nil, hRead all rfl] at hStream
          exact hStream.symm
        · refine absurd ?_ (hNever (.made (.hold id (.read chunk)) u) (by simp))
          show (if id = id then _ else none) = some true
          rw [if_pos rfl, hWaits]
          exact congrArg some hWait
    · intro e hMem room f hCall hHard
      rcases List.mem_cons.1 hMem with rfl | hMem
      · cases hCall
      · rw [reads.failed hExists spares.tail hMem hCall hHard]
        rfl
    · intro report hReport
      cases r with
      | ok all => cases hReport
      | error f =>
        refine ⟨.made (.look id) w :: before, u, after, rfl, ?_⟩
        rcases Step.read_fails hThere hLast with hShut | ⟨room, f', rfl, hFailed⟩
        · exact .inl hShut
        · cases hReport
          exact .inr ⟨room, f', hFailed, rfl⟩

/-- A driver that gives what its environment holds: a chunk at a time, with pauses. -/
def pausingSetting : Setting (List (Option Bytes)) where
  driver _ call chunks :=
    match call, chunks with
    | .input room, some bytes :: rest =>
      { answer := .ok ⟨bytes.take room, List.length_take_le ..⟩, env := rest }
    | .input _, none :: rest => { answer := .error .wouldBlock, env := rest }
    | call, chunks => { answer := call.unsupported, env := chunks }
  ready _ _ := .none
  users _ _ := false
  routine u := .done u.unit
  fire _ _ := .done ()

def pausingWorld (chunks : List (Option Bytes)) : World (List (Option Bytes)) where
  channels := [{ name := "pipe", type := "file", mode := .readOnly, input := [1] }]
  env := chunks

/-- Nobody is called in the events but to read on. -/
def Event.readsOn {σ : Type} : Event σ → Bool
  | .made _ _ | .called (.readAll 0 _ _) _ => true
  | .called _ _ => false

theorem sparesInput_of_readsOn {s : Setting σ} {events : List (Event σ)}
    (hAll : events.all (·.readsOn) = true) : s.SparesInput 0 events := by
  rintro before c v inner b v' after rfl run hOther
  have hReads : (Event.called c v).readsOn = true :=
    List.all_eq_true.1 hAll _ (List.mem_append_right _ (List.mem_cons_self ..))
  cases c with
  | readAll j chunk sofar =>
    cases j with
    | zero => exact absurd rfl (hOther chunk sofar)
    | succ j => cases hReads
  | _ => cases hReads

/-- Without pauses all is read, up to the end. -/
theorem output_captured_to_end_pausing :
    ∃ events w' before u after room,
      pausingSetting.Runs (Program.captureOutput 0) (pausingWorld [some [2, 3], some [4]]) events
        (.ok [1, 2, 3, 4]) w' ∧
      events = before ++ .made (.hold 0 (.read 4096)) u :: after ∧
      (Step.hold 0 (.read 4096)).calls pausingSetting.toSurroundings 0 u =
        [⟨.input room, .ok ⟨[], Nat.zero_le _⟩⟩] := by
  have hTrace : (pausingSetting.trace 5 (Program.captureOutput 0)
      (pausingWorld [some [2, 3], some [4]])).any (fun r =>
        (match r.2.1 with
          | .ok bytes => decide (bytes = [1, 2, 3, 4])
          | .error _ => false) &&
        r.1.all (·.readsOn) &&
        r.1.all fun e => decide (e.waiting? pausingSetting.toSurroundings 0 ≠ some true)) =
      true := by decide +kernel
  obtain ⟨events, answer, w', run, hChecked⟩ := Setting.exists_runs hTrace
  simp only [Bool.and_eq_true] at hChecked
  obtain ⟨⟨hAnswer, hReads⟩, hNever⟩ := hChecked
  cases answer with
  | error r => cases hAnswer
  | ok bytes =>
    obtain rfl := of_decide_eq_true hAnswer
    obtain ⟨before, u, after, room, hEvents, hEnd, -⟩ := (output_captured_to_end run rfl
      (sparesInput_of_readsOn hReads)
      fun e hMem => of_decide_eq_true (List.all_eq_true.1 hNever e hMem)).1 _ rfl
    exact ⟨events, w', before, u, after, room, run, hEvents, hEnd⟩

/-- At a pause the reading ends as if there were nothing more: the driver has not told the end of
the file, and what it would give next is not read. -/
theorem output_captured_to_pause :
    ∃ events w',
      pausingSetting.Runs (Program.captureOutput 0) (pausingWorld [some [2, 3], none, some [4]])
        events (.ok [1, 2, 3]) w' ∧
      pausingSetting.SparesInput 0 events ∧
      (∀ e ∈ events, e.ending? pausingSetting.toSurroundings 0 ≠ some true) ∧
      (w'.channel 0).eof = false ∧ w'.env = [some [4]] := by
  have hTrace : (pausingSetting.trace 5 (Program.captureOutput 0)
      (pausingWorld [some [2, 3], none, some [4]])).any (fun r =>
        (match r.2.1 with
          | .ok bytes => decide (bytes = [1, 2, 3])
          | .error _ => false) &&
        r.1.all (·.readsOn) &&
        (r.1.all fun e => decide (e.ending? pausingSetting.toSurroundings 0 ≠ some true)) &&
        decide ((r.2.2.channel 0).eof = false ∧ r.2.2.env = [some [4]])) = true := by
    decide +kernel
  obtain ⟨events, answer, w', run, hChecked⟩ := Setting.exists_runs hTrace
  simp only [Bool.and_eq_true, decide_eq_true_eq] at hChecked
  obtain ⟨⟨⟨hAnswer, hReads⟩, hEnding⟩, hEof, hLeft⟩ := hChecked
  cases answer with
  | error r => cases hAnswer
  | ok bytes =>
    obtain rfl := of_decide_eq_true hAnswer
    exact ⟨events, w', run, sparesInput_of_readsOn hReads,
      fun e hMem => of_decide_eq_true (List.all_eq_true.1 hEnding e hMem), hEof, hLeft⟩

end EventChannel
