import EventChannel.Proofs.Copy.Ground

/-! What a copy has done as its two drivers see it. The driver of the source gives the bytes of a
stream; those the copy has moved are the first of what waited on the source and then the stream. The
driver of the target takes what waited on the target, followed by those. -/

namespace EventChannel

namespace DriverEvent

/-- A driver that does as it is asked does no worse than have its channel wait. -/
theorem isMild_of_isPrompt {e : DriverEvent} (hPrompt : e.isPrompt = true) : e.isMild = true := by
  obtain ⟨call, answer⟩ := e
  cases call with
  | input room => cases answer with
    | ok bytes => rfl
    | error f => cases hPrompt
  | output bytes => cases answer with
    | ok n => rfl
    | error f => cases hPrompt
  | setBlocking on => cases answer with
    | ok done => rfl
    | error e => cases hPrompt
  | _ => rfl

end DriverEvent

namespace Route

variable {σ : Type} (r : Route) (s : Surroundings σ)

/-- The calls to the driver of the source, in their order. -/
def asked (events : List (Event σ)) : List DriverEvent := events.flatMap (·.calls s r.source)

/-- The bytes that the driver of the target has taken. -/
def taken (events : List (Event σ)) : Bytes := events.flatMap (·.sent s r.target)

/-- The driver of the source gives the bytes of a stream in their order. It says that there are no
more when it has given all, and not before. -/
structure Feeds (events : List (Event σ)) (stream : Bytes) : Prop where
  given : givenBytes (r.asked s events) <+: stream
  ends : ∀ i (h : i < (r.asked s events).length), (r.asked s events)[i].isEnd = true →
    givenBytes ((r.asked s events).take i) = stream

instance (events : List (Event σ)) (stream : Bytes) : Decidable (r.Feeds s events stream) :=
  decidable_of_iff (givenBytes (r.asked s events) <+: stream ∧
      ∀ i, ∀ h : i < (r.asked s events).length, (r.asked s events)[i].isEnd = true →
        givenBytes ((r.asked s events).take i) = stream)
    ⟨fun ⟨given, ends⟩ => ⟨given, ends⟩, fun ⟨given, ends⟩ => ⟨given, ends⟩⟩

/-- All that can be read from the source: the input that waits, then the stream. -/
def supply (start : World σ) (stream : Bytes) : Bytes := (start.channel r.source).input ++ stream

/-- What can still be read from the source. -/
def readable (past : List (Event σ)) (w : World σ) (stream : Bytes) : Bytes :=
  (w.channel r.source).input ++ stream.drop (givenBytes (r.asked s past)).length

/-- How many of so many bytes the limit allows. -/
def allowance (n : Nat) : Nat :=
  match r.limit? with
  | none => n
  | some limit => min limit n

/-- The target has been given so many bytes of the supply. They have been taken by its driver, after
what had waited there before, or they wait. -/
structure Delivers (start : World σ) (past : List (Event σ)) (w : World σ) (stream : Bytes)
    (n : Nat) : Prop where
  bytes : r.taken s past ++ (w.channel r.target).output.toBytes =
    (start.channel r.target).output.toBytes ++ (r.supply start stream).take n
  count : n ≤ (r.supply start stream).length
  limit : ∀ limit, r.limit? = some limit → n ≤ limit

/-- As many bytes as the limit allows have reached the driver of the target, and the rest can still
be read. -/
structure Copied (start : World σ) (past : List (Event σ)) (w : World σ) (stream : Bytes)
    (total : Nat) : Prop where
  count : total = r.allowance (r.supply start stream).length
  taken : r.taken s past =
    (start.channel r.target).output.toBytes ++ (r.supply start stream).take total
  emptied : (w.channel r.target).output.toBytes = []
  rest : r.readable s past w stream = (r.supply start stream).drop total

variable {r s} {start w : World σ} {past first second : List (Event σ)} {c : Copy}
  {stream : Bytes} {error? : Option Report}

theorem asked_append : r.asked s (first ++ second) = r.asked s first ++ r.asked s second :=
  List.flatMap_append

theorem Feeds.left (feeds : r.Feeds s (first ++ second) stream) : r.Feeds s first stream := by
  constructor
  · have hGiven := feeds.given
    rw [asked_append, givenBytes_append] at hGiven
    exact (List.prefix_append _ _).trans hGiven
  · intro i hInside hEnd
    have hLonger : i < (r.asked s (first ++ second)).length := by
      rw [asked_append, List.length_append]
      omega
    have hGiven := feeds.ends i hLonger
    simp only [asked_append, List.getElem_append_left hInside,
      List.take_append_of_le_length (Nat.le_of_lt hInside)] at hGiven
    exact hGiven hEnd

/-- What is given later is the rest of the stream. -/
theorem Feeds.right (feeds : r.Feeds s (first ++ second) stream) :
    r.Feeds s second (stream.drop (givenBytes (r.asked s first)).length) := by
  obtain ⟨given, ends⟩ := feeds
  simp only [asked_append, givenBytes_append] at given ends
  obtain ⟨rest, rfl⟩ := given
  rw [List.append_assoc, List.drop_left]
  constructor
  · exact List.prefix_append _ _
  · intro i hInside hEnd
    have hGiven := ends ((r.asked s first).length + i) (by simpa using hInside)
    rw [List.getElem_append_right (Nat.le_add_right _ _), List.take_length_add_append] at hGiven
    simp only [Nat.add_sub_cancel_left, givenBytes_append] at hGiven
    have hLater := hGiven hEnd
    rw [List.append_assoc] at hLater
    exact List.append_cancel_left hLater

theorem given_eq (events : List (Event σ)) :
    events.flatMap (·.given s r.source) = givenBytes (r.asked s events) :=
  List.flatMap_assoc.symm

/-- What was given has been read, or it waits. -/
theorem Ground.input (ground : r.Ground s start past w c) (origin : r.Origin start) :
    (start.channel r.source).input ++ givenBytes (r.asked s past) =
      r.read s past ++ (w.channel r.source).input := by
  rw [← given_eq]
  exact ground.history.input origin.source ground.unsought ground.sourceOpen

/-- What has been read are the first bytes of the supply. -/
theorem Ground.read_prefix (ground : r.Ground s start past w c) (origin : r.Origin start)
    (feeds : r.Feeds s past stream) : r.read s past <+: r.supply start stream := by
  have hPrefix :
      r.read s past <+: (start.channel r.source).input ++ givenBytes (r.asked s past) := by
    rw [ground.input origin]
    exact List.prefix_append _ _
  exact hPrefix.trans ((List.prefix_append_right_inj _).2 feeds.given)

/-- What has been written are the first bytes of the supply. -/
theorem Ground.written_eq (ground : r.Ground s start past w c) (origin : r.Origin start)
    (feeds : r.Feeds s past stream) :
    r.written past = (r.supply start stream).take (r.written past).length :=
  List.prefix_iff_eq_take.1 (ground.order.trans (ground.read_prefix origin feeds))

/-- What can still be read are the bytes of the supply that have not been. -/
theorem Ground.readable_eq (ground : r.Ground s start past w c) (origin : r.Origin start)
    (feeds : r.Feeds s past stream) :
    r.readable s past w stream = (r.supply start stream).drop (r.read s past).length := by
  obtain ⟨rest, hRest⟩ := feeds.given
  have hSupply : r.supply start stream =
      r.read s past ++ ((w.channel r.source).input ++ rest) := by
    rw [supply, ← hRest, ← List.append_assoc, ground.input origin, List.append_assoc]
  rw [hSupply, readable, ← hRest, List.drop_left, List.drop_left]

/-- Where writing does not fail, what was written has been taken, or it waits. -/
theorem Ground.output (ground : r.Ground s start past w c) (origin : r.Origin start)
    (hMet : r.met s past = []) :
    r.taken s past ++ (w.channel r.target).output.toBytes =
      (start.channel r.target).output.toBytes ++ r.written past := by
  obtain ⟨hStream, -⟩ := ground.history.output origin.target origin.alone ground.targetOpen
  have hTaken : past.flatMap (·.spent s r.target) = r.taken s past :=
    congrArg List.flatten (List.map_congr_left fun e hMem =>
      Event.spent_of_noFailure (List.flatMap_eq_nil_iff.1 hMet e hMem))
  rw [← hTaken]
  exact hStream.symm

/-- Each failure to write that was met, or that waited to be told, has been told or waits. -/
theorem Ground.reports (ground : r.Ground s start past w c) (origin : r.Origin start) :
    (start.channel r.target).unreported?.toList ++ r.met s past =
      r.told s past ++ (w.channel r.target).unreported?.toList :=
  (ground.history.output origin.target origin.alone ground.targetOpen).2

/-- What a copy has written is delivered, as long as its drivers do as they have to. -/
theorem Ground.delivers (ground : r.Ground s start past w c) (origin : r.Origin start)
    (drives : r.Drives s past r.kind) (feeds : r.Feeds s past stream) :
    r.Delivers s start past w stream (r.written past).length where
  bytes := by
    rw [ground.output origin (ground.met drives), ← ground.written_eq origin feeds]
  count := (ground.order.trans (ground.read_prefix origin feeds)).length_le
  limit limit hLimit := Nat.le_trans ground.order.length_le (ground.limit limit hLimit)

/-- A source at its end has given its whole stream. -/
theorem AtEnd.given (atEnd : r.AtEnd s past w) (feeds : r.Feeds s past stream) :
    givenBytes (r.asked s past) = stream := by
  obtain ⟨-, e, hMem, call, hCall, hEnd⟩ := atEnd
  have hAsked : call ∈ r.asked s past := List.mem_flatMap.2 ⟨e, hMem, hCall⟩
  obtain ⟨i, hInside, rfl⟩ := List.mem_iff_getElem.1 hAsked
  have hBefore := feeds.ends i hInside hEnd
  have hGiven := feeds.given
  rw [← List.take_append_drop i (r.asked s past), givenBytes_append, hBefore] at hGiven ⊢
  exact hGiven.eq_of_length_le (by simp)

/-- A copy at its source's end has read the whole supply. -/
theorem Ground.read_eq (ground : r.Ground s start past w c) (origin : r.Origin start)
    (feeds : r.Feeds s past stream) (atEnd : r.AtEnd s past w) :
    r.read s past = r.supply start stream := by
  have hInput := ground.input origin
  rw [atEnd.given feeds, atEnd.1, List.append_nil] at hInput
  exact hInput.symm

/-- A driver of the source that has failed has not done as it had to. -/
theorem Unread.not_drives (unread : r.Unread s past) : ¬r.Drives s past r.kind := by
  intro drives
  obtain ⟨e, hMem, call, hCall, hNot⟩ := unread
  have hKind := (drives e hMem).1 call hCall
  have hMild : call.isMild = true := by
    rw [kind] at hKind
    split at hKind
    · exact hKind
    · exact DriverEvent.isMild_of_isPrompt hKind
  rw [hMild] at hNot
  cases hNot

/-- A copy whose drivers do as they have to, and whose target owes no failure, ends well. -/
theorem Ends.clean (ends : r.Ends s start past w c error?) (origin : r.Origin start)
    (hUnreported : (start.channel r.target).unreported? = none)
    (drives : r.Drives s past r.kind) : error? = none := by
  have hReports := ends.reports origin
  rw [hUnreported, ends.met drives] at hReports
  cases ends.outcome with
  | copied => rfl
  | unread report told unread => exact absurd drives unread.not_drives
  | unwritten f told parked =>
    rw [told] at hReports
    cases hReports

/-- A copy that has ended well has come to its limit, or its source to its end. -/
theorem Ends.stop (ends : r.Ends s start past w c none)
    (hEof : (start.channel r.source).eof = false) :
    r.limit? = some c.total ∨ r.AtEnd s past w := by
  cases ends.outcome with
  | copied told all count clear stop => exact stop.imp_right fun atEnd => atEnd hEof

/-- A copy that has ended well where it had to has copied all it could. -/
theorem Ends.copied (ends : r.Ends s start past w c none) (origin : r.Origin start)
    (stop : r.limit? = some c.total ∨ r.AtEnd s past w) (drives : r.Drives s past r.kind)
    (feeds : r.Feeds s past stream) : r.Copied s start past w stream c.total := by
  cases ends.outcome with
  | copied told all count clear =>
    have hRead := ends.read_prefix origin feeds
    have hDelivered := (ends.delivers origin drives feeds).bytes
    rw [ends.empty, List.append_nil, count] at hDelivered
    refine ⟨?_, hDelivered, ends.empty, ?_⟩
    · have hLength := hRead.length_le
      rw [all, count] at hLength
      rw [allowance]
      rcases stop with hLimit | atEnd
      · simp only [hLimit]
        omega
      · have hTotal : c.total = (r.supply start stream).length := by
          rw [← ends.read_eq origin feeds atEnd, all, count]
        split
        · exact hTotal
        · next limit hLimit =>
          have hWithin := ends.limit limit hLimit
          rw [all, count] at hWithin
          omega
    · rw [ends.readable_eq origin feeds, all, count]

end Route

end EventChannel
