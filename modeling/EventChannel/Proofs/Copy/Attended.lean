import EventChannel.Proofs.Copy.Marks

/-! A copy in the background that rests has noted one handler, and whoever calls on a copy that
rests does so by that one. While others are at work, other copies among them, the record of a copy
that is under way stays as it is and nobody makes a handler of it; one that rests may go on to rest,
or be finished. -/

namespace EventChannel

namespace Copy

/-- The copy has noted a handler on a channel, for conditions that come up there. -/
def Awaits (c : Copy) (j : ChannelId) (mask : Interest) (handler : HandlerId) : Prop :=
  j = c.source ∧ mask = .reading ∧ c.sourceHandler? = some handler ∨
    j = c.target ∧ mask = .writing ∧ c.targetHandler? = some handler

/-- The copy with other handlers. -/
def noting (c : Copy) (source? target? : Option HandlerId) : Copy :=
  { c with sourceHandler? := source?, targetHandler? := target? }

theorem not_awaits {c : Copy} (hSource : c.sourceHandler? = none)
    (hTarget : c.targetHandler? = none) {j : ChannelId} {mask : Interest} {handler : HandlerId} :
    ¬c.Awaits j mask handler := by
  rintro (⟨-, -, hNoted⟩ | ⟨-, -, hNoted⟩)
  · rw [hSource] at hNoted
    cases hNoted
  · rw [hTarget] at hNoted
    cases hNoted

/-- What a copy has noted is on one of its channels. -/
theorem Awaits.involves {c : Copy} {j : ChannelId} {mask : Interest} {handler : HandlerId}
    (awaits : c.Awaits j mask handler) : c.involves j = true := by
  refine involves_iff.2 ?_
  rcases awaits with ⟨hIs, -⟩ | ⟨hIs, -⟩
  · exact .inl hIs
  · exact .inr hIs

/-- The copy has noted one handler. -/
def Hangs (c : Copy) : Prop := c.sourceHandler?.isSome = !c.targetHandler?.isSome

/-- What becomes of the record of a copy while others are at work. -/
structure Lasts (c c' : Copy) : Prop where
  source : c'.source = c.source
  target : c'.target = c.target
  onDone : c'.onDone? = c.onDone?
  busy : c.phase ≠ .resting → c' = { c with total := c'.total }
  resting : c.phase = .resting → c'.phase = .resting ∨ c'.phase = .done

namespace Lasts

variable {c c₁ c₂ : Copy}

theorem refl (c : Copy) : c.Lasts c := ⟨rfl, rfl, rfl, fun _ => rfl, .inl⟩

theorem phase (lasts : c.Lasts c₁) (hNot : c.phase ≠ .resting) : c₁.phase = c.phase := by
  rw [lasts.busy hNot]

theorem rested (lasts : c.Lasts c₁) (h : c.phase = .resting ∨ c.phase = .done) :
    c₁.phase = .resting ∨ c₁.phase = .done := by
  rcases h with hResting | hDone
  · exact lasts.resting hResting
  · refine .inr ((lasts.phase ?_).trans hDone)
    rw [hDone]
    exact nofun

theorem trans (left : c.Lasts c₁) (right : c₁.Lasts c₂) : c.Lasts c₂ where
  source := right.source.trans left.source
  target := right.target.trans left.target
  onDone := right.onDone.trans left.onDone
  busy hNot := by
    have hNot₁ : c₁.phase ≠ .resting := left.phase hNot ▸ hNot
    rw [right.busy hNot₁, left.busy hNot]
  resting hResting := right.rested (left.resting hResting)

end Lasts

end Copy

variable {σ α : Type} {s : Surroundings σ} {w w₁ w₂ : World σ}

/-- Handlers of copies belong to copies under way. A copy at rest is in the background and has noted
one handler; it has no others. -/
structure World.Attended (w : World σ) : Prop extends World.Marked w where
  hung : ∀ j, ∀ h ∈ (w.channel j).handlers, ∀ k, h.callback = .copy k →
    (w.copy k).unfinished = true ∧ ((w.copy k).phase = .resting → (w.copy k).Awaits j h.mask h.id)
  rests : ∀ k, (w.copy k).phase = .resting → (w.copy k).Hangs ∧ (w.copy k).onDone?.isSome

/-- A copy that is at rest is there. -/
theorem World.exists_of_resting {k : CopyId} (h : (w.copy k).phase = .resting) :
    k < w.copies.length := by
  refine exists_of_unfinished ?_
  rw [Copy.unfinished, h]
  rfl

theorem World.phase_of_absent {k : CopyId} (h : w.copies.length ≤ k) :
    (w.copy k).phase = .done := by
  rw [copy, copy?, List.getElem?_eq_none h]
  rfl

/-- Where there have been no copies yet, all is well. -/
theorem World.attended_of_none (hCopies : w.copies = [])
    (hChannels : ∀ c ∈ w.channels,
      c.copying = false ∧ ∀ h ∈ c.handlers, ∀ k, h.callback ≠ .copy k) :
    w.Attended := by
  have hChannel (j : ChannelId) : (w.channel j).copying = false ∧
      ∀ h ∈ (w.channel j).handlers, ∀ k, h.callback ≠ .copy k := by
    rw [channel]
    cases hAt : w.channels[j]? with
    | none => exact ⟨rfl, List.forall_mem_nil _⟩
    | some c => exact hChannels c (List.mem_of_getElem? hAt)
  have hDone (k : CopyId) : (w.copy k).phase = .done := by
    refine phase_of_absent ?_
    rw [hCopies]
    exact Nat.zero_le k
  have hFinished (k : CopyId) : (w.copy k).unfinished ≠ true := by
    rw [Copy.unfinished, hDone]
    exact Bool.false_ne_true
  refine ⟨⟨fun j => ?_, fun j k k' h => absurd h (hFinished k)⟩, fun j h hMem k hCallback => ?_,
    fun k hResting => ?_⟩
  · rw [(hChannel j).1]
    refine ⟨fun hTaken => absurd hTaken Bool.false_ne_true, ?_⟩
    rintro ⟨k, hUnfinished, -⟩
    exact absurd hUnfinished (hFinished k)
  · exact absurd hCallback ((hChannel j).2 h hMem k)
  · rw [hDone] at hResting
    cases hResting

namespace World.Attended

/-- One copy may have changed, with its handlers. -/
theorem replace {k : CopyId} (attended : w.Attended) (marked : w₁.Marked)
    (hOther : ∀ k', k' ≠ k → w₁.copy k' = w.copy k')
    (hHandlers : ∀ j, ∀ h ∈ (w₁.channel j).handlers, ∀ k', k' ≠ k → h.callback = .copy k' →
      h ∈ (w.channel j).handlers)
    (hung : ∀ j, ∀ h ∈ (w₁.channel j).handlers, h.callback = .copy k →
      (w₁.copy k).unfinished = true ∧
        ((w₁.copy k).phase = .resting → (w₁.copy k).Awaits j h.mask h.id))
    (rests : (w₁.copy k).phase = .resting → (w₁.copy k).Hangs ∧ (w₁.copy k).onDone?.isSome) :
    w₁.Attended where
  toMarked := marked
  hung j h hMem k' hCallback := by
    by_cases hIs : k' = k
    · subst hIs
      exact hung j h hMem hCallback
    · rw [hOther k' hIs]
      exact attended.hung j h (hHandlers j h hMem k' hIs hCallback) k' hCallback
  rests k' hResting := by
    by_cases hIs : k' = k
    · subst hIs
      exact rests hResting
    · rw [hOther k' hIs] at hResting ⊢
      exact attended.rests k' hResting

/-- The record of a copy may change that is under way afterwards. -/
theorem modifyCopy {k : CopyId} {f : Copy → Copy} (attended : w.Attended)
    (marked : (w.modifyCopy k f).Marked) (hExists : k < w.copies.length)
    (busy : (f (w.copy k)).Busy) : (w.modifyCopy k f).Attended := by
  have hRecord := World.copy_modifyCopy_self f hExists
  refine attended.replace marked (fun k' hNe => World.copy_modifyCopy_ne f (Ne.symm hNe))
    (fun j h hMem _ _ _ => hMem) ?_ ?_
  · intro j h _ _
    rw [hRecord]
    exact ⟨busy.2, fun hResting => absurd hResting busy.1⟩
  · intro hResting
    rw [hRecord] at hResting
    exact absurd hResting busy.1

/-- It is only about channels and copies. -/
theorem congr (attended : w.Attended) (hChannels : w₁.channels = w.channels)
    (hCopies : w₁.copies = w.copies) : w₁.Attended := by
  have hChannel (j : ChannelId) : w₁.channel j = w.channel j := World.channel_congr hChannels
  have hCopy (k : CopyId) : w₁.copy k = w.copy k := World.copy_congr hCopies
  refine ⟨⟨fun j => ?_, fun j k k' => ?_⟩, fun j h hMem k => ?_, fun k => ?_⟩
  · simp only [hChannel, hCopy]
    exact attended.taken j
  · simp only [hCopy]
    exact attended.alone j k k'
  · rw [hChannel] at hMem
    rw [hCopy]
    exact attended.hung j h hMem k
  · rw [hCopy]
    exact attended.rests k

/-- A copy that goes on as soon as the size of its chunks is fixed. -/
theorem launched {k : CopyId} (attended : w.Attended) (busy : (w.copy k).Busy) :
    ((w.fixChunk k).modifyCopy k ({ · with phase := .moving })).Attended := by
  have hExists := World.exists_of_unfinished busy.2
  have hOther (k' : CopyId) (hNe : k' ≠ k) :
      ((w.fixChunk k).modifyCopy k ({ · with phase := .moving })).copy k' = w.copy k' :=
    (World.copy_modifyCopy_ne _ (Ne.symm hNe)).trans (World.copy_modifyCopy_ne _ (Ne.symm hNe))
  have hFixed : (w.fixChunk k).copy k = _ := World.copy_modifyCopy_self _ hExists
  have hRecord : ((w.fixChunk k).modifyCopy k ({ · with phase := .moving })).copy k = _ :=
    World.copy_modifyCopy_self _ (by rwa [World.fixChunk, World.length_modifyCopy])
  have marked := (attended.toMarked.fixChunk busy.2).modifyCopy (k := k)
    (f := ({ · with phase := .moving })) ?_ rfl rfl
  · refine attended.replace marked hOther (fun j h hMem _ _ _ => hMem) ?_ ?_
    · intro j h _ _
      rw [hRecord]
      exact ⟨rfl, nofun⟩
    · intro hResting
      rw [hRecord] at hResting
      cases hResting
  · rw [hFixed]
    dsimp only [Copy.unfinished]
    split
    · rfl
    · exact busy.2.symm

end World.Attended

/-- The event makes a handler of a channel by which a copy goes on. -/
def Event.Makes (k : CopyId) (j : ChannelId) (mask : Interest) (handler : HandlerId)
    (e : Event σ) : Prop :=
  ∃ u : World σ, e = .made (.hold j (.createHandler mask (.copy k))) u ∧ j < u.channels.length ∧
    (u.copy k).unfinished = true ∧ handler = (u.channel j).lastHandler + 1

/-- The step notes which handlers a copy has. -/
def Step.Renotes (k : CopyId) : Step σ α → Prop
  | .setCopyHandlers k' _ _ => k' = k
  | _ => False

def Event.Renotes (k : CopyId) : Event σ → Prop
  | .made t _ => t.Renotes k
  | .called _ _ => False

/-- In the event a copy gives up a handler that it has noted. -/
def Event.GivesUp (k : CopyId) (j : ChannelId) (handler : HandlerId) (e : Event σ) : Prop :=
  ∃ source? target? u, e = .made (.setCopyHandlers k source? target?) u ∧
    (∃ mask, (u.copy k).Awaits j mask handler) ∧
      ∀ mask, ¬((u.copy k).noting source? target?).Awaits j mask handler

theorem Event.GivesUp.renotes {k : CopyId} {j : ChannelId} {handler : HandlerId} {e : Event σ}
    (givesUp : e.GivesUp k j handler) : e.Renotes k := by
  obtain ⟨source?, target?, u, rfl, -⟩ := givesUp
  rfl

/-- In some events a copy makes a handler of a channel, and does not give it up afterwards. -/
def Hooks (k : CopyId) (j : ChannelId) (mask : Interest) (handler : HandlerId)
    (events : List (Event σ)) : Prop :=
  ∃ before made after, events = before ++ made :: after ∧ made.Makes k j mask handler ∧
    ∀ e ∈ after, ¬e.GivesUp k j handler

section

variable {k : CopyId} {j : ChannelId} {mask : Interest} {handler : HandlerId}
  {events : List (Event σ)}

theorem Hooks.append (hooks : Hooks k j mask handler events) {more : List (Event σ)}
    (hMore : ∀ e ∈ more, ¬e.GivesUp k j handler) : Hooks k j mask handler (events ++ more) := by
  obtain ⟨before, made, after, rfl, makes, hAfter⟩ := hooks
  exact ⟨before, made, after ++ more, by simp, makes, List.forall_mem_append.2 ⟨hAfter, hMore⟩⟩

theorem Hooks.prepend (hooks : Hooks k j mask handler events) (first : List (Event σ)) :
    Hooks k j mask handler (first ++ events) := by
  obtain ⟨before, made, after, rfl, makes, hAfter⟩ := hooks
  exact ⟨first ++ before, made, after, by simp, makes, hAfter⟩

end

/-- What the copy has noted stems from the events, or from before, when it was at rest. It has not
been given up since. -/
def Copy.Stems (c : Copy) (k : CopyId) (w : World σ) (events : List (Event σ)) : Prop :=
  ∀ j mask handler, c.Awaits j mask handler →
    ((w.copy k).phase = .resting ∧ (w.copy k).Awaits j mask handler ∧
        ∀ e ∈ events, ¬e.GivesUp k j handler) ∨
      Hooks k j mask handler events

/-- What is still noted has not been given up meanwhile. -/
theorem Copy.Stems.append {c c' : Copy} {k : CopyId} {events more : List (Event σ)}
    (stems : c.Stems k w events)
    (hKept : ∀ j mask handler, c'.Awaits j mask handler →
      c.Awaits j mask handler ∧ ∀ e ∈ more, ¬e.GivesUp k j handler) :
    c'.Stems k w (events ++ more) := by
  intro j mask handler hAwaits
  obtain ⟨hNoted, hMore⟩ := hKept j mask handler hAwaits
  rcases stems j mask handler hNoted with ⟨hResting, hStart, hEach⟩ | hooks
  · exact .inl ⟨hResting, hStart, List.forall_mem_append.2 ⟨hEach, hMore⟩⟩
  · exact .inr (hooks.append hMore)

theorem Copy.Stems.beside {c : Copy} {k : CopyId} {events more : List (Event σ)}
    (stems : c.Stems k w events) (hNot : ∀ e ∈ more, ¬e.Renotes k) :
    c.Stems k w (events ++ more) :=
  stems.append fun _ _ _ hAwaits =>
    ⟨hAwaits, fun e hMem givesUp => hNot e hMem givesUp.renotes⟩

/-- The step lets a copy go on that is at rest. -/
def Step.Wakes (w : World σ) : Step σ α → Prop
  | .enterCopy k => (w.copy k).phase = .resting
  | _ => False

def Event.Wakes : Event σ → Prop
  | .made t w => t.Wakes w
  | .called _ _ => False

theorem Step.run_enterCopy {k : CopyId} (hResting : (w.copy k).phase = .resting) :
    (Step.enterCopy k).run s w = (true, w.modifyCopy k ({ · with phase := .moving })) := by
  simp only [Step.run, if_pos hResting]

/-- What happens leaves alone whatever copies there are, except for one at most: nobody hangs new
handlers on a copy under way, or notes any for it. Copies that have been begun meanwhile are at rest
or finished, and what a copy at rest has noted stems from what has happened, or from before. -/
structure Surroundings.Respects (s : Surroundings σ) (own : Option CopyId) (w : World σ)
    (events : List (Event σ)) (w' : World σ) : Prop where
  begins : w.Attended
  ends : w'.Attended
  fits : ∀ e ∈ events, e.Fits
  tended : ∀ e ∈ events, e.Wakes → (e.after s).Attended
  length : w.copies.length ≤ w'.copies.length
  lasts : ∀ k < w.copies.length, own ≠ some k → (w.copy k).Lasts (w'.copy k)
  fresh : ∀ k, w.copies.length ≤ k → own ≠ some k →
    (w'.copy k).phase = .resting ∨ (w'.copy k).phase = .done
  hushed : ∀ k < w.copies.length, own ≠ some k → (w.copy k).phase ≠ .resting →
    ∀ j, ∀ h ∈ (w'.channel j).handlers, h.callback = .copy k → h ∈ (w.channel j).handlers
  firm : ∀ k < w.copies.length, own ≠ some k → (w.copy k).phase ≠ .resting →
    ∀ e ∈ events, ¬e.Renotes k
  stems : ∀ k, own ≠ some k → (w'.copy k).phase = .resting → (w'.copy k).Stems k w events

namespace Surroundings.Respects

variable {own : Option CopyId} {first second : List (Event σ)}

theorem refl (attended : w.Attended) : s.Respects own w [] w where
  begins := attended
  ends := attended
  fits := List.forall_mem_nil _
  tended := List.forall_mem_nil _
  length := Nat.le_refl _
  lasts _ _ _ := .refl _
  fresh _ hAbsent _ := .inr (World.phase_of_absent hAbsent)
  hushed _ _ _ _ _ _ hMem _ := hMem
  firm _ _ _ _ := List.forall_mem_nil _
  stems _ _ hResting _ _ _ hAwaits := .inl ⟨hResting, hAwaits, List.forall_mem_nil _⟩

theorem trans (left : s.Respects own w first w₁) (right : s.Respects own w₁ second w₂) :
    s.Respects own w (first ++ second) w₂ where
  begins := left.begins
  ends := right.ends
  fits := List.forall_mem_append.2 ⟨left.fits, right.fits⟩
  tended := List.forall_mem_append.2 ⟨left.tended, right.tended⟩
  length := Nat.le_trans left.length right.length
  lasts k hOld hOwn :=
    (left.lasts k hOld hOwn).trans (right.lasts k (Nat.lt_of_lt_of_le hOld left.length) hOwn)
  fresh k hNew hOwn := by
    by_cases hThere : k < w₁.copies.length
    · exact (right.lasts k hThere hOwn).rested (left.fresh k hNew hOwn)
    · exact right.fresh k (Nat.le_of_not_lt hThere) hOwn
  hushed k hOld hOwn hNot j h hMem hCopy := by
    have hNot₁ : (w₁.copy k).phase ≠ .resting := (left.lasts k hOld hOwn).phase hNot ▸ hNot
    have hThere := Nat.lt_of_lt_of_le hOld left.length
    exact left.hushed k hOld hOwn hNot j h (right.hushed k hThere hOwn hNot₁ j h hMem hCopy) hCopy
  firm k hOld hOwn hNot := by
    have hNot₁ : (w₁.copy k).phase ≠ .resting := (left.lasts k hOld hOwn).phase hNot ▸ hNot
    have hThere := Nat.lt_of_lt_of_le hOld left.length
    exact List.forall_mem_append.2
      ⟨left.firm k hOld hOwn hNot, right.firm k hThere hOwn hNot₁⟩
  stems k hOwn hResting j mask handler hAwaits := by
    rcases right.stems k hOwn hResting j mask handler hAwaits with ⟨hRested, hNoted, hKept⟩ | hooks
    · rcases left.stems k hOwn hRested j mask handler hNoted with ⟨hStart, hNoted, hEach⟩ | hooks
      · exact .inl ⟨hStart, hNoted, List.forall_mem_append.2 ⟨hEach, hKept⟩⟩
      · exact .inr (hooks.append hKept)
    · exact .inr (hooks.prepend first)

/-- What leaves all copies alone leaves all but one alone. -/
theorem except (respects : s.Respects none w first w₁) (own : Option CopyId) :
    s.Respects own w first w₁ where
  begins := respects.begins
  ends := respects.ends
  fits := respects.fits
  tended := respects.tended
  length := respects.length
  lasts k hOld _ := respects.lasts k hOld nofun
  fresh k hNew _ := respects.fresh k hNew nofun
  hushed k hOld _ := respects.hushed k hOld nofun
  firm k hOld _ := respects.firm k hOld nofun
  stems k _ := respects.stems k nofun

/-- An event that changes no more of a record than the number of the bytes moved, and makes no
handler of a copy. -/
theorem untouched {e : Event σ} (attended : e.before.Attended) (fits : e.Fits)
    (hRenotes : ∀ k, ¬e.Renotes k) (marked : (e.after s).Marked)
    (hLength : e.before.copies.length ≤ (e.after s).copies.length)
    (hCopy : ∀ k, (e.after s).copy k =
      { e.before.copy k with total := ((e.after s).copy k).total })
    (hHandlers : ∀ j, ∀ h ∈ ((e.after s).channel j).handlers, ∀ k, h.callback = .copy k →
      h ∈ (e.before.channel j).handlers) :
    s.Respects own e.before [e] (e.after s) := by
  have hPhase (k : CopyId) : ((e.after s).copy k).phase = (e.before.copy k).phase := by
    rw [hCopy]
  have hAwaits (k : CopyId) (j : ChannelId) (mask : Interest) (handler : HandlerId) :
      ((e.after s).copy k).Awaits j mask handler ↔ (e.before.copy k).Awaits j mask handler := by
    rw [hCopy]
    exact Iff.rfl
  have after : (e.after s).Attended :=
    { marked with
      hung := fun j h hMem k hCallback => by
        rw [Copy.unfinished, hPhase, hAwaits]
        exact attended.hung j h (hHandlers j h hMem k hCallback) k hCallback
      rests := fun k hResting => by
        rw [hCopy]
        exact attended.rests k ((hPhase k).symm.trans hResting) }
  refine ⟨attended, after, List.forall_mem_singleton.2 fits,
    List.forall_mem_singleton.2 fun _ => after, hLength, ?_, ?_, ?_, ?_, ?_⟩
  · intro k _ _
    rw [hCopy]
    exact ⟨rfl, rfl, rfl, fun _ => rfl, .inl⟩
  · intro k hAbsent _
    rw [hPhase]
    exact .inr (World.phase_of_absent hAbsent)
  · exact fun k _ _ _ j h hMem hCallback => hHandlers j h hMem k hCallback
  · exact fun k _ _ _ => List.forall_mem_singleton.2 (hRenotes k)
  · intro k _ hResting j mask handler hNoted
    refine .inl ⟨(hPhase k).symm.trans hResting, (hAwaits k j mask handler).1 hNoted, ?_⟩
    exact List.forall_mem_singleton.2 fun givesUp => hRenotes k givesUp.renotes

/-- A step that changes nothing. -/
theorem unchanged {t : Step σ α} (attended : w.Attended) (fits : t.Fits w)
    (hRenotes : ∀ k, ¬t.Renotes k) (hRun : (t.run s w).2 = w) :
    s.Respects own w [.made t w] (t.run s w).2 := by
  refine untouched (e := .made t w) attended fits hRenotes (t.marked_run fits attended.toMarked) ?_
    (fun k => ?_) fun j h hMem _ _ => ?_
  · exact Nat.le_of_eq (congrArg (fun w => w.copies.length) hRun).symm
  · show (t.run s w).2.copy k = { w.copy k with total := ((t.run s w).2.copy k).total }
    rw [hRun]
  · rwa [show ((Event.made t w).after s) = w from hRun] at hMem

theorem called (attended : w.Attended) (c : Call) : s.Respects own w [.called c w] w :=
  untouched (e := .called c w) attended trivial (fun _ => not_false) attended.toMarked
    (Nat.le_refl _) (fun _ => rfl) fun _ _ hMem _ _ => hMem

/-- A step that belongs neither to a copy nor to a pass. -/
theorem basic {t : Step σ α} (attended : w.Attended) (basic : t.Basic ∨ t.Dispatches) :
    s.Respects own w [.made t w] (t.run s w).2 := by
  have fits : t.Fits w := by
    cases t with
    | «open» c =>
      rcases basic with hNew | hBasic
      · exact hNew
      · cases hBasic
    | fixChunk | restCopy | countCopied | setCopyHandlers | endCopying | finishCopy =>
      rcases basic with hBasic | hBasic <;> cases hBasic
    | _ => trivial
  have hRecords : ¬t.Records := by
    cases t with
    | beginCopy | fixChunk | enterCopy | restCopy =>
      rcases basic with hBasic | hBasic <;> cases hBasic
    | countCopied | setCopyHandlers | endCopying | finishCopy =>
      rcases basic with hBasic | hBasic <;> cases hBasic
    | _ => exact not_false
  have hRenotes (k : CopyId) : ¬t.Renotes k := by
    cases t with
    | setCopyHandlers => exact absurd trivial hRecords
    | _ => exact not_false
  have hCopies : (t.run s w).2.copies = w.copies := t.copies_same hRecords
  refine untouched (e := .made t w) attended fits hRenotes (t.marked_run fits attended.toMarked)
    (Nat.le_of_eq (congrArg List.length hCopies).symm) (fun k => ?_) ?_
  · show (t.run s w).2.copy k = { w.copy k with total := ((t.run s w).2.copy k).total }
    rw [World.copy_congr hCopies]
  · exact fun j h hMem k hCallback => Step.mem_of_basic basic hMem hCallback

/-- The bytes that a copy has moved are counted. -/
theorem counted {k : CopyId} (attended : w.Attended) (busy : (w.copy k).Busy) (n : Nat) :
    s.Respects own w [.made (.countCopied k n) w] ((Step.countCopied k n).run s w).2 := by
  have fits : (Step.countCopied (σ := σ) k n).Fits w := busy
  have hCopy (k' : CopyId) : ((Step.countCopied k n).run s w).2.copy k' =
      { w.copy k' with total := (((Step.countCopied k n).run s w).2.copy k').total } := by
    rcases World.copy_modifyCopy (w := w) (k := k) (fun c => { c with total := c.total + n }) k'
      with hSame | ⟨rfl, hIs⟩
    · rw [show ((Step.countCopied k n).run s w).2.copy k' = _ from hSame]
    · rw [show ((Step.countCopied k' n).run s w).2.copy k' = _ from hIs]
  exact untouched (e := .made (.countCopied k n) w) attended fits (fun _ => not_false)
    (Step.marked_run _ fits attended.toMarked) (Nat.le_of_eq (World.length_modifyCopy _).symm)
    hCopy fun _ _ hMem _ _ => hMem

variable {k : CopyId} {events : List (Event σ)}

/-- What is done for one copy leaves the others alone. -/
theorem of_ends (attended : w.Attended) (ends : w₁.Attended) (fits : ∀ e ∈ events, e.Fits)
    (tended : ∀ e ∈ events, e.Wakes → (e.after s).Attended)
    (hLength : w.copies.length ≤ w₁.copies.length)
    (hOther : ∀ k', k' ≠ k → w₁.copy k' = w.copy k')
    (hHandlers : ∀ j, ∀ h ∈ (w₁.channel j).handlers, ∀ k', k' ≠ k → h.callback = .copy k' →
      h ∈ (w.channel j).handlers)
    (hRenotes : ∀ k', k' ≠ k → ∀ e ∈ events, ¬e.Renotes k') :
    s.Respects (some k) w events w₁ := by
  have hNe {k' : CopyId} (hOwn : some k ≠ some k') : k' ≠ k :=
    fun hIs => hOwn (congrArg some hIs.symm)
  refine ⟨attended, ends, fits, tended, hLength, ?_, ?_, ?_, ?_, ?_⟩
  · intro k' _ hOwn
    rw [hOther k' (hNe hOwn)]
    exact .refl _
  · intro k' hAbsent hOwn
    rw [hOther k' (hNe hOwn)]
    exact .inr (World.phase_of_absent hAbsent)
  · exact fun k' _ hOwn _ j h hMem hCallback => hHandlers j h hMem k' (hNe hOwn) hCallback
  · exact fun k' _ hOwn _ => hRenotes k' (hNe hOwn)
  · intro k' hOwn hResting j mask handler hAwaits
    rw [hOther k' (hNe hOwn)] at hResting hAwaits
    refine .inl ⟨hResting, hAwaits, fun e hMem givesUp => ?_⟩
    exact hRenotes k' (hNe hOwn) e hMem givesUp.renotes

/-- So it is if the copy is one with its handlers afterwards. -/
theorem of_own (attended : w.Attended) (fits : ∀ e ∈ events, e.Fits)
    (hStays : ∀ e ∈ events, ¬e.Wakes) (marked : w₁.Marked)
    (hLength : w.copies.length ≤ w₁.copies.length)
    (hOther : ∀ k', k' ≠ k → w₁.copy k' = w.copy k')
    (hHandlers : ∀ j, ∀ h ∈ (w₁.channel j).handlers, ∀ k', k' ≠ k → h.callback = .copy k' →
      h ∈ (w.channel j).handlers)
    (hRenotes : ∀ k', k' ≠ k → ∀ e ∈ events, ¬e.Renotes k')
    (hung : ∀ j, ∀ h ∈ (w₁.channel j).handlers, h.callback = .copy k →
      (w₁.copy k).unfinished = true ∧
        ((w₁.copy k).phase = .resting → (w₁.copy k).Awaits j h.mask h.id))
    (rests : (w₁.copy k).phase = .resting → (w₁.copy k).Hangs ∧ (w₁.copy k).onDone?.isSome) :
    s.Respects (some k) w events w₁ :=
  .of_ends attended (attended.replace marked hOther hHandlers hung rests) fits
    (fun e hMem wakes => absurd wakes (hStays e hMem)) hLength hOther hHandlers hRenotes

/-- A copy under way changes its own record. -/
theorem recorded {t : Step σ α} {f : Copy → Copy} (attended : w.Attended) (fits : t.Fits w)
    (hRun : (t.run s w).2 = w.modifyCopy k f) (hRenotes : ∀ k', t.Renotes k' → k' = k)
    (hExists : k < w.copies.length) (busy : (f (w.copy k)).Busy) :
    s.Respects (some k) w [.made t w] (t.run s w).2 := by
  have marked := t.marked_run (s := s) fits attended.toMarked
  have ends : (t.run s w).2.Attended := by
    rw [hRun] at marked ⊢
    exact attended.modifyCopy marked hExists busy
  refine .of_ends attended ends (List.forall_mem_singleton.2 fits)
    (List.forall_mem_singleton.2 fun _ => ends) ?_ ?_ ?_ ?_
  · rw [hRun]
    exact Nat.le_of_eq (World.length_modifyCopy f).symm
  · rw [hRun]
    exact fun k' hNe => World.copy_modifyCopy_ne f (Ne.symm hNe)
  · rw [hRun]
    exact fun j h hMem _ _ _ => hMem
  · exact fun k' hNe => List.forall_mem_singleton.2 (mt (hRenotes k') hNe)

/-- A step on a channel that makes no handlers but those of one copy under way. -/
theorem held {j : ChannelId} {op : ChannelOp} (attended : w.Attended) (busy : (w.copy k).Busy)
    (hOther : ∀ i, ∀ h ∈ (((Step.hold j op).run s w).2.channel i).handlers, ∀ k', k' ≠ k →
      h.callback = .copy k' → h ∈ (w.channel i).handlers) :
    s.Respects (some k) w [.made (.hold j op) w] ((Step.hold j op).run s w).2 := by
  refine .of_own attended (List.forall_mem_singleton.2 trivial)
    (List.forall_mem_singleton.2 not_false)
    (Step.marked_run (.hold j op) trivial attended.toMarked) (Nat.le_refl _) (fun _ _ => rfl)
    hOther (fun _ _ => List.forall_mem_singleton.2 not_false) ?_ ?_
  · exact fun i h _ _ => ⟨busy.2, fun hResting => absurd hResting busy.1⟩
  · exact fun hResting => absurd hResting busy.1

/-- A copy that goes on as soon as the size of its chunks is fixed. -/
theorem launched (attended : w.Attended) (busy : (w.copy k).Busy)
    (hSource : (w.copy k).sourceHandler? = none) (hTarget : (w.copy k).targetHandler? = none) :
    s.Respects (some k) w
      [.made (.fixChunk k) w, .made (.grasp (.copy k)) ((Step.fixChunk k).run s w).2,
        .made (.enterCopy k) (((Step.fixChunk k).run s w).2.grasp (.copy k))]
      ((((Step.fixChunk k).run s w).2.grasp (.copy k)).modifyCopy k
        ({ · with phase := .moving })) := by
  have ends : ((((Step.fixChunk k).run s w).2.grasp (.copy k)).modifyCopy k
      ({ · with phase := .moving })).Attended := (attended.launched busy).congr rfl rfl
  refine .of_ends attended ends ?_ ?_ ?_ ?_ ?_ ?_
  · refine List.forall_mem_cons.2 ⟨⟨busy, hSource, hTarget⟩, List.forall_mem_cons.2 ⟨trivial, ?_⟩⟩
    exact List.forall_mem_singleton.2 trivial
  · refine List.forall_mem_cons.2 ⟨nofun, List.forall_mem_cons.2 ⟨nofun, ?_⟩⟩
    refine List.forall_mem_singleton.2 fun hResting => ?_
    rw [Event.after, Step.run_enterCopy hResting]
    exact ends
  · refine Nat.le_of_eq (Eq.symm ?_)
    exact (World.length_modifyCopy _).trans (World.length_modifyCopy _)
  · intro k' hNe
    exact (World.copy_modifyCopy_ne _ (Ne.symm hNe)).trans
      (World.copy_modifyCopy_ne _ (Ne.symm hNe))
  · exact fun j h hMem _ _ _ => hMem
  · intro k' _
    refine List.forall_mem_cons.2 ⟨not_false, List.forall_mem_cons.2 ⟨not_false, ?_⟩⟩
    exact List.forall_mem_singleton.2 not_false

/-- What has been done for one copy is like what others do, when that copy has come to rest. -/
theorem close (respects : s.Respects (some k) w events w₁)
    (old : k < w.copies.length →
      (w.copy k).phase = .resting ∧ (w.copy k).Lasts (w₁.copy k))
    (rested : (w₁.copy k).phase = .resting ∨ (w₁.copy k).phase = .done)
    (stems : (w₁.copy k).phase = .resting → (w₁.copy k).Stems k w events) :
    s.Respects none w events w₁ := by
  have hCases (k' : CopyId) : k' = k ∨ some k ≠ some k' := by
    by_cases hIs : k' = k
    · exact .inl hIs
    · exact .inr fun hSome => hIs (Option.some.inj hSome).symm
  refine ⟨respects.begins, respects.ends, respects.fits, respects.tended, respects.length, ?_, ?_,
    ?_, ?_, ?_⟩
  · intro k' hOld _
    rcases hCases k' with rfl | hOwn
    · exact (old hOld).2
    · exact respects.lasts k' hOld hOwn
  · intro k' hNew _
    rcases hCases k' with rfl | hOwn
    · exact rested
    · exact respects.fresh k' hNew hOwn
  · intro k' hOld _ hNot
    rcases hCases k' with rfl | hOwn
    · exact absurd (old hOld).1 hNot
    · exact respects.hushed k' hOld hOwn hNot
  · intro k' hOld _ hNot
    rcases hCases k' with rfl | hOwn
    · exact absurd (old hOld).1 hNot
    · exact respects.firm k' hOld hOwn hNot
  · intro k' _ hResting
    rcases hCases k' with rfl | hOwn
    · exact stems hResting
    · exact respects.stems k' hOwn hResting

end Surroundings.Respects

end EventChannel
