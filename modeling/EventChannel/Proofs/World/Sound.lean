import EventChannel.Proofs.Stream.Output

/-! What holds of a channel from the time it is opened on, whatever is done to it and however its
driver behaves. A channel that is not open is so in neither direction, and a failure waits to be
told only where no output waits. -/

namespace EventChannel

/-- The record of a channel as its operations leave it. -/
structure Channel.Sound (c : Channel) : Prop extends c.ParkedAlone where
  shut : c.isOpen = false → c.mode = .none

namespace Channel

variable {c c' : Channel} {calls : List DriverEvent}

/-- A channel that has just been made is sound. -/
theorem sound_of_new (hOpen : c.isOpen = true) (hNone : c.unreported? = none) : c.Sound where
  toParkedAlone := parkedAlone_of_none hNone
  shut hShut := by rw [hOpen] at hShut; cases hShut

namespace Sound

theorem of_kept (sound : c.Sound) (hOpen : c'.isOpen = c.isOpen) (hMode : c'.mode = c.mode)
    (alone : c'.ParkedAlone) : c'.Sound where
  toParkedAlone := alone
  shut hShut := hMode.trans (sound.shut (hOpen ▸ hShut))

theorem flushed {failure? : Option DriverFailure} (sound : c.Sound)
    (flushed : c.Flushed calls failure? c') : c'.Sound :=
  sound.of_kept (by rw [flushed.rest]) (by rw [flushed.rest])
    (flushed.parkedAlone sound.toParkedAlone)

theorem cleared (sound : c.Sound) (cleared : c.Cleared calls c') : c'.Sound := by
  rcases cleared with ⟨-, rfl⟩ | flushed
  · exact sound
  · exact sound.flushed flushed

theorem calm {callback? : Option Callback} (sound : c.Sound)
    (calm : c.Calm callback? calls c') : c'.Sound := by
  have alone : c'.ParkedAlone :=
    sound.toParkedAlone.of_kept (by rw [calm.rest]) (by rw [calm.rest]) calm.pending
  exact sound.of_kept (by rw [calm.rest]) (by rw [calm.rest]) alone

end Sound

/-- No direction can be taken away where none is left. -/
theorem CloseHalfEffect.sound {d : Direction} {answer : Except Report HalfClosed}
    (sound : c.Sound) (effect : c.CloseHalfEffect d calls answer c') : c'.Sound := by
  have hAlone := (CloseHalfEffect.handles sound.toParkedAlone effect).alone
  cases effect with
  | unchanged answer => exact sound
  | failed f hWrite flushed => exact sound.flushed flushed
  | @went first second c₁ _ answer cleared control kept mode rest =>
    have hOpen : c'.isOpen = c₁.isOpen := by rw [rest]
    refine ⟨hAlone, fun hShut => ?_⟩
    have hBefore : c₁.mode = .none := (sound.cleared cleared).shut (hOpen ▸ hShut)
    rcases mode with hMode | hMode
    · exact hMode.trans hBefore
    · rw [hMode, hBefore]
      cases d <;> rfl

/-- Every operation leaves a sound channel sound. -/
theorem Effect.sound {op : ChannelOp} {answer : op.Answer} (sound : c.Sound)
    (effect : c.Effect op calls answer c') : c'.Sound := by
  cases op with
  | read n =>
    have hAlone := (ReadEffect.handles sound.toParkedAlone effect).alone
    apply sound.of_kept _ _ hAlone
    · cases effect <;> rfl
    · cases effect <;> rfl
  | write bytes force =>
    have hPushed (hParked : c.unreported? = none) :
        Sound { c with output := c.output.push bytes } :=
      sound.of_kept rfl rfl (parkedAlone_of_none hParked)
    cases effect with
    | misused m hNot => exact sound
    | unreported f hParked => exact sound.of_kept rfl rfl (parkedAlone_of_none rfl)
    | kept hParked hForce => exact hPushed hParked
    | written hParked flushed => exact (hPushed hParked).flushed flushed
    | failed f hParked flushed => exact (hPushed hParked).flushed flushed
  | seek target =>
    cases effect with
    | failed f flushed => exact sound.flushed flushed
    | went answer input eof deferred cleared control =>
      have hCleared := sound.cleared cleared
      exact hCleared.of_kept rfl rfl (hCleared.toParkedAlone.of_kept rfl rfl id)
  | closeHalf d => exact CloseHalfEffect.sound sound effect
  | shut =>
    cases effect with
    | already hShut => exact sound
    | went isOpen mode output pending =>
      have hEmpty : c'.output.toBytes = [] := by rw [output, ByteQueue.toBytes_empty]
      exact ⟨⟨fun _ => hEmpty, fun _ => pending⟩, fun _ => mode⟩
  | setBlocking | createHandler | deleteHandler => exact sound.calm effect.1
  | tell | getOption | getOptions | setOption | cut | splice => exact sound.calm effect

theorem RaiseEffect.sound (sound : c.Sound) (effect : c.RaiseEffect calls c') : c'.Sound := by
  have hAlone := (RaiseEffect.handles sound.toParkedAlone effect).alone
  cases effect with
  | idle => exact sound
  | written hPending flushed => exact sound.flushed flushed
  | failed f hPending flushed => exact (sound.flushed flushed).of_kept rfl rfl hAlone

end Channel

variable {σ α : Type} {s : Surroundings σ} {w w' : World σ} {id : ChannelId}

/-- Every step leaves a sound channel sound. -/
theorem Step.sound_run (t : Step σ α) (hExists : id < w.channels.length)
    (sound : (w.channel id).Sound) : ((t.run s w).2.channel id).Sound := by
  have hApart (hMoves : ¬t.Moves id) : ((t.run s w).2.channel id).Sound := by
    rw [Channel.of_bare (t.bare_run s w hExists hMoves)]
    exact sound.of_kept rfl rfl (sound.toParkedAlone.of_kept rfl rfl fun h => h)
  cases t with
  | hold j op =>
    by_cases hId : j = id
    · subst hId
      obtain ⟨c', hEffect, hChannel⟩ := Step.hold_shows s w op hExists
      have hSound : c'.Sound := hEffect.sound sound
      rw [hChannel]
      exact hSound.of_kept rfl rfl (hSound.toParkedAlone.of_kept rfl rfl fun h => h)
    · exact hApart hId
  | raise j raised =>
    by_cases hId : j = id
    · subst hId
      exact (Step.raise_shows s w raised hExists).1.sound sound
    · exact hApart hId
  | _ => exact hApart fun hMoves => hMoves

/-- A sound channel is sound ever after. -/
theorem Surroundings.Leads.sound {events : List (Event σ)} (history : s.Leads w events w')
    (hExists : id < w.channels.length) (sound : (w.channel id).Sound) :
    id < w'.channels.length ∧ (w'.channel id).Sound := by
  induction history with
  | refl => exact ⟨hExists, sound⟩
  | snoc e prior ih =>
    obtain ⟨hThere, hSound⟩ := ih
    refine ⟨Nat.lt_of_lt_of_le hThere e.length_after, ?_⟩
    cases e with
    | made t w₁ => exact t.sound_run hThere hSound
    | called c w₁ => exact hSound

end EventChannel
