import EventChannel.Proofs.World.Frame

/-! What a copy between two channels relies on: nobody else moves bytes of the two, takes their
handlers away or changes the record of the copy. Steps that keep to this go on apart from the copy,
whatever else they do. -/

namespace EventChannel

/-- A channel with its handlers, without what else is noted about it. -/
def Channel.core (c : Channel) : Channel :=
  { c with closeActions := [], references := 0, copying := false, deferred := .none }

theorem Channel.unnoted_core : Unnoted core :=
  ⟨fun _ _ => rfl, fun _ _ => rfl, fun _ _ => rfl, fun _ _ => rfl⟩

theorem Channel.of_core {c c' : Channel} (hCore : c'.core = c.core) :
    c' = { c with
      closeActions := c'.closeActions, references := c'.references, copying := c'.copying
      deferred := c'.deferred } := by
  cases c
  cases c'
  simp only [core, mk.injEq] at hCore ⊢
  simp [hCore]

namespace World

variable {σ : Type} {w : World σ} {k j : CopyId}

theorem copy_modifyCopy_self (f : Copy → Copy) (hExists : k < w.copies.length) :
    (w.modifyCopy k f).copy k = f (w.copy k) := by
  simp [modifyCopy, copy, copy?, List.getElem?_eq_getElem hExists]

theorem copy_modifyCopy_ne (f : Copy → Copy) (hNe : j ≠ k) :
    (w.modifyCopy j f).copy k = w.copy k := by
  simp [modifyCopy, copy, copy?, hNe]

@[simp] theorem length_modifyCopy (f : Copy → Copy) :
    (w.modifyCopy k f).copies.length = w.copies.length := by
  simp [modifyCopy]

theorem copy_congr {w w' : World σ} (h : w'.copies = w.copies) : w'.copy k = w.copy k := by
  rw [copy, copy, copy?, copy?, h]

@[simp] theorem copies_graspCopies (targets : List (Interest × Callback)) :
    (w.graspCopies targets).copies = w.copies := by
  refine foldl_keeps copies (fun w target => ?_) targets
  obtain ⟨ready, _ | k⟩ := target <;> rfl

end World

namespace Step

variable {σ α : Type}

/-- The step may change the record of a copy. -/
def Recopies (k : CopyId) : {α : Type} → Step σ α → Prop
  | _, .fixChunk j | _, .enterCopy j | _, .restCopy j | _, .countCopied j _
  | _, .setCopyHandlers j _ _ | _, .endCopying j | _, .finishCopy j => j = k
  | _, _ => False

/-- The copies after a step: none is taken away, and the record of one is changed by its own steps
only. -/
theorem copies_run (s : Surroundings σ) (t : Step σ α) (w : World σ) (k : CopyId) :
    w.copies.length ≤ (t.run s w).2.copies.length ∧
      (k < w.copies.length → ¬t.Recopies k → (t.run s w).2.copy k = w.copy k) := by
  have hSame {w' : World σ} (h : w'.copies = w.copies) :
      w.copies.length ≤ w'.copies.length ∧
        (k < w.copies.length → ¬t.Recopies k → w'.copy k = w.copy k) :=
    ⟨Nat.le_of_eq (congrArg List.length h).symm, fun _ _ => World.copy_congr h⟩
  have hModified (j : CopyId) (f : Copy → Copy) (hOwn : j = k → t.Recopies k) :
      w.copies.length ≤ (w.modifyCopy j f).copies.length ∧
        (k < w.copies.length → ¬t.Recopies k → (w.modifyCopy j f).copy k = w.copy k) :=
    ⟨Nat.le_of_eq (World.length_modifyCopy f).symm, fun _ hNot =>
      World.copy_modifyCopy_ne f fun hEq => hNot (hOwn hEq)⟩
  cases t with
  | raise j raised => exact hSame (World.copies_graspCopies _)
  | handle j d =>
    rw [Step.run]
    split <;> exact hSame rfl
  | takeCloseActions j =>
    rw [Step.run]
    split <;> exact hSame rfl
  | register i j =>
    simp only [Step.run, World.register]
    split <;> exact hSame rfl
  | unregister i name =>
    simp only [Step.run, World.unregister]
    split <;> exact hSame rfl
  | markDeleted i =>
    simp only [Step.run, World.markDeleted]
    split
    · exact hSame rfl
    · refine hSame (World.foldl_keeps World.copies ?_ _)
      exact fun _ _ => rfl
  | beginCopy source target limit? onDone? =>
    simp only [Step.run, World.beginCopy]
    split
    · exact hSame rfl
    · refine ⟨by simp, fun hExists _ => ?_⟩
      simp [World.copy, World.copy?, List.getElem?_append_left hExists]
  | fixChunk j | restCopy j | countCopied j | setCopyHandlers j | endCopying j =>
    exact hModified j _ id
  | enterCopy j =>
    rw [Step.run]
    split
    · exact hModified j _ id
    · exact hSame rfl
  | finishCopy j => exact hModified j _ id
  | _ => exact hSame rfl

/-- The step goes on apart from a copy between two channels. -/
structure Apart (source target : ChannelId) (k : CopyId) (t : Step σ α) : Prop where
  source : ¬t.Moves source ∧ ¬t.Clears source
  target : ¬t.Moves target ∧ ¬t.Clears target
  copy : ¬t.Recopies k

/-- A channel that is not moved and not cleared keeps its core. -/
theorem core_run (s : Surroundings σ) (t : Step σ α) (w : World σ) {id : ChannelId}
    (hExists : id < w.channels.length) (hNot : ¬t.Moves id ∧ ¬t.Clears id) :
    ((t.run s w).2.channel id).core = (w.channel id).core :=
  (t.keeps s w Channel.unnoted_core hNot.1 (.inr hNot.2)).same hExists

end Step

end EventChannel
