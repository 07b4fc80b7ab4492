import EventChannel.Proofs.World.Registry
import EventChannel.Proofs.World.Watch

/-! A step that closes nothing and touches neither entries nor references leaves all tables as they
are, and every channel under its name, with its references, and as open as it was. An entry that is
made or removed is one of a single channel; the others keep theirs. The errors that an interpreter
keeps for nobody in particular stay until they are taken. -/

namespace EventChannel

variable {σ α : Type}

namespace World

variable {doomed : ChannelId → Prop} {w w₁ w' : World σ} {i : InterpId} {j k : ChannelId}
  {name : String}

theorem channels_interp : (w.interp i).channels = (w.tables[i]?).getD [] := by
  rw [tables, interp, List.getElem?_map]
  cases w.interps[i]? <;> rfl

/-- All entries and references are as they were, and no channel but such has been closed. -/
structure Stands (doomed : ChannelId → Prop) (w w' : World σ) : Prop where
  entries : ∀ i, (w'.interp i).channels = (w.interp i).channels
  length : w.channels.length ≤ w'.channels.length
  title : ∀ k, k < w.channels.length → (w'.channel k).title = (w.channel k).title
  isOpen : ∀ k, k < w.channels.length → ¬doomed k →
    (w'.channel k).isOpen = (w.channel k).isOpen

namespace Stands

/-- Nothing stands or falls with what else there is in a world. -/
theorem of_eq (hInterps : w'.interps = w.interps) (hChannels : w'.channels = w.channels) :
    w.Stands doomed w' where
  entries i := by rw [interp, interp, hInterps]
  length := Nat.le_of_eq (congrArg List.length hChannels.symm)
  title _ _ := congrArg Channel.title (channel_congr hChannels)
  isOpen _ _ _ := congrArg Channel.isOpen (channel_congr hChannels)

theorem refl (w : World σ) : w.Stands doomed w := of_eq rfl rfl

theorem trans (left : w.Stands doomed w₁) (right : w₁.Stands doomed w') : w.Stands doomed w' where
  entries i := (right.entries i).trans (left.entries i)
  length := Nat.le_trans left.length right.length
  title k hExists :=
    (right.title k (Nat.lt_of_lt_of_le hExists left.length)).trans (left.title k hExists)
  isOpen k hExists hSpared :=
    (right.isOpen k (Nat.lt_of_lt_of_le hExists left.length) hSpared).trans
      (left.isOpen k hExists hSpared)

theorem lookup? (stands : w.Stands doomed w') :
    (w'.interp i).lookup? name = (w.interp i).lookup? name :=
  congrArg (·.lookup name) (stands.entries i)

end Stands

/-- A channel has its entries and its references, and is as open as it was. -/
structure Undisturbed (k : ChannelId) (w w' : World σ) : Prop where
  entries : ∀ i name, (w'.interp i).lookup? name = some k ↔ (w.interp i).lookup? name = some k
  references : (w'.channel k).references = (w.channel k).references
  isOpen : (w'.channel k).isOpen = (w.channel k).isOpen

theorem Undisturbed.of_eq (hInterps : w'.interps = w.interps)
    (hChannels : w'.channels = w.channels) : Undisturbed k w w' where
  entries i name := by rw [interp, interp, hInterps]
  references := congrArg Channel.references (channel_congr hChannels)
  isOpen := congrArg Channel.isOpen (channel_congr hChannels)

theorem Undisturbed.trans (left : Undisturbed k w w₁) (right : Undisturbed k w₁ w') :
    Undisturbed k w w' where
  entries i name := (right.entries i name).trans (left.entries i name)
  references := right.references.trans left.references
  isOpen := right.isOpen.trans left.isOpen

theorem Stands.undisturbed (stands : w.Stands doomed w') (hExists : k < w.channels.length)
    (hSpared : ¬doomed k) : Undisturbed k w w' where
  entries i name := by rw [stands.lookup?]
  references := congrArg Prod.snd (stands.title k hExists)
  isOpen := stands.isOpen k hExists hSpared

/-- The entries of one channel are changed, as are its references. -/
theorem undisturbed_of_exchange {f : Interp → Interp} {g : Channel → Channel} (hNe : j ≠ k)
    (hEntries : ∀ interp name, (f interp).lookup? name = some k ↔ interp.lookup? name = some k) :
    Undisturbed k w ((w.modifyInterp i f).modifyChannel j g) where
  entries i' name := by
    show ((w.modifyInterp i f).interp i').lookup? name = some k ↔ _
    rcases interp_modifyInterp f i' with hChanged | hSame
    · rw [hChanged]
      exact hEntries _ name
    · rw [hSame]
  references :=
    congrArg Channel.references (channel_modifyChannel_ne (w := w.modifyInterp i f) g hNe)
  isOpen := congrArg Channel.isOpen (channel_modifyChannel_ne (w := w.modifyInterp i f) g hNe)

/-- A channel that is entered takes no entry from another one. -/
theorem undisturbed_register (hNe : j ≠ k) : Undisturbed k w (w.register i j) := by
  rw [register]
  split
  · exact .of_eq rfl rfl
  · refine undisturbed_of_exchange hNe fun interp name => ?_
    rw [Interp.lookup?_enter, Option.or_eq_some_iff]
    constructor
    · rintro (hOld | ⟨-, hNew⟩)
      · exact hOld
      · split at hNew
        · exact absurd (Option.some.inj hNew) hNe
        · cases hNew
    · exact .inl

/-- A channel that is removed is not another one. -/
theorem undisturbed_withdraw (entry : (w.interp i).lookup? name = some j) (hNe : j ≠ k) :
    Undisturbed k w (w.withdraw i name j) where
  entries i' other := by
    show ((w.modifyInterp i (·.remove name)).interp i').lookup? other = some k ↔ _
    by_cases hTable : i = i'
    · subst hTable
      rw [interp_modifyInterp_self _ (exists_of_lookup? entry)]
      by_cases hName : other = name
      · rw [hName, Interp.lookup?_remove_self, entry]
        exact ⟨nofun, fun hEq => absurd (Option.some.inj hEq) hNe⟩
      · rw [Interp.lookup?_remove_ne _ hName]
    · rw [interp_modifyInterp_ne _ hTable]
  references := congrArg Channel.references (channel_withdraw_ne hNe)
  isOpen := congrArg Channel.isOpen (channel_withdraw_ne hNe)

/-- Under a name that was not taken, a channel is found where it has been entered. -/
theorem lookup?_register (hThere : i < w.interps.length)
    (vacant : (w.interp i).contains (w.channel j).name = false) :
    ((w.register i j).interp i).lookup? (w.channel j).name = some j := by
  have hEntered : (w.register i j).interp i = (w.interp i).enter (w.channel j).name j := by
    rw [register_of_vacant vacant]
    exact interp_modifyInterp_self (·.enter (w.channel j).name j) hThere
  rw [hEntered, Interp.lookup?_enter, Interp.lookup?_of_vacant _ vacant, if_pos rfl]
  rfl

/-- No entry of a channel is made but under its name. -/
theorem lookup?_of_register {i' : InterpId} (hThere : i < w.interps.length)
    (entry : ((w.register i j).interp i').lookup? name = some j) :
    (w.interp i').lookup? name = some j ∨ i' = i ∧ name = (w.channel j).name := by
  rw [register] at entry
  split at entry
  · exact .inl entry
  · have entered : ((w.modifyInterp i (·.enter (w.channel j).name j)).interp i').lookup? name =
        some j := entry
    by_cases hTable : i = i'
    · subst hTable
      rw [interp_modifyInterp_self _ hThere, Interp.lookup?_enter, Option.or_eq_some_iff] at entered
      rcases entered with hOld | ⟨-, hNew⟩
      · exact .inl hOld
      · split at hNew
        · next hName => exact .inr ⟨rfl, hName⟩
        · cases hNew
    · rw [interp_modifyInterp_ne _ hTable] at entered
      exact .inl entered

/-- What is still entered when an entry has been removed was entered before, and elsewhere. -/
theorem lookup?_of_withdraw {i' : InterpId} {other : String} (hThere : i < w.interps.length)
    (entry : ((w.withdraw i name j).interp i').lookup? other = some k) :
    (w.interp i').lookup? other = some k ∧ ¬(i' = i ∧ other = name) := by
  have left : ((w.modifyInterp i (·.remove name)).interp i').lookup? other = some k := entry
  by_cases hTable : i = i'
  · subst hTable
    rw [interp_modifyInterp_self _ hThere] at left
    by_cases hName : other = name
    · rw [hName, Interp.lookup?_remove_self] at left
      cases left
    · rw [Interp.lookup?_remove_ne _ hName] at left
      exact ⟨left, fun hSame => hName hSame.2⟩
  · rw [interp_modifyInterp_ne _ hTable] at left
    exact ⟨left, fun hSame => hTable hSame.1.symm⟩

/-- What is referred to has no part in an entry. -/
theorem register_grasp (e : Entity) : (w.grasp e).register i j = (w.register i j).grasp e := by
  cases hTaken : (w.interp i).contains (w.channel j).name with
  | true =>
    have hGrasped : ((w.grasp e).interp i).contains ((w.grasp e).channel j).name = true := hTaken
    rw [register, if_pos hGrasped, register, if_pos hTaken]
  | false =>
    have hGrasped : ((w.grasp e).interp i).contains ((w.grasp e).channel j).name = false := hTaken
    rw [register, hGrasped, register, hTaken]
    rfl

/-- A channel has been entered under its name, and nothing else has been entered or removed. -/
structure Entered (i : InterpId) (j : ChannelId) (w w' : World σ) : Prop where
  exists_before : j < w.channels.length
  length : w.channels.length ≤ w'.channels.length
  found : (w'.interp i).lookup? (w'.channel j).name = some j
  only : ∀ i' name, (w'.interp i').lookup? name = some j →
    (w.interp i').lookup? name = some j ∨ i' = i ∧ name = (w'.channel j).name
  references : (w'.channel j).references = (w.channel j).references + 1
  isOpen : (w'.channel j).isOpen = (w.channel j).isOpen
  others : ∀ k, k < w.channels.length → k ≠ j → Undisturbed k w w'

theorem entered_register (hThere : i < w.interps.length) (hExists : j < w.channels.length)
    (vacant : (w.interp i).contains (w.channel j).name = false) :
    Entered i j w (w.register i j) where
  exists_before := hExists
  length := Nat.le_of_eq length_register.symm
  found := by
    rw [channel_register_self hExists vacant]
    exact lookup?_register hThere vacant
  only i' name entry := by
    rw [channel_register_self hExists vacant]
    exact lookup?_of_register hThere entry
  references := by rw [channel_register_self hExists vacant]
  isOpen := by rw [channel_register_self hExists vacant]
  others k _ hNe := undisturbed_register (Ne.symm hNe)

/-- What has been entered is there as long as what stands is spared. -/
theorem Entered.stands (entered : Entered i j w w₁) (stands : w₁.Stands (fun _ => False) w') :
    Entered i j w w' := by
  have hExists := Nat.lt_of_lt_of_le entered.exists_before entered.length
  have hTitle := stands.title j hExists
  have hName : (w'.channel j).name = (w₁.channel j).name := congrArg Prod.fst hTitle
  have hReferences : (w'.channel j).references = (w₁.channel j).references :=
    congrArg Prod.snd hTitle
  constructor
  · exact entered.exists_before
  · exact Nat.le_trans entered.length stands.length
  · rw [stands.lookup?, hName]
    exact entered.found
  · intro i' name entry
    rw [stands.lookup?] at entry
    rw [hName]
    exact entered.only i' name entry
  · exact hReferences.trans entered.references
  · exact (stands.isOpen j hExists not_false).trans entered.isOpen
  · intro k hThere hNe
    have hLater := Nat.lt_of_lt_of_le hThere entered.length
    exact (entered.others k hThere hNe).trans (stands.undisturbed hLater not_false)

end World

namespace Step

variable {doomed : ChannelId → Prop} {s : Surroundings σ} {w : World σ}

/-- The step closes no channel but such, and neither makes nor removes an entry or a reference. -/
def Spares (doomed : ChannelId → Prop) : {α : Type} → Step σ α → Prop
  | _, .hold j op => op = .shut → doomed j
  | _, .register .. | _, .unregister .. | _, .dropReference _ => False
  | _, _ => True

theorem Spares.mono {t : Step σ α} {more : ChannelId → Prop} (spares : t.Spares doomed)
    (hMore : ∀ j, doomed j → more j) : t.Spares more := by
  cases t with
  | hold j op => exact fun hShut => hMore j (spares hShut)
  | _ => exact spares

/-- A step that spares what stands leaves it standing. -/
theorem stands_run (t : Step σ α) (spares : t.Spares doomed) : w.Stands doomed (t.run s w).2 where
  entries i := by
    have hApart (hEnrolls : ¬t.Enrolls) :
        ((t.run s w).2.interp i).channels = (w.interp i).channels := by
      rw [World.channels_interp, World.channels_interp, (t.tables_run hEnrolls).1]
    cases t with
    | register i j | unregister i name | dropReference j => cases spares
    | «open» c => rfl
    | newInterp =>
      have hTables : ((Step.newInterp).run s w).2.tables = w.tables ++ [[]] := List.map_append
      rw [World.channels_interp, World.channels_interp, hTables, List.getElem?_append]
      split
      · rfl
      · next hNew =>
        rw [List.getElem?_eq_none (Nat.le_of_not_lt hNew)]
        cases i - w.tables.length <;> rfl
    | _ => exact hApart not_false
  length := t.length_run s w
  title k hExists := by
    apply t.title_run hExists
    cases t with
    | register i j | dropReference j => cases spares
    | _ => exact not_false
  isOpen k hExists hSpared := by
    apply t.isOpen_run hExists
    cases t with
    | hold j op =>
      rintro ⟨rfl, hShut⟩
      exact hSpared (spares hShut)
    | _ => exact not_false

/-- The step takes the errors of an interpreter that are there. -/
def Collects (i : InterpId) : {α : Type} → Step σ α → Prop
  | _, .takeBackgroundErrors j => j = i
  | _, _ => False

/-- An error that nobody is there to receive is put behind the others. -/
theorem errors_addBackgroundError {i : InterpId} {r : Report} (hThere : i < w.interps.length) :
    (((Step.addBackgroundError i r).run s w).2.interp i).backgroundErrors =
      (w.interp i).backgroundErrors ++ [r] :=
  congrArg Interp.backgroundErrors (World.interp_modifyInterp_self _ hThere)

/-- The errors of an interpreter stay in their order until they are taken. -/
theorem errors_run (t : Step σ α) {i : InterpId} (hCollects : ¬t.Collects i) :
    (w.interp i).backgroundErrors <+: ((t.run s w).2.interp i).backgroundErrors := by
  have hModified (j : InterpId) (f : Interp → Interp)
      (hMore : ∀ interp, interp.backgroundErrors <+: (f interp).backgroundErrors) :
      (w.interp i).backgroundErrors <+: ((w.modifyInterp j f).interp i).backgroundErrors := by
    rcases World.interp_modifyInterp (w := w) (i := j) f i with hChanged | hSame
    · rw [hChanged]
      exact hMore _
    · exact hSame.symm ▸ List.prefix_refl _
  have hSame {w' : World σ} (hInterps : w'.interps = w.interps) :
      (w.interp i).backgroundErrors <+: (w'.interp i).backgroundErrors := by
    have hInterp : w'.interp i = w.interp i := by rw [World.interp, World.interp, hInterps]
    exact hInterp.symm ▸ List.prefix_refl _
  cases t with
  | raise j raised => exact hSame (World.interps_graspCopies _)
  | handle j d | takeCloseActions j | enterCopy k =>
    rw [Step.run]
    split <;> exact hSame rfl
  | register j id =>
    simp only [Step.run, World.register]
    split
    · exact hSame rfl
    · exact hModified j _ fun _ => List.prefix_refl _
  | unregister j name =>
    simp only [Step.run, World.unregister]
    split
    · exact hSame rfl
    · exact hModified j _ fun _ => List.prefix_refl _
  | addBackgroundError j r => exact hModified j _ fun _ => List.prefix_append _ _
  | takeBackgroundErrors j =>
    have hInterp : (w.modifyInterp j ({ · with backgroundErrors := [] })).interp i = w.interp i :=
      World.interp_modifyInterp_ne _ hCollects
    exact hInterp.symm ▸ List.prefix_refl _
  | setVariable j | newRecord j => exact hModified j _ fun _ => List.prefix_refl _
  | markDeleted j =>
    simp only [Step.run, World.markDeleted]
    split
    · exact hSame rfl
    · rw [World.interp, World.interp, World.interps_detachAll]
      exact hModified j _ fun _ => List.prefix_refl _
  | newInterp =>
    show _ <+: ((w.interps ++ [({} : Interp)])[i]?.getD {}).backgroundErrors
    rw [World.interp, List.getElem?_append]
    split
    · exact List.prefix_refl _
    · next hNew =>
      rw [List.getElem?_eq_none (Nat.le_of_not_lt hNew)]
      exact List.nil_prefix
  | beginCopy source target limit? onDone? =>
    simp only [Step.run, World.beginCopy]
    split <;> exact hSame rfl
  | _ => exact hSame rfl

end Step

namespace Event

variable {doomed : ChannelId → Prop}

/-- The event closes no channel but such, and neither makes nor removes an entry or a reference. -/
def Spares (doomed : ChannelId → Prop) : Event σ → Prop
  | made t _ => t.Spares doomed
  | called _ _ => True

theorem Spares.mono {e : Event σ} {more : ChannelId → Prop} (spares : e.Spares doomed)
    (hMore : ∀ j, doomed j → more j) : e.Spares more := by
  cases e with
  | made t w => exact Step.Spares.mono spares hMore
  | called c w => trivial

/-- The event takes the errors of an interpreter that are there. -/
def Collects (i : InterpId) : Event σ → Prop
  | made t _ => t.Collects i
  | called _ _ => False

end Event

namespace Surroundings.Leads

variable {s : Surroundings σ} {w w' : World σ} {events : List (Event σ)}
  {doomed : ChannelId → Prop}

/-- What all events spare stands at the end. -/
theorem stands (history : s.Leads w events w') (spares : ∀ e ∈ events, e.Spares doomed) :
    w.Stands doomed w' := by
  induction history with
  | refl => exact .refl _
  | snoc e prior ih =>
    have hLast := spares e (List.mem_append_right _ (List.mem_singleton_self e))
    have before := ih fun e' hMem => spares e' (List.mem_append_left _ hMem)
    cases e with
    | made t w => exact before.trans (t.stands_run hLast)
    | called c w => exact before

/-- Errors that nobody takes are there at the end. -/
theorem errors {i : InterpId} (history : s.Leads w events w')
    (hCollects : ∀ e ∈ events, ¬e.Collects i) :
    (w.interp i).backgroundErrors <+: (w'.interp i).backgroundErrors := by
  induction history with
  | refl => exact List.prefix_refl _
  | snoc e prior ih =>
    have hLast := hCollects e (List.mem_append_right _ (List.mem_singleton_self e))
    have before := ih fun e' hMem => hCollects e' (List.mem_append_left _ hMem)
    cases e with
    | made t w => exact before.trans (t.errors_run hLast)
    | called c w => exact before

end Surroundings.Leads

end EventChannel
