import EventChannel.Proofs.Channel.Ledger
import EventChannel.Proofs.World.Frame

/-! Each table that holds a channel holds a reference to it. An entry stands under the name of its
channel, so no table holds a channel twice. Entries are made and removed together with references,
and nothing else touches the two. -/

namespace EventChannel

variable {σ α β : Type}

/-- What changes in the count of some elements when one of the list is changed. -/
theorem countP_modify {p : β → Bool} {f : β → β} {l : List β} {n : Nat} {b : β}
    (hAt : l[n]? = some b) :
    (l.modify n f).countP p + (p b).toNat = l.countP p + (p (f b)).toNat := by
  induction l generalizing n with
  | nil => cases hAt
  | cons a rest ih =>
    cases n with
    | zero =>
      obtain rfl : a = b := Option.some.inj hAt
      simp only [List.modify_zero_cons, List.countP_cons]
      cases p a <;> cases p (f a) <;> simp
    | succ n =>
      have hRest := ih hAt
      simp only [List.modify_succ_cons, List.countP_cons]
      omega

/-- The part of a channel that entries depend on. -/
def Channel.title (c : Channel) : String × Nat := (c.name, c.references)

namespace Interp

variable (i : Interp) {name other : String} {j : ChannelId}

/-- No entry stands under a name that is not taken. -/
theorem lookup?_of_vacant (vacant : i.contains name = false) : i.lookup? name = none :=
  Option.isNone_iff_eq_none.1 (Option.isSome_eq_false_iff.1 vacant)

theorem ne_of_vacant (vacant : i.contains name = false) {entry : String × ChannelId}
    (hMem : entry ∈ i.channels) : entry.1 ≠ name := by
  have hOther := List.lookup_eq_none_iff.1 (i.lookup?_of_vacant vacant) entry hMem
  exact fun hTaken => bne_iff_ne.1 hOther hTaken.symm

theorem lookup?_remove_self (name : String) : (i.remove name).lookup? name = none := by
  refine List.lookup_eq_none_iff.2 fun entry hMem => bne_iff_ne.2 fun hTaken => ?_
  exact bne_iff_ne.1 (List.mem_filter.1 hMem).2 hTaken.symm

theorem lookup?_remove_ne (hNe : other ≠ name) :
    (i.remove name).lookup? other = i.lookup? other := by
  show (i.channels.filter (·.1 != name)).lookup other = i.channels.lookup other
  induction i.channels with
  | nil => rfl
  | cons entry rest ih =>
    obtain ⟨taken, k⟩ := entry
    by_cases hTaken : taken = name
    · rw [List.filter_cons_of_neg (by simp [hTaken]), List.lookup_cons,
        beq_false_of_ne (hTaken ▸ hNe)]
      exact ih
    · rw [List.filter_cons_of_pos (by simp [hTaken]), List.lookup_cons, List.lookup_cons, ih]

theorem lookup?_enter : (i.enter name j).lookup? other =
    (i.lookup? other).or (if other = name then some j else none) := by
  show (i.channels ++ [(name, j)]).lookup other = _
  rw [List.lookup_append, List.lookup_cons]
  by_cases hSame : other = name
  · simp [hSame, lookup?]
  · simp [hSame, beq_false_of_ne hSame, lookup?]

end Interp

namespace World

variable {w w' : World σ} {i : InterpId} {j : ChannelId} {name : String}

/-- The world after an entry has been removed from the table of an interpreter and its channel has
lost a reference. The channel is referred to until it has been let go of. -/
def withdraw (w : World σ) (i : InterpId) (name : String) (j : ChannelId) : World σ :=
  ((w.modifyInterp i (·.remove name)).grasp (.channel j)).modifyChannel j fun c =>
    { c with references := c.references - 1 }

theorem channel_withdraw_self (hExists : j < w.channels.length) :
    (w.withdraw i name j).channel j =
      { w.channel j with references := (w.channel j).references - 1 } :=
  channel_modifyChannel_self (w := (w.modifyInterp i (·.remove name)).grasp (.channel j)) _ hExists

theorem channel_withdraw_ne {k : ChannelId} (hNe : j ≠ k) :
    (w.withdraw i name j).channel k = w.channel k :=
  channel_modifyChannel_ne (w := (w.modifyInterp i (·.remove name)).grasp (.channel j)) _ hNe

/-- The world after a channel has been entered under a name that was not taken. -/
theorem register_of_vacant (vacant : (w.interp i).contains (w.channel j).name = false) :
    w.register i j = (w.modifyInterp i (·.enter (w.channel j).name j)).modifyChannel j
      fun c => { c with references := c.references + 1 } := by
  rw [register, vacant]
  rfl

/-- A channel that has been entered has one more reference. -/
theorem channel_register_self (hExists : j < w.channels.length)
    (vacant : (w.interp i).contains (w.channel j).name = false) :
    (w.register i j).channel j =
      { w.channel j with references := (w.channel j).references + 1 } := by
  rw [register_of_vacant vacant]
  exact channel_modifyChannel_self (w := w.modifyInterp i (·.enter (w.channel j).name j)) _ hExists

theorem channel_register_ne {k : ChannelId} (hNe : j ≠ k) :
    (w.register i j).channel k = w.channel k := by
  rw [register]
  split
  · rfl
  · exact channel_modifyChannel_ne (w := w.modifyInterp i (·.enter (w.channel j).name j)) _ hNe

theorem name_register {k : ChannelId} :
    ((w.register i j).channel k).name = (w.channel k).name := by
  rw [register]
  split
  · rfl
  · exact view_modifyChannel (w := w.modifyInterp i (·.enter (w.channel j).name j)) fun _ => rfl

theorem length_register : (w.register i j).channels.length = w.channels.length := by
  rw [register]
  split
  · rfl
  · exact length_modifyChannel _

/-- There are no references to a channel that there is not. -/
theorem exists_of_references (hSome : 0 < (w.channel j).references) : j < w.channels.length := by
  apply Nat.lt_of_not_le
  intro hNot
  rw [channel, List.getElem?_eq_none hNot] at hSome
  cases hSome

/-- The tables of all interpreters. -/
def tables (w : World σ) : List (List (String × ChannelId)) := w.interps.map (·.channels)

/-- How many tables hold a channel. -/
def holders (w : World σ) (j : ChannelId) : Nat := w.tables.countP (·.any (·.2 == j))

/-- Every channel has as many references as there are tables that hold it, and every entry stands
under the name of its channel, as the only one under that name. -/
structure Tallies (w : World σ) : Prop where
  counted : ∀ j, j < w.channels.length → (w.channel j).references = w.holders j
  named : ∀ table ∈ w.tables, ∀ entry ∈ table,
    entry.2 < w.channels.length ∧ (w.channel entry.2).name = entry.1
  single : ∀ table ∈ w.tables, ∀ entry ∈ table, ∀ other ∈ table, entry.1 = other.1 → entry = other

/-- A world without tables and channels. -/
theorem tallies_empty (env : σ) : ({ env } : World σ).Tallies where
  counted _ hExists := by cases hExists
  named _ hMem := by cases hMem
  single _ hMem := by cases hMem

/-- The change of the table of an interpreter as one among the tables. -/
theorem tables_modifyInterp {f : Interp → Interp}
    {g : List (String × ChannelId) → List (String × ChannelId)}
    (hTable : ∀ i, (f i).channels = g i.channels) :
    (w.modifyInterp i f).tables = w.tables.modify i g := by
  apply List.ext_getElem?
  intro n
  simp only [tables, modifyInterp, List.getElem?_map, List.getElem?_modify]
  cases w.interps[n]? with
  | none => rfl
  | some interp => by_cases hSame : i = n <;> simp [hSame, hTable]

/-- What else is known of an interpreter does not matter. -/
theorem tables_of_kept {f : Interp → Interp} (hKept : ∀ i, (f i).channels = i.channels) :
    (w.modifyInterp i f).tables = w.tables := by
  rw [tables_modifyInterp (g := id) hKept, List.modify_id]

theorem table_at (hThere : i < w.interps.length) :
    w.tables[i]? = some (w.interp i).channels := by
  simp [tables, interp, List.getElem?_eq_getElem hThere]

/-- An interpreter with an entry is one that there is. -/
theorem exists_of_lookup? (entry : (w.interp i).lookup? name = some j) : i < w.interps.length := by
  apply Nat.lt_of_not_le
  intro hNot
  rw [interp, List.getElem?_eq_none hNot] at entry
  cases entry

theorem interp_modifyInterp_self (f : Interp → Interp) (hThere : i < w.interps.length) :
    (w.modifyInterp i f).interp i = f (w.interp i) := by
  simp [modifyInterp, interp, List.getElem?_eq_getElem hThere]

theorem interp_modifyInterp_ne {i' : InterpId} (f : Interp → Interp) (hNe : i ≠ i') :
    (w.modifyInterp i f).interp i' = w.interp i' := by
  simp [modifyInterp, interp, hNe]

/-- A change of one interpreter is one of any other or leaves that alone. -/
theorem interp_modifyInterp (f : Interp → Interp) (i' : InterpId) :
    (w.modifyInterp i f).interp i' = f (w.interp i') ∨
      (w.modifyInterp i f).interp i' = w.interp i' := by
  by_cases hSame : i = i'
  · subst hSame
    by_cases hThere : i < w.interps.length
    · exact .inl (interp_modifyInterp_self f hThere)
    · have hNone : w.interps.modify i f = w.interps :=
        List.modify_eq_self (Nat.le_of_not_lt hThere)
      rw [modifyInterp, hNone]
      exact .inr rfl
  · exact .inr (interp_modifyInterp_ne f hSame)

theorem mem_of_lookup? (entry : (w.interp i).lookup? name = some j) :
    (name, j) ∈ (w.interp i).channels := by
  obtain ⟨before, after, hTable, -⟩ := List.lookup_eq_some_iff.1 entry
  rw [hTable]
  simp

theorem any_of_lookup? (entry : (w.interp i).lookup? name = some j) :
    (w.interp i).channels.any (·.2 == j) = true :=
  List.any_eq_true.2 ⟨_, mem_of_lookup? entry, beq_self_eq_true j⟩

/-- An entry that has been removed is gone. -/
theorem lookup?_withdraw (hThere : i < w.interps.length) :
    ((w.withdraw i name j).interp i).lookup? name = none := by
  have hInterp : (w.withdraw i name j).interp i = (w.interp i).remove name :=
    interp_modifyInterp_self (·.remove name) hThere
  rw [hInterp]
  exact Interp.lookup?_remove_self _ name

theorem mem_modify {g : β → β} {l : List β} {n : Nat} {b c : β} (hAt : l[n]? = some b)
    (hMem : c ∈ l.modify n g) : c ∈ l ∨ c = g b := by
  obtain ⟨k, hGet⟩ := List.mem_iff_getElem?.1 hMem
  rw [List.getElem?_modify] at hGet
  by_cases hSame : n = k
  · subst hSame
    rw [hAt] at hGet
    simp at hGet
    exact .inr hGet.symm
  · simp [hSame] at hGet
    exact .inl (List.mem_of_getElem? hGet)

namespace Tallies

/-- New channels have no references, and no table holds them. -/
theorem of_kept (tallies : w.Tallies) (hTables : w'.tables = w.tables)
    (hLength : w.channels.length ≤ w'.channels.length)
    (hKept : ∀ j, j < w.channels.length → (w'.channel j).title = (w.channel j).title)
    (hNew : ∀ j, w.channels.length ≤ j → j < w'.channels.length →
      (w'.channel j).references = 0) : w'.Tallies where
  counted j hExists := by
    rw [holders, hTables, ← holders]
    by_cases hThere : j < w.channels.length
    · rw [← tallies.counted j hThere]
      exact congrArg Prod.snd (hKept j hThere)
    · rw [hNew j (Nat.le_of_not_lt hThere) hExists, eq_comm, holders, List.countP_eq_zero]
      intro table hTable
      rw [List.any_eq_true]
      rintro ⟨entry, hEntry, hIs⟩
      exact hThere (eq_of_beq hIs ▸ (tallies.named table hTable entry hEntry).1)
  named table hTable entry hEntry := by
    obtain ⟨hThere, hName⟩ := tallies.named table (hTables ▸ hTable) entry hEntry
    have hKeptName : (w'.channel entry.2).name = (w.channel entry.2).name :=
      congrArg Prod.fst (hKept entry.2 hThere)
    exact ⟨Nat.lt_of_lt_of_le hThere hLength, hKeptName.trans hName⟩
  single table hTable := tallies.single table (hTables ▸ hTable)

/-- A new table is empty. -/
theorem newTable (tallies : w.Tallies) (hTables : w'.tables = w.tables ++ [[]])
    (hChannels : w'.channels = w.channels) : w'.Tallies := by
  have hOld {table : List (String × ChannelId)} {entry : String × ChannelId}
      (hTable : table ∈ w'.tables) (hEntry : entry ∈ table) : table ∈ w.tables := by
    rcases List.mem_append.1 (hTables ▸ hTable) with hThere | hNew
    · exact hThere
    · rw [List.mem_singleton.1 hNew] at hEntry
      cases hEntry
  have hChannel (j : ChannelId) : w'.channel j = w.channel j := channel_congr hChannels
  constructor
  · intro j hExists
    rw [holders, hTables, List.countP_append, hChannel]
    exact tallies.counted j (hChannels ▸ hExists)
  · intro table hTable entry hEntry
    rw [hChannel, hChannels]
    exact tallies.named table (hOld hTable hEntry) entry hEntry
  · exact fun table hTable entry hEntry =>
      tallies.single table (hOld hTable hEntry) entry hEntry

/-- One table is changed, and the references with it. -/
theorem exchange (tallies : w.Tallies) (hThere : i < w.interps.length)
    {g : List (String × ChannelId) → List (String × ChannelId)}
    (hTables : w'.tables = w.tables.modify i g)
    (hLength : w'.channels.length = w.channels.length)
    (hNames : ∀ k, (w'.channel k).name = (w.channel k).name)
    (hCount : ∀ k, k < w.channels.length →
      (w'.channel k).references + ((w.interp i).channels.any (·.2 == k)).toNat =
        (w.channel k).references + ((g (w.interp i).channels).any (·.2 == k)).toNat)
    (hNamed : ∀ entry ∈ g (w.interp i).channels,
      entry.2 < w.channels.length ∧ (w.channel entry.2).name = entry.1)
    (hSingle : ∀ entry ∈ g (w.interp i).channels, ∀ other ∈ g (w.interp i).channels,
      entry.1 = other.1 → entry = other) : w'.Tallies where
  counted k hExists := by
    have hHolders := countP_modify (p := fun table => table.any (·.2 == k)) (f := g)
      (table_at hThere)
    have hBefore := tallies.counted k (hLength ▸ hExists)
    have hRefs := hCount k (hLength ▸ hExists)
    rw [holders, hTables]
    rw [holders] at hBefore
    omega
  named table hTable entry hEntry := by
    rw [hLength, hNames]
    rcases mem_modify (table_at hThere) (hTables ▸ hTable) with hOld | rfl
    · exact tallies.named table hOld entry hEntry
    · exact hNamed entry hEntry
  single table hTable := by
    rcases mem_modify (table_at hThere) (hTables ▸ hTable) with hOld | rfl
    · exact tallies.single table hOld
    · exact hSingle

/-- No table holds a channel under another name than its own. -/
theorem any_eq_false (tallies : w.Tallies) (hThere : i < w.interps.length)
    (vacant : (w.interp i).contains (w.channel j).name = false) :
    (w.interp i).channels.any (·.2 == j) = false := by
  rw [List.any_eq_false]
  intro entry hMem hIs
  have hName := (tallies.named _ (List.mem_of_getElem? (table_at hThere)) entry hMem).2
  rw [eq_of_beq hIs] at hName
  exact (w.interp i).ne_of_vacant vacant hMem hName.symm

/-- An entry that is made comes with a reference. -/
theorem register (tallies : w.Tallies) (hThere : i < w.interps.length)
    (hExists : j < w.channels.length) : (w.register i j).Tallies := by
  cases vacant : (w.interp i).contains (w.channel j).name with
  | true =>
    rw [World.register, if_pos vacant]
    exact tallies
  | false =>
    have hApart := tallies.any_eq_false hThere vacant
    have hMem := List.mem_of_getElem? (table_at hThere)
    refine tallies.exchange (g := (· ++ [((w.channel j).name, j)])) hThere ?_ length_register
      (fun k => name_register) ?_ ?_ ?_
    · rw [register_of_vacant vacant]
      exact tables_modifyInterp fun _ => rfl
    · intro k hThere
      rw [List.any_append]
      by_cases hSame : j = k
      · subst hSame
        rw [channel_register_self hExists vacant, hApart, List.any_cons, beq_self_eq_true]
        rfl
      · rw [channel_register_ne hSame, List.any_cons, beq_false_of_ne hSame, List.any_nil,
          Bool.or_self, Bool.or_false]
    · intro entry hEntry
      rcases List.mem_append.1 hEntry with hOld | hNew
      · exact tallies.named _ hMem entry hOld
      · rw [List.mem_singleton.1 hNew]
        exact ⟨hExists, rfl⟩
    · have hNew {entry : String × ChannelId} (hOld : entry ∈ (w.interp i).channels) :
          entry.1 ≠ (w.channel j).name := (w.interp i).ne_of_vacant vacant hOld
      intro entry hEntry other hOther hEq
      rcases List.mem_append.1 hEntry with hOld | hAdded <;>
        rcases List.mem_append.1 hOther with hOld' | hAdded'
      · exact tallies.single _ hMem entry hOld other hOld' hEq
      · rw [List.mem_singleton.1 hAdded'] at hEq
        exact absurd hEq (hNew hOld)
      · rw [List.mem_singleton.1 hAdded] at hEq
        exact absurd hEq.symm (hNew hOld')
      · rw [List.mem_singleton.1 hAdded, List.mem_singleton.1 hAdded']

section removal

variable (tallies : w.Tallies) (entry : (w.interp i).lookup? name = some j)

include tallies entry

/-- The channel of an entry exists and has the name that it is entered under. -/
theorem named_of_lookup? : j < w.channels.length ∧ (w.channel j).name = name :=
  tallies.named _ (List.mem_of_getElem? (table_at (exists_of_lookup? entry))) _
    (mem_of_lookup? entry)

/-- An entry stands for a reference. -/
theorem references_pos : 0 < (w.channel j).references := by
  have hMem := List.mem_of_getElem? (table_at (exists_of_lookup? entry))
  rw [tallies.counted j (tallies.named_of_lookup? entry).1]
  exact List.countP_pos_iff.2 ⟨_, hMem, any_of_lookup? entry⟩

/-- With its entry a table has lost the channel altogether. -/
theorem any_remove_self : ((w.interp i).remove name).channels.any (·.2 == j) = false := by
  have hMem := List.mem_of_getElem? (table_at (exists_of_lookup? entry))
  rw [List.any_eq_false]
  intro other hOther hIs
  obtain ⟨hOld, hKept⟩ := List.mem_filter.1 hOther
  have hName := (tallies.named _ hMem other hOld).2
  rw [eq_of_beq hIs, (tallies.named_of_lookup? entry).2] at hName
  simp [← hName] at hKept

/-- It has lost no other channel. -/
theorem any_remove_ne {k : ChannelId} (hNe : j ≠ k) :
    ((w.interp i).remove name).channels.any (·.2 == k) =
      (w.interp i).channels.any (·.2 == k) := by
  have hMem := List.mem_of_getElem? (table_at (exists_of_lookup? entry))
  rw [Bool.eq_iff_iff, List.any_eq_true, List.any_eq_true]
  constructor
  · rintro ⟨other, hOther, hIs⟩
    exact ⟨other, (List.mem_filter.1 hOther).1, hIs⟩
  · rintro ⟨other, hOther, hIs⟩
    refine ⟨other, List.mem_filter.2 ⟨hOther, bne_iff_ne.2 fun hTaken => ?_⟩, hIs⟩
    have hEq := tallies.single _ hMem other hOther _ (mem_of_lookup? entry) hTaken
    rw [hEq] at hIs
    exact hNe (eq_of_beq hIs)

/-- An entry that is removed takes a reference with it. -/
theorem withdraw : (w.withdraw i name j).Tallies := by
  have hThere := exists_of_lookup? entry
  have hMem := List.mem_of_getElem? (table_at hThere)
  obtain ⟨hExists, -⟩ := tallies.named_of_lookup? entry
  refine tallies.exchange (g := (·.filter (·.1 != name))) hThere ?_ ?_ ?_ ?_ ?_ ?_
  · exact tables_modifyInterp fun _ => rfl
  · exact length_modifyChannel _
  · exact fun k => view_modifyChannel fun _ => rfl
  · intro k hThere
    by_cases hSame : j = k
    · subst hSame
      have hGone : ((w.interp i).channels.filter (·.1 != name)).any (·.2 == j) = false :=
        tallies.any_remove_self entry
      have hSome := tallies.references_pos entry
      rw [channel_withdraw_self hExists, any_of_lookup? entry, hGone]
      show (w.channel j).references - 1 + 1 = (w.channel j).references + 0
      omega
    · have hHolds : ((w.interp i).channels.filter (·.1 != name)).any (·.2 == k) =
          (w.interp i).channels.any (·.2 == k) := tallies.any_remove_ne entry hSame
      rw [channel_withdraw_ne hSame, hHolds]
  · intro other hOther
    exact tallies.named _ hMem other (List.mem_filter.1 hOther).1
  · intro other hOther another hAnother
    exact tallies.single _ hMem other (List.mem_filter.1 hOther).1 another
      (List.mem_filter.1 hAnother).1

end removal

end Tallies

end World

namespace Step

variable {s : Surroundings σ} {w : World σ} {id : ChannelId}

theorem unregister_of_none {i : InterpId} {name : String}
    (missing : (w.interp i).lookup? name = none) :
    (Step.unregister i name).run s w = (none, w) := by
  simp only [Step.run, World.unregister, missing]

theorem unregister_of_some {i : InterpId} {name : String} {j : ChannelId}
    (entry : (w.interp i).lookup? name = some j) :
    (Step.unregister i name).run s w = (some j, w.modifyInterp i (·.remove name)) := by
  simp only [Step.run, World.unregister, entry]

/-- The step makes a channel or a table, or may change one of the tables. -/
def Enrolls : {α : Type} → Step σ α → Prop
  | _, .open _ | _, .register .. | _, .unregister .. | _, .newInterp => True
  | _, _ => False

/-- No other step changes the tables, or how many channels there are. -/
theorem tables_run (t : Step σ α) (hNot : ¬t.Enrolls) :
    (t.run s w).2.tables = w.tables ∧ (t.run s w).2.channels.length = w.channels.length := by
  have hHeld {β : Type} (j : ChannelId) (f : Held σ → β × Held σ) :
      (w.hold j f).2.tables = w.tables ∧ (w.hold j f).2.channels.length = w.channels.length :=
    ⟨rfl, World.length_hold f⟩
  have hModified (j : ChannelId) (f : Channel → Channel) :
      (w.modifyChannel j f).tables = w.tables ∧
        (w.modifyChannel j f).channels.length = w.channels.length :=
    ⟨rfl, World.length_modifyChannel f⟩
  have hMarked (source target : ChannelId) (on : Bool) :
      (w.markCopying source target on).tables = w.tables ∧
        (w.markCopying source target on).channels.length = w.channels.length :=
    ⟨rfl, (World.length_modifyChannel _).trans (World.length_modifyChannel _)⟩
  cases t with
  | «open» c => exact absurd trivial hNot
  | register i j => exact absurd trivial hNot
  | unregister i name => exact absurd trivial hNot
  | newInterp => exact absurd trivial hNot
  | hold j op => exact hHeld j _
  | raise j raised =>
    constructor
    · refine (World.foldl_keeps World.tables (fun w target => ?_) _).trans rfl
      obtain ⟨ready, _ | k⟩ := target <;> rfl
    · apply (congrArg List.length (World.channels_graspCopies _)).trans
      exact World.length_modifyChannel _
  | handle j d =>
    rw [Step.run]
    split
    · exact hHeld j _
    · exact ⟨rfl, rfl⟩
  | takeCloseActions j =>
    rw [Step.run]
    split
    · exact hModified j _
    · exact ⟨rfl, rfl⟩
  | addCloseAction j | clearHandlers j | dropReference j => exact hModified j _
  | setVariable i | addBackgroundError i | takeBackgroundErrors i | newRecord i =>
    exact ⟨World.tables_of_kept fun _ => rfl, rfl⟩
  | markDeleted i =>
    simp only [Step.run, World.markDeleted]
    split
    · exact ⟨rfl, rfl⟩
    · constructor
      · refine (World.foldl_keeps World.tables ?_ _).trans ?_
        · exact fun _ _ => rfl
        · exact World.tables_of_kept fun _ => rfl
      · refine congrArg List.length (World.foldl_keeps World.channels ?_ _)
        exact fun _ _ => rfl
  | beginCopy source target limit? onDone? =>
    simp only [Step.run, World.beginCopy]
    split
    · exact ⟨rfl, rfl⟩
    · exact hMarked source target true
  | finishCopy k => exact hMarked _ _ false
  | enterCopy k =>
    rw [Step.run]
    split <;> exact ⟨rfl, rfl⟩
  | _ => exact ⟨rfl, rfl⟩

theorem persists_title (driver : Driver σ) (title : String × Nat) :
    Held.Persists driver fun h => h.channel.title = title where
  drive _ h := h
  update := by
    intro h f hLedger hTitle
    have hKept : (f h.channel).title = h.channel.title :=
      congrArg (fun l => (l.1, l.2.2.2.1)) (hLedger h.channel)
    exact hKept.trans hTitle

/-- The name of a channel stays, and so do its references unless the step counts them. -/
theorem title_run (t : Step σ α) (hExists : id < w.channels.length) (hCounts : ¬t.Counts id) :
    ((t.run s w).2.channel id).title = (w.channel id).title := by
  have hApart (hMoves : ¬t.Moves id) : ((t.run s w).2.channel id).title = (w.channel id).title := by
    have hKept : World.Keeps Channel.title id w (t.run s w).2 :=
      t.keeps_view s w (fun _ _ => rfl) hMoves (.inl fun _ _ => rfl) (.inl fun _ _ => rfl)
        (.inl fun _ _ => rfl) (.inr hCounts)
    exact hKept.same hExists
  cases t with
  | hold j op =>
    by_cases hId : j = id
    · subst hId
      rw [channel_hold s w op hExists]
      exact (persists_title _ _).perform (h := (w.held j).recording) rfl op fun _ _ _ => rfl
    · exact hApart hId
  | raise j raised =>
    by_cases hId : j = id
    · subst hId
      rw [channel_raise s w raised hExists]
      exact (persists_title _ _).flushInBackground (h := (w.held j).recording) rfl raised
    · exact hApart hId
  | _ => exact hApart fun hMoves => hMoves

/-- The step names what there is, and a channel that it makes is in no table yet. -/
def isSensible (w : World σ) : {α : Type} → Step σ α → Bool
  | _, .open c => c.references == 0
  | _, .register i j => decide (i < w.interps.length) && decide (j < w.channels.length)
  | _, _ => true

/-- The step gives a reference back. -/
def Drops : {α : Type} → Step σ α → Prop
  | _, .dropReference _ => True
  | _, _ => False

/-- No other step takes a reference away. -/
theorem references_run (t : Step σ α) (hDrops : ¬t.Drops) (hSome : 0 < (w.channel id).references) :
    0 < ((t.run s w).2.channel id).references := by
  have hExists := World.exists_of_references hSome
  have hKept (hCounts : ¬t.Counts id) : 0 < ((t.run s w).2.channel id).references := by
    have hTitle := t.title_run (s := s) hExists hCounts
    exact Nat.lt_of_lt_of_eq hSome (congrArg Prod.snd hTitle).symm
  cases t with
  | dropReference j => exact absurd trivial hDrops
  | register i j =>
    by_cases hId : j = id
    · subst hId
      show 0 < ((w.register i j).channel j).references
      cases vacant : (w.interp i).contains (w.channel j).name with
      | true =>
        rw [World.register, if_pos vacant]
        exact hSome
      | false =>
        rw [World.channel_register_self hExists vacant]
        exact Nat.succ_pos _
    · exact hKept hId
  | _ => exact hKept not_false

/-- The step is one of those that remove an entry together. -/
def Withdraws : {α : Type} → Step σ α → Prop
  | _, .unregister .. | _, .dropReference _ => True
  | _, _ => False

theorem Drops.withdraws {t : Step σ α} (drops : t.Drops) : t.Withdraws := by
  cases t with
  | dropReference j => exact trivial
  | _ => cases drops

/-- Every step keeps the tally but those by which an entry is removed. -/
theorem tallies_run (t : Step σ α) (hNot : ¬t.Withdraws) (hSensible : t.isSensible w = true)
    (tallies : w.Tallies) : (t.run s w).2.Tallies := by
  have hApart (hEnrolls : ¬t.Enrolls) (hCounts : ∀ id, ¬t.Counts id) : (t.run s w).2.Tallies := by
    obtain ⟨hTables, hLength⟩ := t.tables_run (s := s) (w := w) hEnrolls
    refine tallies.of_kept hTables (Nat.le_of_eq hLength.symm) ?_ ?_
    · exact fun j hExists => t.title_run hExists (hCounts j)
    · exact fun j hNew hExists => absurd (hLength ▸ hExists) (Nat.not_lt.2 hNew)
  cases t with
  | unregister i name => exact absurd trivial hNot
  | dropReference j => exact absurd trivial hNot
  | register i j =>
    obtain ⟨hThere, hExists⟩ := Bool.and_eq_true_iff.1 hSensible
    exact tallies.register (of_decide_eq_true hThere) (of_decide_eq_true hExists)
  | newInterp => exact tallies.newTable List.map_append rfl
  | «open» c =>
    refine tallies.of_kept rfl ((Step.open c).length_run s w) ?_ ?_
    · exact fun j hExists => (Step.open c).title_run hExists not_false
    · intro j hNew hExists
      obtain ⟨deferred, hOpened⟩ := World.channel_openChannel s w c
      have hLast : j = w.channels.length := by
        have hLength : (w.openChannel s c).2.channels.length = w.channels.length + 1 := by
          simp [World.openChannel]
        have hBound : j < w.channels.length + 1 := Nat.lt_of_lt_of_eq hExists hLength
        exact Nat.le_antisymm (Nat.le_of_lt_succ hBound) hNew
      subst hLast
      have hChannel : ((Step.open c).run s w).2.channel w.channels.length = { c with deferred } :=
        hOpened
      rw [hChannel]
      exact eq_of_beq hSensible
  | _ => exact hApart not_false fun _ => not_false

end Step

end EventChannel
