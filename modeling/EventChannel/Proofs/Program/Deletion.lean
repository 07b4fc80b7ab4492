import EventChannel.Proofs.Program.Conduct
import EventChannel.Proofs.Program.Registry
import EventChannel.Proofs.World.Standing

/-! A deleted interpreter has given all its channels back, and those that no other interpreter has
are closed, whatever comes of closing any of them. It stays deleted, and whichever record leads to
it, new connections are closed at once and no script is called for them. -/

namespace EventChannel

variable {σ α β : Type}

namespace World

variable {w w' : World σ} {i : InterpId} {j : ChannelId} {name : String} {record : RecordId}

/-- The table of an interpreter holds a channel. -/
def Holds (w : World σ) (i : InterpId) (j : ChannelId) : Prop :=
  ∃ name, (w.interp i).lookup? name = some j

/-- No table but that of one interpreter holds a channel. -/
def Sole (w : World σ) (i : InterpId) (j : ChannelId) : Prop := ∀ i', i' ≠ i → ¬w.Holds i' j

/-- All tables are as they were. -/
def SameTables (w w' : World σ) : Prop := ∀ i, (w'.interp i).channels = (w.interp i).channels

/-- The record leads to no interpreter, or to a deleted one. -/
def Astray (w : World σ) (record : RecordId) : Prop :=
  ∀ i, w.tie? record = some i → (w.interp i).deleted = true

theorem sameTables_of_tables (hTables : w'.tables = w.tables) : w.SameTables w' :=
  fun i => by rw [channels_interp, channels_interp, hTables]

theorem sameTables_of_interps (hInterps : w'.interps = w.interps) : w.SameTables w' :=
  fun i => by rw [interp, interp, hInterps]

theorem SameTables.trans {w₁ : World σ} (left : w.SameTables w₁) (right : w₁.SameTables w') :
    w.SameTables w' :=
  fun i => (right i).trans (left i)

theorem holds_congr (hSame : (w'.interp i).channels = (w.interp i).channels) :
    w'.Holds i j ↔ w.Holds i j := by
  rw [Holds, Holds]
  simp only [Interp.lookup?, hSame]

theorem sole_congr (hSame : ∀ i', i' ≠ i → (w'.interp i').channels = (w.interp i').channels) :
    w'.Sole i j ↔ w.Sole i j :=
  forall_congr' fun i' => forall_congr' fun hNe => not_congr (holds_congr (hSame i' hNe))

/-- Every entry is the one that is found under its name. -/
theorem Tallies.holds_of_mem (tallies : w.Tallies) (hMem : (name, j) ∈ (w.interp i).channels) :
    (w.interp i).lookup? name = some j := by
  have hThere : i < w.interps.length := by
    apply Nat.lt_of_not_le
    intro hNot
    rw [interp, List.getElem?_eq_none hNot] at hMem
    cases hMem
  cases hFound : (w.interp i).lookup? name with
  | none => simpa using List.lookup_eq_none_iff.1 hFound _ hMem
  | some k =>
    have hTable := List.mem_of_getElem? (table_at hThere)
    have hSame := tallies.single _ hTable _ (mem_of_lookup? hFound) _ hMem rfl
    exact congrArg (fun entry => some entry.2) hSame

/-- A channel in a table has no reference to spare if and only if no other table holds it. -/
theorem Tallies.references_le_one (tallies : w.Tallies)
    (entry : (w.interp i).lookup? name = some j) :
    (w.channel j).references ≤ 1 ↔ w.Sole i j := by
  let p : List (String × ChannelId) → Bool := fun table => table.any (·.2 == j)
  have hThere := exists_of_lookup? entry
  have hCount : (w.tables.modify i fun _ => []).countP p + 1 = w.tables.countP p := by
    have hModify := countP_modify (p := p) (f := fun _ => []) (table_at hThere)
    rwa [show p (w.interp i).channels = true from any_of_lookup? entry] at hModify
  have hNone : (w.tables.modify i fun _ => []).countP p = 0 ↔ w.Sole i j := by
    rw [List.countP_eq_zero]
    constructor
    · rintro hNone i' hNe ⟨name', entry'⟩
      have hAt : (w.tables.modify i fun _ => [])[i']? = some (w.interp i').channels := by
        rw [List.getElem?_modify, table_at (exists_of_lookup? entry')]
        simp [Ne.symm hNe]
      exact hNone _ (List.mem_of_getElem? hAt) (any_of_lookup? entry')
    · intro sole table hMem hHolds
      obtain ⟨i', hAt⟩ := List.mem_iff_getElem?.1 hMem
      obtain ⟨⟨name', k⟩, hEntry, hIs⟩ := List.any_eq_true.1 hHolds
      obtain rfl : k = j := eq_of_beq hIs
      by_cases hSame : i = i'
      · subst hSame
        rw [List.getElem?_modify, table_at hThere] at hAt
        simp at hAt
        subst hAt
        cases hEntry
      · rw [List.getElem?_modify] at hAt
        simp [hSame] at hAt
        have hTable : (w.interp i').channels = table := by rw [channels_interp, hAt]; rfl
        exact sole i' (Ne.symm hSame) ⟨name', tallies.holds_of_mem (hTable ▸ hEntry)⟩
  have hReferences : (w.channel j).references = w.tables.countP p :=
    tallies.counted j (tallies.named_of_lookup? entry).1
  rw [← hNone, hReferences, ← hCount]
  omega

theorem markDeleted_of_deleted (hDeleted : (w.interp i).deleted = true) :
    w.markDeleted i = (false, w) := by
  simp [markDeleted, hDeleted]

theorem markDeleted_of_live (hLive : (w.interp i).deleted = false) :
    (w.markDeleted i).1 = true := by
  simp [markDeleted, hLive]

theorem channels_markDeleted : (w.markDeleted i).2.channels = w.channels := by
  rw [markDeleted]
  dsimp only
  split
  · rfl
  · exact channels_detachAll _

theorem deleted_markDeleted (hThere : i < w.interps.length) :
    ((w.markDeleted i).2.interp i).deleted = true := by
  rw [markDeleted]
  dsimp only
  split
  · next hDeleted => exact hDeleted
  · rw [interp, interps_detachAll]
    exact congrArg Interp.deleted (interp_modifyInterp_self _ hThere)

end World

namespace Setting

variable {s : Setting σ} {v w w' : World σ} {events : List (Event σ)} {i : InterpId}
  {name : String} {j : ChannelId}

/-- An entry is removed, and its channel loses a reference. -/
def removal (v : World σ) (i : InterpId) (name : String) (j : ChannelId) : List (Event σ) :=
  [.made (.unregister i name) v, .made (.grasp (.channel j)) (v.modifyInterp i (·.remove name)),
    .made (.dropReference j) ((v.modifyInterp i (·.remove name)).grasp (.channel j))]

/-- Entries are removed one after the other. Channels that no other table holds are closed, and it
goes on whatever comes of that. -/
inductive Clears (s : Setting σ) (i : InterpId) (sole : ChannelId → Prop) :
    List (String × ChannelId) → World σ → List (Event σ) → List (Except Report Unit) →
      World σ → Prop
  | nil (w : World σ) : Clears s i sole [] w [] [] w
  | closes {name : String} {j : ChannelId} {rest : List (String × ChannelId)} {v u w' : World σ}
      {closing events : List (Event σ)} {answer : Except Report Unit}
      {answers : List (Except Report Unit)} (entry : (v.interp i).lookup? name = some j)
      (hSole : sole j) (run : s.Runs (Program.close j) (v.withdraw i name j) closing answer u)
      (later : Clears s i sole rest (u.letGo (.channel j)) events answers w') :
      Clears s i sole ((name, j) :: rest) v
        (removal v i name j ++ (closing ++ .made (.letGo (.channel j)) u :: events))
        (answer :: answers) w'
  | spares {name : String} {j : ChannelId} {rest : List (String × ChannelId)} {v w' : World σ}
      {events : List (Event σ)} {answers : List (Except Report Unit)}
      (entry : (v.interp i).lookup? name = some j) (hShared : ¬sole j)
      (later : Clears s i sole rest ((v.withdraw i name j).letGo (.channel j)) events answers w') :
      Clears s i sole ((name, j) :: rest) v
        (removal v i name j ++ .made (.letGo (.channel j)) (v.withdraw i name j) :: events)
        (.ok () :: answers) w'

/-- Removing names one after the other is removing the first and then the rest. The first error is
what comes of it. -/
theorem Runs.of_unregisterAll {names : List String} {r : Except Report Unit}
    (run : s.Runs (Program.unregisterAll i (name :: names)) v events r w') :
    ∃ first second answer others u, events = first ++ second ∧
      s.Runs (Program.unregister i name) v first answer u ∧
      s.Runs (Program.unregisterAll i names) u second others w' ∧
      r = if answer.isOk then others else answer := by
  obtain ⟨first, rest, answer, u, rfl, removed, run⟩ := Runs.of_bind run
  obtain ⟨second, last, others, u', rfl, later, run⟩ := Runs.of_bind run
  cases run
  rw [List.append_nil]
  refine ⟨first, second, answer, others, u, rfl, removed, later, ?_⟩
  cases answer <;> rfl

/-- The first entry of a table has been removed. Its channel has been closed if that was the last
reference, and all other entries are where they were. -/
structure Removes (s : Setting σ) (i : InterpId) (name : String) (j : ChannelId)
    (rest : List (String × ChannelId)) (v : World σ) (events : List (Event σ))
    (answer : Except Report Unit) (v' : World σ) : Prop where
  entry : (v.interp i).lookup? name = some j
  releases : ∃ closing u,
    events = removal v i name j ++ (closing ++ [.made (.letGo (.channel j)) u]) ∧
    s.Runs (if (v.channel j).references ≤ 1 then Program.close j else .done (.ok ()))
      (v.withdraw i name j) closing answer u ∧ v' = u.letGo (.channel j)
  table : (v'.interp i).channels = rest
  others : ∀ i', i' ≠ i → (v'.interp i').channels = (v.interp i').channels
  tallies : v'.Tallies

/-- Whether or not the channel is closed, whoever is called leaves the tables alone, and references
tally with them. -/
theorem Runs.released (proper : s.Proper) (tallies : v.Tallies) {closing : List (Event σ)}
    {answer : Except Report Unit} {last : Prop} [Decidable last] {u : World σ}
    (run : s.Runs (if last then Program.close j else .done (.ok ())) v closing answer u)
    (sensible : ∀ e ∈ closing, e.isSensible = true)
    (bound : s.Bound Call.OfUser (fun v _ v' => v.SameTables v') closing) :
    u.Tallies ∧ v.SameTables u := by
  split at run
  · have whole := run.whole proper (Program.properParts_operating.close j).proper
    have made : (Program.close j : Program σ (Except Report Unit)).MadeOf asideParts :=
      (asideParts_shutting j).close
    refine ⟨(whole.accounts sensible tallies).tallies, ?_⟩
    exact run.aside (fun _ _ => World.sameTables_of_interps) World.SameTables.trans made bound
  · cases run
    exact ⟨tallies, fun _ => rfl⟩

theorem Runs.removes (proper : s.Proper) {rest : List (String × ChannelId)}
    {answer : Except Report Unit} {v' : World σ} (tallies : v.Tallies)
    (distinct : (v.interp i).Distinct) (hTable : (v.interp i).channels = (name, j) :: rest)
    (run : s.Runs (Program.unregister i name) v events answer v')
    (sensible : ∀ e ∈ events, e.isSensible = true)
    (bound : s.Bound Call.OfUser (fun v _ v' => v.SameTables v') events) :
    s.Removes i name j rest v events answer v' := by
  obtain ⟨entry, hRest⟩ := distinct.remove_first hTable
  rcases run.of_unregister with ⟨missing, -⟩ | ⟨j', closing, u, entry', rfl, closed, rfl⟩
  · rw [entry] at missing
    cases missing
  obtain rfl : j = j' := Option.some.inj (entry.symm.trans entry')
  obtain ⟨tallied, kept⟩ := closed.released proper (tallies.withdraw entry)
    (fun e hMem => sensible e (by simp [hMem])) bound.tail.tail.tail.left
  constructor
  · exact entry
  · exact ⟨closing, u, rfl, closed, rfl⟩
  · have hSelf : (v.withdraw i name j).interp i = (v.interp i).remove name :=
      World.interp_modifyInterp_self (·.remove name) (World.exists_of_lookup? entry)
    exact (kept i).trans (hSelf ▸ hRest)
  · intro i' hNe
    have hOther : (v.withdraw i name j).interp i' = v.interp i' :=
      World.interp_modifyInterp_ne (·.remove name) (Ne.symm hNe)
    exact (kept i').trans (congrArg Interp.channels hOther)
  · exact (Step.letGo (.channel j)).tallies_run (s := s.toSurroundings) not_false rfl tallied

/-- An entry that is removed comes before those that are removed later. -/
theorem Removes.clears {sole : ChannelId → Prop} {rest : List (String × ChannelId)}
    {first later : List (Event σ)} {answer : Except Report Unit}
    {answers : List (Except Report Unit)} {v' : World σ}
    (removes : s.Removes i name j rest v first answer v')
    (hSole : (v.channel j).references ≤ 1 ↔ sole j)
    (clears : s.Clears i sole rest v' later answers w') :
    s.Clears i sole ((name, j) :: rest) v (first ++ later) (answer :: answers) w' := by
  obtain ⟨closing, u, rfl, closed, rfl⟩ := removes.releases
  by_cases hLast : (v.channel j).references ≤ 1
  · rw [if_pos hLast] at closed
    simpa using Clears.closes removes.entry (hSole.1 hLast) closed clears
  · rw [if_neg hLast] at closed
    cases closed
    simpa using Clears.spares removes.entry (mt hSole.2 hLast) clears

/-- A channel that had no reference to spare is closed when its entry has been removed. -/
theorem Removes.shut {rest : List (String × ChannelId)} {answer : Except Report Unit}
    {v' : World σ} (removes : s.Removes i name j rest v events answer v')
    (hExists : j < v.channels.length) (hLast : (v.channel j).references ≤ 1) :
    (v'.channel j).isOpen = false := by
  obtain ⟨closing, u, rfl, closed, rfl⟩ := removes.releases
  rw [if_pos hLast] at closed
  refine closed.close_shut ?_
  rwa [World.withdraw, World.length_modifyChannel]

/-- Removing all names of a table clears it. -/
theorem Runs.clears (proper : s.Proper) {entries : List (String × ChannelId)}
    {r : Except Report Unit}
    (hOthers : ∀ i', i' ≠ i → (v.interp i').channels = (w.interp i').channels)
    (hTable : (v.interp i).channels = entries) (distinct : (v.interp i).Distinct)
    (tallies : v.Tallies)
    (run : s.Runs (Program.unregisterAll i (entries.map (·.1))) v events r w')
    (sensible : ∀ e ∈ events, e.isSensible = true)
    (bound : s.Bound Call.OfUser (fun v _ v' => v.SameTables v') events) :
    ∃ answers, s.Clears i (w.Sole i) entries v events answers w' ∧
      r = (answers.find? (!·.isOk)).getD (.ok ()) ∧ w'.Tallies ∧
      (w'.interp i).channels = [] ∧
      (∀ i', i' ≠ i → (w'.interp i').channels = (w.interp i').channels) ∧
      ∀ entry ∈ entries, w.Sole i entry.2 → (w'.channel entry.2).isOpen = false := by
  induction entries generalizing v events r with
  | nil =>
    cases run
    exact ⟨[], .nil _, rfl, tallies, hTable, hOthers, List.forall_mem_nil _⟩
  | cons first rest ih =>
    obtain ⟨name, j⟩ := first
    obtain ⟨first, later, answer, others, v', rfl, unregistered, remaining, rfl⟩ :=
      run.of_unregisterAll
    have removes := unregistered.removes proper tallies distinct hTable
      (fun e hMem => sensible e (List.mem_append_left _ hMem)) bound.left
    obtain ⟨answers, clears, hFirst, hTallies, hEmpty, hTables, hShut⟩ :=
      ih (fun i' hNe => (removes.others i' hNe).trans (hOthers i' hNe)) removes.table
        (unregistered.leads.distinct distinct) removes.tallies remaining
        (fun e hMem => sensible e (List.mem_append_right _ hMem)) bound.right
    have hSole : (v.channel j).references ≤ 1 ↔ w.Sole i j :=
      (tallies.references_le_one removes.entry).trans (World.sole_congr hOthers)
    refine ⟨answer :: answers, removes.clears hSole clears, ?_, hTallies, hEmpty, hTables, ?_⟩
    · subst hFirst
      cases answer <;> rfl
    · refine List.forall_mem_cons.2 ⟨fun sole => ?_, hShut⟩
      have hExists := (tallies.named_of_lookup? removes.entry).1
      have hBound := Nat.lt_of_lt_of_le hExists unregistered.leads.length
      exact remaining.leads.shut hBound (removes.shut hExists (hSole.2 sole))

/-- A channel that is not closed keeps all but its references, unless those who are called do
something to it. -/
theorem Clears.apart {sole : ChannelId → Prop} {entries : List (String × ChannelId)}
    {answers : List (Except Report Unit)} {k : ChannelId} {view : Channel → β}
    (hView : ∀ c n, view { c with references := n } = view c)
    (clears : s.Clears i sole entries v events answers w')
    (hApart : ∀ entry ∈ entries, entry.2 = k → ¬sole k)
    (bound : s.Bound (fun _ => True) (fun v _ v' => view (v'.channel k) = view (v.channel k))
      events) : view (w'.channel k) = view (v.channel k) := by
  induction clears with
  | nil w => rfl
  | @closes name j rest v u w' closing events answer answers entry hSole run later ih =>
    obtain ⟨hFirst, hRest⟩ := List.forall_mem_cons.1 hApart
    have hNe : k ≠ j := fun hSame => hFirst hSame.symm (hSame ▸ hSole)
    have hLater := ih hRest bound.right.right.tail
    have hClosing := run.close_apart hNe bound.right.left
    rw [World.channel_withdraw_ne (Ne.symm hNe)] at hClosing
    exact hLater.trans hClosing
  | @spares name j rest v w' events answers entry hShared later ih =>
    have hLater := ih (List.forall_mem_cons.1 hApart).2 bound.right.tail
    exact hLater.trans (World.view_modifyChannel
      (w := (v.modifyInterp i (·.remove name)).grasp (.channel j)) fun c => hView c _)

/-- What deleting an interpreter does. All its channels are removed, and each one that no other
interpreter has is closed. Some of that may fail, and then the first error is what comes of it. All
other channels are left as they were, but for their references. -/
structure Deletes (s : Setting σ) (i : InterpId) (w : World σ) (events : List (Event σ))
    (r : Except Report Unit) (w' : World σ) : Prop where
  clears : ∃ cleared answers,
    events = .made (.markDeleted i) w :: .made (.interp i) (w.markDeleted i).2 :: cleared ∧
    s.Clears i (w.Sole i) (w.interp i).channels (w.markDeleted i).2 cleared answers w' ∧
    r = (answers.find? (!·.isOk)).getD (.ok ()) ∧
    ((∃ report, r = .error report) ↔ ∃ report, .error report ∈ answers)
  deleted : (w'.interp i).deleted = true
  empty : (w'.interp i).channels = []
  tables : ∀ i', i' ≠ i → (w'.interp i').channels = (w.interp i').channels
  tallies : w'.Tallies
  closed : ∀ j, w.Holds i j → w.Sole i j → (w'.channel j).isOpen = false
  others : ∀ {β : Type} (view : Channel → β), (∀ c n, view { c with references := n } = view c) →
    ∀ k, (w.Holds i k → ¬w.Sole i k) →
      s.Bound (fun _ => True) (fun v _ v' => view (v'.channel k) = view (v.channel k)) events →
      view (w'.channel k) = view (w.channel k)

/-- Of several answers an error is taken if there is one. -/
theorem error_iff {answers : List (Except Report Unit)} :
    (∃ report, (answers.find? (!·.isOk)).getD (.ok ()) = .error report) ↔
      ∃ report, .error report ∈ answers := by
  induction answers with
  | nil => simp
  | cons answer answers ih =>
    cases answer with
    | error report => simp [Except.isOk, Except.toBool]
    | ok done => simpa [Except.isOk, Except.toBool] using ih

theorem Runs.of_deleteInterp {r : Except Report Unit} (hLive : (w.interp i).deleted = false)
    (run : s.Runs (Program.deleteInterp i) w events r w') :
    ∃ cleared,
      events = .made (.markDeleted i) w :: .made (.interp i) (w.markDeleted i).2 :: cleared ∧
      s.Runs (Program.unregisterAll i (((w.markDeleted i).2.interp i).channels.map (·.1)))
        (w.markDeleted i).2 cleared r w' := by
  cases run with
  | step run =>
    have hMarked : ((Step.markDeleted i).run s.toSurroundings w).1 = true :=
      World.markDeleted_of_live hLive
    rw [hMarked] at run
    cases run with
    | step run => exact ⟨_, rfl, run⟩

theorem Runs.deletes (proper : s.Proper) (tallies : w.Tallies) (distinct : (w.interp i).Distinct)
    (hThere : i < w.interps.length) (hLive : (w.interp i).deleted = false)
    {r : Except Report Unit} (run : s.Runs (Program.deleteInterp i) w events r w')
    (sensible : ∀ e ∈ events, e.isSensible = true)
    (bound : s.Bound Call.OfUser (fun v _ v' => v.SameTables v') events) :
    s.Deletes i w events r w' := by
  obtain ⟨cleared, rfl, cleaning⟩ := run.of_deleteInterp hLive
  have hTables : w.SameTables (w.markDeleted i).2 :=
    World.sameTables_of_tables ((Step.markDeleted i).tables_run (s := s.toSurroundings) not_false).1
  have marked := (Step.markDeleted i).tallies_run (s := s.toSurroundings) not_false rfl tallies
  have distinct' := ((Step.markDeleted i).becomes_run (s := s.toSurroundings) i).distinct distinct
  rw [hTables i] at cleaning
  obtain ⟨answers, clears, rfl, hTallies, hEmpty, hOthers, hShut⟩ :=
    cleaning.clears proper (fun i' _ => hTables i') (hTables i) distinct' marked
      (fun e hMem => sensible e (by simp [hMem])) bound.tail.tail
  constructor
  · exact ⟨cleared, answers, rfl, clears, rfl, error_iff⟩
  · exact cleaning.leads.deleted (World.deleted_markDeleted hThere)
  · exact hEmpty
  · exact hOthers
  · exact hTallies
  · rintro j ⟨name, entry⟩ sole
    exact hShut _ (World.mem_of_lookup? entry) sole
  · intro β view hView k hApart bound
    have hKept := clears.apart hView ?_ bound.tail.tail
    · rw [hKept]
      exact congrArg view (World.channel_congr World.channels_markDeleted)
    · rintro ⟨name, k⟩ hMem rfl
      exact hApart ⟨name, tallies.holds_of_mem hMem⟩

/-- To delete an interpreter again does nothing. -/
theorem runs_deleteInterp_again (hDeleted : (w.interp i).deleted = true) :
    s.Runs (Program.deleteInterp i) w [.made (.markDeleted i) w] (.ok ()) w := by
  have hSame : (Step.markDeleted i).run s.toSurroundings w = (false, w) :=
    World.markDeleted_of_deleted hDeleted
  refine .step ?_
  rw [hSame]
  exact .done _ w

/-- What is done about a new connection that nobody is there for. Its channel is closed, and nothing
else is done; what is done besides is done in the calls that closing leads to. -/
structure Dismissal (s : Setting σ) (record : RecordId) (c : ChannelId) (w : World σ)
    (events : List (Event σ)) (w' : World σ) : Prop where
  closes : ∃ closing r v,
    events = .made (.grasp (.channel c)) w ::
      .made (.recordTarget record) (w.grasp (.channel c)) ::
      (closing ++ [.made (.letGo (.channel c)) v]) ∧
    s.Runs (Program.close c) (w.grasp (.channel c)) closing r v ∧ w' = v.letGo (.channel c)
  closed : (w'.channel c).isOpen = false
  unscripted : s.Bound Call.OfUser (fun _ inner _ => ∀ e ∈ inner, ¬e.CallsScript) events →
    ∀ e ∈ events, ¬e.CallsScript
  tables : s.Bound Call.OfUser (fun v _ v' => v.SameTables v') events → w.SameTables w'
  errors : ∀ i, s.Bound Call.OfUser (fun v _ v' =>
      (v'.interp i).backgroundErrors = (v.interp i).backgroundErrors) events →
    (w'.interp i).backgroundErrors = (w.interp i).backgroundErrors
  others : ∀ k, k ≠ c →
    s.Bound (fun _ => True) (fun v _ v' => v'.channel k = v.channel k) events →
    w'.channel k = w.channel k

/-- Whatever connection the record is given, it is dismissed. -/
structure Dismisses (s : Setting σ) (record : RecordId) (w : World σ) : Prop where
  ends : s.Returns → ∀ c host port,
    ∃ events w', s.Runs (Program.accept record c host port) w events () w'
  dismissal : ∀ c host port events w', c < w.channels.length →
    s.Runs (Program.accept record c host port) w events () w' → s.Dismissal record c w events w'

/-- A record that leads nowhere closes the channel that it is given. -/
theorem runs_accept_astray {record : RecordId} {c : ChannelId} {host : String} {port : Port}
    (astray : w.Astray record) :
    s.Runs (Program.accept record c host port) w events () w' ↔ ∃ closing r v,
      events = .made (.grasp (.channel c)) w ::
        .made (.recordTarget record) (w.grasp (.channel c)) ::
        (closing ++ [.made (.letGo (.channel c)) v]) ∧
      s.Runs (Program.close c) (w.grasp (.channel c)) closing r v ∧ w' = v.letGo (.channel c) := by
  have hAnswer :
      ((Step.recordTarget record).run s.toSurroundings (w.grasp (.channel c))).1 = none := by
    have hNone : (w.grasp (.channel c)).recordInterp? s.users record = none :=
      World.recordInterp?_of_deleted astray
    simp only [Step.run, hNone]
    rfl
  constructor
  · intro run
    obtain ⟨inner, v, rfl, accepted, rfl⟩ := run.of_referring
    cases accepted with
    | @step _ _ _ _ _ _ inner _ accepted =>
      rw [hAnswer] at accepted
      have accepted : s.Runs ((Program.close c).bind fun _ => .done ()) (w.grasp (.channel c)) inner
        () v := accepted
      obtain ⟨r, closed, -⟩ := runs_bind_done.1 accepted
      exact ⟨inner, r, _, by simp, closed, rfl⟩
  · rintro ⟨closing, r, v, rfl, closed, rfl⟩
    have hAnswer : ((Step.recordTarget record).run s.toSurroundings
        ((Step.grasp (.channel c)).run s.toSurroundings w).2).1 = none := hAnswer
    refine .step (.step ?_)
    rw [hAnswer]
    have closes : s.Runs ((Program.close c).bind fun _ => .done ()) (w.grasp (.channel c))
        closing () v := runs_bind_done.2 ⟨r, closed, rfl⟩
    exact closes.bind (.step (.done () _))

end Setting

namespace World

variable {w : World σ}

/-- A record that leads nowhere dismisses whatever it is given. -/
theorem Astray.dismisses {s : Setting σ} {record : RecordId} (astray : w.Astray record) :
    s.Dismisses record w where
  ends returns c host port := by
    obtain ⟨closing, r, v, closed⟩ :=
      returns.exists_run (deletionParts_shutting c).close (w.grasp (.channel c))
    exact ⟨_, _, (Setting.runs_accept_astray astray).2 ⟨closing, r, v, rfl, closed, rfl⟩⟩
  dismissal c host port events w' hExists run := by
    obtain ⟨closing, r, v, rfl, closed, rfl⟩ := (Setting.runs_accept_astray astray).1 run
    have made : (Program.close c : Program σ (Except Report Unit)).MadeOf asideParts :=
      (asideParts_shutting c).close
    constructor
    · exact ⟨closing, r, v, rfl, closed, rfl⟩
    · exact closed.close_shut hExists
    · intro bound
      have hQuiet := closed.unscripted made bound.tail.tail.left
      refine List.forall_mem_cons.2 ⟨not_false, List.forall_mem_cons.2 ⟨not_false, ?_⟩⟩
      exact List.forall_mem_append.2 ⟨hQuiet, List.forall_mem_singleton.2 not_false⟩
    · intro bound
      have kept : (w.grasp (.channel c)).SameTables v :=
        closed.aside (fun _ _ => sameTables_of_interps) SameTables.trans made bound.tail.tail.left
      exact kept
    · intro i bound
      have hSame {v v' : World σ} (hInterps : v'.interps = v.interps) :
          (v'.interp i).backgroundErrors = (v.interp i).backgroundErrors := by
        rw [interp, interp, hInterps]
      have hKept := closed.aside (fun _ _ => hSame) (fun first second => second.trans first) made
        bound.tail.tail.left
      exact hKept
    · intro k hNe bound
      have hKept : id (v.channel k) = id ((w.grasp (.channel c)).channel k) :=
        closed.close_apart hNe bound.tail.tail.left
      exact hKept

/-- A record that was ever tied to an interpreter, or is now, leads nowhere when that is deleted. -/
theorem astray_of_tied {s : Surroundings σ} {u v : World σ} {between : List (Event σ)}
    {record : RecordId} {i : InterpId} (history : s.Leads u between v)
    (tied : u.tie? record = some i) (hDeleted : (v.interp i).deleted = true) :
    v.Astray record := by
  intro i' tied'
  rcases history.loosens.tie record (exists_of_tie? tied) with hSame | hNone
  · rw [hSame, tied] at tied'
    exact Option.some.inj tied' ▸ hDeleted
  · rw [hNone] at tied'
    cases tied'

/-- A record that has been detached leads nowhere for good. -/
theorem astray_of_detached {s : Surroundings σ} {u v : World σ} {later : List (Event σ)}
    {record : RecordId} (hThere : record < u.records.length)
    (history : s.Leads u (.made (.detach record) u :: later) v) : v.Astray record := by
  have history : s.Leads u ([] ++ .made (.detach record) u :: later) v := history
  have hLater := history.beyond.loosens
  have hNone : (u.modifyRecord record ({ · with interp? := none })).tie? record = none := by
    rw [tie?_detach, if_pos rfl]
  have hStill : record < (u.modifyRecord record ({ · with interp? := none })).records.length :=
    Nat.lt_of_lt_of_eq hThere (List.length_modify _ _ _).symm
  intro i tied
  rw [hLater.none hStill hNone] at tied
  cases tied

end World

/-- Deleting an interpreter goes through its whole table and removes every channel. Exactly those
that no other interpreter has are closed; if closing some of them fails, the others are closed all
the same, and there is an error if and only if one has failed. From then on to delete it again does
nothing. A record that is ever tied to the interpreter, be it before the deletion or afterwards,
dismisses every connection: its channel is closed, no script is called, and the tables, the errors
that are kept and all other channels are as they were, as far as close handlers and event callbacks
leave them alone. So does a record that has been detached. -/
theorem deletion_clears_and_dismisses {s : Setting σ} {w : World σ} {i : InterpId}
    (proper : s.Proper) (tallies : w.Tallies) (distinct : (w.interp i).Distinct)
    (hThere : i < w.interps.length) (hLive : (w.interp i).deleted = false) :
    (s.Returns → ∃ events r w', s.Runs (Program.deleteInterp i) w events r w') ∧
      (∀ events r w', s.Runs (Program.deleteInterp i) w events r w' →
        (∀ e ∈ events, e.isSensible = true) →
        s.Bound Call.OfUser (fun v _ v' => v.SameTables v') events →
        s.Deletes i w events r w') ∧
      (∀ later v, s.Leads w (.made (.markDeleted i) w :: later) v →
        s.Runs (Program.deleteInterp i) v [.made (.markDeleted i) v] (.ok ()) v ∧
          ∀ record u between, s.Leads u between v → u.tie? record = some i →
            s.Dismisses record v) ∧
      ∀ record u later v, record < u.records.length →
        s.Leads u (.made (.detach record) u :: later) v → s.Dismisses record v := by
  refine ⟨?_, ?_, ?_, ?_⟩
  · exact fun returns => returns.exists_run (deletionParts_deleting.deleteInterp i) w
  · exact fun events r w' run sensible bound =>
      run.deletes proper tallies distinct hThere hLive sensible bound
  · intro later v history
    have history : s.Leads w ([] ++ .made (.markDeleted i) w :: later) v := history
    have hDeleted := history.beyond.deleted (World.deleted_markDeleted hThere)
    refine ⟨Setting.runs_deleteInterp_again hDeleted, ?_⟩
    exact fun record u between earlier tied =>
      (World.astray_of_tied earlier tied hDeleted).dismisses
  · exact fun record u later v hExists history =>
      (World.astray_of_detached hExists history).dismisses

/-- Two interpreters with drivers that cannot be closed properly. Each of the first two channels is
in the table of the first interpreter, and the second one in both tables; the third is new. -/
def sharedWorld : World Unit where
  channels := [{ name := "log", type := "file", mode := .both, references := 1 },
    { name := "tty", type := "file", mode := .both, references := 2 },
    { name := "sock1", type := "tcp", mode := .both }]
  interps := [{ channels := [("log", 0), ("tty", 1)], records := [0] },
    { channels := [("tty", 1)] }]
  records := [⟨some 0, 0⟩]
  env := ()

def farewellProgram : Program Unit (Except Report Unit) := do
  let answer ← Program.deleteInterp 0
  Program.accept 0 2 "10.0.0.1" 1
  return answer

theorem tallies_sharedWorld : sharedWorld.Tallies where
  counted := by decide
  named := by decide
  single := by decide

theorem bound_stubbornSetting {R : World Unit → List (Event Unit) → World Unit → Prop}
    (hSame : ∀ v, R v [] v) (events : List (Event Unit)) :
    stubbornSetting.Bound Call.OfUser R events := by
  intro before c v inner b v' after hSplit ofUser run
  cases c with
  | user u =>
    cases run
    exact hSame v
  | _ => cases ofUser

/-- Closing the one channel fails, the other one is still open, the second deletion does nothing,
and the connection that comes later is closed without a script. -/
theorem deletion_clears_and_dismisses_stubborn :
    ∃ events report w' v, stubbornSetting.Runs (Program.deleteInterp 0) sharedWorld events
        (.error report) w' ∧
      (w'.interp 0).channels = [] ∧ (w'.interp 1).channels = [("tty", 1)] ∧
      (w'.channel 0).isOpen = false ∧
      stubbornSetting.Runs (Program.deleteInterp 0) w' [.made (.markDeleted 0) w'] (.ok ()) w' ∧
      ∃ later, stubbornSetting.Runs (Program.accept 0 2 "10.0.0.1" 1) w' later () v ∧
        (v.channel 2).isOpen = false ∧ (∀ e ∈ later, ¬e.CallsScript) ∧ w'.SameTables v := by
  have hTrace : (stubbornSetting.trace 1 farewellProgram sharedWorld).any (fun r =>
      r.1.all (·.isSensible) && !r.2.1.isOk) = true := by decide +kernel
  obtain ⟨all, answer, v, run, hChecked⟩ := Setting.exists_runs hTrace
  obtain ⟨hSensible, hFailed⟩ := Bool.and_eq_true_iff.1 hChecked
  obtain ⟨events, rest, r, w', rfl, deletion, run⟩ := Setting.Runs.of_bind run
  obtain ⟨later, last, done, v, rfl, acceptance, run⟩ := Setting.Runs.of_bind run
  cases run
  have sensible : ∀ e ∈ events, e.isSensible = true := fun e hMem =>
    List.all_eq_true.1 hSensible e (List.mem_append_left _ hMem)
  obtain ⟨-, hDeletes, hAfter, -⟩ := deletion_clears_and_dismisses (i := 0) proper_stubbornSetting
    tallies_sharedWorld (by decide) (by decide) rfl
  have deletes := hDeletes events answer w' deletion sensible
    (bound_stubbornSetting (fun _ _ => rfl) events)
  obtain ⟨cleared, -, rfl, -⟩ := deletes.clears
  obtain ⟨again, hDismisses⟩ := hAfter _ w' deletion.leads
  have dismissal := (hDismisses 0 sharedWorld _ deletion.leads rfl).dismissal 2 "10.0.0.1" 1 later
    v (Nat.lt_of_lt_of_le (by decide) deletion.leads.length) acceptance
  have sole : sharedWorld.Sole 0 0 := by
    rintro i hNe ⟨name, entry⟩
    have hMem := World.mem_of_lookup? entry
    match i with
    | 0 => exact hNe rfl
    | 1 => simp [sharedWorld, World.interp] at hMem
    | i + 2 => cases hMem
  cases answer with
  | ok done => cases hFailed
  | error report =>
    refine ⟨_, report, w', v, deletion, deletes.empty, deletes.tables 1 (by decide),
      deletes.closed 0 ⟨"log", rfl⟩ sole, again, later, acceptance, dismissal.closed, ?_, ?_⟩
    · exact dismissal.unscripted (bound_stubbornSetting (fun _ => List.forall_mem_nil _) later)
    · exact dismissal.tables (bound_stubbornSetting (fun _ _ => rfl) later)

end EventChannel
