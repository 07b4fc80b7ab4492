import EventChannel.Proofs.World.Registry

/-! A step changes an interpreter in one of few ways, and none of them takes back that it is deleted
or enters a name a second time. A record leads to the interpreter that it was made for or nowhere,
and once it leads nowhere it does so for good. -/

namespace EventChannel

variable {σ α : Type}

/-- What one step may make of an interpreter. -/
inductive Interp.Becomes (i : Interp) : Interp → Prop
  | same : i.Becomes i
  | entered {name : String} (j : ChannelId) (vacant : i.contains name = false) :
      i.Becomes (i.enter name j)
  | removed (name : String) : i.Becomes (i.remove name)
  | told (name : String) (value? : Option String) : i.Becomes (i.setVariable name value?)
  | errors (reports : List Report) : i.Becomes { i with backgroundErrors := reports }
  | tied (record : RecordId) : i.Becomes { i with records := i.records ++ [record] }
  | deleted : i.Becomes { i with deleted := true, records := [] }

namespace Interp

/-- No name is entered twice. -/
def Distinct (i : Interp) : Prop := (i.channels.map (·.1)).Nodup

instance (i : Interp) : Decidable i.Distinct :=
  inferInstanceAs (Decidable (i.channels.map (·.1)).Nodup)

variable {i i' : Interp}

theorem Becomes.deleted_stays (becomes : i.Becomes i') (hDeleted : i.deleted = true) :
    i'.deleted = true := by
  cases becomes with
  | deleted => rfl
  | _ => exact hDeleted

theorem Becomes.distinct (becomes : i.Becomes i') (distinct : i.Distinct) : i'.Distinct := by
  cases becomes with
  | @entered name j vacant =>
    show ((i.channels ++ [(name, j)]).map (·.1)).Nodup
    rw [List.map_append, List.nodup_append]
    refine ⟨distinct, by simp, ?_⟩
    intro taken hTaken other hOther
    obtain ⟨entry, hMem, rfl⟩ := List.mem_map.1 hTaken
    rw [List.mem_singleton.1 hOther]
    exact i.ne_of_vacant vacant hMem
  | removed name => exact distinct.sublist (List.filter_sublist.map _)
  | _ => exact distinct

/-- The first entry of a table is found under its name, and the others are left when the name is
removed. -/
theorem Distinct.remove_first {name : String} {j : ChannelId}
    {rest : List (String × ChannelId)} (distinct : i.Distinct)
    (hTable : i.channels = (name, j) :: rest) :
    i.lookup? name = some j ∧ (i.remove name).channels = rest := by
  rw [Distinct, hTable, List.map_cons, List.nodup_cons] at distinct
  constructor
  · rw [lookup?, hTable, List.lookup_cons_self]
  · show i.channels.filter (·.1 != name) = rest
    rw [hTable, List.filter_cons_of_neg (by simp), List.filter_eq_self]
    intro entry hMem
    refine bne_iff_ne.2 fun hTaken => distinct.1 ?_
    exact List.mem_map.2 ⟨entry, hMem, hTaken⟩

end Interp

namespace World

variable {w w₁ w' : World σ} {i : InterpId}

theorem becomes_of_interps (hInterps : w'.interps = w.interps) :
    (w.interp i).Becomes (w'.interp i) := by
  rw [interp, interp, hInterps]
  exact .same

theorem becomes_modifyInterp {j : InterpId} {f : Interp → Interp}
    (becomes : (w.interp j).Becomes (f (w.interp j))) :
    (w.interp i).Becomes ((w.modifyInterp j f).interp i) := by
  by_cases hSame : j = i
  · subst hSame
    rcases interp_modifyInterp (w := w) (i := j) f j with hChanged | hKept
    · rw [hChanged]
      exact becomes
    · rw [hKept]
      exact .same
  · rw [interp_modifyInterp_ne f hSame]
    exact .same

/-- The interpreter that a record was tied to and has not been detached from. -/
def tie? (w : World σ) (record : RecordId) : Option InterpId :=
  (w.record? record).bind (·.interp?)

/-- Records stay. Each leads where it did, or nowhere. -/
structure Loosens (w w' : World σ) : Prop where
  length : w.records.length ≤ w'.records.length
  tie : ∀ record, record < w.records.length →
    w'.tie? record = w.tie? record ∨ w'.tie? record = none

theorem tie?_congr (hRecords : w'.records = w.records) {record : RecordId} :
    w'.tie? record = w.tie? record := by
  rw [tie?, record?, hRecords, ← record?, ← tie?]

/-- Only a record that there is leads somewhere. -/
theorem exists_of_tie? {record : RecordId} (tied : w.tie? record = some i) :
    record < w.records.length := by
  obtain ⟨target, hTarget, -⟩ := Option.bind_eq_some_iff.1 tied
  exact (List.getElem?_eq_some_iff.1 hTarget).1

namespace Loosens

theorem of_records (hRecords : w'.records = w.records) : w.Loosens w' where
  length := Nat.le_of_eq (congrArg List.length hRecords.symm)
  tie _ _ := .inl (tie?_congr hRecords)

theorem refl (w : World σ) : w.Loosens w := of_records rfl

theorem trans (left : w.Loosens w₁) (right : w₁.Loosens w') : w.Loosens w' where
  length := Nat.le_trans left.length right.length
  tie record hThere := by
    rcases right.tie record (Nat.lt_of_lt_of_le hThere left.length) with hSame | hNone
    · rw [hSame]
      exact left.tie record hThere
    · exact .inr hNone

/-- What leads nowhere does so for good. -/
theorem none {record : RecordId} (loosens : w.Loosens w') (hThere : record < w.records.length)
    (hNone : w.tie? record = none) : w'.tie? record = none := by
  rcases loosens.tie record hThere with hSame | hLater
  · exact hSame.trans hNone
  · exact hLater

end Loosens

/-- A record that is detached leads nowhere, and the others where they did. -/
theorem tie?_detach (record other : RecordId) :
    (w.modifyRecord record ({ · with interp? := none })).tie? other =
      if record = other then none else w.tie? other := by
  simp only [tie?, record?, modifyRecord, List.getElem?_modify]
  split
  · cases w.records[other]? <;> rfl
  · cases w.records[other]? <;> rfl

theorem loosens_detach (record : RecordId) :
    w.Loosens (w.modifyRecord record ({ · with interp? := none })) where
  length := Nat.le_of_eq (List.length_modify _ _ _).symm
  tie other _ := by
    rw [tie?_detach]
    split
    · exact .inr rfl
    · exact .inl rfl

theorem loosens_detachAll (records : List RecordId) :
    w.Loosens (records.foldl (fun w r => w.modifyRecord r ({ · with interp? := none })) w) := by
  induction records generalizing w with
  | nil => exact .refl w
  | cons record rest ih => exact (loosens_detach record).trans ih

/-- A record leads nowhere if it leads to none but deleted interpreters. -/
theorem recordInterp?_of_deleted {users : σ → Entity → Bool} {record : RecordId}
    (deleted : ∀ i, w.tie? record = some i → (w.interp i).deleted = true) :
    w.recordInterp? users record = none := by
  refine Option.filter_eq_none_iff.2 fun i tied => ?_
  simp [deleted i tied]

end World

namespace Step

variable {s : Surroundings σ} {w : World σ}

/-- What a step makes of each interpreter. -/
theorem becomes_run (t : Step σ α) (i : InterpId) :
    (w.interp i).Becomes ((t.run s w).2.interp i) := by
  cases t with
  | raise j raised => exact World.becomes_of_interps (World.interps_graspCopies _)
  | handle j d | takeCloseActions j | enterCopy k =>
    rw [Step.run]
    split <;> exact World.becomes_of_interps rfl
  | register j id =>
    simp only [Step.run, World.register]
    split
    · exact .same
    · next vacant =>
      exact World.becomes_modifyInterp (.entered id (Bool.eq_false_iff.2 vacant))
  | unregister j name =>
    simp only [Step.run, World.unregister]
    split
    · exact .same
    · exact World.becomes_modifyInterp (.removed name)
  | setVariable j name value? => exact World.becomes_modifyInterp (.told name value?)
  | addBackgroundError j r => exact World.becomes_modifyInterp (.errors _)
  | takeBackgroundErrors j => exact World.becomes_modifyInterp (.errors _)
  | newRecord j script => exact World.becomes_modifyInterp (.tied _)
  | markDeleted j =>
    simp only [Step.run, World.markDeleted]
    split
    · exact .same
    · rw [World.interp, World.interp, World.interps_detachAll]
      exact World.becomes_modifyInterp .deleted
  | newInterp =>
    have hNew : ((w.interps ++ [({} : Interp)])[i]?).getD {} = (w.interps[i]?).getD {} := by
      rw [List.getElem?_append]
      split
      · rfl
      · next hNew =>
        rw [List.getElem?_eq_none (Nat.le_of_not_lt hNew)]
        cases i - w.interps.length <;> rfl
    show (w.interp i).Becomes (((w.interps ++ [({} : Interp)])[i]?).getD {})
    rw [hNew]
    exact .same
  | beginCopy source target limit? onDone? =>
    simp only [Step.run, World.beginCopy]
    split <;> exact World.becomes_of_interps rfl
  | _ => exact World.becomes_of_interps rfl

/-- What a step makes of the records. -/
theorem loosens_run (t : Step σ α) : w.Loosens (t.run s w).2 := by
  cases t with
  | raise j raised =>
    apply World.Loosens.of_records
    refine (World.foldl_keeps World.records (fun w target => ?_) _).trans rfl
    obtain ⟨ready, _ | k⟩ := target <;> rfl
  | handle j d | takeCloseActions j | enterCopy k =>
    rw [Step.run]
    split <;> exact .of_records rfl
  | register j id =>
    simp only [Step.run, World.register]
    split <;> exact .of_records rfl
  | unregister j name =>
    simp only [Step.run, World.unregister]
    split <;> exact .of_records rfl
  | markDeleted j =>
    simp only [Step.run, World.markDeleted]
    split
    · exact .refl w
    · let marked := w.modifyInterp j ({ · with deleted := true, records := [] })
      have kept : w.Loosens marked := .of_records rfl
      exact kept.trans (World.loosens_detachAll _)
  | newRecord j script =>
    constructor
    · show w.records.length ≤ (w.records ++ [(⟨some j, script⟩ : AcceptRecord)]).length
      rw [List.length_append]
      exact Nat.le_add_right _ _
    · intro record hThere
      left
      show ((w.records ++ [(⟨some j, script⟩ : AcceptRecord)])[record]?).bind (·.interp?) = _
      rw [List.getElem?_append_left hThere]
      rfl
  | detach record => exact World.loosens_detach record
  | beginCopy source target limit? onDone? =>
    simp only [Step.run, World.beginCopy]
    split <;> exact .of_records rfl
  | _ => exact .of_records rfl

end Step

namespace Surroundings.Leads

variable {s : Surroundings σ} {w w' : World σ} {events : List (Event σ)}

/-- What a step may make of an interpreter is made of it, step after step. -/
theorem interp_keeps {P : Interp → Prop} {i : InterpId}
    (hKept : ∀ interp interp', Interp.Becomes interp interp' → P interp → P interp')
    (history : s.Leads w events w') (start : P (w.interp i)) : P (w'.interp i) := by
  induction history with
  | refl => exact start
  | snoc e prior ih =>
    cases e with
    | made t w => exact hKept _ _ (t.becomes_run i) ih
    | called c w => exact ih

/-- A deleted interpreter stays deleted. -/
theorem deleted {i : InterpId} (history : s.Leads w events w')
    (hDeleted : (w.interp i).deleted = true) : (w'.interp i).deleted = true :=
  history.interp_keeps (fun _ _ becomes => becomes.deleted_stays) hDeleted

/-- A table that holds no name twice never does. -/
theorem distinct {i : InterpId} (history : s.Leads w events w')
    (start : (w.interp i).Distinct) : (w'.interp i).Distinct :=
  history.interp_keeps (fun _ _ becomes => becomes.distinct) start

theorem loosens (history : s.Leads w events w') : w.Loosens w' := by
  induction history with
  | refl => exact .refl _
  | snoc e prior ih =>
    cases e with
    | made t w => exact ih.trans t.loosens_run
    | called c w => exact ih

end Surroundings.Leads

end EventChannel
