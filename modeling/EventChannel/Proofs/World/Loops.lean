import EventChannel.Proofs.Channel.Branches
import EventChannel.Proofs.Program.Parts
import EventChannel.Proofs.World.Frame
import Mathlib.Data.List.Nodup

/-! What becomes of the registrations of an event loop. A registration is made once, with a
generation that no other one has or will have, and it stays as it was made until it is deleted or
replaced. Only the pass that calls its handler takes that out and puts it back. -/

namespace EventChannel

namespace EventLoop

/-- A table as its operations leave it. -/
structure Sound (l : EventLoop) : Prop where
  descriptors : (l.entries.map (·.descriptor)).Nodup
  generations : (l.entries.map (·.generation)).Nodup
  counted : ∀ r ∈ l.entries, r.generation ≤ l.generations

/-- All registrations have their handlers. -/
def Complete (l : EventLoop) : Prop := ∀ r ∈ l.entries, r.handler?.isSome

instance (l : EventLoop) : Decidable l.Complete :=
  inferInstanceAs (Decidable (∀ r ∈ l.entries, r.handler?.isSome))

/-- Registrations have been deleted and made meanwhile. Each one that is there is as it was, or is
new and has its handler. -/
structure Extends (l l' : EventLoop) : Prop where
  counted : l.generations ≤ l'.generations
  entries : ∀ r ∈ l'.entries, r ∈ l.entries ∨ l.generations < r.generation ∧ r.handler?.isSome

/-- Each registration that is not new was there, with or without its handler. -/
structure Descends (l l' : EventLoop) : Prop where
  counted : l.generations ≤ l'.generations
  entries : ∀ r ∈ l'.entries, r.generation ≤ l.generations →
    ∃ r₀ ∈ l.entries, r = { r₀ with handler? := r.handler? }

/-- What making and deleting registrations keeps. -/
structure Lasting (Q : EventLoop → Prop) : Prop where
  create : ∀ l fd mask handler, Q l → Q (l.create fd mask handler)
  delete : ∀ l fd, Q l → Q (l.delete fd)

variable {l l₁ l₂ : EventLoop} {fd : Descriptor} {r : Registration}

theorem mem_delete : r ∈ (l.delete fd).entries ↔ r ∈ l.entries ∧ r.descriptor ≠ fd := by
  simp [delete]

theorem mem_create {mask : Interest} {handler : FileHandler} :
    r ∈ (l.create fd mask handler).entries ↔
      r ∈ (l.delete fd).entries ∨ r = ⟨fd, mask, l.generations + 1, some handler⟩ := by
  simp [create]

theorem mem_setHandler {handler? : Option FileHandler} :
    r ∈ (l.setHandler fd handler?).entries ↔
      ∃ r₀ ∈ l.entries, r = if r₀.descriptor = fd then { r₀ with handler? } else r₀ := by
  simp only [setHandler, List.mem_map, beq_iff_eq]
  exact ⟨fun ⟨r₀, hMem, hIs⟩ => ⟨r₀, hMem, hIs.symm⟩, fun ⟨r₀, hMem, hIs⟩ => ⟨r₀, hMem, hIs.symm⟩⟩

theorem find?_some (hFind : l.find? fd = some r) : r ∈ l.entries ∧ r.descriptor = fd :=
  ⟨List.mem_of_find?_eq_some hFind, by simpa using List.find?_some hFind⟩

namespace Sound

theorem empty : Sound {} := ⟨List.nodup_nil, List.nodup_nil, fun _ hMem => nomatch hMem⟩

/-- Registrations of one descriptor are one. -/
theorem eq_of_descriptor (sound : l.Sound) {r r' : Registration} (hMem : r ∈ l.entries)
    (hMem' : r' ∈ l.entries) (hSame : r.descriptor = r'.descriptor) : r = r' :=
  List.inj_on_of_nodup_map sound.descriptors hMem hMem' hSame

/-- Registrations of one generation are one. -/
theorem eq_of_generation (sound : l.Sound) {r r' : Registration} (hMem : r ∈ l.entries)
    (hMem' : r' ∈ l.entries) (hSame : r.generation = r'.generation) : r = r' :=
  List.inj_on_of_nodup_map sound.generations hMem hMem' hSame

theorem find?_eq (sound : l.Sound) (hMem : r ∈ l.entries) : l.find? r.descriptor = some r := by
  cases hFind : l.find? r.descriptor with
  | none => simpa using List.find?_eq_none.1 hFind r hMem
  | some r' =>
    obtain ⟨hMem', hSame⟩ := find?_some hFind
    rw [sound.eq_of_descriptor hMem' hMem hSame]

theorem setHandler (sound : l.Sound) (handler? : Option FileHandler) :
    (l.setHandler fd handler?).Sound := by
  have hDescriptors : (l.setHandler fd handler?).entries.map (·.descriptor) =
      l.entries.map (·.descriptor) := by
    simp only [EventLoop.setHandler, List.map_map]
    exact List.map_congr_left fun r _ => by simp only [Function.comp]; split <;> rfl
  have hGenerations : (l.setHandler fd handler?).entries.map (·.generation) =
      l.entries.map (·.generation) := by
    simp only [EventLoop.setHandler, List.map_map]
    exact List.map_congr_left fun r _ => by simp only [Function.comp]; split <;> rfl
  refine ⟨hDescriptors ▸ sound.descriptors, hGenerations ▸ sound.generations, fun r hMem => ?_⟩
  obtain ⟨r₀, hMem₀, rfl⟩ := mem_setHandler.1 hMem
  have hCounted := sound.counted r₀ hMem₀
  split <;> exact hCounted

end Sound

theorem lasting_sound : Lasting Sound where
  delete l fd sound :=
    { descriptors := sound.descriptors.sublist (List.filter_sublist.map _)
      generations := sound.generations.sublist (List.filter_sublist.map _)
      counted := fun r hMem => sound.counted r (mem_delete.1 hMem).1 }
  create l fd mask handler sound := by
    constructor
    · rw [create, List.map_append, List.nodup_append]
      refine ⟨sound.descriptors.sublist (List.filter_sublist.map _), List.nodup_singleton _, ?_⟩
      intro d hMem d' hNew hSame
      obtain ⟨r, hEntry, rfl⟩ := List.mem_map.1 hMem
      obtain rfl : d' = fd := by simpa using hNew
      exact (mem_delete.1 hEntry).2 hSame
    · rw [create, List.map_append, List.nodup_append]
      refine ⟨sound.generations.sublist (List.filter_sublist.map _), List.nodup_singleton _, ?_⟩
      intro g hMem g' hNew hSame
      obtain ⟨r, hEntry, rfl⟩ := List.mem_map.1 hMem
      obtain rfl : g' = l.generations + 1 := by simpa using hNew
      have hCounted := sound.counted r (mem_delete.1 hEntry).1
      omega
    · intro r hMem
      rcases mem_create.1 hMem with hMem | rfl
      · exact Nat.le_succ_of_le (sound.counted r (mem_delete.1 hMem).1)
      · exact Nat.le_refl _

namespace Extends

theorem refl (l : EventLoop) : l.Extends l := ⟨Nat.le_refl _, fun _ hMem => .inl hMem⟩

theorem trans (left : l.Extends l₁) (right : l₁.Extends l₂) : l.Extends l₂ where
  counted := Nat.le_trans left.counted right.counted
  entries r hMem := by
    rcases right.entries r hMem with hMem | ⟨hNew, hSome⟩
    · exact left.entries r hMem
    · exact .inr ⟨Nat.lt_of_le_of_lt left.counted hNew, hSome⟩

theorem complete (extend : l.Extends l₁) (complete : l.Complete) : l₁.Complete := by
  intro r hMem
  rcases extend.entries r hMem with hOld | ⟨-, hSome⟩
  · exact complete r hOld
  · exact hSome

/-- A registration of a generation that was given out before is as it was. -/
theorem mem_of_le (extend : l.Extends l₁) (hMem : r ∈ l₁.entries)
    (hOld : r.generation ≤ l.generations) : r ∈ l.entries := by
  rcases extend.entries r hMem with hMem | ⟨hNew, -⟩
  · exact hMem
  · omega

end Extends

theorem lasting_extends (l : EventLoop) : Lasting l.Extends where
  delete l₁ fd extend :=
    { counted := extend.counted
      entries := fun r hMem => extend.entries r (mem_delete.1 hMem).1 }
  create l₁ fd mask handler extend :=
    { counted := Nat.le_succ_of_le extend.counted
      entries := fun r hMem => by
        rcases mem_create.1 hMem with hMem | rfl
        · exact extend.entries r (mem_delete.1 hMem).1
        · exact .inr ⟨Nat.lt_succ_of_le extend.counted, rfl⟩ }

namespace Descends

theorem trans (left : l.Descends l₁) (right : l₁.Descends l₂) : l.Descends l₂ where
  counted := Nat.le_trans left.counted right.counted
  entries r hMem hOld := by
    obtain ⟨r₁, hMem₁, hSame₁⟩ := right.entries r hMem (Nat.le_trans hOld left.counted)
    have hOld₁ : r₁.generation ≤ l.generations := by
      rw [hSame₁] at hOld
      exact hOld
    obtain ⟨r₀, hMem₀, hSame₀⟩ := left.entries r₁ hMem₁ hOld₁
    refine ⟨r₀, hMem₀, ?_⟩
    rw [hSame₁, hSame₀]

theorem of_extends (extend : l.Extends l₁) : l.Descends l₁ where
  counted := extend.counted
  entries r hMem hOld := ⟨r, extend.mem_of_le hMem hOld, rfl⟩

theorem setHandler (l : EventLoop) (fd : Descriptor) (handler? : Option FileHandler) :
    l.Descends (l.setHandler fd handler?) where
  counted := Nat.le_refl _
  entries r hMem _ := by
    obtain ⟨r₀, hMem₀, rfl⟩ := mem_setHandler.1 hMem
    refine ⟨r₀, hMem₀, ?_⟩
    split <;> rfl

end Descends

variable {generation : Nat} {handler : FileHandler}

theorem current?_some (hCurrent : l.current? fd generation = some r) :
    l.find? fd = some r ∧ r.generation = generation := by
  simpa [current?, Option.filter_eq_some_iff] using hCurrent

/-- What is taken is the handler of the registration that is current. -/
theorem take_some (hTaken : (l.take fd generation).1 = some handler) :
    ∃ r, l.find? fd = some r ∧ r.generation = generation ∧ r.handler? = some handler ∧
      (l.take fd generation).2 = l.setHandler fd none := by
  rw [take] at hTaken ⊢
  split at hTaken
  · next found hFound =>
    obtain ⟨r, hCurrent, hHandler⟩ := Option.bind_eq_some_iff.1 hFound
    obtain rfl : found = handler := Option.some.inj hTaken
    obtain ⟨hFind, hGeneration⟩ := current?_some hCurrent
    exact ⟨r, hFind, hGeneration, hHandler, rfl⟩
  · cases hTaken

/-- Nothing is taken where the registration is gone, or its handler out. -/
theorem take_none (hNone : (l.take fd generation).1 = none) :
    (l.take fd generation).2 = l ∧
      ∀ r, l.find? fd = some r → r.generation = generation → r.handler? = none := by
  rw [take] at hNone ⊢
  split at hNone
  · cases hNone
  · next hFound =>
    refine ⟨rfl, fun r hFind hGeneration => ?_⟩
    rw [current?, hFind, Option.filter, if_pos (by simpa using hGeneration)] at hFound
    exact hFound

/-- Only the registration of the generation changes where a handler is put back. -/
theorem mem_putBack (sound : l.Sound) (hMem : r ∈ (l.putBack fd generation handler).entries) :
    r ∈ l.entries ∨ r.generation = generation := by
  rw [putBack] at hMem
  split at hMem
  · next found hCurrent =>
    split at hMem
    · obtain ⟨hFind, hGeneration⟩ := current?_some hCurrent
      obtain ⟨hFound, hDescriptor⟩ := find?_some hFind
      obtain ⟨r₀, hMem₀, rfl⟩ := mem_setHandler.1 hMem
      split
      · next hIs =>
        rw [sound.eq_of_descriptor hMem₀ hFound (hIs.trans hDescriptor.symm)]
        exact .inr hGeneration
      · exact .inl hMem₀
    · exact .inl hMem
  · exact .inl hMem

/-- While a handler is out, its registration may be deleted and replaced. If it is still there, the
handler is put back into it; otherwise it is dropped. -/
theorem extends_putBack (sound : l.Sound) (sound₁ : l₁.Sound) (hFind : l.find? fd = some r)
    (hHandler : r.handler? = some handler) (extend : (l.setHandler fd none).Extends l₁) :
    l.Extends (l₁.putBack fd r.generation handler) := by
  obtain ⟨hMem, hDescriptor⟩ := find?_some hFind
  -- what was there before is as it was, but for the registration whose handler is out
  have hKept (r' : Registration) (hMem' : r' ∈ l₁.entries) (hOther : r'.descriptor ≠ fd) :
      r' ∈ l.entries ∨ l.generations < r'.generation ∧ r'.handler?.isSome := by
    rcases extend.entries r' hMem' with hOld | hNew
    · obtain ⟨r₀, hMem₀, rfl⟩ := mem_setHandler.1 hOld
      split at hOther
      · next hIs => exact absurd hIs hOther
      · next hNot =>
        rw [if_neg hNot]
        exact .inl hMem₀
    · exact .inr hNew
  have hOut (r' : Registration) (hMem' : r' ∈ l₁.entries) (hIs : r'.descriptor = fd) :
      r' = { r with handler? := none } ∨ l.generations < r'.generation ∧ r'.handler?.isSome := by
    rcases extend.entries r' hMem' with hOld | hNew
    · obtain ⟨r₀, hMem₀, rfl⟩ := mem_setHandler.1 hOld
      split at hIs
      · next hFd =>
        rw [if_pos hFd, sound.eq_of_descriptor hMem₀ hMem (hFd.trans hDescriptor.symm)]
        exact .inl rfl
      · next hNot => exact absurd hIs hNot
    · exact .inr hNew
  have hCounted : l.generations ≤ l₁.generations := extend.counted
  rw [putBack]
  cases hCurrent : l₁.current? fd r.generation with
  | none =>
    refine ⟨hCounted, fun r' hMem' => ?_⟩
    by_cases hIs : r'.descriptor = fd
    · rcases hOut r' hMem' hIs with rfl | hNew
      · rw [current?, ← hIs, sound₁.find?_eq hMem', Option.filter, if_pos (by simp)] at hCurrent
        cases hCurrent
      · exact .inr hNew
    · exact hKept r' hMem' hIs
  | some r₁ =>
    obtain ⟨hFind₁, hGeneration₁⟩ := current?_some hCurrent
    obtain ⟨hMem₁, hDescriptor₁⟩ := find?_some hFind₁
    have hIs₁ : r₁ = { r with handler? := none } := by
      rcases hOut r₁ hMem₁ hDescriptor₁ with hIs | ⟨hNew, -⟩
      · exact hIs
      · have hOld := sound.counted r hMem
        omega
    simp only [hIs₁, Option.isNone_none, if_true]
    refine ⟨hCounted, fun r' hMem' => ?_⟩
    obtain ⟨r₀, hMem₀, rfl⟩ := mem_setHandler.1 hMem'
    split
    · next hIs =>
      obtain rfl := sound₁.eq_of_descriptor hMem₀ hMem₁ (hIs.trans hDescriptor₁.symm)
      rw [hIs₁]
      refine .inl ?_
      rwa [← hHandler]
    · next hNot => exact hKept r₀ hMem₀ hNot

end EventLoop

variable {σ α : Type} {Q : EventLoop → Prop} {id : LoopId}

namespace EventLoops

theorem get_modify_self {ls : EventLoops} {f : EventLoop → EventLoop} (hExists : id < ls.length) :
    get (ls.modify id f) id = f (ls.get id) := by
  simp [get, hExists]

theorem get_modify_ne {ls : EventLoops} {f : EventLoop → EventLoop} {other : LoopId}
    (hNe : other ≠ id) : get (ls.modify other f) id = ls.get id := by
  simp [get, hNe]

/-- A loop that was never made stays empty. -/
theorem get_modify_absent {ls : EventLoops} {f : EventLoop → EventLoop}
    (hAbsent : ls.length ≤ id) : get (ls.modify id f) id = ls.get id := by
  simp [get, List.getElem?_eq_none hAbsent]

theorem get_append_empty (ls : EventLoops) : get (ls ++ [({} : EventLoop)]) id = ls.get id := by
  by_cases hExists : id < ls.length
  · simp [get, List.getElem?_append_left hExists]
  · obtain ⟨n, rfl⟩ := Nat.exists_eq_add_of_le (Nat.le_of_not_lt hExists)
    cases n <;> simp [get]

/-- What leaves an empty table empty is done to every loop. -/
theorem get_modify_empty {ls : EventLoops} {f : EventLoop → EventLoop} (hEmpty : f {} = {}) :
    get (ls.modify id f) id = f (ls.get id) := by
  by_cases hExists : id < ls.length
  · exact get_modify_self hExists
  · have hAbsent := Nat.le_of_not_lt hExists
    rw [get_modify_absent hAbsent, get, List.getElem?_eq_none hAbsent]
    exact hEmpty.symm

/-- A loop that has registrations was made. -/
theorem exists_of_find? {ls : EventLoops} {fd : Descriptor} {r : Registration}
    (hFind : (ls.get id).find? fd = some r) : id < ls.length := by
  by_contra hAbsent
  rw [get, List.getElem?_eq_none (Nat.le_of_not_lt hAbsent)] at hFind
  cases hFind

theorem get_modify_of {ls : EventLoops} {f : EventLoop → EventLoop} {other : LoopId}
    (hChanged : other = id → Q (f (ls.get id))) (hSame : Q (ls.get id)) :
    Q (get (ls.modify other f) id) := by
  by_cases hNe : other = id
  · subst hNe
    by_cases hExists : other < ls.length
    · rw [get_modify_self hExists]
      exact hChanged rfl
    · rwa [get_modify_absent (Nat.le_of_not_lt hExists)]
  · rwa [get_modify_ne hNe]

end EventLoops

namespace EventLoop.Lasting

variable (lasting : Lasting Q)

include lasting

theorem apply (command : LoopCommand) {ls : EventLoops} (h : Q (ls.get id)) :
    Q ((ls.apply command).get id) := by
  cases command with
  | create loop fd mask handler =>
    exact EventLoops.get_modify_of (fun _ => lasting.create _ fd mask handler h) h
  | delete loop fd => exact EventLoops.get_modify_of (fun _ => lasting.delete _ fd h) h

theorem applyAll (commands : List LoopCommand) {ls : EventLoops} (h : Q (ls.get id)) :
    Q ((ls.applyAll commands).get id) := by
  induction commands generalizing ls with
  | nil => exact h
  | cons command rest ih => exact ih (lasting.apply command h)

variable (driver : Driver σ) {h : Held σ}

/-- A channel that is held leaves the loops to its driver, which may only give commands. -/
theorem drive (call : DriverCall) (hQ : Q (h.loops.get id)) :
    Q ((h.drive driver call).2.loops.get id) :=
  lasting.applyAll _ hQ

theorem applyWatch (hQ : Q (h.loops.get id)) : Q ((h.applyWatch driver).loops.get id) := by
  by_cases hSame : h.channel.wantedMask = h.channel.watched
  · rwa [Held.applyWatch_same hSame]
  · cases hOpen : h.channel.isOpen with
    | true =>
      rw [Held.applyWatch_open hSame hOpen]
      exact lasting.drive driver _ hQ
    | false => rwa [Held.applyWatch_closed hSame hOpen]

theorem read (n : Nat) (hQ : Q (h.loops.get id)) : Q ((h.read driver n).2.loops.get id) := by
  cases hOpen : h.channel.isOpen with
  | false => rwa [Held.read_closed hOpen]
  | true =>
  cases hMode : h.channel.mode.readable with
  | false => rwa [Held.read_unreadable hOpen hMode]
  | true =>
  by_cases hInput : h.channel.input = []
  · rw [Held.read_asked hOpen hMode hInput]
    have hDriven := lasting.drive driver (.input (max n h.channel.bufferSize))
      (show Q ((h.update ({ · with blocked := false })).loops.get id) from hQ)
    generalize Held.drive driver _ _ = driven at hDriven ⊢
    obtain ⟨f | ⟨bytes, _⟩, h₁⟩ := driven
    · dsimp only
      split <;> exact hDriven
    · exact hDriven
  · rwa [Held.read_buffered hOpen hMode hInput]

theorem emit (offers : Nat) (hQ : Q (h.loops.get id)) :
    Q ((h.emit driver offers).2.loops.get id) := by
  induction offers generalizing h with
  | zero => exact hQ
  | succ offers ih =>
    unfold Held.emit
    split
    · exact hQ
    · have hDriven := lasting.drive driver (.output h.channel.output.toBytes) hQ
      generalize Held.drive driver _ _ = driven at hDriven ⊢
      obtain ⟨f | ⟨_ | n, _⟩, h₁⟩ := driven
      · dsimp only
        split <;> exact hDriven
      · exact hDriven
      · exact ih hDriven

theorem settleBackground (hQ : Q (h.loops.get id)) :
    Q ((h.settleBackground driver).loops.get id) := by
  unfold Held.settleBackground
  dsimp only
  split
  · exact hQ
  · exact lasting.applyWatch driver hQ

theorem flush (hQ : Q (h.loops.get id)) : Q ((h.flush driver).2.loops.get id) := by
  unfold Held.flush
  split
  · exact hQ
  · have hEmitted := lasting.emit driver h.channel.output.size hQ
    generalize h.emit driver h.channel.output.size = emitted at hEmitted ⊢
    obtain ⟨_ | f, h₁⟩ := emitted
    · exact lasting.settleBackground driver hEmitted
    · exact lasting.settleBackground driver hEmitted

theorem write (bytes : Bytes) (force : Bool) (hQ : Q (h.loops.get id)) :
    Q ((h.write driver bytes force).2.loops.get id) := by
  cases hOpen : h.channel.isOpen with
  | false => rwa [Held.write_closed hOpen]
  | true =>
  cases hMode : h.channel.mode.writable with
  | false => rwa [Held.write_unwritable hOpen hMode]
  | true =>
  cases hParked : h.channel.unreported? with
  | some f => rwa [Held.write_unreported hOpen hMode hParked]
  | none =>
  cases hDue : force || decide (h.channel.bufferSize ≤ (h.channel.output.push bytes).size) with
  | false => rwa [Held.write_kept hOpen hMode hParked hDue]
  | true =>
    rw [Held.write_flushed hOpen hMode hParked hDue]
    have hFlushed := lasting.flush driver (show Q ((h.pushed bytes).loops.get id) from hQ)
    generalize (h.pushed bytes).flush driver = flushed at hFlushed ⊢
    obtain ⟨_ | f, h₁⟩ := flushed <;> exact hFlushed

theorem flushInBackground (raised : Interest) (hQ : Q (h.loops.get id)) :
    Q ((h.flushInBackground driver raised).loops.get id) := by
  unfold Held.flushInBackground
  split
  · have hFlushed := lasting.flush driver hQ
    generalize h.flush driver = flushed at hFlushed ⊢
    obtain ⟨_ | f, h₁⟩ := flushed <;> exact hFlushed
  · exact hQ

theorem goTo (target : SeekTarget) (hQ : Q (h.loops.get id)) :
    Q ((h.goTo driver target).2.loops.get id) := by
  unfold Held.goTo
  split
  · exact hQ
  · have hDriven := lasting.drive driver (.seek target) hQ
    generalize h.drive driver (.seek target) = driven at hDriven ⊢
    obtain ⟨f | position, h₁⟩ := driven <;> exact hDriven

theorem seek (target : SeekTarget) (hQ : Q (h.loops.get id)) :
    Q ((h.seek driver target).2.loops.get id) := by
  cases hEmpty : h.channel.output.isEmpty with
  | true =>
    rw [Held.seek_empty hEmpty]
    exact lasting.goTo driver target hQ
  | false =>
    rw [Held.seek_waiting hEmpty]
    have hFlushed := lasting.flush driver hQ
    generalize h.flush driver = flushed at hFlushed ⊢
    obtain ⟨_ | f, h₁⟩ := flushed
    · exact lasting.goTo driver target hFlushed
    · exact hFlushed

theorem tell (hQ : Q (h.loops.get id)) : Q ((h.tell driver).2.loops.get id) := by
  unfold Held.tell
  split
  · exact hQ
  · have hDriven := lasting.drive driver (.seek (.current 0)) hQ
    generalize h.drive driver (.seek (.current 0)) = driven at hDriven ⊢
    obtain ⟨f | position, h₁⟩ := driven <;> exact hDriven

theorem setBlocking (on : Bool) (hQ : Q (h.loops.get id)) :
    Q ((h.setBlocking driver on).2.loops.get id) := by
  unfold Held.setBlocking
  split
  · exact hQ
  · have hDriven := lasting.drive driver (.setBlocking on) hQ
    generalize h.drive driver (.setBlocking on) = driven at hDriven ⊢
    obtain ⟨e | done, h₁⟩ := driven
    · exact hDriven
    · exact lasting.applyWatch driver hDriven

theorem getOption (dns : Bool) (name : String) (hQ : Q (h.loops.get id)) :
    Q ((h.getOption driver dns name).2.loops.get id) := by
  unfold Held.getOption
  split
  · exact hQ
  · exact hQ
  · split
    · exact hQ
    · have hDriven := lasting.drive driver (.getOption dns (some name)) hQ
      generalize h.drive driver (.getOption dns (some name)) = driven at hDriven ⊢
      obtain ⟨r | listing, h₁⟩ := driven <;> exact hDriven

theorem getOptions (dns : Bool) (hQ : Q (h.loops.get id)) :
    Q ((h.getOptions driver dns).2.loops.get id) := by
  unfold Held.getOptions
  split
  · exact hQ
  · have hDriven := lasting.drive driver (.getOption dns none) hQ
    generalize h.drive driver (.getOption dns none) = driven at hDriven ⊢
    obtain ⟨r | listing, h₁⟩ := driven <;> exact hDriven

theorem setOption (name value : String) (hQ : Q (h.loops.get id)) :
    Q ((h.setOption driver name value).2.loops.get id) := by
  unfold Held.setOption
  split
  · split
    · exact hQ
    · exact lasting.setBlocking driver _ hQ
  · split <;> exact hQ
  · split
    · exact hQ
    · have hDriven := lasting.drive driver (.setOption name value) hQ
      generalize h.drive driver (.setOption name value) = driven at hDriven ⊢
      obtain ⟨r | done, h₁⟩ := driven <;> exact hDriven

theorem cut (hQ : Q (h.loops.get id)) : Q ((h.cut driver).loops.get id) := by
  unfold Held.cut
  split
  · exact lasting.drive driver _ hQ
  · exact hQ

theorem splice (loop : LoopId) (hQ : Q (h.loops.get id)) :
    Q ((h.splice driver loop).loops.get id) := by
  unfold Held.splice
  split
  · exact lasting.drive driver _ (lasting.drive driver _ hQ)
  · exact hQ

theorem shut (hQ : Q (h.loops.get id)) : Q ((h.shut driver).2.loops.get id) := by
  unfold Held.shut
  split
  · exact hQ
  · refine lasting.drive driver _ (lasting.drive driver _ ?_)
    rw [Held.update]
    dsimp only
    split
    · exact hQ
    · exact lasting.flush driver hQ

theorem closeSide (d : Direction) (hQ : Q (h.loops.get id)) :
    Q ((h.closeSide driver d).2.loops.get id) := by
  unfold Held.closeSide
  have hDriven := lasting.drive driver (.closeHalf d) hQ
  generalize h.drive driver (.closeHalf d) = driven at hDriven ⊢
  obtain ⟨e | done, h₁⟩ := driven
  · exact hDriven
  · refine lasting.applyWatch driver ?_
    split <;> exact hDriven

theorem closeHalf (d : Direction) (hQ : Q (h.loops.get id)) :
    Q ((h.closeHalf driver d).2.loops.get id) := by
  by_cases hNot : h.channel.isOpen = false ∨ h.channel.mode.has d = false ∨
      h.channel.mode.without d = .none
  · rwa [Held.closeHalf_unchanged hNot]
  · simp only [not_or, Bool.not_eq_false] at hNot
    obtain ⟨hOpen, hHas, hLast⟩ := hNot
    cases d with
    | read =>
      rw [Held.closeHalf_read hOpen hHas hLast]
      exact lasting.closeSide driver .read hQ
    | write =>
      rw [Held.closeHalf_write hOpen hHas hLast]
      have hFlushed := lasting.flush driver hQ
      generalize h.flush driver = flushed at hFlushed ⊢
      obtain ⟨_ | f, h₁⟩ := flushed
      · exact lasting.closeSide driver .write hFlushed
      · exact hFlushed

/-- Every operation on a channel keeps what commands keep. -/
theorem perform (op : ChannelOp) (hQ : Q (h.loops.get id)) :
    Q ((h.perform driver op).2.loops.get id) := by
  cases op with
  | read n => exact lasting.read driver n hQ
  | write bytes force => exact lasting.write driver bytes force hQ
  | seek target => exact lasting.seek driver target hQ
  | tell => exact lasting.tell driver hQ
  | setBlocking on => exact lasting.setBlocking driver on hQ
  | createHandler mask callback => exact lasting.applyWatch driver hQ
  | deleteHandler handler => exact lasting.applyWatch driver hQ
  | getOption dns name => exact lasting.getOption driver dns name hQ
  | getOptions dns => exact lasting.getOptions driver dns hQ
  | setOption name value => exact lasting.setOption driver name value hQ
  | cut => exact lasting.cut driver hQ
  | splice loop => exact lasting.splice driver loop hQ
  | shut => exact lasting.shut driver hQ
  | closeHalf d => exact lasting.closeHalf driver d hQ

end EventLoop.Lasting

/-- Every other step does to a loop what commands do. -/
theorem EventLoop.Lasting.run (lasting : Lasting Q) {t : Step σ α} (hOther : ¬t.Dispatches)
    (s : Surroundings σ) {w : World σ} (hQ : Q (w.loops.get id)) :
    Q ((t.run s w).2.loops.get id) := by
  have hSame {w' : World σ} (hLoops : w'.loops = w.loops) : Q (w'.loops.get id) := hLoops ▸ hQ
  cases t with
  | takeHandler | putBack => exact absurd trivial hOther
  | hold j op => exact lasting.perform (s.driver j) op hQ
  | «open» c => exact lasting.drive (s.driver w.channels.length) .attach hQ
  | raise j raised =>
    have hLoops : ((Step.raise j raised).run s w).2.loops =
        ((w.held j).flushInBackground (s.driver j) raised).loops := by
      refine World.foldl_keeps World.loops (fun w target => ?_) _
      obtain ⟨ready, _ | k⟩ := target <;> rfl
    rw [hLoops]
    exact lasting.flushInBackground (s.driver j) raised hQ
  | handle j d =>
    simp only [Step.run]
    split
    · exact lasting.drive (s.driver j) (.handle d) hQ
    · exact hQ
  | newLoop =>
    refine Eq.mp (congrArg Q ?_) hQ
    exact (EventLoops.get_append_empty w.loops).symm
  | command c => exact lasting.apply c hQ
  | takeCloseActions j =>
    refine hSame ?_
    simp only [Step.run]
    split <;> rfl
  | register i j =>
    refine hSame ?_
    simp only [Step.run, World.register]
    split <;> rfl
  | unregister i name =>
    refine hSame ?_
    simp only [Step.run, World.unregister]
    split <;> rfl
  | markDeleted i =>
    refine hSame ?_
    simp only [Step.run, World.markDeleted]
    split
    · rfl
    · refine (World.foldl_keeps World.loops ?_ _).trans rfl
      exact fun _ _ => rfl
  | beginCopy source target limit? onDone? =>
    refine hSame ?_
    simp only [Step.run, World.beginCopy]
    split <;> rfl
  | enterCopy k =>
    refine hSame ?_
    simp only [Step.run]
    split <;> rfl
  | _ => exact hQ

namespace EventLoop

theorem lasting_descends (l : EventLoop) : Lasting l.Descends where
  delete l₁ fd descends :=
    descends.trans (.of_extends ((lasting_extends l₁).delete l₁ fd (.refl l₁)))
  create l₁ fd mask handler descends :=
    descends.trans (.of_extends ((lasting_extends l₁).create l₁ fd mask handler (.refl l₁)))

theorem Descends.refl (l : EventLoop) : l.Descends l := .of_extends (.refl l)

theorem sound_take {l : EventLoop} (sound : l.Sound) (fd : Descriptor) (generation : Nat) :
    (l.take fd generation).2.Sound := by
  rw [take]
  split
  · exact sound.setHandler none
  · exact sound

theorem sound_putBack {l : EventLoop} (sound : l.Sound) (fd : Descriptor) (generation : Nat)
    (handler : FileHandler) : (l.putBack fd generation handler).Sound := by
  rw [putBack]
  split
  · split
    · exact sound.setHandler _
    · exact sound
  · exact sound

theorem descends_take (l : EventLoop) (fd : Descriptor) (generation : Nat) :
    l.Descends (l.take fd generation).2 := by
  rw [take]
  split
  · exact .setHandler l fd none
  · exact .refl l

theorem descends_putBack (l : EventLoop) (fd : Descriptor) (generation : Nat)
    (handler : FileHandler) : l.Descends (l.putBack fd generation handler) := by
  rw [putBack]
  split
  · split
    · exact .setHandler l fd _
    · exact .refl l
  · exact .refl l

end EventLoop

open EventLoop

/-- Every step leaves a sound table sound. -/
theorem Step.soundLoop_run (t : Step σ α) (s : Surroundings σ) {w : World σ}
    (sound : (w.loops.get id).Sound) : ((t.run s w).2.loops.get id).Sound := by
  by_cases hOwn : t.Dispatches
  · cases t with
    | takeHandler loop fd generation =>
      refine EventLoops.get_modify_of ?_ sound
      rintro rfl
      exact sound_take sound fd generation
    | putBack loop fd generation handler =>
      exact EventLoops.get_modify_of (fun _ => sound_putBack sound fd generation handler) sound
    | _ => cases hOwn
  · exact lasting_sound.run hOwn s sound

/-- No step brings a registration back, or changes anything about it but its handler. -/
theorem Step.descends_run (t : Step σ α) (s : Surroundings σ) (w : World σ) (id : LoopId) :
    (w.loops.get id).Descends ((t.run s w).2.loops.get id) := by
  by_cases hOwn : t.Dispatches
  · cases t with
    | takeHandler loop fd generation =>
      refine EventLoops.get_modify_of ?_ (.refl _)
      rintro rfl
      exact descends_take _ fd generation
    | putBack loop fd generation handler =>
      exact EventLoops.get_modify_of (fun _ => descends_putBack _ fd generation handler) (.refl _)
    | _ => cases hOwn
  · exact (lasting_descends _).run hOwn s (.refl _)

/-- Whatever happens, a sound table stays sound, and a registration that is gone is gone. -/
theorem Surroundings.Leads.loops {s : Surroundings σ} {w w' : World σ} {events : List (Event σ)}
    (history : s.Leads w events w') (sound : (w.loops.get id).Sound) :
    (w'.loops.get id).Sound ∧ (w.loops.get id).Descends (w'.loops.get id) ∧
      ∀ e ∈ events, (e.before.loops.get id).Sound ∧
        (e.before.loops.get id).Descends (w'.loops.get id) := by
  induction history with
  | refl => exact ⟨sound, .refl _, List.forall_mem_nil _⟩
  | snoc e prior ih =>
    obtain ⟨hSound, hDescends, hEach⟩ := ih
    have hStep : ((e.after s).loops.get id).Sound ∧
        (e.before.loops.get id).Descends ((e.after s).loops.get id) := by
      cases e with
      | made t w => exact ⟨t.soundLoop_run s hSound, t.descends_run s w id⟩
      | called c w => exact ⟨hSound, .refl _⟩
    refine ⟨hStep.1, hDescends.trans hStep.2, fun e' hMem => ?_⟩
    rcases List.mem_append.1 hMem with hMem | hMem
    · exact ⟨(hEach e' hMem).1, (hEach e' hMem).2.trans hStep.2⟩
    · rw [List.mem_singleton.1 hMem]
      exact ⟨hSound, hStep.2⟩

end EventChannel
