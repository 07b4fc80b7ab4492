import EventChannel.Proofs.World.Loops

/-! A registration is known by its loop and its generation, whether or not its handler is just being
called. So those that one owner has made can be told from all others, in tables that anybody may
change. They are the ones that books would show in which nothing is noted but what the owner
does. -/

namespace EventChannel

/-- The registrations that an owner has made so far, by loop and generation. -/
abbrev Tenure := LoopId → Nat → Prop

/-- That of an owner who has made no registration yet. -/
def Tenure.none : Tenure := fun _ _ => False

/-- The tenure with what was registered between two states of the loops. -/
def Tenure.since (own : Tenure) (ls ls' : EventLoops) : Tenure := fun loop generation =>
  own loop generation ∨
    (ls.get loop).generations < generation ∧ generation ≤ (ls'.get loop).generations

/-- The owner has a descriptor registered with a loop, for some conditions. -/
def EventLoops.Registers (ls : EventLoops) (own : Tenure) (loop : LoopId) (fd : Descriptor)
    (mask : Interest) : Prop :=
  ∃ r ∈ (ls.get loop).entries, own loop r.generation ∧ r.descriptor = fd ∧ r.mask = mask

/-- For each loop the descriptors that are registered there, with the conditions. -/
abbrev Books := LoopId → Descriptor → Option Interest

namespace Books

def empty : Books := fun _ _ => none

/-- At most one registration, with one loop. -/
def only (loop : LoopId) (listed? : Option (Descriptor × Interest)) : Books := fun l fd =>
  if l = loop then (listed?.filter (·.1 = fd)).map (·.2) else none

/-- What becomes of the books where there are so many loops. -/
def apply (loops : Nat) (b : Books) : LoopCommand → Books
  | .create loop fd mask _ => fun l d =>
    if l = loop ∧ d = fd ∧ loop < loops then some mask else b l d
  | .delete loop fd => fun l d => if l = loop ∧ d = fd then none else b l d

def applyAll (loops : Nat) (b : Books) (commands : List LoopCommand) : Books :=
  commands.foldl (apply loops) b

variable (loops : Nat) (b : Books)

@[simp] theorem applyAll_nil : b.applyAll loops [] = b := rfl

@[simp] theorem applyAll_append (first second : List LoopCommand) :
    b.applyAll loops (first ++ second) = (b.applyAll loops first).applyAll loops second :=
  List.foldl_append

@[simp] theorem applyAll_singleton (c : LoopCommand) :
    b.applyAll loops [c] = b.apply loops c := rfl

@[simp] theorem only_none (loop : LoopId) : only loop none = empty := by
  funext l fd
  simp [only, empty]

theorem only_eq_some {loop l : LoopId} {listed? : Option (Descriptor × Interest)} {fd : Descriptor}
    {mask : Interest} :
    only loop listed? l fd = some mask ↔ l = loop ∧ listed? = some (fd, mask) := by
  obtain _ | ⟨d, m⟩ := listed?
  · simp [only]
  · by_cases hFd : d = fd
    · simp [only, hFd]
    · simp [only, Option.filter, hFd]

/-- Descriptors that are taken out of a loop one after the other are registered there no more. -/
theorem applyAll_deletes (loop : LoopId) (fds : List Descriptor) (l : LoopId) (fd : Descriptor) :
    b.applyAll loops (fds.map (.delete loop)) l fd =
      if l = loop ∧ fd ∈ fds then none else b l fd := by
  induction fds generalizing b with
  | nil => simp
  | cons d rest ih =>
    rw [List.map_cons, applyAll, List.foldl_cons, ← applyAll, ih]
    simp only [apply, List.mem_cons]
    split <;> split <;> grind

end Books

/-- The owner's registrations in sound loops are those of the books. -/
structure EventLoops.Tracks (own : Tenure) (ls : EventLoops) (b : Books) : Prop where
  sound : ∀ loop, (ls.get loop).Sound
  registers : ∀ loop fd mask, ls.Registers own loop fd mask ↔ b loop fd = some mask

namespace EventLoops

variable {own : Tenure} {ls ls₁ ls₂ : EventLoops} {b : Books}

@[simp] theorem length_apply (ls : EventLoops) (c : LoopCommand) :
    (ls.apply c).length = ls.length := by
  cases c <;> simp [apply]

@[simp] theorem length_applyAll (ls : EventLoops) (commands : List LoopCommand) :
    (ls.applyAll commands).length = ls.length := by
  induction commands generalizing ls with
  | nil => rfl
  | cons c rest ih => rw [applyAll, List.foldl_cons, ← applyAll, ih, length_apply]

/-- No loop counts back. -/
theorem generations_le (ls : EventLoops) (commands : List LoopCommand) (loop : LoopId) :
    (ls.get loop).generations ≤ ((ls.applyAll commands).get loop).generations :=
  ((EventLoop.lasting_extends (ls.get loop)).applyAll commands (.refl _)).counted

theorem since_self (own : Tenure) (ls : EventLoops) : own.since ls ls = own := by
  funext loop generation
  simp only [Tenure.since, eq_iff_iff, or_iff_left_iff_imp]
  omega

theorem since_since (hFirst : ∀ loop, (ls.get loop).generations ≤ (ls₁.get loop).generations)
    (hSecond : ∀ loop, (ls₁.get loop).generations ≤ (ls₂.get loop).generations) :
    (own.since ls ls₁).since ls₁ ls₂ = own.since ls ls₂ := by
  funext loop generation
  have h₁ := hFirst loop
  have h₂ := hSecond loop
  simp only [Tenure.since, or_assoc, eq_iff_iff]
  refine or_congr_right ⟨fun h => ?_, fun h => ?_⟩ <;> omega

/-- A registration that is there is the owner's exactly if it was before, or is new. -/
theorem since_iff {loop : LoopId} {generation : Nat}
    (hCounted : generation ≤ (ls.get loop).generations) :
    own.since ls ls₁ loop generation ↔ own loop generation :=
  ⟨fun hOwn => hOwn.resolve_right fun hNew => by omega, .inl⟩

theorem registers_congr {loop : LoopId} {fd : Descriptor} {mask : Interest}
    (sound : (ls.get loop).Sound) (hSame : (ls₁.get loop).entries = (ls.get loop).entries) :
    ls₁.Registers (own.since ls ls₁) loop fd mask ↔ ls.Registers own loop fd mask := by
  rw [Registers, hSame]
  refine exists_congr fun r => and_congr_right fun hMem => ?_
  rw [since_iff (sound.counted r hMem)]

theorem registers_delete (sound : ∀ loop, (ls.get loop).Sound) (other : LoopId) (d : Descriptor)
    (loop : LoopId) (fd : Descriptor) (mask : Interest) :
    (ls.apply (.delete other d)).Registers (own.since ls (ls.apply (.delete other d)))
        loop fd mask ↔
      ¬(loop = other ∧ fd = d) ∧ ls.Registers own loop fd mask := by
  by_cases hLoop : loop = other
  · subst hLoop
    have hGet : (ls.apply (.delete loop d)).get loop = (ls.get loop).delete d :=
      get_modify_empty rfl
    constructor
    · rintro ⟨r, hMem, hOwn, rfl, rfl⟩
      rw [hGet, EventLoop.mem_delete] at hMem
      exact ⟨fun hSame => hMem.2 hSame.2, r, hMem.1,
        (since_iff ((sound loop).counted r hMem.1)).1 hOwn, rfl, rfl⟩
    · rintro ⟨hOther, r, hMem, hOwn, rfl, rfl⟩
      refine ⟨r, ?_, .inl hOwn, rfl, rfl⟩
      rw [hGet, EventLoop.mem_delete]
      exact ⟨hMem, fun hSame => hOther ⟨rfl, hSame⟩⟩
  · have hGet : (ls.apply (.delete other d)).get loop = ls.get loop :=
      get_modify_ne (Ne.symm hLoop)
    rw [registers_congr (sound loop) (congrArg (·.entries) hGet)]
    simp [hLoop]

theorem registers_create (sound : ∀ loop, (ls.get loop).Sound) {other : LoopId}
    (hExists : other < ls.length) (d : Descriptor) (m : Interest) (handler : FileHandler)
    (loop : LoopId) (fd : Descriptor) (mask : Interest) :
    (ls.apply (.create other d m handler)).Registers
        (own.since ls (ls.apply (.create other d m handler))) loop fd mask ↔
      if loop = other ∧ fd = d then m = mask else ls.Registers own loop fd mask := by
  by_cases hLoop : loop = other
  · subst hLoop
    have hGet : (ls.apply (.create loop d m handler)).get loop =
        (ls.get loop).create d m handler := get_modify_self hExists
    have hNew : own.since ls (ls.apply (.create loop d m handler)) loop
        ((ls.get loop).generations + 1) := by
      refine .inr ⟨Nat.lt_succ_self _, ?_⟩
      rw [hGet]
      exact Nat.le_refl _
    by_cases hFd : fd = d
    · subst hFd
      rw [if_pos ⟨rfl, rfl⟩]
      constructor
      · rintro ⟨r, hMem, -, hSame, rfl⟩
        rw [hGet, EventLoop.mem_create, EventLoop.mem_delete] at hMem
        obtain ⟨-, hNot⟩ | rfl := hMem
        · exact absurd hSame hNot
        · rfl
      · rintro rfl
        exact ⟨_, hGet ▸ EventLoop.mem_create.2 (.inr rfl), hNew, rfl, rfl⟩
    · rw [if_neg fun hSame => hFd hSame.2]
      constructor
      · rintro ⟨r, hMem, hOwn, rfl, rfl⟩
        rw [hGet, EventLoop.mem_create, EventLoop.mem_delete] at hMem
        obtain ⟨hMem, -⟩ | rfl := hMem
        · exact ⟨r, hMem, (since_iff ((sound loop).counted r hMem)).1 hOwn, rfl, rfl⟩
        · exact absurd rfl hFd
      · rintro ⟨r, hMem, hOwn, rfl, rfl⟩
        refine ⟨r, ?_, .inl hOwn, rfl, rfl⟩
        rw [hGet, EventLoop.mem_create, EventLoop.mem_delete]
        exact .inl ⟨hMem, hFd⟩
  · have hGet : (ls.apply (.create other d m handler)).get loop = ls.get loop :=
      get_modify_ne (Ne.symm hLoop)
    rw [registers_congr (sound loop) (congrArg (·.entries) hGet)]
    simp [hLoop]

/-- What the owner does to the loops is noted in the books. -/
theorem Tracks.apply (tracks : Tracks own ls b) (c : LoopCommand) :
    Tracks (own.since ls (ls.apply c)) (ls.apply c) (b.apply ls.length c) where
  sound loop := EventLoop.lasting_sound.apply c (tracks.sound loop)
  registers loop fd mask := by
    cases c with
    | delete other d =>
      rw [registers_delete tracks.sound, tracks.registers]
      simp only [Books.apply]
      split <;> simp_all
    | create other d m handler =>
      by_cases hExists : other < ls.length
      · rw [registers_create tracks.sound hExists, tracks.registers]
        simp only [Books.apply, hExists, and_true]
        split <;> simp_all
      · have hGet : (ls.apply (.create other d m handler)).get loop = ls.get loop := by
          by_cases hLoop : loop = other
          · subst hLoop
            exact get_modify_absent (Nat.le_of_not_lt hExists)
          · exact get_modify_ne (Ne.symm hLoop)
        rw [registers_congr (tracks.sound loop) (congrArg (·.entries) hGet), tracks.registers]
        simp [Books.apply, hExists]

theorem Tracks.applyAll (tracks : Tracks own ls b) (commands : List LoopCommand) :
    Tracks (own.since ls (ls.applyAll commands)) (ls.applyAll commands)
      (b.applyAll ls.length commands) := by
  induction commands generalizing own ls b with
  | nil =>
    rw [applyAll_nil, since_self]
    exact tracks
  | cons c rest ih =>
    have hSince : (own.since ls (ls.apply c)).since (ls.apply c) ((ls.apply c).applyAll rest) =
        own.since ls ((ls.apply c).applyAll rest) :=
      since_since (generations_le ls [c]) (generations_le (ls.apply c) rest)
    have hRest := ih (tracks.apply c)
    rw [length_apply, hSince] at hRest
    exact hRest

/-- Before it has made a registration an owner has none. -/
theorem tracks_empty (sound : ∀ loop, (ls.get loop).Sound) :
    Tracks .none ls Books.empty where
  sound := sound
  registers loop fd mask := by simp [Registers, Tenure.none, Books.empty]

end EventLoops

end EventChannel
