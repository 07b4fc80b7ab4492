import EventChannel.Proofs.Stream.Input
import EventChannel.Proofs.Stream.Output
import EventChannel.Proofs.World.Apart

/-! Between which channels a copy is at work, and what goes through it in a history: the bytes that
are read from its source and those added to the output of its target, and the failures to write
there that are met and told. -/

namespace EventChannel

namespace DriverEvent

/-- The driver fails at no more than a transfer that would have to wait. -/
def isMild : DriverEvent → Bool
  | ⟨.input _, .error f⟩ => f.isWouldBlock
  | ⟨.output _, .error f⟩ => f.isWouldBlock
  | ⟨.setBlocking _, .error _⟩ => false
  | _ => true

/-- The driver does what it is asked for: it fails at nothing and takes some bytes of what it is
offered. -/
def isPrompt : DriverEvent → Bool
  | ⟨.input _, .error _⟩ => false
  | ⟨.output _, .error _⟩ => false
  | ⟨.output _, .ok n⟩ => n.1 != 0
  | ⟨.setBlocking _, .error _⟩ => false
  | _ => true

/-- In non-blocking mode having to wait is no failure to write. -/
theorem failure?_of_mild {e : DriverEvent} (hMild : e.isMild = true) : e.failure? false = none := by
  obtain ⟨call, answer⟩ := e
  cases call with
  | output bytes =>
    cases answer with
    | ok n => rfl
    | error f =>
      have hWait : f.postpones false = true := by
        rw [DriverFailure.postpones, show f.isWouldBlock = true from hMild]
        rfl
      exact if_pos hWait
  | _ => rfl

theorem failure?_of_prompt {e : DriverEvent} (blocking : Bool) (hPrompt : e.isPrompt = true) :
    e.failure? blocking = none := by
  obtain ⟨call, answer⟩ := e
  cases call with
  | output bytes =>
    cases answer with
    | ok n => rfl
    | error f => cases hPrompt
  | _ => rfl

theorem failures_of_mild {calls : List DriverEvent} (hMild : ∀ call ∈ calls, call.isMild = true) :
    failures false calls = [] :=
  List.filterMap_eq_nil_iff.2 fun call hMem => failure?_of_mild (hMild call hMem)

theorem failures_of_prompt {calls : List DriverEvent} (blocking : Bool)
    (hPrompt : ∀ call ∈ calls, call.isPrompt = true) : failures blocking calls = [] :=
  List.filterMap_eq_nil_iff.2 fun call hMem =>
    failure?_of_prompt blocking (hPrompt call hMem)

end DriverEvent

/-- What a copy takes its bytes from and what it takes them to, its number and its limit, and the
routine that is called at its end if its caller does not wait for it. -/
structure Route where
  source : ChannelId
  target : ChannelId
  copy : CopyId
  limit? : Option Nat
  onDone? : Option RoutineId
  distinct : source ≠ target

namespace Route

variable {σ : Type} (r : Route) (s : Surroundings σ) (events : List (Event σ))

/-- The bytes read from the source. -/
def read : Bytes := events.flatMap (·.returned s r.source)

/-- The bytes added to the output of the target. -/
def written : Bytes := events.flatMap (·.appended r.target)

/-- The failures to write to the target that were told. -/
def told : List DriverFailure := events.flatMap (·.told s r.target)

/-- The failures to write to the target that were met. -/
def met : List DriverFailure := events.flatMap (·.met s r.target)

/-- The calls to the two drivers are all of one kind. -/
def Drives (kind : DriverEvent → Bool) : Prop :=
  ∀ e ∈ events, (∀ call ∈ e.calls s r.source, kind call = true) ∧
    ∀ call ∈ e.calls s r.target, kind call = true

variable {r s events} {first second : List (Event σ)}

@[simp] theorem read_append : r.read s (first ++ second) = r.read s first ++ r.read s second :=
  List.flatMap_append

@[simp] theorem written_append :
    r.written (first ++ second) = r.written first ++ r.written second :=
  List.flatMap_append

@[simp] theorem told_append : r.told s (first ++ second) = r.told s first ++ r.told s second :=
  List.flatMap_append

@[simp] theorem met_append : r.met s (first ++ second) = r.met s first ++ r.met s second :=
  List.flatMap_append

@[simp] theorem read_singleton (e : Event σ) : r.read s [e] = e.returned s r.source :=
  List.append_nil _

@[simp] theorem written_singleton (e : Event σ) : r.written [e] = e.appended r.target :=
  List.append_nil _

@[simp] theorem told_singleton (e : Event σ) : r.told s [e] = e.told s r.target :=
  List.append_nil _

@[simp] theorem met_singleton (e : Event σ) : r.met s [e] = e.met s r.target :=
  List.append_nil _

instance (kind : DriverEvent → Bool) : Decidable (r.Drives s events kind) :=
  inferInstanceAs (Decidable (∀ e ∈ events, (∀ call ∈ e.calls s r.source, kind call = true) ∧
    ∀ call ∈ e.calls s r.target, kind call = true))

theorem Drives.left {kind : DriverEvent → Bool} (drives : r.Drives s (first ++ second) kind) :
    r.Drives s first kind :=
  fun e hMem => drives e (List.mem_append_left _ hMem)

theorem Drives.right {kind : DriverEvent → Bool} (drives : r.Drives s (first ++ second) kind) :
    r.Drives s second kind :=
  fun e hMem => drives e (List.mem_append_right _ hMem)

/-- The call is the one at the end of the copy. -/
def speaks (r : Route) : Call → Bool
  | .user (.completed routine _ _) => decide (r.onDone? = some routine)
  | _ => false

/-- An event that goes on apart from the copy and does not speak for it. -/
def Apart {σ : Type} (r : Route) : Event σ → Prop
  | .made t _ => t.Apart r.source r.target r.copy
  | .called c _ => r.speaks c = false

end Route

end EventChannel
