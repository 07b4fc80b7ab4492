import EventChannel.Address.Basic
import EventChannel.Program.Step

/-! A program is a tree of steps and calls. Calls are what steps are not: a routine of the user may
do anything that a program can, among it what the program is in the middle of. So a program says
only whom it calls; what a call does is looked up when it is run, one level deeper each time. -/

namespace EventChannel

/-- A call of a routine of the user. -/
inductive UserCall
  /-- Conditions that a handler waits for have come up. -/
  | event (routine : RoutineId) (channel : ChannelId) (ready : Interest)
  /-- A channel is about to be closed. -/
  | closing (routine : RoutineId)
  /-- A copy in the background has ended. -/
  | completed (routine : RoutineId) (total : Nat) (error? : Option Report)
  /-- The script of a listening channel, for a new connection. -/
  | script (routine : RoutineId) (interp : InterpId) (channel : ChannelId) (host : String)
      (port : Port)
  /-- A new connection, without an interpreter. -/
  | arrival (routine : RoutineId) (channel : ChannelId) (host : String) (port : Port)
  /-- A descriptor is ready. -/
  | ready (routine : RoutineId) (raised : Interest)
  deriving DecidableEq

/-- What a routine of the user answers with. -/
abbrev UserCall.Answer : UserCall → Type
  | script .. => Except Report Unit
  | _ => Unit

/-- A call that a program makes. -/
inductive Call
  | user (u : UserCall)
  /-- A handler of a descriptor. -/
  | fire (handler : FileHandler) (ready : Interest)
  /-- The next step of a copy in the background. -/
  | advance (copy : CopyId)
  /-- The rest of a copy that its caller waits for. -/
  | moveAll (copy : CopyId)
  /-- The rest of a channel up to the end of the file, in chunks. -/
  | readAll (channel : ChannelId) (chunk : Nat) (sofar : ByteQueue)
  deriving DecidableEq

/-- What a call answers with. -/
abbrev Call.Answer : Call → Type
  | user u => u.Answer
  | moveAll _ => Except Report Unit
  | readAll .. => Except TransferFailure Bytes
  | fire .. | advance _ => Unit

/-- A program that ends with a value. -/
inductive Program (σ : Type) (α : Type) : Type 1
  | done (a : α)
  | step {β : Type} (s : Step σ β) (next : β → Program σ α)
  | call (c : Call) (next : c.Answer → Program σ α)

namespace Program

variable {σ α β : Type}

protected def bind : Program σ α → (α → Program σ β) → Program σ β
  | .done a, f => f a
  | .step s next, f => .step s fun b => (next b).bind f
  | .call c next, f => .call c fun b => (next b).bind f

instance : Monad (Program σ) where
  pure := .done
  bind := .bind

/-- A single step. -/
def act (s : Step σ α) : Program σ α := .step s .done

/-- A single call. -/
def invoke (c : Call) : Program σ c.Answer := .call c .done

/-- Refers to something as long as a program runs. -/
def referring (e : Entity) (p : Program σ α) : Program σ α := do
  act (.grasp e)
  let a ← p
  act (.letGo e)
  return a

/-- Runs a program; `callee` answers its calls. -/
def run (s : Surroundings σ) (callee : (c : Call) → World σ → Option (c.Answer × World σ)) :
    Program σ α → World σ → Option (α × World σ)
  | .done a, w => some (a, w)
  | .step t next, w =>
    let (b, w) := t.run s w
    (next b).run s callee w
  | .call c next, w =>
    match callee c w with
    | none => none
    | some (b, w) => (next b).run s callee w

@[simp] theorem run_done (s : Surroundings σ)
    (callee : (c : Call) → World σ → Option (c.Answer × World σ)) (a : α) (w : World σ) :
    (done a : Program σ α).run s callee w = some (a, w) := rfl

@[simp] theorem run_bind (s : Surroundings σ)
    (callee : (c : Call) → World σ → Option (c.Answer × World σ)) (p : Program σ α)
    (f : α → Program σ β) (w : World σ) :
    (p.bind f).run s callee w =
      (p.run s callee w).bind fun (a, w) => (f a).run s callee w := by
  induction p generalizing w with
  | done a => rfl
  | step t next ih => exact ih _ _
  | call c next ih =>
    simp only [Program.bind, run]
    cases callee c w with
    | none => rfl
    | some r => exact ih _ _

/-- What a program comes to, it comes to with any callee that answers at least as often. -/
theorem run_mono {s : Surroundings σ}
    {callee other : (c : Call) → World σ → Option (c.Answer × World σ)}
    (h : ∀ c w r, callee c w = some r → other c w = some r) (p : Program σ α) {w : World σ}
    {r : α × World σ} (run : p.run s callee w = some r) : p.run s other w = some r := by
  induction p generalizing w with
  | done a => exact run
  | step t next ih => exact ih _ run
  | call c next ih =>
    simp only [Program.run] at run ⊢
    split at run
    · contradiction
    · next answered => rw [h c w _ answered]; exact ih _ run

end Program

end EventChannel
