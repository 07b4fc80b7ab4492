import EventChannel.Program.Copy
import EventChannel.Program.Interp

/-! A setting says what calls do. A program is run in a setting with a bound on how deep its calls
may nest; within the bound, what it comes to does not depend on it. -/

namespace EventChannel

/-- Surroundings with the routines of the user and the handlers of descriptors that belong to
drivers. -/
structure Setting (σ : Type) extends Surroundings σ where
  routine : (u : UserCall) → Program σ u.Answer
  fire : FileHandler → Interest → Program σ Unit

namespace Program

variable {σ : Type}

/-- Calls the handlers of those ready descriptors whose registrations are still what they were when
the pass began; answers how many. -/
def dispatch (loop : LoopId) : List (Registration × Interest) → Program σ Nat
  | [] => .done 0
  | (r, ready) :: rest => do
    match ← act (.takeHandler loop r.descriptor r.generation) with
    | none => dispatch loop rest
    | some handler =>
      invoke (.fire handler ready)
      act (.putBack loop r.descriptor r.generation handler)
      return (← dispatch loop rest) + 1

/-- What a pass answers when the system has not told the conditions of the descriptors. A mere
interruption is a pass without calls. -/
def unpolled (e : SystemError) : Except Report Nat :=
  if e.kind = .interrupted then .ok 0
  else .error (.ofSystem "conduit.event.poll" "poll failed" e)

/-- One pass over an event loop. -/
def pass (loop : LoopId) : Program σ (Except Report Nat) := do
  match ← act (.poll loop) with
  | .error e => return unpolled e
  | .ok ready => return .ok (← dispatch loop ready)

end Program

namespace Setting

variable {σ : Type}

/-- What a call does. -/
def body (s : Setting σ) : (c : Call) → Program σ c.Answer
  | .user u => s.routine u
  | .fire (.routine r) ready => .call (.user (.ready r ready)) .done
  | .fire handler ready => s.fire handler ready
  | .advance k => Program.advance k
  | .moveAll k => Program.moveChunks k
  | .readAll channel chunk sofar => Program.readChunks channel chunk sofar

/-- Answers a call whose own calls nest at most `depth` deep. -/
def answer (s : Setting σ) : Nat → (c : Call) → World σ → Option (c.Answer × World σ)
  | 0, _, _ => none
  | depth + 1, c, w => (s.body c).run s.toSurroundings (s.answer depth) w

/-- Runs a program whose calls nest at most `depth` deep. -/
def exec {α : Type} (s : Setting σ) (depth : Nat) (p : Program σ α) (w : World σ) :
    Option (α × World σ) :=
  p.run s.toSurroundings (s.answer depth) w

/-- An answer does not depend on how much deeper calls might have nested. -/
theorem answer_mono (s : Setting σ) {depth deeper : Nat} (h : depth ≤ deeper) {c : Call}
    {w : World σ} {r : c.Answer × World σ} (answered : s.answer depth c w = some r) :
    s.answer deeper c w = some r := by
  induction depth generalizing deeper c w r with
  | zero => contradiction
  | succ depth ih =>
    obtain ⟨deeper, rfl⟩ : ∃ n, deeper = n + 1 := ⟨deeper - 1, by omega⟩
    exact Program.run_mono (fun _ _ _ => ih (by omega)) _ answered

/-- What a program comes to does not depend on how much deeper its calls might have nested. -/
theorem exec_mono (s : Setting σ) {α : Type} {depth deeper : Nat} (h : depth ≤ deeper)
    {p : Program σ α} {w : World σ} {r : α × World σ} (run : s.exec depth p w = some r) :
    s.exec deeper p w = some r :=
  Program.run_mono (fun _ _ _ => s.answer_mono h) p run

end Setting

end EventChannel
