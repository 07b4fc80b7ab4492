import EventChannel.Proofs.Program.Discipline
import EventChannel.Proofs.World.Coherence

/-! Programs make channels that are fresh, and they read by transfers, which make no step without
room. Nothing else is asked of them: their steps may come in any order, in calls or outside of them.
So channels are coherent at every moment of every program. -/

namespace EventChannel

open Program

variable {σ α : Type}

/-- What programs are made of that make fresh channels and read with room for a byte. -/
def regularParts : Parts σ where
  step t := t.Regular
  call _ := True
  whole _ := False

theorem regularParts_notifying : (regularParts : Parts σ).Notifying where
  raise _ _ := trivial
  letGo _ := trivial
  call _ _ := trivial

/-- Whatever a transfer has room for, it is made of such steps, and so are copies. -/
theorem regularParts_copying : (regularParts : Parts σ).Copying where
  hold j op transports := by
    apply regularParts_notifying.hold
    cases op with
    | read n => exact transports
    | _ => trivial
  look _ := trivial
  readAll _ _ _ := trivial
  step t ofCopies := by
    cases t with
    | «open» c => cases ofCopies
    | hold j op => cases ofCopies
    | _ => trivial
  call _ _ := trivial
  leaving j handler := regularParts_notifying.hold j (.deleteHandler handler) trivial
  waiting j mask k := regularParts_notifying.hold j (.createHandler mask (.copy k)) trivial

/-- What such programs keep to. -/
def regularity (σ : Type) : Discipline σ where
  world _ := True
  event := Event.Regular
  due _ _ _ := True
  course _ events _ := ∀ e ∈ events, e.Regular
  refl _ := List.forall_mem_nil _
  trans left right := List.forall_mem_append.2 ⟨left, right⟩
  called _ := List.forall_mem_singleton.2 trivial
  ends _ := trivial
  each := id

section

variable {s : Setting σ}

theorem governs_regularParts : (regularity σ).Governs s (fun _ => True) regularParts where
  stable _ _ := trivial
  step _ _ allowed _ _ := List.forall_mem_singleton.2 allowed
  call _ _ _ _ _ _ := trivial
  whole _ allowed := absurd allowed not_false

theorem honoured_regularity (made : s.MadeOf regularParts) : (regularity σ).Honoured s :=
  Discipline.honoured_of fun c _ _ permits =>
    have body := made.body regularParts_copying.starting (fun _ _ => trivial) c
    (governs_regularParts.keeps body).called trivial permits

end

/-- At every moment of a program, whatever it does to which channels, whatever its calls do and
however drivers behave, every channel is coherent, if all were at its start. So are all that come
from a world without channels. -/
theorem channels_coherent {s : Setting σ} (made : s.MadeOf regularParts) {p : Program σ α}
    (hMade : p.MadeOf regularParts) {w w' : World σ} {events : List (Event σ)}
    (run : s.Begins p w events w') (coherent : w.Coherent) (j : ChannelId) :
    (w'.channel j).Coherent := by
  have keeps := governs_regularParts.keeps (s := s) hMade
  have hRegular : ∀ e ∈ events, e.Regular :=
    (keeps.of_begins (honoured_regularity made) run trivial trivial).1
  exact run.leads.coherent hRegular coherent j

/-- A driver that gives three bytes at a time and takes none. -/
def springSetting : Setting Unit where
  driver _ call env :=
    match call with
    | .output _ => { answer := .error .wouldBlock, env }
    | .input room => { answer := .ok ⟨[1, 2, 3].take room, List.length_take_le ..⟩, env }
    | call => { answer := call.unsupported, env }
  ready _ _ := .none
  users _ _ := false
  routine u := .done u.unit
  fire _ _ := .done ()

def springChannel : Channel := { name := "spring", type := "file", mode := .both }

def springProgram : Program Unit (Except TransferFailure Bytes) := do
  let id ← act (.open springChannel)
  let _ ← setBlocking id false
  let _ ← writeBytes id [1] true
  readBytes id 1

theorem madeOf_springSetting : springSetting.MadeOf regularParts where
  routine _ := .done _
  fire _ _ := .done _

theorem madeOf_springProgram : springProgram.MadeOf regularParts := by
  have fresh : springChannel.Fresh := ⟨rfl, rfl, rfl, rfl, rfl, by decide⟩
  have transfers := (regularParts_copying (σ := Unit)).toTransfers
  refine .act_bind fresh fun id => ?_
  refine (transfers.hold id (.setBlocking false) trivial).bind fun _ => ?_
  exact (transfers.writeBytes id [1] true).bind fun _ => transfers.readBytes id 1

/-- Output is to be written in the background and input waits, on a channel that is coherent. -/
theorem channels_coherent_spring :
    ∃ events w', springSetting.Runs springProgram { env := () } events (.ok [1]) w' ∧
      (w'.channel 0).flushPending = true ∧ (w'.channel 0).input = [2, 3] ∧
      (w'.channel 0).Coherent := by
  have hTrace : (springSetting.trace 1 springProgram { env := () }).any (fun r =>
      match r.2.1 with
      | .ok bytes => decide (bytes = [1] ∧ (r.2.2.channel 0).flushPending = true ∧
          (r.2.2.channel 0).input = [2, 3])
      | .error _ => false) = true := by decide +kernel
  obtain ⟨events, answer, w', run, hChecked⟩ := Setting.exists_runs hTrace
  cases answer with
  | error f => cases hChecked
  | ok bytes =>
    obtain ⟨rfl, hPending, hInput⟩ := of_decide_eq_true hChecked
    exact ⟨events, w', run, hPending, hInput, channels_coherent madeOf_springSetting
      madeOf_springProgram run.begins (World.coherent_of_none rfl) 0⟩

end EventChannel
