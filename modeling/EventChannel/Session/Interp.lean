import EventChannel.Program.Interp
import EventChannel.Session.Scene

/-! What the commands on interpreters and accept records come to. -/

namespace EventChannel.Session

/-- Makes an interpreter. The session refers no longer to an earlier one of the same name. -/
def createInterp (name : String) : Program Scene Reply := do
  let i ← Program.act .newInterp
  alter fun s => { s with interps := s.interps.put name i }
  return .done

/-- The name that a channel of the session has of its own; any other name stands for itself. -/
def ownName (name : String) : Program Scene String := do
  match ← ask (·.channels.meaning? name) with
  | some id => return (← Program.look id).name
  | none => return name

/-- Carries out a command on an interpreter that is there. -/
def performOn (i : InterpId) : InterpAction Command → Program Scene Reply
  | .create => return .done
  | .register channel =>
    withChannel channel fun id => do
      Program.register i id
      return .done
  | .unregister name =>
    return .ofResult (fun _ => .done) (← Program.unregister i (← ownName name))
  | .lookup name => do
    match ← Program.lookup i (← ownName name) with
    | .error r => return .report r
    | .ok id => return .text (← Program.look id).name
  | .contains name => do
    let name ← ownName name
    return .truth ((← Program.act (.interp i)).contains name)
  | .names pattern? sorted => do
    let names := (← Program.act (.interp i)).names pattern?
    if sorted then
      let shown ← ask fun s => names.map s.shown
      return .names (shown.mergeSort (fun a b => decide (a ≤ b)))
    else return .names names
  | .releaseAll => return .ofResult (fun _ => .done) (← Program.releaseAll i)
  | .delete => return .ofResult (fun _ => .done) (← Program.deleteInterp i)
  | .setVariable name value? => do
    Program.act (.setVariable i name value?)
    return .done
  | .getVariable name => return .ofOption .text ((← Program.act (.interp i)).valueOf? name)
  | .reverseDns => return .truth (← Program.act (.interp i)).reverseDns
  | .addBackgroundError code message => do
    Program.act (.addBackgroundError i { code, message })
    return .done
  | .takeBackgroundErrors => return .reports (← Program.act (.takeBackgroundErrors i))
  | .describe => do
    let interp ← Program.act (.interp i)
    let live ← Program.act (.countRecords i)
    return .interp interp.deleted live interp.channels.length
  | .record name script failure? => do
    let r ← enrol script failure? false
    let record ← Program.act (.newRecord i r)
    alter fun s => { s with records := s.records.put name record }
    return .done

/-- Carries out a command on an interpreter. -/
def InterpAction.perform (name : String) : InterpAction Command → Program Scene Reply
  | .create => createInterp name
  | action => withInterp name fun i => performOn i action

/-- Carries out a command on an accept record that is there. -/
def performFor (name : String) (record : RecordId) : RecordAction → Program Scene Reply
  | .accept channel host port =>
    withChannel channel fun id => do
      Program.accept record id host port
      return .done
  | .detach => do
    Program.act (.detach record)
    return .done
  | .describe => return .record (← Program.act (.recordTarget record)).isSome
  | .drop => do
    alter fun s => { s with records := s.records.forget name }
    return .done

/-- Carries out a command on an accept record, which lasts meanwhile. -/
def RecordAction.perform (name : String) (action : RecordAction) : Program Scene Reply :=
  withFound (·.records.meaning? name) .record fun record =>
    .referring (.record record) (performFor name record action)

end EventChannel.Session
