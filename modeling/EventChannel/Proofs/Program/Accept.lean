import EventChannel.Proofs.Program.Registry
import EventChannel.Proofs.World.Standing

/-! A new connection is entered in the table of the interpreter that its record leads to, and the
script is called. If the script fails, the name of the channel is removed again, which closes the
channel. Where the name was free before, the entry that is removed is the one that was made, and all
other channels are left as they were. -/

namespace EventChannel

variable {σ α β : Type} {doomed : ChannelId → Prop}

namespace Program

/-- The program closes no channel but such, and neither makes nor removes an entry or a reference,
unless in calls. It calls no handlers of descriptors. -/
def Spares (doomed : ChannelId → Prop) : Program σ α → Prop
  | .done _ => True
  | .step t next => t.Spares doomed ∧ ∀ b, (next b).Spares doomed
  | .call c next => c.Inner ∧ ∀ b, (next b).Spares doomed

theorem spares_bind {p : Program σ α} {f : α → Program σ β} (first : p.Spares doomed)
    (second : ∀ a, (f a).Spares doomed) : (p >>= f).Spares doomed := by
  show (p.bind f).Spares doomed
  induction p with
  | done a => exact second a
  | step t next ih => exact ⟨first.1, fun b => ih b (first.2 b)⟩
  | call c next ih => exact ⟨first.1, fun b => ih b (first.2 b)⟩

theorem spares_deliver (j : ChannelId) (targets : List (Interest × Callback)) :
    (deliver j targets : Program σ Unit).Spares doomed := by
  induction targets with
  | nil => trivial
  | cons target rest ih =>
    obtain ⟨ready, r | k⟩ := target
    · exact ⟨trivial, fun _ => ih⟩
    · exact ⟨trivial, fun _ => ⟨trivial, fun _ => ih⟩⟩

theorem spares_hold {j : ChannelId} {op : ChannelOp} (hShut : op = .shut → doomed j) :
    (hold j op : Program σ op.Answer).Spares doomed := by
  refine ⟨hShut, fun (answer, raised) => ?_⟩
  dsimp only
  split
  · trivial
  · have notified : (notify j raised : Program σ Unit).Spares doomed :=
      ⟨trivial, spares_deliver j⟩
    exact spares_bind notified fun _ => trivial

theorem spares_runCloseActions (actions : List CloseAction) :
    (runCloseActions actions : Program σ Unit).Spares doomed := by
  induction actions with
  | nil => trivial
  | cons action rest ih =>
    cases action with
    | routine r => exact ⟨trivial, fun _ => ih⟩
    | detach record => exact ⟨trivial, fun _ => ih⟩

/-- Closing a channel spares all others. -/
theorem spares_close {j : ChannelId} (hDoomed : doomed j) :
    (close j : Program σ (Except Report Unit)).Spares doomed := by
  refine spares_bind (p := act (.takeCloseActions j)) ⟨trivial, fun _ => trivial⟩ fun actions? => ?_
  cases actions? with
  | none => trivial
  | some actions =>
    apply spares_bind (spares_runCloseActions actions)
    intro _
    apply spares_bind (spares_hold fun _ => hDoomed)
    exact fun _ => ⟨trivial, fun _ => trivial⟩

/-- What is mild spares all channels. -/
theorem Mild.spares {p : Program σ α} (mild : p.Mild) : p.Spares doomed := by
  induction mild with
  | done a => trivial
  | @step _ t next mild rest ih =>
    refine ⟨?_, ih⟩
    cases t with
    | hold | register | unregister | dropReference => cases mild
    | _ => trivial
  | call inner rest ih => exact ⟨inner, ih⟩
  | held stays rest ih => exact spares_bind (spares_hold fun hShut => absurd hShut stays) ih

end Program

/-- A record leads to an interpreter whatever else is referred to. -/
theorem World.recordInterp?_grasp {w : World σ} {users : σ → Entity → Bool} {record : RecordId}
    {i : InterpId} {e : Entity} (attached : w.recordInterp? users record = some i) :
    (w.grasp e).recordInterp? users record = some i := by
  obtain ⟨hLeads, hThere⟩ := Option.filter_eq_some_iff.1 attached
  obtain ⟨hReferred, hKept⟩ := Bool.and_eq_true_iff.1 hThere
  refine Option.filter_eq_some_iff.2 ⟨hLeads, Bool.and_eq_true_iff.2 ⟨?_, hKept⟩⟩
  rw [isReferredTo, grasp, List.contains_cons, Bool.or_assoc]
  exact Bool.or_eq_true_iff.2 (.inr hReferred)

namespace Setting

variable {s : Setting σ} {w w' : World σ} {events : List (Event σ)} {a : α}

/-- Whatever routines of the user do in some events, they close no channel, and neither make nor
remove an entry or a reference. -/
def Peaceful (s : Setting σ) (events : List (Event σ)) : Prop :=
  ∀ before u v inner b v' after, events = before ++ .called (.user u) v :: (inner ++ after) →
    s.Runs (s.routine u) v inner b v' → ∀ e ∈ inner, e.Spares fun _ => False

namespace Peaceful

variable {first second : List (Event σ)}

/-- What is peaceful is so in all its parts. -/
theorem part (peaceful : s.Peaceful events) (before after : List (Event σ))
    {inner : List (Event σ)} (hEvents : events = before ++ (inner ++ after)) :
    s.Peaceful inner := by
  intro first u v innermost b v' last hSplit
  apply peaceful (before ++ first) u v innermost b v' (last ++ after)
  simp [hEvents, hSplit]

theorem left (peaceful : s.Peaceful (first ++ second)) : s.Peaceful first :=
  peaceful.part [] second rfl

theorem right (peaceful : s.Peaceful (first ++ second)) : s.Peaceful second :=
  peaceful.part first [] (by rw [List.append_nil])

theorem tail {e : Event σ} (peaceful : s.Peaceful (e :: events)) : s.Peaceful events :=
  peaceful.part [e] [] (by rw [List.append_nil]; rfl)

end Peaceful

/-- While a program runs that spares what stands, it stands, as far as the user leaves it alone. -/
theorem Runs.spares {p : Program σ α} (run : s.Runs p w events a w') (peaceful : s.Peaceful events)
    (spares : p.Spares doomed) : ∀ e ∈ events, e.Spares doomed := by
  induction run generalizing doomed with
  | done a w => exact fun e hMem => by cases hMem
  | step rest ih => exact List.forall_mem_cons.2 ⟨spares.1, ih peaceful.tail (spares.2 _)⟩
  | @call _ c next w w₁ w₂ inner outer b a body rest ihBody ihRest =>
    have quiet := peaceful.tail.left
    have hOuter := ihRest peaceful.tail.right (spares.2 b)
    have hInner : ∀ e ∈ inner, e.Spares doomed := by
      cases c with
      | user u =>
        intro e hMem
        have hSpared := peaceful [] u w inner b w₁ outer rfl body e hMem
        exact hSpared.mono fun _ => False.elim
      | fire handler ready => exact absurd spares.1 not_false
      | advance k => exact ihBody quiet (Program.mild_advance k).spares
      | moveAll k => exact ihBody quiet (Program.mild_moveChunks k).spares
      | readAll j chunk sofar => exact ihBody quiet (Program.mild_readChunks j chunk sofar).spares
    refine List.forall_mem_cons.2 ⟨trivial, ?_⟩
    exact List.forall_mem_append.2 ⟨hInner, hOuter⟩

/-- A new connection is entered and the script is called. If it fails, the error is kept and the
name is removed. -/
theorem Runs.of_welcome {i : InterpId} {script : RoutineId} {c : ChannelId} {host : String}
    {port : Port} {u : Unit} (run : s.Runs (Program.welcome i script c host port) w events u w') :
    ∃ inner answer v rest,
      events = .made (.register i c) w ::
        .called (.user (.script script i c host port)) (w.register i c) :: (inner ++ rest) ∧
      s.Runs (s.routine (.script script i c host port)) (w.register i c) inner answer v ∧
      (answer = .ok () → rest = [] ∧ w' = v) ∧
      ∀ r, answer = .error r → ∃ v₁ removal answer',
        v₁ = ((Step.addBackgroundError i r).run s.toSurroundings v).2 ∧
        rest = .made (.addBackgroundError i r) v :: .made (.look c) v₁ :: removal ∧
        s.Runs (Program.unregister i (v₁.channel c).name) v₁ removal answer' w' := by
  cases run with
  | step run =>
    cases run with
    | @call _ _ _ _ v _ inner rest answer _ body run =>
      refine ⟨inner, answer, v, rest, rfl, body, ?_, ?_⟩
      · rintro rfl
        cases run
        exact ⟨rfl, rfl⟩
      · rintro r rfl
        cases run with
        | step run =>
          cases run with
          | step run =>
            have run : s.Runs ((Program.unregister i (Channel.name _)).bind fun _ => .done ())
              ((Step.addBackgroundError i r).run s.toSurroundings v).2 _ u w' := run
            obtain ⟨answer', removed, -⟩ := runs_bind_done.1 run
            exact ⟨_, _, answer', rfl, rfl, removed⟩

/-- A record that leads to an interpreter hands a new connection to its script. -/
theorem Runs.of_accept {record : RecordId} {i : InterpId} {c : ChannelId} {host : String}
    {port : Port} {u : Unit} (attached : w.recordInterp? s.users record = some i)
    (run : s.Runs (Program.accept record c host port) w events u w') :
    ∃ target before inner v, w.record? record = some target ∧
      events = before ++ (inner ++
        [.made (.letGo (.interp i)) v, .made (.letGo (.channel c)) (v.letGo (.interp i))]) ∧
      s.Runs (Program.welcome i target.script c host port)
        ((w.grasp (.channel c)).grasp (.interp i)) inner () v ∧
      w' = (v.letGo (.interp i)).letGo (.channel c) := by
  obtain ⟨hLeads, -⟩ := Option.filter_eq_some_iff.1 attached
  obtain ⟨target, hTarget, -⟩ := Option.bind_eq_some_iff.1 hLeads
  have hAttached : (w.grasp (.channel c)).recordInterp? s.users record = some i :=
    World.recordInterp?_grasp attached
  obtain ⟨inner, v, rfl, accepted, rfl⟩ := run.of_referring
  cases accepted with
  | @step _ _ _ _ _ _ inner _ accepted =>
    have hAnswer : ((Step.recordTarget record).run s.toSurroundings (w.grasp (.channel c))).1 =
        some (i, target.script) := by
      simp only [Step.run, hAttached]
      exact congrArg (Option.map _) hTarget
    rw [hAnswer] at accepted
    obtain ⟨inner, v, rfl, welcomed, rfl⟩ := Runs.of_referring accepted
    refine ⟨target, [.made (.grasp (.channel c)) w,
      .made (.recordTarget record) (w.grasp (.channel c)),
      .made (.grasp (.interp i)) (w.grasp (.channel c))], inner, v, hTarget, ?_, welcomed, rfl⟩
    simp only [List.cons_append, List.append_assoc, List.nil_append]
    rfl

/-- A channel that has been entered and has no other references is closed when its name is removed.
No other channel is concerned. -/
theorem Runs.unregister_entered {i : InterpId} {c : ChannelId} {v : World σ}
    {r : Except Report Unit} (entered : World.Entered i c w v)
    (unregistered : ∀ i' name, (w.interp i').lookup? name ≠ some c)
    (hCounted : (w.channel c).references = 0) (peaceful : s.Peaceful events)
    (run : s.Runs (Program.unregister i (v.channel c).name) v events r w') :
    (∀ i' name, (w'.interp i').lookup? name ≠ some c) ∧ (w'.channel c).isOpen = false ∧
      ∀ k, k < w.channels.length → k ≠ c → World.Undisturbed k w w' := by
  have hExists := Nat.lt_of_lt_of_le entered.exists_before entered.length
  rcases run.of_unregister with ⟨missing, -⟩ | ⟨j, closing, u, entry, rfl, closed, rfl⟩
  · rw [entered.found] at missing
    cases missing
  · obtain rfl : c = j := Option.some.inj (entered.found.symm.trans entry)
    have hThere := World.exists_of_lookup? entry
    have hLength : (v.withdraw i (v.channel c).name c).channels.length = v.channels.length :=
      World.length_modifyChannel _
    have hLast : (v.channel c).references ≤ 1 :=
      Nat.le_of_eq (by rw [entered.references, hCounted])
    rw [if_pos hLast] at closed
    have close : (Program.close c : Program σ (Except Report Unit)).Spares (· = c) :=
      Program.spares_close rfl
    have spared := closed.spares peaceful.tail.tail.tail.left close
    have letGo : u.Stands (· = c) (u.letGo (.channel c)) := .of_eq rfl rfl
    have stands := (closed.leads.stands spared).trans letGo
    refine ⟨?_, closed.close_shut (hLength ▸ hExists), ?_⟩
    · intro i' name left
      rw [stands.lookup?] at left
      obtain ⟨hBefore, hElsewhere⟩ := World.lookup?_of_withdraw hThere left
      rcases entered.only i' name hBefore with hOld | hNew
      · exact unregistered i' name hOld
      · exact hElsewhere hNew
    · intro k hOther hNe
      have hLater := Nat.lt_of_lt_of_le hOther entered.length
      have removed := World.undisturbed_withdraw entry (Ne.symm hNe)
      have kept := stands.undisturbed (hLength ▸ hLater) hNe
      exact (entered.others k hOther hNe).trans (removed.trans kept)

end Setting

/-- A record hands a new connection to the script of its interpreter, in whose table the channel is
entered. If its name was free there, and the user leaves entries and other channels alone, the
channel is found and open when the script has succeeded. When it has failed, its error is kept with
those that nobody has received, the channel is in no table, and it is closed. In either case all
other channels have the entries and the references that they had, and are as open as they were. -/
theorem accept_enters {s : Setting σ} {w w' : World σ} {events : List (Event σ)}
    {record : RecordId} {i : InterpId} {c : ChannelId} {host : String} {port : Port} {u : Unit}
    (attached : w.recordInterp? s.users record = some i) (hThere : i < w.interps.length)
    (hOpen : (w.channel c).isOpen = true) (hCounted : (w.channel c).references = 0)
    (unregistered : ∀ i' name, (w.interp i').lookup? name ≠ some c)
    (vacant : (w.interp i).contains (w.channel c).name = false)
    (run : s.Runs (Program.accept record c host port) w events u w')
    (peaceful : s.Peaceful events) :
    ∃ target before v inner answer v₁ after,
      w.record? record = some target ∧
      events = before ++
        .called (.user (.script target.script i c host port)) v :: (inner ++ after) ∧
      s.Runs (s.routine (.script target.script i c host port)) v inner answer v₁ ∧
      (v.interp i).lookup? (v.channel c).name = some c ∧
      (answer = .ok () →
        (w'.interp i).lookup? (w'.channel c).name = some c ∧ (w'.channel c).isOpen = true) ∧
      (∀ r, answer = .error r →
        (∃ later, after = .made (.addBackgroundError i r) v₁ :: later ∧
          ((∀ e ∈ later, ¬e.Collects i) →
            (v₁.interp i).backgroundErrors ++ [r] <+: (w'.interp i).backgroundErrors)) ∧
        (∀ i' name, (w'.interp i').lookup? name ≠ some c) ∧ (w'.channel c).isOpen = false) ∧
      ∀ k, k < w.channels.length → k ≠ c → World.Undisturbed k w w' := by
  have hExists := World.exists_of_isOpen hOpen
  obtain ⟨target, before, inner, v, hTarget, rfl, welcomed, rfl⟩ := run.of_accept attached
  obtain ⟨script, answer, v₁, rest, rfl, body, hDone, hFailed⟩ := welcomed.of_welcome
  have quiet := peaceful.right.left.tail
  have start : World.Entered i c w (((w.grasp (.channel c)).grasp (.interp i)).register i c) := by
    rw [World.register_grasp, World.register_grasp]
    exact (World.entered_register hThere hExists vacant).stands (.of_eq rfl rfl)
  have spared := quiet [] _ _ script answer v₁ rest rfl body
  have entered := start.stands (body.leads.stands spared)
  have letGo : v.Stands (fun _ => False) ((v.letGo (.interp i)).letGo (.channel c)) :=
    .of_eq rfl rfl
  refine ⟨target,
    before ++ [.made (.register i c) ((w.grasp (.channel c)).grasp (.interp i))], _, script,
    answer, v₁,
    rest ++ [.made (.letGo (.interp i)) v, .made (.letGo (.channel c)) (v.letGo (.interp i))],
    hTarget, by simp, body, start.found, ?_⟩
  cases answer with
  | ok done =>
    obtain ⟨rfl, rfl⟩ := hDone rfl
    have ended := entered.stands letGo
    refine ⟨fun _ => ⟨ended.found, ended.isOpen.trans hOpen⟩, ?_, ended.others⟩
    intro r hEq
    cases hEq
  | error r =>
    obtain ⟨v₂, removal, answer', hAdded, rfl, removed⟩ := hFailed r rfl
    have kept : v₁.Stands (fun _ => False) v₂ :=
      hAdded ▸ (Step.addBackgroundError i r).stands_run trivial
    obtain ⟨hGone, hShut, hOthers⟩ := removed.unregister_entered (entered.stands kept)
      unregistered hCounted quiet.tail.right.tail.tail
    have later : s.Leads v₂ (.made (.look c) v₂ :: (removal ++
        [.made (.letGo (.interp i)) v, .made (.letGo (.channel c)) (v.letGo (.interp i))]))
        ((v.letGo (.interp i)).letGo (.channel c)) :=
      .cons (.made _ _) (removed.leads.trans (.cons (.made _ _) (.cons (.made _ _) .refl)))
    have hErrors := Step.errors_addBackgroundError (s := s.toSurroundings) (r := r)
      (World.exists_of_lookup? entered.found)
    rw [← hAdded] at hErrors
    refine ⟨?_, ?_, ?_⟩
    · intro hEq
      cases hEq
    · intro r' hEq
      obtain rfl : r = r' := Except.error.inj hEq
      refine ⟨⟨_, rfl, fun hCollects => ?_⟩, hGone, hShut⟩
      rw [← hErrors]
      exact later.errors hCollects
    · intro k hOther hNe
      exact (hOthers k hOther hNe).trans (.of_eq rfl rfl)

/-- A script that fails whenever it is called. The interpreter has a channel already, under a name
of its own or under the one of the new connection. -/
def refusal : Report :=
  { code := "conduit.script.error", message := "invalid command name \"onAccept\"" }

def refusingSetting : Setting Unit where
  driver := stubbornSetting.driver
  ready _ _ := .none
  users _ _ := true
  routine
    | .script .. => .done (.error refusal)
    | u => .done u.unit
  fire _ _ := .done ()

def listeningWorld (taken : String) : World Unit where
  channels := [{ name := taken, type := "tcp", mode := .both, references := 1 },
    { name := "sock1", type := "tcp", mode := .both }]
  interps := [{ channels := [(taken, 0)], records := [0] }]
  records := [⟨some 0, 0⟩]
  env := ()

theorem peaceful_refusingSetting (events : List (Event Unit)) :
    refusingSetting.Peaceful events := by
  intro before u v inner b v' after hSplit run
  obtain ⟨answer, hDone⟩ : ∃ answer, refusingSetting.routine u = .done answer := by
    cases u <;> exact ⟨_, rfl⟩
  rw [hDone] at run
  cases run
  intro e hMem
  cases hMem

theorem unregistered_listeningWorld (taken : String) (i : InterpId) (name : String) :
    ((listeningWorld taken).interp i).lookup? name ≠ some 1 := by
  intro entry
  have hMem := World.mem_of_lookup? entry
  cases i with
  | zero => simp [listeningWorld, World.interp] at hMem
  | succ i => cases hMem

/-- The new channel is closed and gone from the table, and the other one is left alone. -/
theorem accept_enters_refused :
    ∃ events w', refusingSetting.Runs (Program.accept 0 1 "::1" 5000) (listeningWorld "sock0")
        events () w' ∧
      (∀ i name, (w'.interp i).lookup? name ≠ some 1) ∧ (w'.channel 1).isOpen = false ∧
      World.Undisturbed 0 (listeningWorld "sock0") w' := by
  have hTrace : (refusingSetting.trace 1 (Program.accept 0 1 "::1" 5000)
      (listeningWorld "sock0")).isSome = true := by decide +kernel
  obtain ⟨⟨events, u, w'⟩, traced⟩ := Option.isSome_iff_exists.1 hTrace
  have run := Setting.runs_of_trace traced
  obtain ⟨target, before, v, inner, answer, v₁, after, hTarget, hEvents, body, hFound, hDone,
    hFailed, hOthers⟩ := accept_enters (i := 0) rfl (by decide) rfl rfl
      (unregistered_listeningWorld "sock0") (by decide) run (peaceful_refusingSetting events)
  cases body
  obtain ⟨-, hGone, hShut⟩ := hFailed refusal rfl
  exact ⟨events, w', run, hGone, hShut, hOthers 0 (by decide) (by decide)⟩

/-- Where the name is taken, nothing is entered, and it is the other channel that the failure of the
script removes and closes. -/
theorem accept_closes_namesake :
    (listeningWorld "sock1").recordInterp? refusingSetting.users 0 = some 0 ∧
      ((listeningWorld "sock1").channel 1).isOpen = true ∧
      ((listeningWorld "sock1").channel 1).references = 0 ∧
      (∀ i name, ((listeningWorld "sock1").interp i).lookup? name ≠ some 1) ∧
      (∀ script i c host port,
        refusingSetting.routine (.script script i c host port) = .done (.error refusal)) ∧
      ((listeningWorld "sock1").channel 0).isOpen = true ∧
      ∃ events w', refusingSetting.Runs (Program.accept 0 1 "::1" 5000) (listeningWorld "sock1")
          events () w' ∧
        refusingSetting.Peaceful events ∧ (w'.channel 1).isOpen = true ∧
        (w'.channel 0).isOpen = false := by
  refine ⟨rfl, rfl, rfl, unregistered_listeningWorld "sock1", fun _ _ _ _ _ => rfl, rfl, ?_⟩
  have hTrace : (refusingSetting.trace 1 (Program.accept 0 1 "::1" 5000)
      (listeningWorld "sock1")).any (fun r =>
        (r.2.2.channel 1).isOpen && !(r.2.2.channel 0).isOpen) = true := by decide +kernel
  obtain ⟨events, u, w', run, hChecked⟩ := Setting.exists_runs hTrace
  obtain ⟨hOpen, hShut⟩ := Bool.and_eq_true_iff.1 hChecked
  exact ⟨events, w', run, peaceful_refusingSetting events, hOpen, by simpa using hShut⟩

end EventChannel
