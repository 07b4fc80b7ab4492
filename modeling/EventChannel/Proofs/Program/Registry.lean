import EventChannel.Proofs.Program.Whole
import EventChannel.Proofs.World.Watch

/-! Between operations the references of a channel are those of the tables that hold it, and whoever
is called finds them so. The last one that is given back closes the channel; whatever comes of the
closing, the entry and the reference are gone before it begins. -/

namespace EventChannel

variable {σ α : Type}

namespace Event

/-- The event names what there is, and a channel that it makes is in no table yet. -/
def isSensible : Event σ → Bool
  | made t w => t.isSensible w
  | called _ _ => true

/-- The table and the name that an event removes an entry from. -/
def removedFrom? : Event σ → Option (InterpId × String)
  | made (.unregister i name) _ => some (i, name)
  | _ => none

theorem unregister_inj {i i' : InterpId} {name name' : String} {w w' : World σ}
    (hEq : made (.unregister i name) w = made (.unregister i' name') w') :
    i = i' ∧ name = name' ∧ w = w' := by
  have hFrom : some (i, name) = some (i', name') := congrArg removedFrom? hEq
  have hWorld : w = w' := congrArg before hEq
  simp only [Option.some.injEq, Prod.mk.injEq] at hFrom
  exact ⟨hFrom.1, hFrom.2, hWorld⟩

end Event

namespace Setting

variable {s : Setting σ} {w w' : World σ} {events : List (Event σ)}

/-- Closing a channel leaves it closed, whatever its driver answers. -/
theorem Runs.close_shut {j : ChannelId} {r : Except Report Unit}
    (run : s.Runs (Program.close j) w events r w') (hExists : j < w.channels.length) :
    (w'.channel j).isOpen = false := by
  rcases run.of_close with
    ⟨hShut, -, -, rfl⟩ | ⟨acted, shut, answer, w₁, w₂, -, -, left, middle, -, rfl⟩
  · exact hShut
  · have hThere : j < w₁.channels.length := by
      apply Nat.lt_of_lt_of_le _ left.leads.length
      rwa [World.length_modifyChannel]
    cases middle with
    | step delivered =>
      have hShuts : (Step.hold (σ := σ) j .shut).Shuts j := ⟨rfl, rfl⟩
      have hBound :=
        Nat.lt_of_lt_of_le hThere (Step.length_run s.toSurroundings (.hold j .shut) w₁)
      have hShut := delivered.leads.shut hBound (hShuts.shut hThere)
      have hLast := Nat.lt_of_lt_of_le hBound delivered.leads.length
      rwa [World.channel_modifyChannel_self _ hLast]

/-- An entry has been removed from a table, and its channel has lost a reference before anything
else happens. If it was the last, the channel is closed, and whatever comes of that, it is closed
then. Otherwise nothing is done to the channel. -/
structure Withdrawal (s : Setting σ) (v : World σ) (i : InterpId) (name : String) (j : ChannelId)
    (closing : List (Event σ)) (r : Except Report Unit) (u : World σ) : Prop where
  removed : ((v.withdraw i name j).interp i).lookup? name = none
  dropped : ((v.withdraw i name j).channel j).references + 1 = (v.channel j).references
  last : (v.channel j).references = 1 →
    s.Runs (Program.close j) (v.withdraw i name j) closing r u ∧ (u.channel j).isOpen = false
  others : 1 < (v.channel j).references →
    closing = [] ∧ r = .ok () ∧ (u.channel j).isOpen = (v.channel j).isOpen

theorem withdrawal_of_run (tallies : w.Tallies) {i : InterpId} {name : String}
    {j : ChannelId} {closing : List (Event σ)} {r : Except Report Unit}
    (entry : (w.interp i).lookup? name = some j)
    (run : s.Runs (if (w.channel j).references ≤ 1 then Program.close j else .done (.ok ()))
      (w.withdraw i name j) closing r w') : s.Withdrawal w i name j closing r w' := by
  have hSome := tallies.references_pos entry
  have hThere := World.exists_of_lookup? entry
  have hExists := (tallies.named_of_lookup? entry).1
  have hChannel : (w.withdraw i name j).channel j =
      { w.channel j with references := (w.channel j).references - 1 } :=
    World.channel_withdraw_self hExists
  constructor
  · exact World.lookup?_withdraw hThere
  · rw [hChannel]
    exact Nat.sub_add_cancel hSome
  · intro hLast
    rw [if_pos (Nat.le_of_eq hLast)] at run
    refine ⟨run, run.close_shut ?_⟩
    rwa [World.withdraw, World.length_modifyChannel]
  · intro hOthers
    rw [if_neg (Nat.not_le.2 hOthers)] at run
    cases run
    refine ⟨rfl, rfl, ?_⟩
    rw [hChannel]

/-- When an entry is removed, what belongs to that follows. -/
def Withdraws (s : Setting σ) (e : Event σ) (after : List (Event σ)) : Prop :=
  ∀ i name v j, e = .made (.unregister i name) v → (v.interp i).lookup? name = some j →
    ∃ closing r u later,
      after = .made (.grasp (.channel j)) (v.modifyInterp i (·.remove name)) ::
        .made (.dropReference j) ((v.modifyInterp i (·.remove name)).grasp (.channel j)) ::
        (closing ++ .made (.letGo (.channel j)) u :: later) ∧
      s.Withdrawal v i name j closing r u

theorem withdraws_of_none {e : Event σ} (hNone : e.removedFrom? = none) : s.Withdraws e events := by
  rintro i name v j rfl
  cases hNone

/-- What comes of some events for the tables and the references. -/
structure Accounts (s : Setting σ) (events : List (Event σ)) (w' : World σ) : Prop where
  tallies : w'.Tallies
  called : ∀ c v, .called c v ∈ events → v.Tallies
  closed : ∀ e ∈ events, ∀ j, 0 < (e.before.channel j).references →
    ((e.after s.toSurroundings).channel j).references = 0 →
    j < w'.channels.length ∧ (w'.channel j).isOpen = false
  withdraws : Followed s.Withdraws events

namespace Accounts

theorem nil (tallies : w.Tallies) : s.Accounts [] w where
  tallies := tallies
  called _ _ hMem := by cases hMem
  closed _ hMem := by cases hMem
  withdraws := .nil

theorem append {w₁ w₂ : World σ} {first second : List (Event σ)} (left : s.Accounts first w₁)
    (right : s.Accounts second w₂) (leads : s.Leads w₁ second w₂) :
    s.Accounts (first ++ second) w₂ where
  tallies := right.tallies
  called c v hMem := (List.mem_append.1 hMem).elim (left.called c v) (right.called c v)
  closed e hMem j hSome hNone := by
    rcases List.mem_append.1 hMem with hFirst | hSecond
    · obtain ⟨hExists, hShut⟩ := left.closed e hFirst j hSome hNone
      exact ⟨Nat.lt_of_lt_of_le hExists leads.length, leads.shut hExists hShut⟩
    · exact right.closed e hSecond j hSome hNone
  withdraws := by
    refine left.withdraws.append ?_ right.withdraws
    intro e after later withdraws i name v j hEq entry
    obtain ⟨closing, r, u, rest, rfl, withdrawal⟩ := withdraws i name v j hEq entry
    exact ⟨closing, r, u, rest ++ later, by simp, withdrawal⟩

theorem cons {e : Event σ} (accounts : s.Accounts events w')
    (hCalled : ∀ c v, e = .called c v → v.Tallies)
    (hClosed : ∀ j, 0 < (e.before.channel j).references →
      ((e.after s.toSurroundings).channel j).references = 0 →
      j < w'.channels.length ∧ (w'.channel j).isOpen = false)
    (withdraws : s.Withdraws e events) : s.Accounts (e :: events) w' where
  tallies := accounts.tallies
  called c v hMem := by
    rcases List.mem_cons.1 hMem with hIs | hMem
    · exact hCalled c v hIs.symm
    · exact accounts.called c v hMem
  closed e' hMem := by
    rcases List.mem_cons.1 hMem with rfl | hMem
    · exact hClosed
    · exact accounts.closed e' hMem
  withdraws := .cons withdraws accounts.withdraws

/-- A step that gives no reference back leaves no channel without one. -/
theorem kept {β : Type} {t : Step σ β} (accounts : s.Accounts events w') (hDrops : ¬t.Drops)
    (withdraws : s.Withdraws (.made t w) events) : s.Accounts (.made t w :: events) w' := by
  refine accounts.cons (fun _ _ => nofun) ?_ withdraws
  intro j hSome hNone
  have hKept := t.references_run (s := s.toSurroundings) hDrops hSome
  exact absurd hNone (Nat.ne_of_gt hKept)

/-- A step that removes no entry and gives no reference back adds nothing. -/
theorem made {β : Type} {t : Step σ β} (accounts : s.Accounts events w')
    (hNot : ¬t.Withdraws) : s.Accounts (.made t w :: events) w' := by
  refine accounts.kept (fun hDrops => hNot hDrops.withdraws) (withdraws_of_none ?_)
  cases t with
  | unregister i name => exact absurd trivial hNot
  | _ => rfl

end Accounts

/-- Whole operations keep the tally. -/
theorem Whole.accounts (whole : s.Whole w events w') (sensible : ∀ e ∈ events, e.isSensible = true)
    (tallies : w.Tallies) : s.Accounts events w' := by
  induction whole with
  | nil w => exact .nil tallies
  | append left right ihLeft ihRight =>
    have first := ihLeft (fun e hMem => sensible e (List.mem_append_left _ hMem)) tallies
    have second := ihRight (fun e hMem => sensible e (List.mem_append_right _ hMem)) first.tallies
    exact first.append second right.leads
  | @alone _ t w lone =>
    have hNot : ¬t.Withdraws := by
      cases t with
      | unregister i name => cases lone
      | dropReference j => cases lone
      | _ => exact not_false
    have after := t.tallies_run (s := s.toSurroundings) hNot
      (sensible _ (List.mem_singleton_self _)) tallies
    exact (Accounts.nil after).made hNot
  | @called c w w' inner b body whole ih =>
    have accounts := ih (fun e hMem => sensible e (List.mem_cons_of_mem _ hMem)) tallies
    refine accounts.cons ?_ ?_ (withdraws_of_none rfl)
    · intro c' v hEq
      cases hEq
      exact tallies
    · exact fun j hSome hNone => absurd hNone (Nat.ne_of_gt hSome)
  | @raised j raised w w' delivery delivers whole ih =>
    have after := (Step.raise j raised).tallies_run (s := s.toSurroundings) not_false rfl tallies
    exact (ih (fun e hMem => sensible e (List.mem_cons_of_mem _ hMem)) after).made not_false
  | @held j op w w' rest a run whole ih =>
    have after := (Step.hold j op).tallies_run (s := s.toSurroundings) not_false rfl tallies
    exact (ih (fun e hMem => sensible e (List.mem_cons_of_mem _ hMem)) after).made not_false
  | @unknown i name w missing =>
    refine (Accounts.nil tallies).kept (t := .unregister i name) not_false ?_
    intro i' name' v j hEq entry
    obtain ⟨rfl, rfl, rfl⟩ := Event.unregister_inj hEq
    rw [missing] at entry
    cases entry
  | @withdrawn i name j w w' closing r entry run whole ih =>
    have withdrawal := withdrawal_of_run tallies entry run
    have closed := ih (fun e hMem => sensible e (by simp [hMem])) (tallies.withdraw entry)
    have letGo : s.Leads w' [.made (.letGo (.channel j)) w'] (w'.letGo (.channel j)) :=
      .cons (.made _ _) .refl
    have after := (Step.letGo (.channel j)).tallies_run (s := s.toSurroundings) not_false rfl
      closed.tallies
    have last : s.Accounts [.made (.letGo (.channel j)) w'] (w'.letGo (.channel j)) :=
      (Accounts.nil after).made not_false
    have rest := closed.append last letGo
    have dropped := rest.cons
      (e := .made (.dropReference j) ((w.modifyInterp i (·.remove name)).grasp (.channel j)))
      (fun _ _ => nofun) ?_ (withdraws_of_none rfl)
    · have grasped := dropped.made (w := w.modifyInterp i (·.remove name))
        (t := .grasp (.channel j)) not_false
      refine grasped.kept (t := .unregister i name) not_false ?_
      intro i' name' v j' hEq entry'
      obtain ⟨rfl, rfl, rfl⟩ := Event.unregister_inj hEq
      obtain rfl : j = j' := Option.some.inj (entry.symm.trans entry')
      exact ⟨closing, r, w', [], rfl, withdrawal⟩
    · intro k hSome hNone
      by_cases hSame : j = k
      · subst hSame
        have hLast : (w.channel j).references = 1 := by
          have hLeft := withdrawal.dropped
          have hGone : ((w.withdraw i name j).channel j).references = 0 := hNone
          omega
        obtain ⟨closing, hShut⟩ := withdrawal.last hLast
        refine ⟨Nat.lt_of_lt_of_le ?_ closing.leads.length, hShut⟩
        rw [World.withdraw, World.length_modifyChannel]
        exact World.exists_of_references hSome
      · have hKept : ((w.withdraw i name j).channel k).references = (w.channel k).references :=
          congrArg Channel.references (World.channel_withdraw_ne hSame)
        exact absurd (hKept.symm.trans hNone) (Nat.ne_of_gt hSome)

end Setting

/-- While proper programs run, whatever they call, every channel has as many references as there are
tables that hold it, and every entry stands under the name of its channel. So it is at the end and
whenever something is called. A channel that has given its last reference back is closed at the end.
When an entry is removed, its channel loses a reference before anything else happens: if that was
the last, the channel is closed, and if not, it stays as open as it was. -/
theorem references_tally {s : Setting σ} {p : Program σ α} {w w' : World σ}
    {events : List (Event σ)} {a : α} (proper : s.Proper) (hProper : p.Proper)
    (run : s.Runs p w events a w') (sensible : ∀ e ∈ events, e.isSensible = true)
    (tallies : w.Tallies) :
    w'.Tallies ∧ (∀ c v, .called c v ∈ events → v.Tallies) ∧
      (∀ e ∈ events, ∀ j, 0 < (e.before.channel j).references →
        ((e.after s.toSurroundings).channel j).references = 0 → (w'.channel j).isOpen = false) ∧
      ∀ before i name v after j, events = before ++ .made (.unregister i name) v :: after →
        (v.interp i).lookup? name = some j →
        ∃ closing r u later,
          after = .made (.grasp (.channel j)) (v.modifyInterp i (·.remove name)) ::
            .made (.dropReference j) ((v.modifyInterp i (·.remove name)).grasp (.channel j)) ::
            (closing ++ .made (.letGo (.channel j)) u :: later) ∧
          s.Withdrawal v i name j closing r u := by
  have accounts := (run.whole proper hProper).accounts sensible tallies
  refine ⟨accounts.tallies, accounts.called, ?_, ?_⟩
  · exact fun e hMem j hSome hNone => (accounts.closed e hMem j hSome hNone).2
  · exact fun before i name v after j hSplit entry =>
      accounts.withdraws before _ after hSplit i name v j rfl entry

/-- A driver that cannot be closed properly. Its channel stands in two tables and is removed from
both, one after the other. -/
def stubbornSetting : Setting Unit where
  driver _ call env :=
    { answer := match call with
        | .close => .error (.number Errno.connectionReset)
        | call => call.unsupported
      env }
  ready _ _ := .none
  users _ _ := false
  routine u := .done u.unit
  fire _ _ := .done ()

def stubbornChannel : Channel := { name := "log", type := "file", mode := .both }

def sharingProgram : Program Unit (Except Report Unit) := do
  let first ← Program.act .newInterp
  let second ← Program.act .newInterp
  let channel ← Program.act (.open stubbornChannel)
  Program.register first channel
  Program.register second channel
  let _ ← Program.unregister first "log"
  Program.unregister second "log"

theorem proper_stubbornSetting : stubbornSetting.Proper where
  routine _ := .done _
  fire _ _ := .done _

theorem proper_sharingProgram : sharingProgram.Proper := by
  refine Program.proper_act_bind trivial fun first => ?_
  refine Program.proper_act_bind trivial fun second => ?_
  refine Program.proper_act_bind trivial fun channel => ?_
  apply Program.proper_bind (Program.proper_register first channel)
  intro _
  apply Program.proper_bind (Program.proper_register second channel)
  intro _
  apply Program.proper_bind (Program.proper_unregister first "log")
  intro _
  exact Program.proper_unregister second "log"

/-- The second removal fails, but the channel has lost both its references and is closed. -/
theorem references_tally_stubborn :
    ∃ events r w', stubbornSetting.Runs sharingProgram { env := () } events (.error r) w' ∧
      w'.Tallies ∧ (w'.channel 0).references = 0 ∧ (w'.channel 0).isOpen = false := by
  have hTrace : (stubbornSetting.trace 1 sharingProgram { env := () }).any (fun r =>
      r.1.all (·.isSensible) && !r.2.1.isOk &&
      (decide ((r.2.2.channel 0).references = 0) &&
      r.1.any fun e => decide (0 < (e.before.channel 0).references ∧
        ((e.after stubbornSetting.toSurroundings).channel 0).references = 0))) = true := by
    decide +kernel
  obtain ⟨events, answer, w', run, hChecked⟩ := Setting.exists_runs hTrace
  obtain ⟨hFirst, hSecond⟩ := Bool.and_eq_true_iff.1 hChecked
  obtain ⟨hSensible, hFailed⟩ := Bool.and_eq_true_iff.1 hFirst
  obtain ⟨hNone, hSome⟩ := Bool.and_eq_true_iff.1 hSecond
  obtain ⟨e, hMem, hLast⟩ := List.any_eq_true.1 hSome
  obtain ⟨hBefore, hAfter⟩ := of_decide_eq_true hLast
  obtain ⟨tallies, -, hClosed, -⟩ := references_tally proper_stubbornSetting proper_sharingProgram
    run (List.all_eq_true.1 hSensible) (World.tallies_empty ())
  cases answer with
  | ok done => cases hFailed
  | error r =>
    have hShut := hClosed e hMem 0 hBefore hAfter
    exact ⟨events, r, w', run, tallies, of_decide_eq_true hNone, hShut⟩

end EventChannel
