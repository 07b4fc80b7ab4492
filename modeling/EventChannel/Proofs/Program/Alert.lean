import EventChannel.Proofs.Contract
import EventChannel.Proofs.Program.Notification
import EventChannel.Proofs.World.Handlers

/-! A handler is called only where conditions have come up that it waits for. The handlers that are
called then are those that were in the table at that moment, one after the other in the order in
which they were made. What they do to the table or to the channel is for later conditions: one that
is deleted meanwhile is still called when its turn comes, also on a channel that is closed by
then. -/

namespace EventChannel

variable {σ α : Type}

/-- The operation that calls handlers. -/
inductive AlertWhole : {α : Type} → Program σ α → Prop
  | notified {j : ChannelId} {raised : Interest} : AlertWhole (Program.notify j raised)

/-- What programs are made of that call handlers only where conditions come up. -/
def alertParts : Parts σ where
  step t := t.OpensBare
  call c := ¬c.Alerts
  whole := AlertWhole

theorem alertParts_ordinary : (alertParts : Parts σ).Ordinary where
  step t basic _ := by
    cases t with
    | «open» c => exact basic.2
    | _ => trivial
  call _ _ := id
  notify _ _ := .of_whole .notified

theorem alertParts_operating : (alertParts : Parts σ).Operating :=
  alertParts_ordinary.operating (alertParts_ordinary.close fun _ => trivial)

theorem alertParts_copying : (alertParts : Parts σ).Copying where
  toTransfers := alertParts_operating.toTransfers
  step t ofCopies := by
    cases t with
    | «open» c => cases ofCopies
    | _ => trivial
  call c ofCopies alerts := by
    cases c with
    | user u => cases u <;> contradiction
    | _ => contradiction
  leaving j handler := alertParts_operating.operate j (.deleteHandler handler) trivial
  waiting j _ _ := .hold (alertParts_operating.notify j) trivial

/-- Passes over event loops are made of it, too. -/
theorem alertParts_passing : (alertParts : Parts σ).Passing where
  poll _ := trivial
  takeHandler _ _ _ := trivial
  putBack _ _ _ _ := trivial
  fire _ _ := not_false

/-- The call by which a callback is called. -/
def Callback.call (j : ChannelId) (ready : Interest) : Callback → Call
  | .routine r => .user (.event r j ready)
  | .copy k => .advance k

/-- What a handler is called for, and what is called. -/
def Handler.target (raised : Interest) (h : Handler) : Interest × Callback :=
  (h.mask ∩ raised, h.callback)

theorem Channel.targets_eq (c : Channel) (raised : Interest) :
    c.targets raised = (c.handlers.filter (·.mask.meets raised)).map (·.target raised) :=
  rfl

/-- When conditions come up, the table is left as it is. -/
theorem Step.handlers_raise {s : Surroundings σ} {w : World σ} {j : ChannelId}
    (raised : Interest) :
    (((Step.raise j raised).run s w).2.channel j).handlers = (w.channel j).handlers :=
  congrArg Prod.fst ((Step.raise j raised).roster_same id)

/-- Those are found that wait for some of the conditions. -/
theorem Step.found_raise {s : Surroundings σ} {w : World σ} {j : ChannelId} (raised : Interest) :
    ((Step.raise j raised).run s w).1 = (w.channel j).targets raised := by
  rw [targets_raise, Channel.targets_eq, handlers_raise, Channel.targets_eq]

namespace Setting

variable {s : Setting σ} {j : ChannelId} {raised : Interest} {u v w w₁ w' : World σ}
  {events first second past : List (Event σ)} {n : Nat}

theorem Delivers.append {front back : List (Interest × Callback)}
    (left : s.Delivers j front w first w₁) (right : s.Delivers j back w₁ second w') :
    s.Delivers j (front ++ back) w (first ++ second) w' := by
  induction left with
  | nil w => exact right
  | routine body later ih =>
    rw [List.cons_append, List.cons_append, List.append_assoc]
    exact .routine body (ih right)
  | copy body later ih =>
    rw [List.cons_append, List.cons_append, List.append_assoc]
    exact .copy body (ih right)

/-- If those that are called come to an end, so does the delivery. -/
theorem Delivers.runs {targets : List (Interest × Callback)}
    (delivers : s.Delivers j targets w events w') :
    s.Runs (Program.deliver j targets) w events () w' := by
  induction delivers with
  | nil w => exact .done () w
  | routine body later ih => exact .call body ih
  | copy body later ih => exact .call body (.step ih)

/-- Conditions that come up are a matter of those that wait for some of them. -/
theorem runs_notify_iff {u : Unit} :
    s.Runs (Program.notify j raised) w events u w' ↔
      ∃ delivery, events = .made (.raise j raised) w :: delivery ∧
        s.Delivers j (((w.channel j).handlers.filter (·.mask.meets raised)).map (·.target raised))
          ((Step.raise j raised).run s.toSurroundings w).2 delivery w' := by
  constructor
  · intro run
    cases run with
    | step run =>
      rw [Step.found_raise] at run
      exact ⟨_, rfl, run.delivers⟩
  · rintro ⟨delivery, rfl, delivers⟩
    refine .step ?_
    rw [Step.found_raise]
    exact delivers.runs

/-- Conditions have come up, the callbacks found before this one have been called, and it is this
one's turn. -/
def Summons (s : Setting σ) (c : Call) (past : List (Event σ)) (u : World σ) : Prop :=
  ∃ earlier j raised v middle front ready callback back,
    past = earlier ++ .made (.raise j raised) v :: middle ∧
    (v.channel j).targets raised = front ++ (ready, callback) :: back ∧
    s.Delivers j front ((Step.raise j raised).run s.toSurroundings v).2 middle u ∧
    c = callback.call j ready

/-- Handlers are called in their turn only, and no channel is made that has some. -/
structure Summoning (s : Setting σ) (past events : List (Event σ)) : Prop where
  summoned : Allowed (fun c past u => c.Alerts → s.Summons c past u) past events
  bare : ∀ e ∈ events, e.OpensBare

namespace Summoning

theorem nil : s.Summoning past [] := ⟨allowed_nil, List.forall_mem_nil _⟩

theorem made {t : Step σ α} (bare : t.OpensBare) (rest : s.Summoning (past ++ [.made t w]) events) :
    s.Summoning past (.made t w :: events) :=
  ⟨.made rest.summoned, List.forall_mem_cons.2 ⟨bare, rest.bare⟩⟩

theorem called {c : Call} (summons : c.Alerts → s.Summons c past w)
    (rest : s.Summoning (past ++ [.called c w]) events) :
    s.Summoning past (.called c w :: events) :=
  ⟨.called summons rest.summoned, List.forall_mem_cons.2 ⟨trivial, rest.bare⟩⟩

theorem append (left : s.Summoning past first) (right : s.Summoning (past ++ first) second) :
    s.Summoning past (first ++ second) :=
  ⟨left.summoned.append right.summoned, List.forall_mem_append.2 ⟨left.bare, right.bare⟩⟩

end Summoning

/-- So it is in what happens in calls, as far as that is no longer than so much. -/
def SummoningCalls (s : Setting σ) (n : Nat) : Prop :=
  ∀ {c : Call} {u u' : World σ} {inner : List (Event σ)} (past : List (Event σ)),
    inner.length < n → s.Begins (s.body c) u inner u' → s.Summoning past inner

/-- How far a dispatch has come: it has not begun, or it is in the first call, or that has had its
turn and the others go on. -/
theorem Begins.of_deliver {ready : Interest} {callback : Callback}
    {rest : List (Interest × Callback)}
    (begun : s.Begins (Program.deliver j ((ready, callback) :: rest)) w events w') :
    events = [] ∨
      (∃ inner u, events = .called (callback.call j ready) w :: inner ∧
        s.Begins (s.body (callback.call j ready)) w inner u) ∨
      ∃ inner closing outer u w₁,
        events = .called (callback.call j ready) w :: (inner ++ (closing ++ outer)) ∧
        s.Begins (s.body (callback.call j ready)) w inner u ∧
        (∀ past, s.Summoning past closing) ∧
        s.Delivers j [(ready, callback)] w (.called (callback.call j ready) w :: (inner ++ closing))
          w₁ ∧
        s.Begins (Program.deliver j rest) w₁ outer w' := by
  cases callback with
  | routine r =>
    cases begun with
    | stop => exact .inl rfl
    | inside body => exact .inr (.inl ⟨_, _, rfl, body⟩)
    | after body later =>
      refine .inr (.inr ⟨_, [], _, _, _, rfl, body.begins, fun _ => .nil, ?_, later⟩)
      exact .routine body (.nil _)
  | copy k =>
    cases begun with
    | stop => exact .inl rfl
    | inside body => exact .inr (.inl ⟨_, _, rfl, body⟩)
    | @after _ _ _ _ u _ inner _ _ body later =>
      cases later with
      | stop =>
        rw [List.append_nil]
        exact .inr (.inl ⟨inner, _, rfl, body.begins⟩)
      | step later =>
        refine .inr (.inr ⟨inner, [.made (.letGo (.copy k)) u], _, u, _, rfl, body.begins, ?_, ?_,
          later⟩)
        · exact fun _ => .made trivial .nil
        · exact .copy body (.nil _)

/-- Those that are left are called in their turn. -/
theorem summoning_deliver {front targets : List (Interest × Callback)}
    {earlier middle : List (Event σ)} (calls : s.SummoningCalls n) (hBound : events.length ≤ n)
    (hFound : (v.channel j).targets raised = front ++ targets)
    (delivered : s.Delivers j front ((Step.raise j raised).run s.toSurroundings v).2 middle w)
    (begun : s.Begins (Program.deliver j targets) w events w') :
    s.Summoning (earlier ++ .made (.raise j raised) v :: middle) events := by
  induction targets generalizing front middle w events with
  | nil =>
    cases begun with
    | stop => exact .nil
  | cons target rest ih =>
    obtain ⟨ready, callback⟩ := target
    have summons : s.Summons (callback.call j ready)
        (earlier ++ .made (.raise j raised) v :: middle) w :=
      ⟨earlier, j, raised, v, middle, front, ready, callback, rest, rfl, hFound, delivered, rfl⟩
    rcases begun.of_deliver with
      rfl | ⟨inner, u, rfl, body⟩ | ⟨inner, closing, outer, u, w₁, rfl, body, closes, turn, later⟩
    · exact .nil
    · exact .called (fun _ => summons) (calls _ hBound body)
    · simp only [List.length_cons, List.length_append] at hBound
      refine .called (fun _ => summons) ((calls _ (by omega) body).append ((closes _).append ?_))
      have hRest : (v.channel j).targets raised = (front ++ [(ready, callback)]) ++ rest := by
        rw [hFound, List.append_assoc, List.singleton_append]
      have summoning := ih (by omega) hRest (delivered.append turn) later
      simpa using summoning

theorem summoning_notify (calls : s.SummoningCalls n) (hBound : events.length ≤ n)
    (begun : s.Begins (Program.notify j raised) w events w') : s.Summoning past events := by
  cases begun with
  | stop => exact .nil
  | step begun =>
    rw [Step.found_raise] at begun
    simp only [List.length_cons] at hBound
    exact .made trivial (summoning_deliver calls (by omega) rfl (.nil _) begun)

/-- So it is in whatever programs do that are made of such parts. -/
theorem Begins.summoning (made : s.MadeOf alertParts) {p : Program σ α}
    (hMade : p.MadeOf alertParts) (run : s.Begins p w events w') : s.Summoning past events := by
  induction hLength : events.length using Nat.strongRecOn generalizing α p w events w' past with
  | ind n ih =>
    have calls : s.SummoningCalls n := fun {c} _ _ _ past hShorter body =>
      ih _ hShorter (made.body alertParts_copying.starting (fun _ _ => not_false) c) body rfl
    subst hLength
    cases hMade with
    | done a =>
      cases run with
      | stop => exact .nil
    | step bare rest =>
      cases run with
      | stop => exact .nil
      | step run => exact .made bare (ih _ (by simp) (rest _) run rfl)
    | call quiet rest =>
      cases run with
      | stop => exact .nil
      | inside body => exact .called (absurd · quiet) (calls _ (by simp) body)
      | after body run =>
        refine .called (absurd · quiet) ((calls _ ?_ body.begins).append (ih _ ?_ (rest _) run rfl))
        all_goals
          simp only [List.length_cons, List.length_append]
          omega
    | whole allowed rest =>
      cases allowed with
      | notified =>
        rcases run.of_bind with begun | ⟨first, second, a, w₁, rfl, left, right⟩
        · exact summoning_notify calls (Nat.le_refl _) begun
        · have hShorter : second.length < (first ++ second).length := by
            cases left
            simp only [List.length_append, List.length_cons]
            omega
          have notified : s.Summoning past first := summoning_notify calls (by simp) left.begins
          exact notified.append (ih _ hShorter (rest _) right rfl)

/-- A handler is called in its turn for conditions that have come up. It was in the table then and
had never been taken away. Those found before it have been called since, and only they can have
deleted it or closed the channel. -/
structure InTurn (s : Setting σ) (j : ChannelId) (raised : Interest) (earlier : List (Event σ))
    (v : World σ) (h : Handler) (middle : List (Event σ)) (u : World σ) : Prop where
  turn : ∃ front back, (v.channel j).handlers.filter (·.mask.meets raised) = front ++ h :: back ∧
    s.Delivers j (front.map (·.target raised)) ((Step.raise j raised).run s.toSurroundings v).2
      middle u
  kept : ∀ e ∈ earlier, e.Clears j ∨ e.Strikes j h.id →
    ∀ h' ∈ (e.before.channel j).handlers, h'.id ≠ h.id
  stays : h ∈ (u.channel j).handlers ↔ ∀ e ∈ middle, ¬e.Clears j ∧ ¬e.Strikes j h.id
  stands : (u.channel j).isOpen = true ↔ (v.channel j).isOpen = true ∧ ∀ e ∈ middle, ¬e.Shuts j

theorem Summons.inTurn {c : Call} (summons : s.Summons c past u)
    (history : s.Leads w past u) (ordered : ∀ j, (w.channel j).Ordered)
    (bare : ∀ e ∈ past, e.OpensBare) :
    ∃ earlier j raised v h middle, past = earlier ++ .made (.raise j raised) v :: middle ∧
      c = h.callback.call j (h.mask ∩ raised) ∧ s.InTurn j raised earlier v h middle u := by
  obtain ⟨earlier, j, raised, v, middle, front, ready, callback, back, rfl, hFound, delivered,
    rfl⟩ := summons
  obtain ⟨found, others, hHandlers, rfl, hOthers⟩ := List.map_eq_append_iff.1 hFound
  obtain ⟨h, later, rfl, hTarget, -⟩ := List.map_eq_cons_iff.1 hOthers
  cases hTarget
  refine ⟨earlier, j, raised, v, h, middle, rfl, rfl, ?_⟩
  obtain ⟨hEarlier, -⟩ := List.forall_mem_append.1 bare
  have prior : s.Leads w earlier v := history.up_to
  have hMem : h ∈ (v.channel j).handlers := by
    have hAmong : h ∈ (v.channel j).handlers.filter (·.mask.meets raised) := by
      rw [hHandlers]
      exact List.mem_append_right _ List.mem_cons_self
    exact (List.mem_filter.1 hAmong).1
  have hExists := World.exists_of_handler hMem
  constructor
  · exact ⟨found, later, hHandlers, delivered⟩
  · exact fun e => prior.ne_of_removal (fun _ _ => id) hEarlier (ordered j) hMem
  · have hCounted := (prior.ordered hEarlier (ordered j)).counted h hMem
    have hFoundThere :
        h ∈ (((Step.raise j raised).run s.toSurroundings v).2.channel j).handlers := by
      rwa [Step.handlers_raise]
    refine history.beyond.mem_handlers_iff hFoundThere ?_
    exact Nat.le_trans hCounted ((Step.raise j raised).lastHandler_run hExists)
  · have since : s.Leads v (.made (.raise j raised) v :: middle) u :=
      .cons (.made (.raise j raised) v) history.beyond
    rw [since.isOpen_iff hExists, List.forall_mem_cons]
    exact and_congr_right' (and_iff_right not_false)

end Setting

/-- While programs run, handlers are called only in their turn: a handler has been in its table ever
since it was made when the conditions come up that it is called for, and those found before it have
been called since. It is called even if one of these has deleted it or closed the channel. And
whenever conditions come up on a channel that nobody holds, all handlers that wait for some of them
are called, in the order in which they were made, each once and with the conditions that it waits
for; that comes to an end if all of them do. -/
theorem handlers_called_in_turn {s : Setting σ} {p : Program σ α} {w w' : World σ}
    {events : List (Event σ)} (made : s.MadeOf alertParts) (hMade : p.MadeOf alertParts)
    (ordered : ∀ j, (w.channel j).Ordered) (run : s.Begins p w events w') :
    (∀ before c u after, events = before ++ .called c u :: after → c.Alerts →
      ∃ earlier j raised v h middle, before = earlier ++ .made (.raise j raised) v :: middle ∧
        c = h.callback.call j (h.mask ∩ raised) ∧ s.InTurn j raised earlier v h middle u) ∧
    ∀ j raised, (w'.channel j).Ordered ∧ ∀ later w'',
      s.Runs (Program.notify j raised) w' later () w'' ↔
        ∃ delivery, later = .made (.raise j raised) w' :: delivery ∧
          s.Delivers j
            (((w'.channel j).handlers.filter (·.mask.meets raised)).map (·.target raised))
            ((Step.raise j raised).run s.toSurroundings w').2 delivery w'' := by
  have summoning : s.Summoning [] events := run.summoning made hMade
  constructor
  · rintro before c u after rfl alerts
    have summons := summoning.summoned before c u after rfl alerts
    exact summons.inTurn run.leads.up_to ordered (List.forall_mem_append.1 summoning.bare).1
  · exact fun j raised =>
      ⟨run.leads.ordered summoning.bare (ordered j), fun _ _ => Setting.runs_notify_iff⟩

/-- A channel with three handlers that wait for input. The first one deletes the second one, which
closes the channel. -/
def rivalSetting : Setting Unit where
  driver _ call env := { answer := call.unsupported, env }
  ready _ _ := .none
  users _ _ := false
  routine
    | .event 0 channel _ => Program.deleteHandler channel 2
    | .event 1 channel _ => (Program.close channel).bind fun _ => .done ()
    | u => .done u.unit
  fire _ _ := .done ()

def rivalWorld : World Unit where
  channels := [{ name := "pipe", type := "file", mode := .both }]
  env := ()

def rivalProgram : Program Unit Unit := do
  let _ ← Program.createHandler 0 .reading (.routine 0)
  let _ ← Program.createHandler 0 .reading (.routine 1)
  let _ ← Program.createHandler 0 .reading (.routine 2)
  Program.notify 0 .reading

theorem madeOf_rivalSetting : rivalSetting.MadeOf alertParts where
  routine u := by
    have operating : (alertParts : Parts Unit).Operating := alertParts_operating
    unfold rivalSetting
    dsimp only
    split
    · exact operating.operate _ (.deleteHandler 2) trivial
    · exact (operating.close _).bind fun _ => .done ()
    · exact .done _
  fire _ _ := .done ()

theorem madeOf_rivalProgram : rivalProgram.MadeOf alertParts := by
  have operating : (alertParts : Parts Unit).Operating := alertParts_operating
  have creating (r : RoutineId) :
      (Program.createHandler 0 .reading (.routine r) : Program Unit HandlerId).MadeOf alertParts :=
    operating.operate 0 (.createHandler .reading (.routine r)) trivial
  refine (creating 0).bind fun _ => (creating 1).bind fun _ => (creating 2).bind fun _ => ?_
  exact operating.notify 0 .reading

theorem ordered_rivalWorld (j : ChannelId) : (rivalWorld.channel j).Ordered := by
  refine Channel.listed_of_none ?_
  cases j <;> rfl

/-- What comes before a call, and the world in which it is made. -/
def untilCall (c : Call) : List (Event σ) → Option (List (Event σ) × World σ)
  | [] => none
  | e :: rest =>
    if e.call? = some c then some ([], e.before)
    else (untilCall c rest).map fun (before, u) => (e :: before, u)

theorem of_untilCall {c : Call} {events before : List (Event σ)} {u : World σ}
    (found : untilCall c events = some (before, u)) :
    ∃ after, events = before ++ .called c u :: after := by
  induction events generalizing before with
  | nil => cases found
  | cons e rest ih =>
    rw [untilCall] at found
    split at found
    · next hCall =>
      obtain ⟨u, rfl⟩ := Event.of_call? hCall
      cases found
      exact ⟨rest, rfl⟩
    · obtain ⟨⟨before, v⟩, hRest, hEq⟩ := Option.map_eq_some_iff.1 found
      cases hEq
      obtain ⟨after, rfl⟩ := ih hRest
      exact ⟨after, rfl⟩

/-- The third handler has its turn after the other two. -/
theorem handlers_called_in_turn_rivals :
    ∃ before u after a w' earlier j raised v h middle,
      rivalSetting.Runs rivalProgram rivalWorld
        (before ++ .called (.user (.event 2 0 .reading)) u :: after) a w' ∧
      before = earlier ++ .made (.raise j raised) v :: middle ∧
      rivalSetting.InTurn j raised earlier v h middle u := by
  have hTrace : (rivalSetting.trace 3 rivalProgram rivalWorld).any (fun r =>
      (untilCall (.user (.event 2 0 .reading)) r.1).isSome) = true := by
    decide +kernel
  obtain ⟨events, a, w', run, hCalled⟩ := Setting.exists_runs hTrace
  obtain ⟨⟨before, u⟩, hFound⟩ := Option.isSome_iff_exists.1 hCalled
  obtain ⟨after, rfl⟩ := of_untilCall hFound
  obtain ⟨earlier, j, raised, v, h, middle, hSplit, -, inTurn⟩ :=
    (handlers_called_in_turn madeOf_rivalSetting madeOf_rivalProgram ordered_rivalWorld
      run.begins).1 before _ u after rfl trivial
  exact ⟨before, u, after, a, w', earlier, j, raised, v, h, middle, run, hSplit, inTurn⟩

/-- The second handler is called when it has been deleted, and the third one when the channel has
been closed. -/
theorem handlers_called_though_gone :
    ∃ events a w', rivalSetting.Runs rivalProgram rivalWorld events a w' ∧
      (∃ before u after, events = before ++ .called (.user (.event 1 0 .reading)) u :: after ∧
        (∃ v, .made (.hold 0 (.deleteHandler 2)) v ∈ before) ∧
        ∀ h ∈ (u.channel 0).handlers, h.id ≠ 2) ∧
      ∃ before u after, events = before ++ .called (.user (.event 2 0 .reading)) u :: after ∧
        (∃ v, .made (.hold 0 .shut) v ∈ before) ∧ (u.channel 0).isOpen = false := by
  have hTrace : (rivalSetting.trace 3 rivalProgram rivalWorld).any (fun r =>
      ((untilCall (.user (.event 1 0 .reading)) r.1).any fun (before, u) =>
        decide (some (0, .deleteHandler 2) ∈ before.map (·.heldFor?) ∧
          ∀ h ∈ (u.channel 0).handlers, h.id ≠ 2)) &&
      (untilCall (.user (.event 2 0 .reading)) r.1).any fun (before, u) =>
        decide (some (0, .shut) ∈ before.map (·.heldFor?) ∧ (u.channel 0).isOpen = false)) =
      true := by
    decide +kernel
  have hMade {op : ChannelOp} {before : List (Event Unit)}
      (hHeld : some (0, op) ∈ before.map (·.heldFor?)) : ∃ v, .made (.hold 0 op) v ∈ before := by
    obtain ⟨e, hMem, hIs⟩ := List.mem_map.1 hHeld
    obtain ⟨v, rfl⟩ := Event.of_heldFor? hIs
    exact ⟨v, hMem⟩
  obtain ⟨events, a, w', run, hChecked⟩ := Setting.exists_runs hTrace
  obtain ⟨hSecond, hThird⟩ := Bool.and_eq_true_iff.1 hChecked
  obtain ⟨⟨before, u⟩, hFound, hDeleted⟩ := (Option.any_eq_true _ _).1 hSecond
  obtain ⟨⟨before', u'⟩, hFound', hClosed⟩ := (Option.any_eq_true _ _).1 hThird
  obtain ⟨hHeld, hGone⟩ := of_decide_eq_true hDeleted
  obtain ⟨hHeld', hShut⟩ := of_decide_eq_true hClosed
  obtain ⟨after, hSplit⟩ := of_untilCall hFound
  obtain ⟨after', hSplit'⟩ := of_untilCall hFound'
  exact ⟨events, a, w', run, ⟨before, u, after, hSplit, hMade hHeld, hGone⟩,
    before', u', after', hSplit', hMade hHeld', hShut⟩

end EventChannel
