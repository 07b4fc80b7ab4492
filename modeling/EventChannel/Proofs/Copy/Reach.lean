import EventChannel.Proofs.Copy.Service
import EventChannel.Proofs.Program.Closing
import EventChannel.Proofs.Program.Notification
import EventChannel.Proofs.World.Handlers

/-! A copy at rest goes on when conditions come up for the handler that it has noted. The handler is
there as long as its channel is open, unless somebody else deletes it. But closing that channel
takes the handler away without the copy being told: from then on nothing calls on the copy, and its
other channel stays taken. -/

namespace EventChannel

open Program

variable {σ α β : Type} {s : Setting σ} {w w' : World σ} {events : List (Event σ)} {e : Event σ}
  {k : CopyId} {j : ChannelId} {mask : Interest} {handler : HandlerId}

/-- The operation deletes a handler by its number. -/
def ChannelOp.deletes : ChannelOp → Bool
  | .deleteHandler _ => true
  | _ => false

def Step.Deletes : Step σ α → Prop
  | .hold _ op => op.deletes = true
  | _ => False

def Event.Deletes : Event σ → Prop
  | .made t _ => t.Deletes
  | .called _ _ => False

/-- What programs are made of that delete no handlers. -/
def sparingParts : Parts σ where
  step t := ¬t.Deletes
  call _ := True
  whole _ := False

theorem sparingParts_notifying : (sparingParts : Parts σ).Notifying where
  raise _ _ := not_false
  letGo _ := not_false
  call _ _ := trivial

theorem sparingParts_moving (k : CopyId) : (sparingParts : Parts σ).Moving k where
  hold j op transports := sparingParts_notifying.hold j op <| by
    cases op with
    | deleteHandler => cases transports
    | _ => exact Bool.false_ne_true
  look _ := not_false
  readAll _ _ _ := trivial
  copy := not_false
  count _ := not_false
  moveAll := trivial

theorem sparing_createHandler (j : ChannelId) (mask : Interest) (callback : Callback) :
    (createHandler j mask callback : Program σ HandlerId).MadeOf sparingParts :=
  sparingParts_notifying.hold j (.createHandler mask callback) Bool.false_ne_true

theorem Setting.Does.spares {p : Program σ α} (does : s.Does p w events e)
    (made : p.MadeOf sparingParts) : ¬e.Deletes := by
  induction made generalizing w events with
  | done a => cases does
  | step allowed rest ih =>
    cases does with
    | here => exact allowed
    | step does => exact ih _ does
  | call allowed rest ih =>
    cases does with
    | call body does => exact ih _ does
  | whole allowed => exact absurd allowed not_false

/-- A step that deletes nothing leaves that to the rest of the program. -/
theorem Setting.Does.later {t : Step σ β} {next : β → Program σ α}
    (does : s.Does (.step t next) w events e) (deletes : e.Deletes) (hNot : ¬t.Deletes) :
    ∃ later, events = .made t w :: later ∧
      s.Does (next (t.run s.toSurroundings w).1) (t.run s.toSurroundings w).2 later e := by
  cases does with
  | here => exact absurd deletes hNot
  | step does => exact ⟨_, rfl, does⟩

/-- A handler is deleted that a copy has given up right before. -/
def Cedes (k : CopyId) (events : List (Event σ)) (e : Event σ) : Prop :=
  ∃ past g j handler u, events = past ++ [g] ∧ g.GivesUp k j handler ∧
    e = .made (.hold j (.deleteHandler handler)) u

theorem Cedes.prepend (cedes : Cedes k events e) (first : List (Event σ)) :
    Cedes k (first ++ events) e := by
  obtain ⟨past, g, j, handler, u, rfl, givesUp, rfl⟩ := cedes
  exact ⟨first ++ past, g, j, handler, u, by simp, givesUp, rfl⟩

/-- A handler is deleted, or another one later on. Nothing happens if there is none. -/
theorem does_deleteHandler? {id? : Option HandlerId} {f : Unit → Program σ α}
    (does : s.Does (deleteHandler? j id? >>= f) w events e) (deletes : e.Deletes) :
    (events = [] ∧ ∃ handler, id? = some handler ∧ e = .made (.hold j (.deleteHandler handler)) w) ∨
      ∃ first second w₁, events = first ++ second ∧ s.Does (f ()) w₁ second e ∧
        (id? = none → first = [] ∧ w₁ = w) := by
  cases id? with
  | none => exact .inr ⟨[], events, w, rfl, does, fun _ => ⟨rfl, rfl⟩⟩
  | some handler =>
    rcases does.of_bind with does | ⟨first, second, a, w₁, rfl, -, does⟩
    · cases does with
      | here => exact .inl ⟨rfl, handler, rfl, rfl⟩
      | step does =>
        exact absurd deletes (does.spares (.letOut (sparingParts_notifying.notify j) ..))
    · exact .inr ⟨first, second, w₁, rfl, does, nofun⟩

/-- A copy that notes no handlers any more gives up the one it had. -/
theorem Event.givesUp_of_forget {source? target? : Option HandlerId}
    (hNoted : (w.copy k).Awaits j mask handler) (hSource : source? = none)
    (hTarget : target? = none) :
    Event.GivesUp k j handler (.made (.setCopyHandlers k source? target?) w) :=
  ⟨source?, target?, w, rfl, ⟨mask, hNoted⟩, fun _ => Copy.not_awaits hSource hTarget⟩

/-- A copy that has noted a handler on one channel has noted none on the other. -/
theorem Copy.Hangs.source_none {c : Copy} (hangs : c.Hangs)
    (hTarget : c.targetHandler? = some handler) : c.sourceHandler? = none := by
  rw [Hangs, hTarget] at hangs
  exact Option.not_isSome_iff_eq_none.1 (by simp [hangs])

theorem Copy.Hangs.target_none {c : Copy} (hangs : c.Hangs)
    (hSource : c.sourceHandler? = some handler) : c.targetHandler? = none := by
  rw [Hangs, hSource] at hangs
  exact Option.not_isSome_iff_eq_none.1 (by simpa using hangs)

/-- A copy gives up a handler by what it notes, deletes it then, and no others afterwards. -/
theorem Cedes.of_wait {source? target? id? : Option HandlerId} {f : Unit → Program σ α}
    (does : s.Does (.step (.setCopyHandlers k source? target?) fun _ => deleteHandler? j id? >>= f)
      w events e)
    (deletes : e.Deletes)
    (givesUp : ∀ handler, id? = some handler →
      Event.GivesUp k j handler (.made (.setCopyHandlers k source? target?) w))
    (spares : (f ()).MadeOf sparingParts) : Cedes k events e := by
  obtain ⟨_, rfl, noted⟩ := does.later deletes not_false
  rcases does_deleteHandler? noted deletes with ⟨rfl, handler, hNoted, rfl⟩ |
    ⟨first, second, w₁, rfl, does, -⟩
  · exact ⟨[], _, _, _, _, rfl, givesUp handler hNoted, rfl⟩
  · exact absurd deletes (does.spares spares)

/-- To make a handler where there is none yet, and note it, deletes nothing. -/
theorem sparing_hang {c : Prop} [Decidable c] {callback : Callback}
    {note : HandlerId → Step σ Unit} (hNote : ∀ id, ¬(note id).Deletes) :
    (if c then createHandler j mask callback >>= fun id => act (note id) else .done () :
      Program σ Unit).MadeOf sparingParts := by
  split
  · exact (sparing_createHandler j mask callback).bind fun id => .act (hNote id)
  · exact .done ()

theorem cedes_waitForSource (hangs : (w.copy k).Hangs)
    (does : s.Does (waitForSource k) w events e) (deletes : e.Deletes) : Cedes k events e := by
  obtain ⟨_, rfl, looked⟩ := does.later deletes not_false
  refine Cedes.prepend (Cedes.of_wait looked deletes (fun handler hNoted => ?_) ?_) [_]
  · exact Event.givesUp_of_forget (.inr ⟨rfl, rfl, hNoted⟩) (hangs.source_none hNoted) rfl
  · exact sparing_hang fun _ => not_false

theorem cedes_waitForTarget (hangs : (w.copy k).Hangs)
    (does : s.Does (waitForTarget k) w events e) (deletes : e.Deletes) : Cedes k events e := by
  obtain ⟨_, rfl, looked⟩ := does.later deletes not_false
  refine Cedes.prepend (Cedes.of_wait looked deletes (fun handler hNoted => ?_) ?_) [_]
  · exact Event.givesUp_of_forget (.inl ⟨rfl, rfl, hNoted⟩) rfl (hangs.target_none hNoted)
  · exact sparing_hang fun _ => not_false

theorem cedes_endCopy {error? : Option Report} (hExists : k < w.copies.length)
    (hangs : (w.copy k).Hangs) (does : s.Does (endCopy k error?) w events e)
    (deletes : e.Deletes) : Cedes k events e := by
  have hRecord : (((Step.endCopying k).run s.toSurroundings w).2.copy k) =
      { w.copy k with phase := .ending } :=
    World.copy_modifyCopy_self _ hExists
  obtain ⟨_, rfl, ended⟩ := does.later deletes not_false
  generalize ((Step.endCopying k).run s.toSurroundings w).2 = v at hRecord ended
  have hangs' : (v.copy k).Hangs := by
    rw [hRecord]
    exact hangs
  refine Cedes.prepend ?_ [_]
  obtain ⟨_, rfl, looked⟩ := ended.later deletes not_false
  obtain ⟨_, rfl, noted⟩ := looked.later deletes not_false
  refine Cedes.prepend ?_ [_]
  rcases does_deleteHandler? noted deletes with ⟨rfl, handler, hNoted, rfl⟩ |
    ⟨first, second, w₁, rfl, does, hSame⟩
  · refine ⟨[], _, _, _, _, rfl, ?_, rfl⟩
    exact Event.givesUp_of_forget (.inl ⟨rfl, rfl, hNoted⟩) rfl rfl
  · rcases does_deleteHandler? does deletes with ⟨rfl, handler, hNoted, rfl⟩ |
      ⟨first', second', w₂, rfl, does, -⟩
    · obtain ⟨rfl, rfl⟩ := hSame (hangs'.source_none hNoted)
      refine ⟨[], _, _, _, _, rfl, ?_, rfl⟩
      exact Event.givesUp_of_forget (.inr ⟨rfl, rfl, hNoted⟩) rfl rfl
    · refine absurd deletes (does.spares ?_)
      apply ((sparingParts_moving k).switchModes _ _ _).bind
      refine fun _ => .act_bind not_false fun _ => ?_
      split
      · exact .invoke trivial
      · exact .done ()

/-- What is called for a copy deletes no handlers but those that the copy has given up right
before. -/
theorem cedes_advance (made : s.MadeOf copyParts) (attended : w.Attended)
    (does : s.Does (advance k) w events e) (deletes : e.Deletes) : Cedes k events e := by
  obtain ⟨_, rfl, entering⟩ := does.later deletes not_false
  refine Cedes.prepend ?_ [_]
  by_cases hResting : (w.copy k).phase = .resting
  · have entered := Surroundings.Engages.entered (s := s.toSurroundings) attended hResting
    have hAnswer : ((Step.enterCopy k).run s.toSurroundings w).1 = true := by
      simp only [Step.run, if_pos hResting]
    rw [hAnswer] at entering
    change s.Does (copyStep k >>= _) _ _ _ at entering
    rcases entering.of_bind with does | ⟨first, second, step, w₁, rfl, run, does⟩
    · exact absurd deletes (does.spares (sparingParts_moving k).copyStep)
    · have respects : s.Respects none ((Step.enterCopy k).run s.toSurroundings w).2 first w₁ :=
        ((governs_movingParts.keeps (movingParts_moving k).copyStep).of_run
          (honoured_attendance made) run entered.respects.ends entered.copyBusy).1
      have stepped := entered.others respects
      have hangs : (w₁.copy k).Hangs := by
        rw [stepped.record]
        exact (attended.rests k hResting).1
      refine Cedes.prepend ?_ first
      cases step with
      | waitReadable =>
        rcases does.of_bind with does | ⟨_, _, _, _, rfl, -, does⟩
        · exact cedes_waitForSource hangs does deletes
        · exact absurd deletes (does.spares (.act not_false))
      | waitWritable =>
        rcases does.of_bind with does | ⟨_, _, _, _, rfl, -, does⟩
        · exact cedes_waitForTarget hangs does deletes
        · exact absurd deletes (does.spares (.act not_false))
      | ended error? =>
        exact cedes_endCopy (World.exists_of_unfinished stepped.unfinished) hangs does deletes
  · have hAnswer : ((Step.enterCopy k).run s.toSurroundings w).1 = false := by
      simp only [Step.run, if_neg hResting]
    rw [hAnswer] at entering
    cases entering

/-- Whoever waits for conditions that come up is called. -/
theorem Setting.Delivers.calls {targets : List (Interest × Callback)} {ready : Interest}
    (delivers : s.Delivers j targets w events w') (hMem : (ready, .copy k) ∈ targets) :
    ∃ v, .called (.advance k) v ∈ events := by
  induction delivers with
  | nil => cases hMem
  | routine body later ih =>
    rcases List.mem_cons.1 hMem with hIs | hMem
    · cases hIs
    · obtain ⟨v, hCalled⟩ := ih hMem
      exact ⟨v, by simp [hCalled]⟩
  | @copy ready' k' rest w w₁ w' inner outer body later ih =>
    rcases List.mem_cons.1 hMem with hIs | hMem
    · cases hIs
      exact ⟨w, List.mem_cons_self⟩
    · obtain ⟨v, hCalled⟩ := ih hMem
      exact ⟨v, by simp [hCalled]⟩

/-- Conditions that come up on a channel call on the copies that have handlers for them there. -/
theorem calls_of_notify {raised : Interest} {a : Unit}
    (hMem : ⟨handler, mask, .copy k⟩ ∈ (w.channel j).handlers) (hMeets : mask.meets raised = true)
    (run : s.Runs (notify j raised) w events a w') : ∃ v, .called (.advance k) v ∈ events := by
  cases run with
  | step run =>
    have delivers := run.delivers
    rw [Step.targets_raise] at delivers
    have hHandlers : (((Step.raise j raised).run s.toSurroundings w).2.channel j).handlers =
        (w.channel j).handlers :=
      Channel.handlers_of_stake (Step.stake_same _ not_false)
    have hTarget : (mask ∩ raised, Callback.copy k) ∈
        (((Step.raise j raised).run s.toSurroundings w).2.channel j).targets raised := by
      refine List.mem_map.2 ⟨⟨handler, mask, .copy k⟩, List.mem_filter.2 ⟨?_, hMeets⟩, rfl⟩
      rwa [hHandlers]
    obtain ⟨v, hCalled⟩ := delivers.calls hTarget
    exact ⟨v, List.mem_cons_of_mem _ hCalled⟩

/-- What programs are made of that copy and close only by the whole operations for that. -/
def unbrokenParts : Parts σ where
  step t := (t.Basic ∨ t.Dispatches) ∧ ¬t.ClearsAway
  call := Call.Common
  whole p := CopyWhole p ∨ CloseWhole p

/-- All operations but copies are made of that, too. -/
theorem unbrokenParts_closing : (unbrokenParts : Parts σ).Closing where
  step _ basic hNot := ⟨.inl basic, hNot⟩
  call _ := id
  close _ := .of_whole (.inr .closed)

theorem Program.MadeOf.toCopyParts {p : Program σ α} (made : p.MadeOf unbrokenParts) :
    p.MadeOf copyParts :=
  made.mono (fun _ allowed => allowed.1) (fun _ => id) fun p allowed => by
    rcases allowed with copies | closes
    · exact .of_whole copies
    · cases closes with
      | closed => exact copyParts_basic.close _

theorem Program.MadeOf.toClosingParts {p : Program σ α} (made : p.MadeOf unbrokenParts) :
    p.MadeOf closingParts :=
  made.mono (fun _ allowed => allowed.2) (fun _ _ => trivial) fun p allowed => by
    rcases allowed with copies | closes
    · cases copies with
      | waited => exact closingParts_copying.starting.copy _ _ _
      | background => exact closingParts_copying.starting.copyInBackground _ _ _ _
    · exact .of_whole closes

/-- In the event a handler of a copy is deleted by its number. -/
def Event.Unhooks (k : CopyId) (e : Event σ) : Prop :=
  ∃ j handler u mask, e = .made (.hold j (.deleteHandler handler)) u ∧
    ⟨handler, mask, .copy k⟩ ∈ (u.channel j).handlers

/-- Handlers of a copy are deleted by nobody but copies, in what is called for these. -/
def Setting.LeavesHooks (s : Setting σ) (k : CopyId) (events : List (Event σ)) : Prop :=
  ∀ first e last, events = first ++ e :: last → e.Unhooks k →
    ∃ past i v inner, first = past ++ .called (.advance i) v :: inner ∧
      s.Does (advance i) v inner e

/-- A channel that is made fits only if it has no handlers. -/
theorem Event.Fits.opensBare (fits : e.Fits) : e.OpensBare := by
  cases e with
  | called c v => trivial
  | made t v =>
    cases t with
    | «open» c => exact fits.2
    | _ => trivial

/-- An unfinished copy has been so since it was begun. -/
theorem unfinished_before (history : s.Leads w events w') (fits : ∀ e ∈ events, e.Fits)
    (hExists : k < w.copies.length) (hUnfinished : (w'.copy k).unfinished = true) :
    (w.copy k).unfinished = true := by
  rw [← Bool.not_eq_false]
  intro hFinished
  rw [(history.finished fits hExists hFinished).1, hFinished] at hUnfinished
  cases hUnfinished

/-- Of two copies that are not finished, only one gives up handlers of a channel that both have. -/
theorem eq_of_givesUp (history : s.Leads w events w') (fits : ∀ e ∈ events, e.Fits)
    (marked : w.Marked) {first last : List (Event σ)} {i : CopyId}
    (hEvents : events = first ++ e :: last) (givesUp : e.GivesUp i j handler)
    (hExists : k < e.before.copies.length) (hUnfinished : (w'.copy k).unfinished = true)
    (hInvolves : (w'.copy k).involves j = true) : i = k := by
  subst hEvents
  have onward : s.Leads e.before (e :: last) w' := .cons e history.beyond
  have hLater : ∀ e' ∈ e :: last, e'.Fits := (List.forall_mem_append.1 fits).2
  have hOpen := unfinished_before onward hLater hExists hUnfinished
  rw [(onward.involves hExists).2] at hInvolves
  have marked : e.before.Marked := (history.marked fits marked).2 e (by simp)
  have hFits : e.Fits := fits e (by simp)
  obtain ⟨source?, target?, v, rfl, ⟨mask, hNoted⟩, -⟩ := givesUp
  exact marked.alone j i k hFits.2 hNoted.involves hOpen hInvolves

/-- No copy has just given up a handler that has been made for one of them, and not been given up by
that. -/
theorem not_given_up (history : s.Leads w events w') (fits : ∀ e ∈ events, e.Fits)
    (marked : w.Marked) (hUnfinished : (w'.copy k).unfinished = true)
    (hInvolves : (w'.copy k).involves j = true) {before first last past : List (Event σ)}
    {made g : Event σ} {i : CopyId} (hEvents : events = before ++ made :: (first ++ last))
    (makes : made.Makes k j mask handler) (hKept : ∀ e ∈ first, ¬e.GivesUp k j handler)
    (hPast : before ++ made :: first = past ++ [g]) : ¬g.GivesUp i j handler := by
  intro givesUp
  obtain ⟨u, rfl, -, hStart, -⟩ := makes
  rcases List.eq_nil_or_concat first with rfl | ⟨first, g', rfl⟩
  · obtain ⟨-, hIs⟩ := List.append_inj' hPast rfl
    obtain rfl := List.head_eq_of_cons_eq hIs
    exact givesUp.renotes
  · rw [List.concat_eq_append] at hPast hEvents hKept
    rw [← List.cons_append, ← List.append_assoc] at hPast
    obtain ⟨-, hIs⟩ := List.append_inj' hPast rfl
    obtain rfl := List.head_eq_of_cons_eq hIs
    rw [List.append_assoc] at hEvents
    have hExists : k < g'.before.copies.length := by
      rw [hEvents] at history
      exact (history.beyond.up_to.involves (j := j) (World.exists_of_unfinished hStart)).1
    have hSplit : events = (before ++ .made (.hold j (.createHandler mask (.copy k))) u :: first) ++
        g' :: last := by
      rw [hEvents]
      simp
    obtain rfl := eq_of_givesUp history fits marked hSplit givesUp hExists hUnfinished hInvolves
    exact hKept g' (by simp) givesUp

/-- Copies leave a handler alone that has been made for one of them and not been given up by
that. -/
theorem not_unhooked (settingMade : s.MadeOf copyParts) (history : s.Leads w events w')
    (fits : ∀ e ∈ events, e.Fits) (marked : w.Marked)
    (allowed : Setting.Allowed (attendance s.toSurroundings).Permits [] events)
    (leaves : s.LeavesHooks k events) (hUnfinished : (w'.copy k).unfinished = true)
    (hInvolves : (w'.copy k).involves j = true) {before first last : List (Event σ)}
    {made : Event σ} (hEvents : events = before ++ made :: (first ++ e :: last))
    (makes : made.Makes k j mask handler) (hKept : ∀ e ∈ first, ¬e.GivesUp k j handler)
    (hMem : ⟨handler, mask, .copy k⟩ ∈ (e.before.channel j).handlers) :
    ¬e.Strikes j handler := by
  intro strikes
  obtain ⟨v, rfl⟩ := Event.of_strikes strikes
  have hSplit : events = (before ++ made :: first) ++
      .made (.hold j (.deleteHandler handler)) v :: last := by
    rw [hEvents]
    simp
  obtain ⟨past, i, x, inner, hPast, does⟩ :=
    leaves _ _ _ hSplit ⟨j, handler, v, mask, rfl, hMem⟩
  have attended : x.Attended := by
    have permits := allowed past (.advance i) x
      (inner ++ .made (.hold j (.deleteHandler handler)) v :: last)
    refine (permits ?_).1
    rw [hSplit, hPast]
    simp
  obtain ⟨past', g, j', handler', u, rfl, givesUp, hIs⟩ :=
    cedes_advance settingMade attended does rfl
  obtain ⟨rfl, hOp, -⟩ := Event.hold_inj hIs
  cases hOp
  have hLast : before ++ made :: first = (past ++ .called (.advance i) x :: past') ++ [g] := by
    rw [hPast]
    simp
  exact not_given_up history fits marked hUnfinished hInvolves hEvents makes hKept hLast givesUp

/-- So the handler is in its table as long as its channel is open. -/
theorem hook_stays (settingMade : s.MadeOf copyParts) (history : s.Leads w events w')
    (fits : ∀ e ∈ events, e.Fits) (tidy : ∀ e ∈ events, e.Tidy) (marked : w.Marked)
    (allowed : Setting.Allowed (attendance s.toSurroundings).Permits [] events)
    (leaves : s.LeavesHooks k events) (hUnfinished : (w'.copy k).unfinished = true)
    (hInvolves : (w'.copy k).involves j = true) (hooks : Hooks k j mask handler events)
    (hOpen : (w'.channel j).isOpen = true) :
    ⟨handler, mask, .copy k⟩ ∈ (w'.channel j).handlers := by
  obtain ⟨before, made, after, rfl, makes, hKept⟩ := hooks
  have hMade : ⟨handler, mask, .copy k⟩ ∈ ((made.after s.toSurroundings).channel j).handlers := by
    obtain ⟨u, rfl, hExists, -, rfl⟩ := makes
    show _ ∈ (((Step.hold j _).run s.toSurroundings u).2.channel j).handlers
    rw [Step.handlers_createHandler mask (.copy k) hExists]
    exact List.mem_append_right _ (List.mem_singleton_self _)
  refine history.beyond.mem_handlers hMade fun e hMem hThere => ?_
  obtain ⟨first, last, rfl⟩ := List.append_of_mem hMem
  constructor
  · intro clears
    have hShut : (e.before.channel j).isOpen = false := tidy e (by simp) j clears
    have onward : s.Leads e.before (e :: last) w' := .cons e history.beyond.beyond
    have hExists : j < e.before.channels.length := by
      refine Nat.lt_of_not_le fun hAbsent => ?_
      rw [World.channel, List.getElem?_eq_none hAbsent] at hThere
      cases hThere
    rw [onward.shut hExists hShut] at hOpen
    cases hOpen
  · refine not_unhooked settingMade history fits marked allowed leaves hUnfinished hInvolves rfl
      makes (fun e' hFirst => hKept e' ?_) hThere
    exact List.mem_append_left _ hFirst

/-- A copy rests, in the background, and has noted one handler. It has no others; and this one, if
its channel is open, is in the table there, and conditions that come up for it call on the copy. -/
structure Setting.HangsOn (s : Setting σ) (k : CopyId) (j : ChannelId) (mask : Interest)
    (handler : HandlerId) (w : World σ) : Prop where
  resting : (w.copy k).phase = .resting
  background : (w.copy k).onDone?.isSome
  awaits : (w.copy k).Awaits j mask handler
  alone : ∀ i, ∀ h ∈ (w.channel i).handlers, h.callback = .copy k →
    i = j ∧ h = ⟨handler, mask, .copy k⟩
  tabled : (w.channel j).isOpen = true →
    (w.channel j).handlers.filter (·.callback = .copy k) = [⟨handler, mask, .copy k⟩]
  called : (w.channel j).isOpen = true → ∀ raised, mask.meets raised = true → ∀ events a w',
    s.Runs (notify j raised) w events a w' → ∃ v, .called (.advance k) v ∈ events

theorem Copy.Hangs.exists_awaits {c : Copy} (hangs : c.Hangs) :
    ∃ j mask handler, c.Awaits j mask handler := by
  cases hSource : c.sourceHandler? with
  | some handler => exact ⟨c.source, .reading, handler, .inl ⟨rfl, rfl, hSource⟩⟩
  | none =>
    cases hTarget : c.targetHandler? with
    | some handler => exact ⟨c.target, .writing, handler, .inr ⟨rfl, rfl, hTarget⟩⟩
    | none =>
      rw [Hangs, hSource, hTarget] at hangs
      cases hangs

theorem Copy.Hangs.awaits_unique {c : Copy} (hangs : c.Hangs) {i : ChannelId} {m : Interest}
    {id : HandlerId} (left : c.Awaits i m id) (right : c.Awaits j mask handler) :
    i = j ∧ m = mask ∧ id = handler := by
  rcases left with ⟨rfl, rfl, hLeft⟩ | ⟨rfl, rfl, hLeft⟩
  · rcases right with ⟨rfl, rfl, hRight⟩ | ⟨-, -, hRight⟩
    · exact ⟨rfl, rfl, Option.some.inj (hLeft.symm.trans hRight)⟩
    · rw [hangs.source_none hRight] at hLeft
      cases hLeft
  · rcases right with ⟨-, -, hRight⟩ | ⟨rfl, rfl, hRight⟩
    · rw [hangs.target_none hRight] at hLeft
      cases hLeft
    · exact ⟨rfl, rfl, Option.some.inj (hLeft.symm.trans hRight)⟩

/-- Whatever programs do that copy and close only by the operations for that, the channels that are
taken when they have ended are those of the copies that are not finished, and each of these copies
hangs on one handler, unless somebody has deleted that. -/
theorem copies_within_reach (settingMade : s.MadeOf unbrokenParts) {p : Program σ α}
    (made : p.MadeOf unbrokenParts) (hNone : w.copies = []) (attended : w.Attended)
    (numbered : ∀ j, (w.channel j).Numbered) {a : α} (run : s.Runs p w events a w') :
    w'.Marked ∧ ∀ k, (w'.copy k).unfinished = true → s.LeavesHooks k events →
      ∃ j mask handler, s.HangsOn k j mask handler w' := by
  have copying : s.MadeOf copyParts :=
    ⟨fun u => (settingMade.routine u).toCopyParts, fun h r => (settingMade.fire h r).toCopyParts⟩
  have closing : s.MadeOf closingParts :=
    ⟨fun u => (settingMade.routine u).toClosingParts,
      fun h r => (settingMade.fire h r).toClosingParts⟩
  obtain ⟨respects, allowed⟩ := (governs_copyParts.keeps made.toCopyParts).of_run
    (honoured_attendance copying) run attended trivial
  have tidy := tidy_of_begins closing made.toClosingParts run.begins
  have history := run.leads
  refine ⟨respects.ends.toMarked, fun k hUnfinished leaves => ?_⟩
  have hAbsent : w.copies.length ≤ k := by
    rw [hNone]
    exact Nat.zero_le k
  have hResting : (w'.copy k).phase = .resting := by
    rcases respects.fresh k hAbsent (Option.some_ne_none k).symm with hResting | hDone
    · exact hResting
    · rw [Copy.unfinished, hDone] at hUnfinished
      cases hUnfinished
  obtain ⟨hangs, background⟩ := respects.ends.rests k hResting
  obtain ⟨j, mask, handler, awaits⟩ := hangs.exists_awaits
  have alone (i : ChannelId) (h : Handler) (hMem : h ∈ (w'.channel i).handlers)
      (hCallback : h.callback = .copy k) : i = j ∧ h = ⟨handler, mask, .copy k⟩ := by
    obtain ⟨-, hNoted⟩ := respects.ends.hung i h hMem k hCallback
    obtain ⟨rfl, hMask, hId⟩ := hangs.awaits_unique (hNoted hResting) awaits
    refine ⟨rfl, ?_⟩
    cases h
    simp_all
  have hStays (hOpen : (w'.channel j).isOpen = true) :
      ⟨handler, mask, .copy k⟩ ∈ (w'.channel j).handlers := by
    rcases respects.stems k (Option.some_ne_none k).symm hResting j mask handler awaits with
      ⟨hOld, -⟩ | hooks
    · rw [World.phase_of_absent hAbsent] at hOld
      cases hOld
    · exact hook_stays copying history respects.fits tidy attended.toMarked allowed leaves
        hUnfinished awaits.involves hooks hOpen
  refine ⟨j, mask, handler, hResting, background, awaits, alone, fun hOpen => ?_,
    fun hOpen raised hMeets events' a' v notified => ?_⟩
  · have bare (e : Event σ) (hMem : e ∈ events) : e.OpensBare := (respects.fits e hMem).opensBare
    refine (history.numbered bare (numbered j)).filter_eq (hStays hOpen) (by simp) ?_
    intro h hMem hIs
    exact (alone j h hMem (of_decide_eq_true hIs)).2
  · exact calls_of_notify (hStays hOpen) hMeets notified

/-- A copy waits for input on its source, which never comes. Then one of its channels is closed. -/
def idleSetting : Setting Unit where
  driver _ call _ := match call with
    | .input _ => { answer := .error .wouldBlock, env := () }
    | call => { answer := call.unsupported, env := () }
  ready _ _ := .none
  users _ _ := false
  routine u := .done u.unit
  fire _ _ := .done ()

def idleWorld : World Unit where
  channels := [{ name := "source", type := "file", mode := .readOnly },
    { name := "target", type := "file", mode := .writeOnly }]
  env := ()

/-- Closes one channel of a copy; then the conditions that copies wait for come up on both. -/
def closingProgram (j : ChannelId) : Program Unit Unit := do
  let _ ← copyInBackground 0 1 none 0
  let _ ← close j
  notify 0 .reading
  notify 1 .writing

theorem madeOf_idleSetting : idleSetting.MadeOf unbrokenParts where
  routine _ := .done _
  fire _ _ := .done ()

theorem madeOf_closingProgram (j : ChannelId) : (closingProgram j).MadeOf unbrokenParts := by
  have operating : (unbrokenParts : Parts Unit).Operating := unbrokenParts_closing.operating
  refine MadeOf.bind (.of_whole (.inl .background)) fun _ => ?_
  refine (operating.close j).bind fun _ => ?_
  exact (operating.notify 0 .reading).bind fun _ => operating.notify 1 .writing

theorem attended_idleWorld : idleWorld.Attended := by
  refine World.attended_of_none rfl ?_
  simp [idleWorld]

theorem numbered_idleWorld (j : ChannelId) : (idleWorld.channel j).Numbered := by
  refine Channel.numbered_of_none ?_
  rw [World.channel]
  cases hAt : idleWorld.channels[j]? with
  | none => rfl
  | some c =>
    have hMem := List.mem_of_getElem? hAt
    simp only [idleWorld, List.mem_cons, List.not_mem_nil, or_false] at hMem
    rcases hMem with rfl | rfl <;> rfl

/-- When its target has been closed, the copy still hangs on the handler of its source. -/
theorem copies_within_reach_target_closed :
    ∃ events w', idleSetting.Runs (closingProgram 1) idleWorld events () w' ∧
      (w'.channel 0).isOpen = true ∧ (w'.channel 1).isOpen = false ∧
      ∃ j mask handler, idleSetting.HangsOn 0 j mask handler w' := by
  have hTrace : (idleSetting.trace 4 (closingProgram 1) idleWorld).any (fun r =>
      decide ((∀ held ∈ r.1.filterMap Event.heldFor?, held.2.deletes = false) ∧
        (r.2.2.channel 0).isOpen = true ∧ (r.2.2.channel 1).isOpen = false ∧
        (r.2.2.copy 0).unfinished = true)) = true := by
    decide +kernel
  obtain ⟨events, a, w', run, hChecked⟩ := Setting.exists_runs hTrace
  obtain ⟨hHeld, hSource, hTarget, hUnfinished⟩ := of_decide_eq_true hChecked
  refine ⟨events, w', run, hSource, hTarget, ?_⟩
  refine (copies_within_reach madeOf_idleSetting (madeOf_closingProgram 1) rfl attended_idleWorld
    numbered_idleWorld run).2 0 hUnfinished ?_
  rintro first e last rfl ⟨j, handler, u, mask, rfl, -⟩
  have hIs : Event.heldFor? (.made (.hold j (.deleteHandler handler)) u) =
      some (j, .deleteHandler handler) := rfl
  have hNot := hHeld (j, .deleteHandler handler) (List.mem_filterMap.2 ⟨_, by simp, hIs⟩)
  cases hNot

/-- When its source has been closed, the copy is not finished, but nobody has a handler for it any
more: both channels stay taken, whatever comes up for them. -/
theorem copies_out_of_reach :
    ∃ events w', idleSetting.Runs (closingProgram 0) idleWorld events () w' ∧
      (w'.copy 0).unfinished = true ∧ (w'.channel 1).isOpen = true ∧
      (w'.channel 0).copying = true ∧ (w'.channel 1).copying = true ∧
      ∀ c ∈ w'.channels, c.handlers = [] := by
  have hTrace : (idleSetting.trace 4 (closingProgram 0) idleWorld).any (fun r =>
      decide ((r.2.2.copy 0).unfinished = true ∧ (r.2.2.channel 1).isOpen = true ∧
        (r.2.2.channel 0).copying = true ∧ (r.2.2.channel 1).copying = true ∧
        ∀ c ∈ r.2.2.channels, c.handlers = [])) = true := by
    decide +kernel
  obtain ⟨events, a, w', run, hChecked⟩ := Setting.exists_runs hTrace
  exact ⟨events, w', run, of_decide_eq_true hChecked⟩

end EventChannel
