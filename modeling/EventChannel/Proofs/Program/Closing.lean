import EventChannel.Proofs.Program.Discipline
import EventChannel.Proofs.World.Watch

/-! The last act of closing a channel is to clear its handlers away. Programs that do so only then
clear no handlers of an open channel away, whatever they call meanwhile and whichever channels they
make. -/

namespace EventChannel

open Program

variable {σ α β : Type}

/-- The operation that closes a channel. -/
inductive CloseWhole : {α : Type} → Program σ α → Prop
  | closed {j : ChannelId} : CloseWhole (close j)

/-- What programs are made of that clear handlers away only in closing. -/
def closingParts : Parts σ where
  step t := ¬t.ClearsAway
  call _ := True
  whole := CloseWhole

/-- What is done in closing, but for the last act. -/
def openingParts : Parts σ where
  step t := ¬t.ClearsAway
  call _ := True
  whole _ := False

theorem closingParts_closing : (closingParts : Parts σ).Closing where
  step _ _ := id
  call _ _ := trivial
  close _ := .of_whole .closed

theorem closingParts_copying : (closingParts : Parts σ).Copying where
  toTransfers := closingParts_closing.operating.toTransfers
  step t ofCopies := by
    cases t with
    | clearHandlers j => cases ofCopies
    | _ => exact not_false
  call _ _ := trivial
  leaving j handler := closingParts_closing.operating.operate j (.deleteHandler handler) trivial
  waiting j mask k :=
    closingParts_closing.notifying.hold j (.createHandler mask (.copy k)) not_false

theorem openingParts_simple : (openingParts : Parts σ).Simple where
  step _ _ := id
  call _ _ := trivial

/-- No handlers of an open channel are cleared away in the event. -/
def Event.Tidy (e : Event σ) : Prop := ∀ j, e.Clears j → (e.before.channel j).isOpen = false

/-- What programs keep to that clear handlers away only in closing. -/
def tidiness (s : Surroundings σ) : Discipline σ where
  world _ := True
  event := Event.Tidy
  due _ _ _ := True
  course w events w' := s.Leads w events w' ∧ ∀ e ∈ events, e.Tidy
  refl _ := ⟨.refl, fun _ hMem => nomatch hMem⟩
  trans left right := ⟨left.1.trans right.1, List.forall_mem_append.2 ⟨left.2, right.2⟩⟩
  called _ := ⟨.cons (.called _ _) .refl, List.forall_mem_singleton.2 fun _ => False.elim⟩
  ends _ := trivial
  each course := course.2

section

variable {s : Setting σ} {w w' : World σ} {P : World σ → Prop}

/-- A channel that is closed for good. -/
def World.Shut (w : World σ) (j : ChannelId) : Prop :=
  j < w.channels.length ∧ (w.channel j).isOpen = false

theorem stable_exists (j : ChannelId) :
    (tidiness s.toSurroundings).Stable fun w => j < w.channels.length := by
  intro w events w' hExists course
  exact Nat.lt_of_lt_of_le hExists course.1.length

theorem stable_shut (j : ChannelId) : (tidiness s.toSurroundings).Stable (World.Shut · j) := by
  intro w events w' shut course
  exact ⟨Nat.lt_of_lt_of_le shut.1 course.1.length, course.1.shut shut.1 shut.2⟩

theorem tidy_made {t : Step σ α} (hTidy : Event.Tidy (.made t w)) :
    (tidiness s.toSurroundings).course w [.made t w] (t.run s.toSurroundings w).2 :=
  ⟨.cons (.made t w) .refl, List.forall_mem_singleton.2 hTidy⟩

theorem tidy_of_not {t : Step σ α} (hNot : ¬t.ClearsAway) : Event.Tidy (.made t w) := by
  intro j hClears
  cases t with
  | clearHandlers i => exact absurd trivial hNot
  | _ => cases hClears

theorem governs_openingParts (stable : (tidiness s.toSurroundings).Stable P) :
    (tidiness s.toSurroundings).Governs s P openingParts where
  stable := stable
  step _ _ allowed _ _ := tidy_made (tidy_of_not allowed)
  call _ _ _ _ _ _ := trivial
  whole _ allowed := absurd allowed not_false

/-- When the handlers are cleared away, the channel is closed. -/
theorem keeps_close (j : ChannelId) :
    (tidiness s.toSurroundings).Keeps s (fun _ => True) (close j) := by
  intro past w _ _ hPast
  have taken : (tidiness s.toSurroundings).Since past w (past ++ [.made (.takeCloseActions j) w])
      ((Step.takeCloseActions j).run s.toSurroundings w).2 :=
    ⟨_, rfl, tidy_made (tidy_of_not not_false)⟩
  apply wp_act.2
  cases hOpen : (w.channel j).isOpen with
  | false =>
    rw [Step.takeCloseActions_of_shut hOpen] at taken ⊢
    exact taken
  | true =>
    rw [Step.takeCloseActions_of_open hOpen] at taken ⊢
    have hExists : j < (w.modifyChannel j ({ · with closeActions := [] })).channels.length := by
      rw [World.length_modifyChannel]
      exact World.exists_of_isOpen hOpen
    have simple : (openingParts : Parts σ).Simple := openingParts_simple
    have acts := (governs_openingParts (s := s) (stable_exists j)).keeps
      (simple.ordinary.runCloseActions (w.channel j).closeActions)
    refine Discipline.wp_bind_of acts trivial hExists (taken.each hPast) fun past₁ _ w₁ acted => ?_
    have hThere := acted.stable (stable_exists j) hExists
    have shutting : (tidiness s.toSurroundings).Since past₁ w₁ (past₁ ++ [.made (.hold j .shut) w₁])
        ((Step.hold j .shut).run s.toSurroundings w₁).2 :=
      ⟨_, rfl, tidy_made (tidy_of_not not_false)⟩
    have shut : ((Step.hold j .shut).run s.toSurroundings w₁).2.Shut j :=
      ⟨Nat.lt_of_lt_of_le hThere (Step.length_run _ _ w₁),
        Step.Shuts.shut (t := .hold j .shut) ⟨rfl, rfl⟩ hThere⟩
    have notifies (raised : Interest) := (governs_openingParts (s := s) (stable_shut j)).keeps
      (simple.notifying.notify j raised)
    have passed := (taken.trans acted).trans shutting
    refine Discipline.wp_hold_bind notifies trivial shut (passed.each hPast)
      fun past₂ w₂ notified => ?_
    have hShut := notified.stable (stable_shut j) shut
    refine (passed.trans notified).trans ⟨_, rfl, tidy_made (t := .clearHandlers j) ?_⟩
    rintro i rfl
    exact hShut.2

theorem governs_closingParts :
    (tidiness s.toSurroundings).Governs s (fun _ => True) closingParts where
  stable _ _ := trivial
  step _ _ allowed _ _ := tidy_made (tidy_of_not allowed)
  call _ _ _ _ _ _ := trivial
  whole _ allowed := by
    cases allowed with
    | closed => exact keeps_close _

theorem honoured_tidiness (made : s.MadeOf closingParts) :
    (tidiness s.toSurroundings).Honoured s :=
  Discipline.honoured_of fun c _ _ permits =>
    have body := made.body closingParts_copying.starting (fun _ _ => trivial) c
    (governs_closingParts.keeps body).called trivial permits

/-- No handlers of an open channel are ever cleared away. -/
theorem tidy_of_begins (made : s.MadeOf closingParts) {p : Program σ α}
    (hMade : p.MadeOf closingParts) {events : List (Event σ)} (run : s.Begins p w events w') :
    ∀ e ∈ events, e.Tidy :=
  ((governs_closingParts.keeps hMade).of_begins (honoured_tidiness made) run trivial trivial).1

end

end EventChannel
