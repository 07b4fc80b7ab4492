import EventChannel.Proofs.Contract
import EventChannel.Proofs.Copy.Ground

/-! An operation of a copy is one step, with what happens before the copy goes on. What is promised
about calls bounds that: foreign routines keep apart from the copy, and an event of a busy copy
comes to nothing. -/

namespace EventChannel.Route

variable {σ : Type} {r : Route} {s : Surroundings σ} {start : World σ} {K : Contract σ}

/-- What is promised about calls makes them interludes of a busy copy. -/
structure Shields (r : Route) (s : Surroundings σ) (start : World σ) (K : Contract σ) : Prop where
  event : ∀ routine id ready past w c, r.Ground s start past w c →
    K.pre (.user (.event routine id ready)) past w
  user : ∀ u past w past' b w', K.post (.user u) past w past' b w' →
    ∃ inner, past' = past ++ .called (.user u) w :: inner ∧ s.Leads w inner w' ∧
      ∀ e ∈ inner, r.Apart e
  advance : ∀ past w c, r.Ground s start past w c → c.phase ≠ .resting →
    K.pre (.advance r.copy) past w
  busy : ∀ past w past' b w', (w.copy r.copy).phase ≠ .resting →
    K.post (.advance r.copy) past w past' b w' →
    past' = past ++ [.called (.advance r.copy) w, .made (.enterCopy r.copy) w] ∧ w' = w

/-- An assertion about a copy that outlasts what happens around a channel, events of the copy itself
among it. -/
structure Lasting (r : Route) (s : Surroundings σ) (start : World σ) (K : Contract σ)
    (id : ChannelId) (I : List (Event σ) → World σ → Prop) : Prop where
  ground : ∀ {past w}, I past w → ∃ c, r.Ground s start past w c
  interlude : ∀ {past w inner w'}, I past w → r.Interlude s id w inner w' → I (past ++ inner) w'
  advance : ∀ {past w}, I past w → K.pre (.advance r.copy) past w ∧
    ∀ past' b w', K.post (.advance r.copy) past w past' b w' → I past' w'

variable {id : ChannelId} {w w' : World σ} {past inner : List (Event σ)}
  {I : List (Event σ) → World σ → Prop}

/-- An event of a busy copy comes to nothing. -/
theorem Interlude.of_enter (id : ChannelId) (hBusy : (w.copy r.copy).phase ≠ .resting) :
    r.Interlude s id w [.made (.enterCopy r.copy) w] w := by
  have hNothing : (Step.enterCopy r.copy).run s w = (false, w) := if_neg hBusy
  have hLeads : s.Leads w [.made (.enterCopy r.copy) w] ((Step.enterCopy r.copy).run s w).2 :=
    .snoc (.made _ w) .refl
  rw [hNothing] at hLeads
  exact
    { (Interlude.refl w : r.Interlude s id w [] w) with
      leads := hLeads
      read := rfl
      written := rfl
      told := rfl
      unsought := fun e hMem => by rw [List.mem_singleton.1 hMem]; exact fun hSeeks => hSeeks
      still := fun _ => ⟨rfl, rfl, rfl⟩
      met := fun _ => rfl }

/-- A step that neither moves nor clears any channel, nor changes a copy, is an interlude. -/
theorem Interlude.of_plain {α : Type} {t : Step σ α} (there : r.There w)
    (hPlain : ∀ id, ¬t.Moves id ∧ ¬t.Clears id) (hRecopies : ¬t.Recopies r.copy) :
    r.Interlude s id w [.made t w] (t.run s w).2 :=
  .of_apart there.source there.target ⟨hPlain _, hPlain _, hRecopies⟩

/-- As long as a copy is busy, no more than interludes happen. -/
theorem Lasting.of_busy (shields : r.Shields s start K)
    (ground : ∀ {past w}, I past w → ∃ c, r.Ground s start past w c ∧ c.phase ≠ .resting)
    (interlude : ∀ {past w inner w'}, I past w → r.Interlude s id w inner w' →
      I (past ++ inner) w') : r.Lasting s start K id I where
  ground hI := (ground hI).imp fun _ h => h.1
  interlude := interlude
  advance hI := by
    obtain ⟨c, hGround, hBusy⟩ := ground hI
    refine ⟨shields.advance _ _ c hGround hBusy, fun past' b w' hPost => ?_⟩
    have hPhase := hGround.record ▸ hBusy
    obtain ⟨rfl, rfl⟩ := shields.busy _ _ past' b w' hPhase hPost
    exact interlude hI ((Interlude.of_called id _ w').trans (.of_enter id hPhase))

/-- What outlasts the events around a channel outlasts the calls of its handlers. -/
theorem wp_deliver (shields : r.Shields s start K) (lasting : r.Lasting s start K id I)
    (targets : List (Interest × Callback))
    (hOnly : ∀ target ∈ targets, ∀ j, target.2 = .copy j → j = r.copy) (hI : I past w)
    {Q : List (Event σ) → Unit → World σ → Prop} (hQ : ∀ past' w', I past' w' → Q past' () w') :
    (Program.deliver id targets).wp s K Q past w := by
  induction targets generalizing past w with
  | nil => exact hQ past w hI
  | cons target rest ih =>
    have hRest : ∀ target ∈ rest, ∀ j, target.2 = .copy j → j = r.copy :=
      fun target hMem => hOnly target (List.mem_cons_of_mem _ hMem)
    obtain ⟨c, ground⟩ := lasting.ground hI
    obtain ⟨ready, routine | j⟩ := target
    · refine ⟨shields.event _ _ _ _ _ c ground, fun past' b w₁ hPost => ?_⟩
      obtain ⟨inner, rfl, history, apart⟩ := shields.user _ _ _ _ _ _ hPost
      exact ih hRest (lasting.interlude hI
        ((Interlude.of_called id _ w).trans (.of_leads history ground.source ground.target apart)))
    · obtain rfl : j = r.copy := hOnly _ List.mem_cons_self j rfl
      obtain ⟨hPre, hAdvanced⟩ := lasting.advance hI
      refine ⟨hPre, fun past' b w₁ hPost => ?_⟩
      have hI₁ := hAdvanced past' b w₁ hPost
      obtain ⟨c₁, ground₁⟩ := lasting.ground hI₁
      exact ih hRest (lasting.interlude hI₁ (.of_plain (t := .letGo (.copy r.copy))
        ground₁.toThere (fun _ => ⟨not_false, not_false⟩) not_false))

/-- When conditions come up on a channel, its output may be written and its handlers are called. -/
theorem wp_notify (shields : r.Shields s start K) (lasting : r.Lasting s start K id I)
    (hId : id = r.source ∨ id = r.target) (raised : Interest) (hI : I past w)
    {Q : List (Event σ) → Unit → World σ → Prop} (hQ : ∀ past' w', I past' w' → Q past' () w') :
    (Program.notify id raised).wp s K Q past w := by
  obtain ⟨c, ground⟩ := lasting.ground hI
  have hExists := ground.exists hId
  have interlude : r.Interlude s id w [.made (.raise id raised) w]
      ((Step.raise id raised).run s w).2 := by
    rcases hId with rfl | rfl
    · exact .of_raise_source raised ground.source ground.target
    · exact .of_raise_target raised ground.source ground.target
  refine wp_deliver shields lasting _ ?_ (lasting.interlude hI interlude) hQ
  rw [(Step.raise_shows s w raised hExists).2]
  intro target hMem j hCopy
  obtain ⟨handler, hHandler, rfl⟩ := List.mem_map.1 hMem
  have hThere := interlude.there ground.toThere
  exact hThere.callsOnly hId handler (List.mem_filter.1 hHandler).1 j hCopy

/-- An operation on one of the channels is a step with what happens before its caller goes on. -/
theorem wp_hold (shields : r.Shields s start K) (lasting : r.Lasting s start K id I)
    (hId : id = r.source ∨ id = r.target) (op : ChannelOp)
    (hI : I (past ++ [.made (.hold id op) w]) ((Step.hold id op).run s w).2)
    {Q : List (Event σ) → op.Answer → World σ → Prop}
    (hQ : ∀ past' w', I past' w' → Q past' ((Step.hold id op).run s w).1.1 w') :
    (Program.hold id op).wp s K Q past w := by
  show Program.wp s K _ Q (past ++ [.made (.hold id op) w]) ((Step.hold id op).run s w).2
  simp only
  split
  · exact hQ _ _ hI
  · exact Program.wp_bind.2 (wp_notify shields lasting hId _ hI hQ)

end EventChannel.Route
