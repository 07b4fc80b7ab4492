import EventChannel.Proofs.Tcp.Opening

/-! All that a life does to the state of a stream channel, and to the system around it, one after
the other: each call to its driver and each handler that is called is a turn of its own. What a
channel is asked in the middle of an operation can so be told apart from what it is asked before and
after. -/

namespace EventChannel

variable {σ ν : Type}

/-- Something done to the state of a stream channel, or to the system around it. -/
inductive Turn (ν : Type)
  | called (call : DriverCall)
  | fired (handler : FileHandler) (ready : Interest)
  | around (net : ν)

namespace TcpHeld

/-- The state as it is put in its place after some work. -/
def rested (h : TcpHeld ν) : TcpHeld ν where
  state := { h.state with forward := .none }
  net := h.net

end TcpHeld

namespace Turn

/-- What a turn leaves. -/
def made (system : StreamSystem ν) (id : ChannelId) : Turn ν → TcpHeld ν → TcpHeld ν
  | called call, h => (TcpHeld.perform system id call h).2.rested
  | fired handler ready, h => (h.fire system ready handler).rested
  | around net, h => { h with net }

/-- The call that a turn is, with its answer. -/
def event? (system : StreamSystem ν) (id : ChannelId) : Turn ν → TcpHeld ν → Option DriverEvent
  | called call, h => some ⟨call, (TcpHeld.perform system id call h).1⟩
  | fired _ _, _ | around _, _ => none

/-- A handler belongs to the channel, and is one for its kind. -/
def Suits (id : ChannelId) (h : TcpHeld ν) : Turn ν → Prop
  | fired handler _ => handler.channel? = some id ∧ h.state.Suits handler
  | called _ | around _ => True

end Turn

namespace TcpHeld

variable (system : StreamSystem ν) (id : ChannelId)

/-- What some turns leave. -/
def after (h : TcpHeld ν) (turns : List (Turn ν)) : TcpHeld ν :=
  turns.foldl (fun h turn => turn.made system id h) h

/-- The calls in some turns, with their answers. -/
def answers : TcpHeld ν → List (Turn ν) → List DriverEvent
  | _, [] => []
  | h, turn :: rest => (turn.event? system id h).toList ++ answers (turn.made system id h) rest

/-- All handlers suit the channel when they are called. -/
def Admits : TcpHeld ν → List (Turn ν) → Prop
  | _, [] => True
  | h, turn :: rest => turn.Suits id h ∧ Admits (turn.made system id h) rest

variable {system id} {h : TcpHeld ν}

@[simp] theorem after_nil : h.after system id [] = h := rfl

@[simp] theorem after_cons (turn : Turn ν) (rest : List (Turn ν)) :
    h.after system id (turn :: rest) = (turn.made system id h).after system id rest := rfl

@[simp] theorem after_append (first second : List (Turn ν)) :
    h.after system id (first ++ second) = (h.after system id first).after system id second :=
  List.foldl_append

theorem answers_append (first second : List (Turn ν)) :
    h.answers system id (first ++ second) =
      h.answers system id first ++ (h.after system id first).answers system id second := by
  induction first generalizing h with
  | nil => rfl
  | cons turn rest ih => simp [answers, ih]

theorem admits_append (first second : List (Turn ν)) :
    h.Admits system id (first ++ second) ↔
      h.Admits system id first ∧ (h.after system id first).Admits system id second := by
  induction first generalizing h with
  | nil => simp [Admits]
  | cons turn rest ih => simp [Admits, ih, and_assoc]

end TcpHeld

/-- The turns that an event is made of. -/
def StreamEvent.turns (site : TcpSite σ ν) (s : Surroundings σ) (id : ChannelId) :
    StreamEvent σ → List (Turn ν)
  | made t w => ((t.calls s id w).map (·.call)).map .called
  | fired handler ready _ => [.fired handler ready]
  | elsewhere _ w' => [.around (site.net w'.env)]

namespace TcpSite

/-- All turns of a stream channel, one after the other. -/
def turns (site : TcpSite σ ν) (s : Surroundings σ) (id : ChannelId)
    (events : List (StreamEvent σ)) : List (Turn ν) :=
  events.flatMap (·.turns site s id)

/-- The state of a stream channel with the system, between two turns. -/
def held? (site : TcpSite σ ν) (id : ChannelId) (env : σ) : Option (TcpHeld ν) :=
  (site.state? id env).map fun t => { state := t, net := site.net env }

variable {site : TcpSite σ ν} {s : Surroundings σ} {id : ChannelId} {h : TcpHeld ν} {env : σ}

theorem held?_of_state {t : TcpState} (hState : site.state? id env = some t) :
    site.held? id env = some { state := t, net := site.net env } := by
  rw [held?, hState]
  rfl

theorem state?_of_held (hHeld : site.held? id env = some h) :
    site.state? id env = some h.state ∧ h = { state := h.state, net := site.net env } := by
  obtain ⟨t, hState, rfl⟩ := Option.map_eq_some_iff.1 hHeld
  exact ⟨hState, rfl⟩

theorem Lawful.held?_settle (lawful : site.Lawful) (id : ChannelId) (h : TcpHeld ν)
    (p : EventLoops × σ) : site.held? id (site.settle id h p).2 = some h.rested := by
  rw [held?_of_state (lawful.state?_settle id h p), lawful.net_settle]
  rfl

/-- Some turns lead a stream channel from a state to an environment, and the calls among them are
answered so. -/
structure Unfolds (site : TcpSite σ ν) (id : ChannelId) (h : TcpHeld ν) (turns : List (Turn ν))
    (calls : List DriverEvent) (env : σ) : Prop where
  held : site.held? id env = some (h.after site.system id turns)
  answers : h.answers site.system id turns = calls
  admits : h.Admits site.system id turns

namespace Unfolds

variable {turns : List (Turn ν)} {calls : List DriverEvent}

theorem refl (hHeld : site.held? id env = some h) : site.Unfolds id h [] [] env :=
  ⟨hHeld, rfl, trivial⟩

theorem snoc {env' : σ} (prior : site.Unfolds id h turns calls env) (turn : Turn ν)
    (hSuits : turn.Suits id (h.after site.system id turns))
    (hHeld : site.held? id env' = some (turn.made site.system id (h.after site.system id turns))) :
    site.Unfolds id h (turns ++ [turn])
      (calls ++ (turn.event? site.system id (h.after site.system id turns)).toList) env' where
  held := by rw [hHeld, TcpHeld.after_append]; rfl
  answers := by
    rw [TcpHeld.answers_append, prior.answers]
    simp [TcpHeld.answers]
  admits := (TcpHeld.admits_append _ _).2 ⟨prior.admits, hSuits, trivial⟩

/-- A call to the driver is a turn. -/
theorem call (lawful : site.Lawful) (hDriver : s.driver id = site.driver id) {p : EventLoops × σ}
    (prior : site.Unfolds id h turns calls p.2) (call : DriverCall) :
    site.Unfolds id h (turns ++ [.called call]) (calls ++ [⟨call, (s.driver id call p.2).answer⟩])
      (s.driver id call p.2).env := by
  obtain ⟨hState, hSame⟩ := state?_of_held prior.held
  obtain ⟨hAnswer, hSettles⟩ := site.driver_settles hState call
  have hEnv : (site.driver id call p.2).env = _ := congrArg Prod.snd hSettles
  rw [← hSame] at hAnswer hEnv
  rw [hDriver, hAnswer, hEnv]
  exact prior.snoc (.called call) trivial (lawful.held?_settle id _ p)

theorem performs (lawful : site.Lawful) (hDriver : s.driver id = site.driver id)
    {p q : EventLoops × σ} {more : List DriverEvent} (prior : site.Unfolds id h turns calls p.2)
    (performs : (s.driver id).Performs p more q) :
    site.Unfolds id h (turns ++ (more.map (·.call)).map .called) (calls ++ more) q.2 := by
  induction performs with
  | refl => simpa using prior
  | @snoc more q _ call ih =>
    rw [List.map_append, List.map_append, ← List.append_assoc, ← List.append_assoc]
    exact Unfolds.call lawful hDriver ih call

end Unfolds

/-- The turns of a life lead from where it begins to where it ends, and its calls to the driver are
answered as in its turns. -/
theorem Life.unfolds {start w : World σ} {held own : Tenure} {events : List (StreamEvent σ)}
    (life : site.Life s id start held events own w) (lawful : site.Lawful)
    (hDriver : s.driver id = site.driver id) (hHeld : site.held? id start.env = some h) :
    site.Unfolds id h (site.turns s id events) (driverCalls s id events) w.env := by
  induction life with
  | refl => exact .refl hHeld
  | @made events own w prior α t hOwn ih =>
    have hPerforms := ih.performs lawful hDriver (t.run_performs hOwn)
    simpa [turns, StreamEvent.turns, StreamEvent.calls] using hPerforms
  | @fired events own w prior handler ready hOwn hSuits ih =>
    obtain ⟨hState, hSame⟩ := state?_of_held ih.held
    have hLeft : site.held? id (site.worked id (·.fire site.system ready handler) w).env =
        some ((Turn.fired handler ready).made site.system id
          (h.after site.system id (site.turns s id events))) := by
      rw [worked, hState]
      dsimp only
      rw [← hSame, lawful.held?_settle]
      rfl
    have hFired := ih.snoc (.fired handler ready) ⟨hOwn, hSuits _ hState⟩ hLeft
    simpa [turns, StreamEvent.turns, StreamEvent.calls, Turn.event?] using hFired
  | @elsewhere events own w w' prior apart ih =>
    obtain ⟨hState, hSame⟩ := state?_of_held ih.held
    have hLeft : site.held? id w'.env = some ((Turn.around (site.net w'.env)).made site.system id
        (h.after site.system id (site.turns s id events))) := by
      rw [held?_of_state (apart.state.trans hState), hSame]
      rfl
    have hPassed := ih.snoc (.around (site.net w'.env)) trivial hLeft
    simpa [turns, StreamEvent.turns, StreamEvent.calls, Turn.event?] using hPassed

end TcpSite

end EventChannel
