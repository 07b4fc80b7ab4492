import EventChannel.Proofs.Tcp.Entries
import EventChannel.Proofs.World.Modes

/-! What can happen to a stream channel, in any order: its own operations, its handlers being called
by event loops, and whatever happens elsewhere and leaves the channel alone. A fact about its state,
the system and its registrations that each call to its driver keeps, and each of its handlers, holds
as long as it lives. -/

namespace EventChannel

variable {σ ν α : Type}

namespace TcpEnv

theorem state?_setState (env : TcpEnv ν) (id : ChannelId) (t : TcpState) :
    (env.setState id t).state? id = some t := by
  simp [setState, state?]

end TcpEnv

namespace TcpSite

/-- The place gives back what was put there, and telling it of a command changes nothing there. -/
structure Lawful (site : TcpSite σ ν) : Prop where
  get_set : ∀ tcp env, site.get (site.set tcp env) = tcp
  get_note : ∀ c env, site.get (site.note c env) = site.get env

theorem Lawful.get_noteAll {site : TcpSite σ ν} (lawful : site.Lawful)
    (commands : List LoopCommand) (env : σ) :
    site.get (site.noteAll commands env) = site.get env := by
  induction commands generalizing env with
  | nil => rfl
  | cons c rest ih => rw [noteAll, List.foldl_cons, ← noteAll, ih, lawful.get_note]

/-- The state that a stream channel has in an environment. -/
def state? (site : TcpSite σ ν) (id : ChannelId) (env : σ) : Option TcpState :=
  (site.get env).state? id

/-- The system as an environment has it. -/
def net (site : TcpSite σ ν) (env : σ) : ν := (site.get env).net

/-- Event loops and environment when the state of a channel has been worked on. -/
def settle (site : TcpSite σ ν) (id : ChannelId) (h : TcpHeld ν) (p : EventLoops × σ) :
    EventLoops × σ :=
  (p.1.applyAll h.commands, site.noteAll h.commands (site.set
    ({ site.get p.2 with net := h.net }.setState id { h.state with forward := .none }) p.2))

theorem Lawful.state?_settle {site : TcpSite σ ν} (lawful : site.Lawful) (id : ChannelId)
    (h : TcpHeld ν) (p : EventLoops × σ) :
    site.state? id (site.settle id h p).2 = some { h.state with forward := .none } := by
  rw [state?, settle, lawful.get_noteAll, lawful.get_set, TcpEnv.state?_setState]

theorem Lawful.net_settle {site : TcpSite σ ν} (lawful : site.Lawful) (id : ChannelId)
    (h : TcpHeld ν) (p : EventLoops × σ) : site.net (site.settle id h p).2 = h.net := by
  rw [net, settle, lawful.get_noteAll, lawful.get_set]
  rfl

/-- A call to the driver of a channel that has a state works on that state. -/
theorem driver_settles (site : TcpSite σ ν) {id : ChannelId} {t : TcpState} {p : EventLoops × σ}
    (hState : site.state? id p.2 = some t) (call : DriverCall) :
    (site.driver id call p.2).answer =
        (TcpHeld.perform site.system id call { state := t, net := site.net p.2 }).1 ∧
      (p.1.applyAll (site.driver id call p.2).commands, (site.driver id call p.2).env) =
        site.settle id
          (TcpHeld.perform site.system id call { state := t, net := site.net p.2 }).2 p := by
  have hDriven : tcpDriver site.system id call (site.get p.2) =
      (site.get p.2).work id t (TcpHeld.perform site.system id call) := by
    rw [tcpDriver, show (site.get p.2).state? id = some t from hState]
  rw [driver]
  dsimp only
  rw [hDriven]
  exact ⟨rfl, rfl⟩

/-- A world after the state of a channel has been worked on. -/
def worked (site : TcpSite σ ν) (id : ChannelId) (f : TcpHeld ν → TcpHeld ν) (w : World σ) :
    World σ :=
  match site.state? id w.env with
  | none => w
  | some t =>
    let p := site.settle id (f { state := t, net := site.net w.env }) (w.loops, w.env)
    { w with loops := p.1, env := p.2 }

theorem run_runCommands (s : Surroundings σ)
    (callee : (c : Call) → World σ → Option (c.Answer × World σ)) (commands : List LoopCommand)
    (w : World σ) : (runCommands commands).run s callee w =
      some ((), { w with loops := w.loops.applyAll commands }) := by
  induction commands generalizing w with
  | nil => rfl
  | cons c rest ih =>
    show (runCommands rest).run s callee ((Step.command c).run s w).2 = _
    rw [ih]
    rfl

/-- Tells a channel of conditions that are to be passed on, if there are any. -/
def passOn (id : ChannelId) (raised : Interest) : Program σ Unit :=
  if !raised.isEmpty then Program.notifyFromDriver id raised else .done ()

@[simp] theorem passOn_none (id : ChannelId) : (passOn id .none : Program σ Unit) = .done () := rfl

/-- Working on a state is one change of the world, before the channel is told of the conditions that
are to be passed on. -/
theorem run_work (site : TcpSite σ ν) (s : Surroundings σ)
    (callee : (c : Call) → World σ → Option (c.Answer × World σ)) {id : ChannelId}
    (f : TcpHeld ν → α × TcpHeld ν) {w : World σ} {t : TcpState}
    (hState : site.state? id w.env = some t) :
    let r := f { state := t, net := site.net w.env }
    (site.work id f).run s callee w =
      ((passOn id r.2.state.forward).run s callee (site.worked id (fun h => (f h).2) w)).map
        fun (_, w) => (some r.1, w) := by
  intro r
  have hFound : (site.get w.env).state? id = some t := hState
  have hResult : f { state := t, net := (site.get w.env).net } = r := rfl
  have hWorked : site.worked id (fun h => (f h).2) w =
      { w with
        loops := (site.settle id r.2 (w.loops, w.env)).1
        env := (site.settle id r.2 (w.loops, w.env)).2 } := by
    rw [worked, hState]
  rw [hWorked]
  show (Program.bind _ _).run s callee w = _
  rw [Program.run_bind]
  simp only [Program.act, Program.run, Step.run, hFound, TcpEnv.work, hResult, Option.bind_some]
  show (Program.bind _ _).run s callee _ = _
  rw [Program.run_bind, run_runCommands, Option.bind_some, passOn]
  by_cases hRaised : (!r.2.state.forward.isEmpty) = true
  · rw [if_pos hRaised, if_pos hRaised]
    show (Program.bind (Program.notifyFromDriver id r.2.state.forward)
      fun _ => .done (some r.1)).run s callee _ = _
    rw [Program.run_bind, Option.map_eq_bind]
    rfl
  · rw [if_neg hRaised, if_neg hRaised]
    rfl

/-- What a handler has still to do when it has worked on a state: it tells the channel of the
conditions that its descriptor means, or makes a channel of the connection it has taken. -/
def afterwards (site : TcpSite σ ν) (ready : Interest) (h : TcpHeld ν) :
    FileHandler → Program σ Unit
  | .routine _ | .connecting _ _ => .done ()
  | .traffic self epoch => passOn self (trafficMask site.system epoch ready h).1
  | .accepting _ epoch index =>
    match (takeConnection site.system epoch index h).1 with
    | some accepted => site.welcome accepted
    | none => .done ()

/-- What follows the work on a state is done when the conditions have been passed on. -/
theorem run_work_bind (site : TcpSite σ ν) (s : Surroundings σ)
    (callee : (c : Call) → World σ → Option (c.Answer × World σ)) {id : ChannelId}
    (f : TcpHeld ν → α × TcpHeld ν) (next : Option α → Program σ Unit) {w : World σ}
    {t : TcpState} (hState : site.state? id w.env = some t) :
    let r := f { state := t, net := site.net w.env }
    ((site.work id f).bind next).run s callee w =
      ((passOn id r.2.state.forward).bind fun _ => next (some r.1)).run s callee
        (site.worked id (fun h => (f h).2) w) := by
  intro r
  rw [Program.run_bind, Program.run_bind, run_work site s callee f hState, Option.bind_map]
  rfl

/-- A handler first works on the state of its channel, which is one change of the world. Then it
passes on the conditions, and does what is left to do. -/
theorem run_fire (site : TcpSite σ ν) (s : Surroundings σ)
    (callee : (c : Call) → World σ → Option (c.Answer × World σ)) {id : ChannelId}
    {handler : FileHandler} (ready : Interest) {w : World σ} {t : TcpState}
    (hOwn : handler.channel? = some id) (hState : site.state? id w.env = some t) :
    let h : TcpHeld ν := { state := t, net := site.net w.env }
    (site.fire handler ready).run s callee w =
      ((passOn id (h.fire site.system ready handler).state.forward).bind fun _ =>
        site.afterwards ready h handler).run s callee
          (site.worked id (·.fire site.system ready handler) w) := by
  intro h
  cases handler with
  | routine r => cases hOwn
  | connecting self epoch =>
    obtain rfl : self = id := Option.some.inj hOwn
    let goesOn (h : TcpHeld ν) : Unit × TcpHeld ν :=
      ((), if h.state.epoch = epoch then h.continueConnect site.system self else h)
    exact site.run_work_bind s callee goesOn _ hState
  | traffic self epoch =>
    obtain rfl : self = id := Option.some.inj hOwn
    exact site.run_work_bind s callee (trafficMask site.system epoch ready) _ hState
  | accepting self epoch index =>
    obtain rfl : self = id := Option.some.inj hOwn
    refine (site.run_work_bind s callee (takeConnection site.system epoch index) _ hState).trans ?_
    congr 2
    funext _
    unfold afterwards
    dsimp only
    cases (takeConnection site.system epoch index h).1 <;> rfl

/-- A handler whose channel has no state anymore does nothing. -/
theorem run_fire_of_gone (site : TcpSite σ ν) (s : Surroundings σ)
    (callee : (c : Call) → World σ → Option (c.Answer × World σ)) {id : ChannelId}
    {handler : FileHandler} (ready : Interest) {w : World σ}
    (hOwn : handler.channel? = some id) (hGone : site.state? id w.env = none) :
    (site.fire handler ready).run s callee w = some ((), w) := by
  have hFound : (site.get w.env).state? id = none := hGone
  have hIdle {α : Type} (f : TcpHeld ν → α × TcpHeld ν) (next : Option α → Program σ Unit) :
      ((site.work id f).bind next).run s callee w = (next none).run s callee w := by
    show (Program.bind (Program.bind _ _) next).run s callee w = _
    simp only [Program.run_bind, Program.act, Program.run, Step.run, hFound]
    rfl
  cases handler with
  | routine r => cases hOwn
  | connecting self epoch | traffic self epoch | accepting self epoch index =>
    obtain rfl : self = id := Option.some.inj hOwn
    exact hIdle _ _

/-- What others leave alone about a channel: its state, what is not merely noted about it, and the
registrations it has made. -/
structure Apart (site : TcpSite σ ν) (id : ChannelId) (own : Tenure) (w w' : World σ) : Prop where
  state : site.state? id w'.env = site.state? id w.env
  bare : (w'.channel id).bare = (w.channel id).bare
  channels : w.channels.length ≤ w'.channels.length
  loops : w.loops.length ≤ w'.loops.length
  sound : ∀ loop, (w'.loops.get loop).Sound
  registers : ∀ loop fd mask,
    w'.loops.Registers own loop fd mask ↔ w.loops.Registers own loop fd mask

end TcpSite

/-- Something that happens to a stream channel or around it: a step that concerns it is made, one of
its handlers is called, or something happens elsewhere. The call of a handler stands for the work it
does on the state (`TcpSite.run_fire`). The steps it makes after that are events of their own. -/
inductive StreamEvent (σ : Type) : Type 1
  | made {α : Type} (t : Step σ α) (before : World σ)
  | fired (handler : FileHandler) (ready : Interest) (before : World σ)
  | elsewhere (before after : World σ)

/-- The calls to the driver of the channel in an event. Handlers work on the state behind it. -/
def StreamEvent.calls (s : Surroundings σ) (id : ChannelId) : StreamEvent σ → List DriverEvent
  | made t w => t.calls s id w
  | fired _ _ _ | elsewhere _ _ => []

/-- All calls to the driver of the channel, one after the other. -/
def driverCalls (s : Surroundings σ) (id : ChannelId) (events : List (StreamEvent σ)) :
    List DriverEvent :=
  events.flatMap (·.calls s id)

@[simp] theorem driverCalls_nil (s : Surroundings σ) (id : ChannelId) :
    driverCalls s id [] = [] := rfl

@[simp] theorem driverCalls_append (s : Surroundings σ) (id : ChannelId)
    (first second : List (StreamEvent σ)) :
    driverCalls s id (first ++ second) = driverCalls s id first ++ driverCalls s id second :=
  List.flatMap_append

@[simp] theorem driverCalls_cons (s : Surroundings σ) (id : ChannelId) (e : StreamEvent σ)
    (events : List (StreamEvent σ)) :
    driverCalls s id (e :: events) = e.calls s id ++ driverCalls s id events :=
  List.flatMap_cons

/-- What happens to a stream channel from one world on, with the registrations it has made and the
world it leads to. -/
inductive TcpSite.Life (site : TcpSite σ ν) (s : Surroundings σ) (id : ChannelId)
    (start : World σ) (held : Tenure) : List (StreamEvent σ) → Tenure → World σ → Prop
  | refl : Life site s id start held [] held start
  | made {events : List (StreamEvent σ)} {own : Tenure} {w : World σ}
      (prior : Life site s id start held events own w) {α : Type} (t : Step σ α)
      (hOwn : t.Moves id ∨ t.Asks id) :
      Life site s id start held (events ++ [.made t w])
        (own.since w.loops (t.run s w).2.loops) (t.run s w).2
  | fired {events : List (StreamEvent σ)} {own : Tenure} {w : World σ}
      (prior : Life site s id start held events own w) (handler : FileHandler) (ready : Interest)
      (hOwn : handler.channel? = some id)
      (hSuits : ∀ t, site.state? id w.env = some t → t.Suits handler) :
      Life site s id start held (events ++ [.fired handler ready w])
        (own.since w.loops (site.worked id (·.fire site.system ready handler) w).loops)
        (site.worked id (·.fire site.system ready handler) w)
  | elsewhere {events : List (StreamEvent σ)} {own : Tenure} {w w' : World σ}
      (prior : Life site s id start held events own w) (apart : site.Apart id own w w') :
      Life site s id start held (events ++ [.elsewhere w w']) own w'

namespace Step

variable {s : Surroundings σ} {w : World σ} {id : ChannelId}

theorem loops_graspCopies (targets : List (Interest × Callback)) :
    (w.graspCopies targets).loops = w.loops ∧ (w.graspCopies targets).env = w.env := by
  unfold World.graspCopies
  refine Prod.mk.inj (World.foldl_keeps (fun w => (w.loops, w.env)) (fun w target => ?_) targets)
  obtain ⟨ready, _ | k⟩ := target <;> rfl

/-- A step that concerns a channel reaches event loops and environment by the calls to its
driver. -/
theorem run_performs (t : Step σ α) (hOwn : t.Moves id ∨ t.Asks id) :
    (s.driver id).Performs (w.loops, w.env) (t.calls s id w)
      ((t.run s w).2.loops, (t.run s w).2.env) := by
  cases t with
  | hold j op =>
    obtain rfl : j = id := hOwn.resolve_right fun h => h
    rw [calls, if_pos rfl]
    exact Held.perform_performs (s.driver j) (w.held j) op
  | raise j raised =>
    obtain rfl : j = id := hOwn.resolve_right fun h => h
    have hHeld : (((Step.raise j raised).run s w).2.loops, ((Step.raise j raised).run s w).2.env) =
        (((w.held j).flushInBackground (s.driver j) raised).loops,
          ((w.held j).flushInBackground (s.driver j) raised).env) :=
      Prod.ext (loops_graspCopies _).1 (loops_graspCopies _).2
    rw [calls, if_pos rfl, hHeld]
    exact Held.flushInBackground_performs (s.driver j) (w.held j) raised
  | handle j d =>
    obtain rfl : j = id := hOwn.resolve_left fun h => h
    by_cases hOpen : (w.channel j).isOpen = true
    · rw [calls, if_pos ⟨rfl, hOpen⟩, run, if_pos hOpen]
      exact Driver.Performs.refl.snoc (.handle d)
    · rw [calls, if_neg fun h => hOpen h.2, run, if_neg hOpen]
      exact .refl
  | _ => rcases hOwn with h | h <;> cases h

end Step

/-- A fact about the state of a stream channel, the number of event loops, the system and the books,
which depends on a summary of the calls so far. It says which calls it admits, and what others may
do to the system. -/
structure Regime (ν ξ : Type) where
  holds : ξ → Nat → TcpState → ν → Books → Prop
  next : ξ → DriverEvent → ξ
  admits : ξ → TcpState → DriverCall → Prop
  calm : TcpState → ν → ν → Prop

variable {ξ : Type}

/-- All that is done to the state of a channel keeps the fact. -/
structure Regime.Upheld (r : Regime ν ξ) (system : StreamSystem ν) (id : ChannelId) : Prop where
  passedOn : ∀ {x n t net b}, r.holds x n t net b → r.holds x n { t with forward := .none } net b
  around : ∀ {x n n' t net net' b}, n ≤ n' → r.calm t net net' → r.holds x n t net b →
    r.holds x n' t net' b
  performed : ∀ {x n t net b} (call : DriverCall), r.admits x t call → r.holds x n t net b →
    let (answer, h) := TcpHeld.perform system id call { state := t, net }
    r.holds (r.next x ⟨call, answer⟩) n h.state h.net (h.books n b)
  fired : ∀ {x n t net b} (handler : FileHandler) (ready : Interest), handler.channel? = some id →
    t.Suits handler → r.holds x n t net b →
    let h := TcpHeld.fire system ready { state := t, net } handler
    r.holds x n h.state h.net (h.books n b)

namespace Regime

variable (r : Regime ν ξ)

/-- The fact is one now, for the registrations that the channel has made. -/
def Current (site : TcpSite σ ν) (id : ChannelId) (x : ξ) (own : Tenure) (p : EventLoops × σ) :
    Prop :=
  ∃ t b, site.state? id p.2 = some t ∧ p.1.Tracks own b ∧
    r.holds x p.1.length t (site.net p.2) b

/-- The summary after some calls. -/
def after (x : ξ) (calls : List DriverEvent) : ξ := calls.foldl r.next x

@[simp] theorem after_append (x : ξ) (first second : List DriverEvent) :
    r.after x (first ++ second) = r.after (r.after x first) second :=
  List.foldl_append

/-- Each call that reaches the driver is admitted at the moment at which it does. -/
def Permits (site : TcpSite σ ν) (s : Surroundings σ) (id : ChannelId) (x : ξ)
    (events : List (StreamEvent σ)) : Prop :=
  ∀ before (α : Type) (t : Step σ α) w later, events = before ++ .made t w :: later →
    ∀ calls e rest p state, t.calls s id w = calls ++ e :: rest →
      (s.driver id).Performs (w.loops, w.env) calls p → site.state? id p.2 = some state →
        r.admits (r.after (r.after x (driverCalls s id before)) calls) state e.call

/-- Others do no more to the system than they may. -/
def Calm (site : TcpSite σ ν) (id : ChannelId) (events : List (StreamEvent σ)) : Prop :=
  ∀ w w', .elsewhere w w' ∈ events → ∀ t, site.state? id w.env = some t →
    r.calm t (site.net w.env) (site.net w'.env)

variable {r} {site : TcpSite σ ν} {s : Surroundings σ} {id : ChannelId} {x : ξ} {own held : Tenure}

theorem Permits.before {events : List (StreamEvent σ)} {e : StreamEvent σ}
    (permits : r.Permits site s id x (events ++ [e])) : r.Permits site s id x events := by
  rintro before α t w later rfl
  exact permits before α t w (later ++ [e]) (by simp)

/-- What is admitted by the calls made so far alone. -/
theorem Permits.of_calls {events : List (StreamEvent σ)}
    (hAll : ∀ first e rest, driverCalls s id events = first ++ e :: rest →
      ∀ t, r.admits (r.after x first) t e.call) : r.Permits site s id x events := by
  rintro before α t w later rfl calls e rest p state hCalls - -
  rw [← after_append]
  refine hAll (driverCalls s id before ++ calls) e (rest ++ driverCalls s id later) ?_ state
  simp [StreamEvent.calls, hCalls]

namespace Upheld

variable (upheld : r.Upheld site.system id) (lawful : site.Lawful)

include upheld lawful

/-- What the state has become is put in place. -/
theorem settled {p : EventLoops × σ} {b : Books} {h : TcpHeld ν} (tracks : p.1.Tracks own b)
    (hHolds : r.holds x p.1.length h.state h.net (h.books p.1.length b)) :
    r.Current site id x (own.since p.1 (site.settle id h p).1) (site.settle id h p) := by
  refine ⟨_, _, lawful.state?_settle id h p, tracks.applyAll h.commands, ?_⟩
  rw [lawful.net_settle, TcpSite.settle, EventLoops.length_applyAll]
  exact upheld.passedOn hHolds

theorem worked {w : World σ} {f : TcpHeld ν → TcpHeld ν}
    (current : r.Current site id x own (w.loops, w.env))
    (hKeeps : ∀ {t b}, site.state? id w.env = some t →
      r.holds x w.loops.length t (site.net w.env) b →
      let h := f { state := t, net := site.net w.env }
      r.holds x w.loops.length h.state h.net (h.books w.loops.length b)) :
    r.Current site id x (own.since w.loops (site.worked id f w).loops)
      ((site.worked id f w).loops, (site.worked id f w).env) := by
  obtain ⟨t, b, hState, tracks, hHolds⟩ := current
  rw [TcpSite.worked, show site.state? id w.env = some t from hState]
  exact upheld.settled lawful tracks (hKeeps hState hHolds)

variable (hDriver : s.driver id = site.driver id)

include hDriver

theorem called {p : EventLoops × σ} (current : r.Current site id x own p) (call : DriverCall)
    (hAdmits : ∀ t, site.state? id p.2 = some t → r.admits x t call) :
    let q := (p.1.applyAll (s.driver id call p.2).commands, (s.driver id call p.2).env)
    r.Current site id (r.next x ⟨call, (s.driver id call p.2).answer⟩) (own.since p.1 q.1) q := by
  obtain ⟨t, b, hState, tracks, hHolds⟩ := current
  obtain ⟨hAnswer, hSettles⟩ := site.driver_settles hState call
  rw [hDriver, hAnswer, hSettles]
  exact upheld.settled lawful tracks (upheld.performed call (hAdmits t hState) hHolds)

theorem performs {p q : EventLoops × σ} {calls : List DriverEvent}
    (current : r.Current site id x own p) (performs : (s.driver id).Performs p calls q)
    (hAdmits : ∀ first e rest q' t, calls = first ++ e :: rest → (s.driver id).Performs p first q' →
      site.state? id q'.2 = some t → r.admits (r.after x first) t e.call) :
    r.Current site id (r.after x calls) (own.since p.1 q.1) q ∧
      ∀ loop, (p.1.get loop).generations ≤ (q.1.get loop).generations := by
  induction performs with
  | refl =>
    rw [EventLoops.since_self]
    exact ⟨current, fun _ => Nat.le_refl _⟩
  | @snoc calls q prior call ih =>
    let e : DriverEvent := ⟨call, (s.driver id call q.2).answer⟩
    obtain ⟨hCurrent, hGrows⟩ := ih fun first e' rest q' t hCalls =>
      hAdmits first e' (rest ++ [e]) q' t (by rw [hCalls]; simp [e])
    have hLast := EventLoops.generations_le q.1 (s.driver id call q.2).commands
    have hCalled := upheld.called lawful hDriver hCurrent call fun t hState =>
      hAdmits calls e [] q t rfl prior hState
    dsimp only at hCalled
    rw [EventLoops.since_since hGrows hLast] at hCalled
    rw [after_append]
    exact ⟨hCalled, fun loop => Nat.le_trans (hGrows loop) (hLast loop)⟩

/-- What is a fact when a life begins is a fact as long as it lasts. -/
theorem life {start w : World σ} {events : List (StreamEvent σ)}
    (life : site.Life s id start held events own w)
    (current : r.Current site id x held (start.loops, start.env))
    (permits : r.Permits site s id x events) (calm : r.Calm site id events) :
    r.Current site id (r.after x (driverCalls s id events)) own (w.loops, w.env) := by
  induction life with
  | refl => exact current
  | @made events own w prior α t hOwn ih =>
    have hPrior := ih permits.before fun w w' hMem => calm w w' (List.mem_append_left _ hMem)
    have hPerforms := upheld.performs lawful hDriver hPrior (t.run_performs hOwn)
      fun calls e rest p state => permits events α t w [] rfl calls e rest p state
    rw [driverCalls_append, after_append, driverCalls_cons, driverCalls_nil, List.append_nil]
    exact hPerforms.1
  | @fired events own w prior handler ready hOwn hSuits ih =>
    have hPrior := ih permits.before fun w w' hMem => calm w w' (List.mem_append_left _ hMem)
    have hWorked := upheld.worked lawful (f := (·.fire site.system ready handler)) hPrior
      fun {t b} hState => upheld.fired handler ready hOwn (hSuits t hState)
    simpa [StreamEvent.calls] using hWorked
  | @elsewhere events own w w' prior apart ih =>
    have hPrior := ih permits.before fun w w' hMem => calm w w' (List.mem_append_left _ hMem)
    obtain ⟨t, b, hState, tracks, hHolds⟩ := hPrior
    have hCalm := calm w w' (by simp) t hState
    rw [driverCalls_append, after_append]
    exact ⟨t, b, apart.state.trans hState, ⟨apart.sound, fun loop fd mask =>
      (apart.registers loop fd mask).trans (tracks.registers loop fd mask)⟩,
      upheld.around apart.loops hCalm hHolds⟩

end Upheld

end Regime

namespace TcpSite.Life

variable {site : TcpSite σ ν} {s : Surroundings σ} {id : ChannelId} {own held : Tenure}
  {start w : World σ} {events : List (StreamEvent σ)}

theorem length (life : site.Life s id start held events own w) :
    start.channels.length ≤ w.channels.length := by
  induction life with
  | refl => exact Nat.le_refl _
  | made prior t hOwn ih => exact Nat.le_trans ih (t.length_run s _)
  | @fired events own w prior handler ready hOwn hSuits ih =>
    refine Nat.le_trans ih (Nat.le_of_eq ?_)
    rw [worked]
    split <;> rfl
  | elsewhere prior apart ih => exact Nat.le_trans ih apart.channels

/-- The channel is in the mode that its driver agreed to last, and it is open until the driver is
closed. -/
theorem agrees (life : site.Life s id start held events own w)
    (hExists : id < start.channels.length) :
    (w.channel id).blocking =
        lastMode (start.channel id).blocking (driverCalls s id events) ∧
      (w.channel id).isOpen = ((start.channel id).isOpen &&
        !closesDriver (driverCalls s id events)) := by
  induction life with
  | refl => exact ⟨rfl, by simp [closesDriver]⟩
  | @made events own w prior α t hOwn ih =>
    obtain ⟨hMode, hOpen⟩ :=
      t.agrees_run (s := s) (Nat.lt_of_lt_of_le hExists prior.length)
    rw [driverCalls_append, lastMode_append, closesDriver_append, driverCalls_cons,
      driverCalls_nil, List.append_nil, Bool.not_or, ← Bool.and_assoc, ← ih.1, ← ih.2]
    exact ⟨hMode, hOpen⟩
  | @fired events own w prior handler ready hOwn hSuits ih =>
    have hChannel : (site.worked id (·.fire site.system ready handler) w).channel id =
        w.channel id := by
      rw [worked]
      split <;> rfl
    simpa [hChannel, StreamEvent.calls, closesDriver] using ih
  | @elsewhere events own w w' prior apart ih =>
    have hBlocking := congrArg Channel.blocking apart.bare
    have hOpen := congrArg Channel.isOpen apart.bare
    simp only [driverCalls_append, driverCalls_cons, driverCalls_nil, StreamEvent.calls,
      List.append_nil]
    exact ⟨hBlocking.trans ih.1, hOpen.trans ih.2⟩

end TcpSite.Life

end EventChannel
