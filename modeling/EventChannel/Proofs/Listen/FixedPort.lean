import Mathlib.Data.List.Forall2
import EventChannel.Proofs.Listen.Failure

/-! Where the port is given, each candidate is opened at its own address and whatever comes of it
concerns no other one. All are gone through once, and those that could be opened, bound and put to
listening are returned, in their order. -/

namespace EventChannel

/-- The system knows how to share a port, though it may refuse to. -/
def SocketSystem.SharesPorts {σ : Type} (system : SocketSystem σ) : Prop :=
  ∀ socket s e, (system.answer (.setReusePort socket true) s).1 = .error e → e.kind ≠ .unsupported

namespace ListenRound

/-- The calls by which a candidate is tried at its own address, with the listener that comes of it.
A socket that cannot be bound or put to listening is closed, and no other socket is. -/
inductive Trial (options : ListenOptions) (candidate : SocketAddress) :
    List SocketEvent → Option Listener → Prop
  | uncreated (e : SystemError) : Trial options candidate [⟨.create candidate, .error e⟩] none
  | unbound (socket : Socket) {settings : List SocketEvent}
      (hSettings : ∀ e ∈ settings, e.call.isSetting = true) (e : SystemError) :
      Trial options candidate
        ([⟨.create candidate, .ok socket⟩] ++ settings ++
          [⟨.bind socket candidate, .error e⟩, ⟨.close socket, ()⟩]) none
  | unheard (socket : Socket) {settings : List SocketEvent}
      (hSettings : ∀ e ∈ settings, e.call.isSetting = true) (e : SystemError) :
      Trial options candidate
        ([⟨.create candidate, .ok socket⟩] ++ settings ++ [⟨.bind socket candidate, .ok ()⟩,
          ⟨.listen socket options.queueLength, .error e⟩, ⟨.close socket, ()⟩]) none
  | listening (socket : Socket) {settings : List SocketEvent}
      (hSettings : ∀ e ∈ settings, e.call.isSetting = true) (unblocked : Except SystemError Unit)
      (told : Except SystemError SocketAddress) :
      Trial options candidate
        ([⟨.create candidate, .ok socket⟩] ++ settings ++ [⟨.bind socket candidate, .ok ()⟩,
          ⟨.listen socket options.queueLength, .ok ()⟩, ⟨.setNonblocking socket true, unblocked⟩,
          ⟨.localAddress socket, told⟩])
        (some ⟨socket, told.toOption.getD candidate⟩)

/-- Candidates that are tried one after the other. -/
abbrev Trials (options : ListenOptions) (candidates : List SocketAddress)
    (trials : List (List SocketEvent × Option Listener)) : Prop :=
  List.Forall₂ (fun candidate trial => Trial options candidate trial.1 trial.2) candidates trials

variable {options : ListenOptions} {candidate : SocketAddress} {candidates : List SocketAddress}

/-- Setting options opens and closes nothing. -/
theorem silent_settings {settings : List SocketEvent}
    (hSettings : ∀ e ∈ settings, e.call.isSetting = true) :
    openings settings = [] ∧ created settings = [] ∧ closed settings = [] := by
  have hNone {α : Type} {f : SocketEvent → Option α}
      (hSilent : ∀ e : SocketEvent, e.call.isSetting = true → f e = none) :
      settings.filterMap f = [] :=
    List.filterMap_eq_nil_iff.2 fun e hMem => hSilent e (hSettings e hMem)
  refine ⟨hNone ?_, hNone ?_, hNone ?_⟩
  all_goals
    rintro ⟨call, answer⟩ hSetting
    cases call with
    | minimumBuffers | setNonblocking | setReuseAddress | setReusePort | setV6Only => rfl
    | _ => cases hSetting

namespace Trial

variable {events : List SocketEvent} {l? : Option Listener}

/-- A candidate is opened once, at its own address. -/
theorem openings (trial : Trial options candidate events l?) :
    openings events = [candidate] := by
  cases trial with
  | uncreated => rfl
  | unbound _ hSettings | unheard _ hSettings | listening _ hSettings =>
    rw [openings_append, openings_append, (silent_settings hSettings).1]
    rfl

/-- What is closed is the socket of a candidate that failed. -/
theorem closed (trial : Trial options candidate events l?) :
    closed events = if l?.isSome then [] else created events := by
  cases trial with
  | uncreated => rfl
  | unbound _ hSettings | unheard _ hSettings | listening _ hSettings =>
    obtain ⟨-, hCreated, hClosed⟩ := silent_settings hSettings
    rw [closed_append, closed_append, created_append, created_append, hCreated, hClosed]
    rfl

/-- A candidate becomes a listener unless one of the calls on it fails that matter. -/
theorem isSome_iff (trial : Trial options candidate events l?) :
    l?.isSome ↔ setbacks events = [] := by
  cases trial with
  | uncreated => simp [setbacks, SocketEvent.failure?]
  | unbound _ hSettings | unheard _ hSettings | listening _ hSettings =>
    rw [setbacks_append, setbacks_append, setbacks_settings hSettings]
    simp [setbacks, SocketEvent.failure?]

end Trial

namespace Trials

variable {trials : List (List SocketEvent × Option Listener)}

theorem openings (hTrials : Trials options candidates trials) :
    openings (trials.map (·.1)).flatten = candidates := by
  induction hTrials with
  | nil => rfl
  | cons trial hRest ih =>
    rw [List.map_cons, List.flatten_cons, openings_append, trial.openings, ih]
    rfl

/-- What holds of a trial however it ends holds of each. -/
theorem each (hTrials : Trials options candidates trials)
    {P : List SocketEvent × Option Listener → Prop}
    (hTrial : ∀ {candidate trial}, Trial options candidate trial.1 trial.2 → P trial) :
    ∀ trial ∈ trials, P trial := by
  induction hTrials with
  | nil => exact nofun
  | cons trial hRest ih => exact List.forall_mem_cons.2 ⟨hTrial trial, ih⟩

end Trials

variable {σ : Type} {system : SocketSystem σ}

/-- A socket is set up unless sharing its port is asked for and the system does not know how. -/
theorem setUp_ready (hShares : options.reusePort = true → system.SharesPorts)
    (address : SocketAddress) (socket : Socket) (s : σ) :
    (setUp system options address socket s).1 = true := by
  simp only [setUp]
  split
  · next e hRefused =>
    split at hRefused
    · next hAsked => rw [if_neg (hShares hAsked socket _ e hRefused)]
    · cases hRefused
  · rfl

/-- What is noted of a candidate on a port of its own. -/
theorem Opens.trial (hShares : options.reusePort = true → system.SharesPorts) {r : ListenRound}
    {p : σ × List SocketEvent} {outcome : ListenStep × ListenRound × σ × List SocketEvent}
    (opens : Opens system.traced options false r candidate p outcome) :
    ∃ more l?, outcome.1 = .next ∧ outcome.2.2.2 = p.2 ++ more ∧
      outcome.2.1.listeners = r.listeners ++ l?.toList ∧ Trial options candidate more l? := by
  have hTraced : options.reusePort = true → system.traced.SharesPorts :=
    fun hAsked socket q => hShares hAsked socket q.1
  have hReady (socket : Socket) (q : σ × List SocketEvent) :
      (setUp system.traced options candidate socket q).1 = true :=
    setUp_ready hTraced candidate socket q
  cases opens with
  | uncreated hCreate =>
    exact ⟨_, none, rfl, traced_noted hCreate, (List.append_nil _).symm, .uncreated _⟩
  | @unsupported socket p₁ p₂ hCreate hSetUp =>
    have hSet := hReady socket p₁
    rw [hSetUp] at hSet
    cases hSet
  | @unbound socket e p₁ p₂ p₃ hCreate hSetUp hBind =>
    obtain ⟨settings, hSet, hSettings⟩ := setUp_traced hSetUp
    refine ⟨_, none, rfl, ?_, (List.append_nil _).symm, .unbound socket hSettings e⟩
    show p₃.2 ++ _ = _
    rw [traced_noted hBind, hSet, traced_noted hCreate]
    simp
  | @unheard socket r₁ e p₁ p₂ p₃ p₄ p₅ hCreate hSetUp hBind hChoose hListen =>
    obtain ⟨settings, hSet, hSettings⟩ := setUp_traced hSetUp
    cases hChoose
    refine ⟨_, none, rfl, ?_, (List.append_nil _).symm, .unheard socket hSettings e⟩
    show p₅.2 ++ _ = _
    rw [traced_noted hListen, traced_noted hBind, hSet, traced_noted hCreate]
    simp
  | @listening socket r₁ told p₁ p₂ p₃ p₄ p₅ p₆ hCreate hSetUp hBind hChoose hListen hLocal =>
    obtain ⟨settings, hSet, hSettings⟩ := setUp_traced hSetUp
    cases hChoose
    refine ⟨_, _, rfl, ?_, rfl, .listening socket hSettings
      (system.answer (.setNonblocking socket true) p₅.1).1 told⟩
    show p₆.2 = _
    rw [traced_noted hLocal]
    show p₅.2 ++ _ ++ _ = _
    rw [traced_noted hListen, traced_noted hBind, hSet, traced_noted hCreate]
    simp

/-- What is noted of a round in which no port is shared: all candidates are tried. -/
theorem openAll_trials (hShares : options.reusePort = true → system.SharesPorts)
    (candidates : List SocketAddress) (r : ListenRound) (p : σ × List SocketEvent) :
    ∃ r' p' trials, openAll system.traced options false candidates r p = (.next, r', p') ∧
      Trials options candidates trials ∧ p'.2 = p.2 ++ (trials.map (·.1)).flatten ∧
      r'.listeners = r.listeners ++ trials.filterMap (·.2) := by
  induction candidates generalizing r p with
  | nil => exact ⟨r, p, [], rfl, .nil, by simp, by simp⟩
  | cons candidate rest ih =>
    obtain ⟨more, l?, hNext, hNoted, hListeners, trial⟩ :=
      Opens.trial hShares (openCandidate_opens _ _ false r candidate p)
    rcases hOpen : openCandidate system.traced options false r candidate p with ⟨step, r₁, p₁⟩
    rw [hOpen] at hNext hNoted hListeners
    obtain rfl : step = .next := hNext
    obtain ⟨r', p', trials, hRest, hTrials, hMore, hOthers⟩ := ih r₁ p₁
    refine ⟨r', p', (more, l?) :: trials, ?_, .cons trial hTrials, ?_, ?_⟩
    · rw [openAll, hOpen]
      exact hRest
    · rw [hMore, hNoted]
      simp
    · rw [hOthers, hListeners]
      cases l? <;> simp

end ListenRound

open ListenRound in
/-- Where the first candidate has a port, all candidates are tried once, in order and each at its
own address, unless sharing ports is asked for and not known to the system. Whatever fails, the
others are tried all the same, and nothing is closed but the socket of the candidate that failed.
Those for which no call failed that matters are returned, in their order, if there is one; else the
answer is an error. -/
theorem candidates_kept_apart {σ : Type} (system : SocketSystem σ) (first : SocketAddress)
    (rest : List SocketAddress) (hFixed : first.port ≠ 0) (options : ListenOptions)
    (hShares : options.reusePort = true → system.SharesPorts) (s : σ) :
    ∃ result s' trials,
      openListeners system.traced (first :: rest) options (s, []) =
        (result, s', (trials.map (·.1)).flatten) ∧
      Trials options (first :: rest) trials ∧
      openings (trials.map (·.1)).flatten = first :: rest ∧
      (∀ trial ∈ trials, (trial.2.isSome ↔ setbacks trial.1 = []) ∧
        closed trial.1 = if trial.2.isSome then [] else created trial.1) ∧
      (∀ listeners, result = .ok listeners ↔
        listeners = trials.filterMap (·.2) ∧ listeners ≠ []) ∧
      ((∃ report, result = .error report) ↔ ∀ trial ∈ trials, trial.2 = none) := by
  have hApart : openListeners system.traced (first :: rest) options (s, []) =
      listenRounds system.traced options false (first :: rest) maxListenRounds none (s, []) := by
    simp [openListeners, beq_false_of_ne hFixed]
  obtain ⟨r, ⟨s', events⟩, trials, hAll, hTrials, hNoted, hListeners⟩ :=
    openAll_trials hShares (first :: rest) {} (s, [])
  simp only [List.nil_append] at hNoted hListeners
  subst hNoted
  rw [hApart, maxListenRounds, listenRounds, hAll]
  simp only [hListeners]
  cases hFound : trials.filterMap (·.2) with
  | nil =>
    simp only [List.isEmpty_nil, if_true, listenRounds]
    refine ⟨_, s', trials, rfl, hTrials, hTrials.openings, hTrials.each fun trial =>
      ⟨trial.isSome_iff, trial.closed⟩, ?_, ?_⟩
    · intro listeners
      constructor
      · intro hOk
        cases hOk
      · exact fun hSome => absurd (hSome.1.trans hFound) hSome.2
    · exact ⟨fun _ => List.filterMap_eq_nil_iff.1 hFound, fun _ => ⟨_, rfl⟩⟩
  | cons l others =>
    simp only [List.isEmpty_cons, Bool.false_eq_true, if_false]
    refine ⟨_, s', trials, rfl, hTrials, hTrials.openings, hTrials.each fun trial =>
      ⟨trial.isSome_iff, trial.closed⟩, ?_, ?_⟩
    · intro listeners
      constructor
      · rintro ⟨⟩
        exact ⟨hFound.symm, List.cons_ne_nil _ _⟩
      · rintro ⟨rfl, -⟩
        rw [hFound]
    · constructor
      · rintro ⟨report, hFailed⟩
        cases hFailed
      · intro hNone
        rw [List.filterMap_eq_nil_iff.2 hNone] at hFound
        cases hFound

/-- An inn where all addresses of IPv4 are taken. It knows how to share ports but does not do it. -/
def Inn.serving : SocketSystem Socket where
  answer
    | .create _, next => (.ok next, next + 1)
    | .bind _ address, next =>
      (if address.isV4 then .error (.number Errno.addressInUse) else .ok (), next)
    | .localAddress _, next => (.error (.number Errno.invalidArgument), next)
    | .setReusePort _ _, next => (.error (.number Errno.invalidArgument), next)
    | .takeError _, next => (.ok none, next)
    | .minimumBuffers _ _, next | .close _, next => ((), next)
    | .setNonblocking _ _, next | .setReuseAddress _ _, next => (.ok (), next)
    | .setV6Only _ _, next | .connect _ _, next | .listen _ _, next => (.ok (), next)

theorem inn_sharesPorts : Inn.serving.SharesPorts := by
  intro socket next e hRefused
  cases hRefused
  decide

/-- The second candidate finds its address taken. The first goes on listening and the third is tried
all the same, though it leaves the port to the system. -/
theorem candidates_kept_apart_inn :
    let first : SocketAddress := { host := .anyV6, port := 80 }
    let rest : List SocketAddress := [{ host := .anyV4, port := 80 }, { host := .anyV6, port := 0 }]
    first.port ≠ 0 ∧ Inn.serving.SharesPorts ∧
      ∃ s' events, openListeners Inn.serving.traced (first :: rest) { reusePort := true } (0, []) =
          (.ok [⟨0, first⟩, ⟨2, { host := .anyV6, port := 0 }⟩], s', events) ∧
        openings events = first :: rest ∧ closed events = [1] := by
  intro first rest
  obtain ⟨result, s', trials, hOpen, -, hOpenings, -⟩ := candidates_kept_apart Inn.serving first
    rest (by decide) { reusePort := true } (fun _ => inn_sharesPorts) 0
  have hResult : (openListeners Inn.serving.traced (first :: rest) { reusePort := true }
      (0, [])).1 = .ok [⟨0, first⟩, ⟨2, { host := .anyV6, port := 0 }⟩] := by with_unfolding_all rfl
  have hClosed : closed (openListeners Inn.serving.traced (first :: rest) { reusePort := true }
      (0, [])).2.2 = [1] := by decide +kernel
  rw [hOpen] at hResult hClosed
  obtain rfl : result = _ := hResult
  exact ⟨by decide, inn_sharesPorts, s', _, hOpen, hOpenings, hClosed⟩

end EventChannel
