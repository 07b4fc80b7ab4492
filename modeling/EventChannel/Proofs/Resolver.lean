import EventChannel.Resolver
import Mathlib.Data.List.Induction
import Mathlib.Data.List.Nodup

/-! The candidates for a host that is looked up are the addresses found, each of them once, in the
order in which the purpose wants them tried. No other host leads to a question. -/

namespace EventChannel

section FirstOccurrences

variable {α : Type} [DecidableEq α] {xs : List α} {x : α}

theorem firstOccurrences_concat (xs : List α) (x : α) :
    firstOccurrences (xs ++ [x]) =
      if x ∈ firstOccurrences xs then firstOccurrences xs else firstOccurrences xs ++ [x] := by
  simp [firstOccurrences]

@[simp] theorem mem_firstOccurrences : x ∈ firstOccurrences xs ↔ x ∈ xs := by
  induction xs using List.reverseRecOn with
  | nil => rfl
  | append_singleton xs y ih =>
    rw [firstOccurrences_concat]
    split_ifs with hSeen <;> grind

/-- What remains of a list stands in the order of its first occurrences there. -/
theorem pairwise_firstOccurrences (xs : List α) :
    (firstOccurrences xs).Pairwise fun a b => xs.idxOf a < xs.idxOf b := by
  induction xs using List.reverseRecOn with
  | nil => exact .nil
  | append_singleton xs x ih =>
    have earlier : (firstOccurrences xs).Pairwise
        fun a b => (xs ++ [x]).idxOf a < (xs ++ [x]).idxOf b := by
      refine ih.imp_of_mem fun hA hB hLess => ?_
      rwa [List.idxOf_append_of_mem (mem_firstOccurrences.1 hA),
        List.idxOf_append_of_mem (mem_firstOccurrences.1 hB)]
    rw [firstOccurrences_concat]
    split_ifs with hSeen
    · exact earlier
    · refine List.pairwise_append.2 ⟨earlier, List.pairwise_singleton _ _, ?_⟩
      intro a hA b hB
      obtain rfl := List.mem_singleton.1 hB
      rw [mem_firstOccurrences] at hA hSeen
      rw [List.idxOf_append_of_mem hA, List.idxOf_append_of_notMem hSeen]
      exact Nat.lt_add_right _ (List.idxOf_lt_length_of_mem hA)

theorem firstOccurrences_eq_nil : firstOccurrences xs = [] ↔ xs = [] := by
  simp [List.eq_nil_iff_forall_not_mem]

end FirstOccurrences

/-- Which of two addresses found is tried first: the one that was found first; and if sockets will
be bound to them, one of the old family before one of the new. -/
def Purpose.Precedes (purpose : Purpose) (found : List SocketAddress) (a b : SocketAddress) :
    Prop :=
  if purpose.binds then
    a.isV4 = true ∧ b.isV4 = false ∨ a.isV4 = b.isV4 ∧ found.idxOf a < found.idxOf b
  else found.idxOf a < found.idxOf b

theorem Purpose.Precedes.ne {purpose : Purpose} {found : List SocketAddress} {a b : SocketAddress}
    (precedes : purpose.Precedes found a b) : a ≠ b := by
  rintro rfl
  unfold Purpose.Precedes at precedes
  split_ifs at precedes
  · obtain ⟨hOld, hNew⟩ | ⟨-, hLess⟩ := precedes
    · exact absurd (hOld.symm.trans hNew) (by decide)
    · exact absurd hLess (Nat.lt_irrefl _)
  · exact absurd precedes (Nat.lt_irrefl _)

/-- The candidates are the addresses found, in the order in which they are to be tried. -/
structure Purpose.Lists (purpose : Purpose) (found addresses : List SocketAddress) : Prop where
  mem_iff : ∀ a, a ∈ addresses ↔ a ∈ found
  ordered : addresses.Pairwise (purpose.Precedes found)

namespace Purpose.Lists

variable {purpose : Purpose} {found addresses : List SocketAddress}

theorem nodup (lists : purpose.Lists found addresses) : addresses.Nodup :=
  lists.ordered.imp Purpose.Precedes.ne

theorem ne_nil (lists : purpose.Lists found addresses) (hFound : found ≠ []) : addresses ≠ [] := by
  obtain ⟨a, hMem⟩ := List.exists_mem_of_ne_nil found hFound
  exact List.ne_nil_of_mem ((lists.mem_iff a).2 hMem)

end Purpose.Lists

/-- Putting the old family first keeps the order within each family. -/
theorem Purpose.lists_v4First {purpose : Purpose} (binds : purpose.binds = true)
    (found : List SocketAddress) : purpose.Lists found (v4First (firstOccurrences found)) := by
  have kept : ∀ family : SocketAddress → Bool, (∀ a b, family a = true → family b = true →
      a.isV4 = b.isV4) → ((firstOccurrences found).filter family).Pairwise
        (purpose.Precedes found) := by
    intro family same
    refine ((pairwise_firstOccurrences found).filter family).imp_of_mem fun hA hB hLess => ?_
    rw [Purpose.Precedes, if_pos binds]
    exact .inr ⟨same _ _ (List.mem_filter.1 hA).2 (List.mem_filter.1 hB).2, hLess⟩
  constructor
  · intro a
    cases hFamily : a.isV4 <;> simp [v4First, hFamily]
  · refine List.pairwise_append.2 ⟨kept _ (by simp_all), kept _ (by simp_all), ?_⟩
    intro a hA b hB
    rw [Purpose.Precedes, if_pos binds]
    exact .inl ⟨(List.mem_filter.1 hA).2, by simpa using (List.mem_filter.1 hB).2⟩

/-- What is made of a list that was found: the candidates, unless the list is empty. -/
theorem candidatesOf_ok (host : String) (purpose : Purpose) {found : List SocketAddress}
    (hFound : found ≠ []) :
    ∃ addresses, candidatesOf host purpose (.ok found) = .ok addresses ∧
      purpose.Lists found addresses := by
  obtain ⟨a, rest, hFirst⟩ := List.exists_cons_of_ne_nil (mt firstOccurrences_eq_nil.1 hFound)
  refine ⟨if purpose.binds then v4First (firstOccurrences found) else firstOccurrences found,
    by simp [candidatesOf, hFirst], ?_⟩
  split_ifs with binds
  · exact Purpose.lists_v4First binds found
  · refine ⟨fun _ => mem_firstOccurrences, (pairwise_firstOccurrences found).imp ?_⟩
    intro a b hLess
    rwa [Purpose.Precedes, if_neg binds]

section Questions

variable {σ : Type} (names : NameService σ) (port : Port) (purpose : Purpose) (s : σ)

/-- What a name service is asked about a host: nothing if there is none or if it is spelled as an
address, otherwise for the host once. -/
def NameService.questions (host? : Option String) (port : Port) : List (String × Port) :=
  match host? with
  | none => []
  | some host => if host = "" ∨ (HostAddress.ofText? host).isSome then [] else [(host, port)]

theorem resolvePort_missing {host? : Option String} (missing : host?.getD "" = "") :
    resolvePort names host? port purpose s =
      (if purpose.binds then .ok [{ host := .anyV4, port }, { host := .anyV6, port }]
        else .error RequestFault.missingHost.report, s) := by
  simp only [resolvePort, missing]
  cases purpose <;> rfl

theorem resolvePort_literal {host : String} {address : HostAddress}
    (literal : HostAddress.ofText? host = some address) :
    resolvePort names (some host) port purpose s = (.ok [{ host := address, port }], s) := by
  have hHost : host.isEmpty = false := by
    rw [← Bool.not_eq_true, String.isEmpty_iff]
    rintro rfl
    have hEmpty : HostAddress.ofText? "" = none := by decide
    rw [hEmpty] at literal
    exact absurd literal (by simp)
  simp [resolvePort, hHost, literal]

theorem resolvePort_named {host : String} (hHost : host ≠ "")
    (named : HostAddress.ofText? host = none) :
    resolvePort names (some host) port purpose s =
      (candidatesOf host purpose (names.lookup host port s).1, (names.lookup host port s).2) := by
  have hHost : host.isEmpty = false := by
    rwa [← Bool.not_eq_true, String.isEmpty_iff]
  simp [resolvePort, hHost, named]

/-- A host is missing, or it is spelled as an address, or it is given by name. -/
theorem host_cases (host? : Option String) :
    host?.getD "" = "" ∨ (∃ host address, host? = some host ∧
      HostAddress.ofText? host = some address) ∨
      ∃ host, host? = some host ∧ host ≠ "" ∧ HostAddress.ofText? host = none := by
  cases host? with
  | none => exact .inl rfl
  | some host =>
    by_cases hHost : host = ""
    · exact .inl hHost
    · cases hText : HostAddress.ofText? host with
      | some address => exact .inr (.inl ⟨host, address, rfl, hText⟩)
      | none => exact .inr (.inr ⟨host, rfl, hHost, hText⟩)

theorem questions_missing {host? : Option String} (missing : host?.getD "" = "") :
    NameService.questions host? port = [] := by
  cases host? with
  | none => rfl
  | some host => exact if_pos (.inl missing)

/-- Apart from the record, a service that is recorded gives the same candidates. -/
theorem resolvePort_recorded (host? : Option String) (asked : List (String × Port)) :
    resolvePort names.recorded host? port purpose (s, asked) =
      ((resolvePort names host? port purpose s).1, (resolvePort names host? port purpose s).2,
        asked ++ NameService.questions host? port) := by
  obtain missing | ⟨host, address, rfl, literal⟩ | ⟨host, rfl, hHost, named⟩ := host_cases host?
  · simp [resolvePort_missing _ _ _ _ missing, questions_missing port missing]
  · simp [resolvePort_literal _ _ _ _ literal, NameService.questions, literal]
  · simp [resolvePort_named _ _ _ _ hHost named, NameService.questions, hHost, named,
      NameService.recorded]

theorem candidatesOf_eq_ok {host : String} {answer : Except SystemError (List SocketAddress)}
    {addresses : List SocketAddress} (h : candidatesOf host purpose answer = .ok addresses) :
    ∃ found, answer = .ok found ∧ found ≠ [] ∧ purpose.Lists found addresses := by
  cases answer with
  | error e => simp [candidatesOf] at h
  | ok found =>
    by_cases hFound : found = []
    · subst hFound
      exact absurd h (by simp [candidatesOf, firstOccurrences])
    · obtain ⟨listed, hOk, lists⟩ := candidatesOf_ok host purpose hFound
      obtain rfl := Except.ok.inj (hOk.symm.trans h)
      exact ⟨found, rfl, hFound, lists⟩

/-- Candidates that are given are some, and none of them is given twice. -/
theorem resolvePort_ok {host? : Option String} {addresses : List SocketAddress}
    (h : (resolvePort names host? port purpose s).1 = .ok addresses) :
    addresses ≠ [] ∧ addresses.Nodup := by
  obtain missing | ⟨host, address, rfl, literal⟩ | ⟨host, rfl, hHost, named⟩ := host_cases host?
  · rw [resolvePort_missing _ _ _ _ missing] at h
    split_ifs at h
    obtain rfl := Except.ok.inj h
    exact ⟨by simp, by simp [HostAddress.anyV4, HostAddress.anyV6]⟩
  · rw [resolvePort_literal _ _ _ _ literal] at h
    obtain rfl := Except.ok.inj h
    exact ⟨by simp, List.nodup_singleton _⟩
  · rw [resolvePort_named _ _ _ _ hHost named] at h
    obtain ⟨found, -, hFound, lists⟩ := candidatesOf_eq_ok purpose h
    exact ⟨lists.ne_nil hFound, lists.nodup⟩

end Questions

/-- Candidates that are given for a host and a port are some, and none of them is given twice. Where
the host is missing or empty they are the two addresses that stand for every one, for those who will
bind a socket, and a fault for the others; a host spelled as an address is its own only candidate;
and for one given by name they are the addresses found, in the order in which the purpose wants them
tried, or an error that names the host if there are none. Only such a host is asked for, and once.
Nothing is asked before the service is known to be a sound one. -/
theorem candidates_in_order {σ : Type} (names : NameService σ) (host? : Option String)
    (port : Port) (purpose : Purpose) (s : σ) :
    (∀ addresses, (resolvePort names host? port purpose s).1 = .ok addresses →
      addresses ≠ [] ∧ addresses.Nodup) ∧
    (host?.getD "" = "" → resolvePort names host? port purpose s =
      (if purpose.binds then .ok [{ host := .anyV4, port }, { host := .anyV6, port }]
        else .error RequestFault.missingHost.report, s)) ∧
    (∀ host address, host? = some host → HostAddress.ofText? host = some address →
      resolvePort names host? port purpose s = (.ok [{ host := address, port }], s)) ∧
    (∀ host, host? = some host → host ≠ "" → HostAddress.ofText? host = none →
      ∃ result, resolvePort names host? port purpose s =
        (result, (names.lookup host port s).2) ∧
      match (names.lookup host port s).1 with
      | .ok [] => result =
        .error (resolveReport host (.stated .notFound "no address associated with name"))
      | .ok found => ∃ addresses, result = .ok addresses ∧ purpose.Lists found addresses
      | .error e => result = .error (resolveReport host e)) ∧
    (∀ host e, (resolveReport host e).message =
      "couldn't open socket: cannot resolve \"" ++ host ++ "\": " ++ e.fullText) ∧
    (∀ asked, resolvePort names.recorded host? port purpose (s, asked) =
      ((resolvePort names host? port purpose s).1, (resolvePort names host? port purpose s).2,
        asked ++ NameService.questions host? port)) ∧
    (∀ service services asked fault, parseService service services = .error fault →
      resolve names.recorded host? service purpose (s, asked) services =
        (.error fault.report, s, asked)) ∧
    ∀ service services, parseService service services = .ok port →
      resolve names host? service purpose s services = resolvePort names host? port purpose s := by
  refine ⟨fun _ => resolvePort_ok names port purpose s, resolvePort_missing names port purpose s,
    ?_, ?_, fun _ _ => rfl, resolvePort_recorded names port purpose s host?, ?_, ?_⟩
  · rintro host address rfl literal
    exact resolvePort_literal names port purpose s literal
  · rintro host rfl hHost named
    refine ⟨_, resolvePort_named names port purpose s hHost named, ?_⟩
    split
    · next h => simp [h, candidatesOf, firstOccurrences]
    · next found hFound h =>
      rw [h]
      exact candidatesOf_ok host purpose (by simpa using hFound)
    · next e h => rw [h]; rfl
  · intro service services asked fault invalid
    simp [resolve, invalid]
  · intro service services valid
    simp [resolve, valid]

/-- The addresses of a host of both families, some of them found more than once. -/
def interleavedFamilies : List SocketAddress :=
  [.v6 #v[0x2001, 0xdb8, 0, 0, 0, 0, 0, 1], .v4 192 0 2 1, .v6 #v[0x2001, 0xdb8, 0, 0, 0, 0, 0, 1],
    .v4 192 0 2 2, .v4 192 0 2 1, .v6 #v[0x2001, 0xdb8, 0, 0, 0, 0, 0, 2]].map fun host =>
      { host, port := 80 }

/-- A service that finds them for every host. -/
def interleavedNames : NameService Unit where
  lookup _ _ s := (.ok interleavedFamilies, s)

/-- For a server the old family comes first, for a client they stay as they were found. The other
kinds of hosts and a service without a sound text lead to no question. -/
theorem candidates_in_order_interleaved :
    (∃ addresses, resolvePort interleavedNames.recorded (some "web.example") 80 .listen ((), []) =
        (.ok addresses, (), [("web.example", 80)]) ∧
      addresses ≠ [] ∧ addresses.Nodup ∧ Purpose.listen.Lists interleavedFamilies addresses ∧
      addresses.map (·.isV4) = [true, true, false, false]) ∧
    (∃ addresses, resolvePort interleavedNames (some "web.example") 80 .connect () =
        (.ok addresses, ()) ∧
      Purpose.connect.Lists interleavedFamilies addresses ∧
      addresses.map (·.isV4) = [false, true, true, false]) ∧
    resolvePort interleavedNames (some "") 80 .connect () =
      (.error RequestFault.missingHost.report, ()) ∧
    resolvePort interleavedNames (some "192.0.2.1") 80 .connect () =
      (.ok [{ host := .v4 192 0 2 1, port := 80 }], ()) ∧
    resolve interleavedNames.recorded (some "web.example") "80x" .listen ((), []) =
      (.error (RequestFault.invalidService "80x").report, (), []) ∧
    resolve interleavedNames (some "web.example") " 080" .listen () =
      resolvePort interleavedNames (some "web.example") 80 .listen () := by
  obtain ⟨distinct, -, -, listed, -, record, invalid, valid⟩ :=
    candidates_in_order interleavedNames (some "web.example") 80 .listen ()
  obtain ⟨result, hResult, addresses, rfl, lists⟩ :=
    listed "web.example" rfl (by decide) (by decide)
  obtain ⟨hSome, hOnce⟩ := distinct addresses (by rw [hResult])
  obtain ⟨-, -, -, listed', -⟩ :=
    candidates_in_order interleavedNames (some "web.example") 80 .connect ()
  obtain ⟨result', hResult', addresses', rfl, lists'⟩ :=
    listed' "web.example" rfl (by decide) (by decide)
  have hFamilies : (resolvePort interleavedNames (some "web.example") 80 .listen ()).1.toOption.map
      (·.map (·.isV4)) = some [true, true, false, false] := by decide
  have hFamilies' : (resolvePort interleavedNames (some "web.example") 80 .connect
      ()).1.toOption.map (·.map (·.isV4)) = some [false, true, true, false] := by decide
  rw [hResult] at hFamilies
  rw [hResult'] at hFamilies'
  refine ⟨⟨addresses, ?_, hSome, hOnce, lists, Option.some.inj hFamilies⟩,
    ⟨addresses', hResult', lists', Option.some.inj hFamilies'⟩, ?_, ?_, ?_, ?_⟩
  · rw [record, hResult]
    rfl
  · exact (candidates_in_order interleavedNames (some "") 80 .connect ()).2.1 rfl
  · exact (candidates_in_order interleavedNames (some "192.0.2.1") 80 .connect ()).2.2.1 _ _ rfl
      (by decide)
  · exact invalid "80x" .none [] _ (by decide)
  · exact valid " 080" .none (by decide)

end EventChannel
