import EventChannel.Proofs.Text.Decimal
import EventChannel.Request

/-! The number that a text spells goes through two narrower types on its way to a port. Neither of
them makes another number of it. -/

namespace EventChannel

open Text

variable {text : String} {services : ServiceNames} {port : Port}

/-- A decimal text is read as the port with its value, if there is one. -/
theorem parseService_decimal (services : ServiceNames)
    (decimal : isDecimal (trim text.toList) = true) :
    parseService text services =
      if decimalValue (trim text.toList) < UInt16.size then
        .ok (decimalValue (trim text.toList)).toUInt16
      else .error .portTooHigh := by
  generalize hValue : decimalValue (trim text.toList) = value
  simp only [parseService, decimal, if_true, uint32?_eq, hValue]
  by_cases fits : value < UInt32.size
  · have hNumber : value.toUInt32.toNat = value := Nat.mod_eq_of_lt fits
    simp only [if_pos fits, portOfNumber, hNumber]
    split_ifs with hPort
    · congr 1
      rw [← UInt16.toNat_inj]
      simp
    · rfl
  · have tooHigh : ¬value < UInt16.size := fun hPort => fits (Nat.lt_trans hPort (by decide))
    simp only [if_neg fits, if_neg tooHigh]

/-- Any other text is looked up. -/
theorem parseService_named (services : ServiceNames)
    (named : isDecimal (trim text.toList) = false) :
    parseService text services =
      (services (String.ofList (trim text.toList))).elim (.error (.invalidService text)) .ok := by
  simp only [parseService, named, Bool.false_eq_true, if_false]
  cases services (String.ofList (trim text.toList)) <;> rfl

/-- A text spells a port if it is, but for blanks around it, a decimal number of this value or the
name of a service with this port. -/
def ServiceNames.Spells (services : ServiceNames) (text : String) (port : Port) : Prop :=
  if isDecimal (trim text.toList) then decimalValue (trim text.toList) = port.toNat
  else services (String.ofList (trim text.toList)) = some port

theorem parseService_eq_ok : parseService text services = .ok port ↔ services.Spells text port := by
  unfold ServiceNames.Spells
  split_ifs with decimal
  · rw [parseService_decimal services decimal]
    split_ifs with fits
    · rw [Except.ok.injEq, ← UInt16.toNat_inj]
      simp [Nat.mod_eq_of_lt fits]
    · have hPort : port.toNat < UInt16.size := port.toNat_lt
      simp only [false_iff]
      omega
  · rw [parseService_named services (by simpa using decimal)]
    cases services (String.ofList (trim text.toList)) <;> simp

namespace SocketRequest

variable {request : SocketRequest} {plan : ClientPlan}

/-- The local port that a request asks for; without a text for it, the choice is left open. -/
def localPort (request : SocketRequest) (services : ServiceNames) : Except RequestFault Port :=
  match request.localPort? with
  | some text => parseService text services
  | none => .ok 0

/-- The plan of a request for a client. -/
def clientPlan (request : SocketRequest) (port localPort : Port) : ClientPlan where
  host := request.host?.getD ""
  port := port
  localHost? := request.localHost?
  localPort := localPort
  async := request.async

theorem validate_eq (request : SocketRequest) (services : ServiceNames) :
    request.validate services =
      if request.server && request.async then .error .asyncServer
      else (request.localPort services).bind fun localPort =>
        if request.server then
          if localPort != 0 then .error .localPortOnServer else .ok (.server request.serverPlan)
        else if (request.host?.getD "").isEmpty then .error .missingHost
        else if request.hasServerOptions then .error .serverOnlyOptions
        else (parseService request.service services).map fun port =>
          .client (request.clientPlan port localPort) := by
  unfold validate localPort
  cases request.localPort? <;> rfl

/-- A request leads to a client's plan if it is for a client, names a host and has none of the
options of servers, and its two texts are read as ports. -/
theorem validate_eq_client :
    request.validate services = .ok (.client plan) ↔
      request.server = false ∧ request.host?.getD "" ≠ "" ∧ request.hasServerOptions = false ∧
      ∃ port localPort, parseService request.service services = .ok port ∧
        request.localPort services = .ok localPort ∧ plan = request.clientPlan port localPort := by
  rw [validate_eq]
  constructor
  · intro h
    cases hLocal : request.localPort services with
    | error fault =>
      rw [hLocal, Except.bind] at h
      split_ifs at h
    | ok localPort =>
      rw [hLocal, Except.bind] at h
      split_ifs at h with _ hServer _ hHost hOptions
      · simp at h
      cases hService : parseService request.service services with
      | error fault => simp [hService, Except.map] at h
      | ok port =>
        rw [hService] at h
        obtain rfl := SocketPlan.client.inj (Except.ok.inj h)
        rw [Bool.not_eq_true] at hServer hOptions
        exact ⟨hServer, fun same => hHost (String.isEmpty_iff.2 same), hOptions, port, localPort,
          rfl, rfl, rfl⟩
  · rintro ⟨hServer, hHost, hOptions, port, localPort, hService, hLocal, rfl⟩
    simp [hServer, hHost, hOptions, hService, hLocal, Except.bind, Except.map]

end SocketRequest

/-- A number in digits is read as the port with its value or is too high to be one, however many
digits there are; any other text without a service of its name is reported as it was given. So the
decimal form of a port gives the port back, with any zeros in front and any blanks around it, and a
plan for a client has the ports that the texts of its request spell. -/
theorem ports_read_exactly :
    (∀ (text : String) (services : ServiceNames), isDecimal (trim text.toList) = true →
      (∀ port, parseService text services = .ok port ↔
        decimalValue (trim text.toList) = port.toNat) ∧
      ((∃ port, parseService text services = .ok port) ↔
        decimalValue (trim text.toList) ≤ 65535) ∧
      (65535 < decimalValue (trim text.toList) →
        parseService text services = .error .portTooHigh)) ∧
    (∀ (text : String) (services : ServiceNames), isDecimal (trim text.toList) = false →
      services (String.ofList (trim text.toList)) = none →
      parseService text services = .error (.invalidService text) ∧
      (RequestFault.invalidService text).message = "expected integer but got \"" ++ text ++ "\"") ∧
    (∀ (port : Port) (front back : List Char) (zeros : Nat) (services : ServiceNames),
      (∀ c ∈ front, isBlank c = true) → (∀ c ∈ back, isBlank c = true) →
      parseService (String.ofList (front ++ (List.replicate zeros '0' ++ (toString port).toList) ++
        back)) services = .ok port) ∧
    ∀ (request : SocketRequest) (services : ServiceNames) (plan : ClientPlan),
      request.validate services = .ok (.client plan) →
      services.Spells request.service plan.port ∧
      (request.localPort? = none → plan.localPort = 0) ∧
      ∀ text, request.localPort? = some text → services.Spells text plan.localPort := by
  refine ⟨?_, ?_, ?_, ?_⟩
  · intro text services decimal
    have hOk : ∀ port, parseService text services = .ok port ↔
        decimalValue (trim text.toList) = port.toNat := by
      intro port
      rw [parseService_eq_ok, ServiceNames.Spells, if_pos decimal]
    refine ⟨hOk, ⟨?_, fun fits => ?_⟩, fun tooHigh => ?_⟩
    · rintro ⟨port, hPort⟩
      rw [(hOk port).1 hPort]
      exact Nat.le_of_lt_succ port.toNat_lt
    · exact ⟨_, (parseService_decimal services decimal).trans (if_pos (Nat.lt_succ_of_le fits))⟩
    · exact (parseService_decimal services decimal).trans (if_neg (Nat.not_lt.2 tooHigh))
  · intro text services named unknown
    rw [parseService_named services named, unknown]
    exact ⟨rfl, rfl⟩
  · intro port front back zeros services hFront hBack
    have hDigits : (toString port).toList = Nat.toDigits 10 port.toNat := by
      change (toString port.toNat).toList = _
      rw [Nat.toString_eq_ofList_toDigits, String.toList_ofList]
    rw [parseService_eq_ok, ServiceNames.Spells, String.toList_ofList, hDigits,
      trim_padded_decimal (isDecimal_zeros_toDigits zeros port.toNat) hFront hBack,
      if_pos (isDecimal_zeros_toDigits zeros port.toNat), decimalValue_zeros,
      decimalValue_toDigits]
  · intro request services plan valid
    obtain ⟨-, -, -, port, localPort, hService, hLocal, rfl⟩ :=
      SocketRequest.validate_eq_client.1 valid
    refine ⟨parseService_eq_ok.1 hService, ?_, ?_⟩
    · intro hNone
      rw [SocketRequest.localPort, hNone] at hLocal
      exact (Except.ok.inj hLocal).symm
    · intro text hSome
      rw [SocketRequest.localPort, hSome] at hLocal
      exact parseService_eq_ok.1 hLocal

/-- A request with blanks around one of its texts and zeros in front of the other. -/
def paddedRequest : SocketRequest :=
  { host? := some "localhost", service := " \t8080", localPort? := some "000443" }

/-- Beside a request, a number that is a port but for what does not fit into sixteen bits, one that
is a port but for what does not fit into thirty-two, and a name with a blank behind it. -/
theorem ports_read_exactly_padded :
    parseService "65616" = .error .portTooHigh ∧
    parseService "4294967376" = .error .portTooHigh ∧
    parseService "http " = .error (.invalidService "http ") ∧
    parseService (String.ofList ([' '] ++ (List.replicate 2 '0' ++ (toString (80 : Port)).toList) ++
      ['\n'])) = .ok 80 ∧
    ∃ plan, paddedRequest.validate = .ok (.client plan) ∧
      ServiceNames.none.Spells " \t8080" plan.port ∧
      ServiceNames.none.Spells "000443" plan.localPort := by
  obtain ⟨decimal, named, padded, client⟩ := ports_read_exactly
  obtain ⟨plan, hPlan⟩ : ∃ plan, paddedRequest.validate = .ok (.client plan) := ⟨_, rfl⟩
  obtain ⟨hService, -, hLocal⟩ := client paddedRequest .none plan hPlan
  refine ⟨?_, ?_, ?_, ?_, plan, hPlan, hService, hLocal _ rfl⟩
  · exact (decimal "65616" .none (by decide)).2.2 (by decide)
  · exact (decimal "4294967376" .none (by decide)).2.2 (by decide)
  · exact (named "http " .none (by decide) rfl).1
  · exact padded 80 [' '] ['\n'] 2 .none (List.forall_mem_singleton.2 rfl)
      (List.forall_mem_singleton.2 rfl)

end EventChannel
