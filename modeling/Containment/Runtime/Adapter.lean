/-
# The web adapter

The two web applications that stand in front of the runtime. The agent's one turns a request
into a submission and the dispatch of what was submitted; the control one completes the run.
Their requests may be served at any time and in any order.
-/

import Containment.Concurrency.Serving
import Containment.Runtime.RuleBudgets
import Containment.Runtime.Latching
import Containment.Runtime.Outage

namespace Containment

open Json Concurrency Program Discipline Trace

/-! ## Requests -/

/-- The white space that `int` skips, of the characters a header can have. -/
def isHeaderSpace (c : Char) : Bool :=
  (9 ≤ c.toNat && c.toNat ≤ 13) || c.toNat == 32 || c.toNat == 133 || c.toNat == 160

/-- `int(text)` for the text of a header. -/
def headerInt (text : String) : Option ℤ :=
  let stripped := (text.toList.dropWhile isHeaderSpace).rdropWhile isHeaderSpace
  let unsigned := match stripped with
    | '-' :: rest => rest
    | '+' :: rest => rest
    | rest => rest
  -- One underscore may stand between two digits.
  let groups := unsigned.splitOn '_'
  if groups.all (fun group => group ≠ [] && group.all Char.isDigit) && groups.flatten.length ≤ 4300 then
    let magnitude : ℤ := (Nat.ofDigitChars 10 groups.flatten 0 : ℕ)
    some (if stripped.head? = some '-' then -magnitude else magnitude)
  else none

/-- The decimal spelling of a number is read back. -/
theorem headerInt_toDigits (n : ℕ) (hn : (Nat.toDigits 10 n).length ≤ 4300) :
    headerInt (String.ofList (Nat.toDigits 10 n)) = some (n : ℤ) := by
  have hdigit (c : Char) (hc : c ∈ Nat.toDigits 10 n) : c.isDigit :=
    Nat.isDigit_of_mem_toDigits (by decide) (by decide) hc
  have hrange (c : Char) (hc : c ∈ Nat.toDigits 10 n) : 48 ≤ c.toNat ∧ c.toNat ≤ 57 := by
    have h := hdigit c hc
    rw [Char.isDigit, Bool.and_eq_true, decide_eq_true_eq, decide_eq_true_eq] at h
    exact ⟨UInt32.le_iff_toNat_le.mp h.1, UInt32.le_iff_toNat_le.mp h.2⟩
  have hspace (c : Char) (hc : c ∈ Nat.toDigits 10 n) : ¬ isHeaderSpace c = true := by
    have h := hrange c hc
    simp only [isHeaderSpace, Bool.or_eq_true, Bool.and_eq_true, decide_eq_true_eq, beq_iff_eq]
    omega
  have hother (c : Char) (hc : c.toNat < 48 ∨ 57 < c.toNat) : c ∉ Nat.toDigits 10 n := by
    intro hmem
    have h := hrange c hmem
    omega
  obtain ⟨first, rest, hdigits⟩ := List.exists_cons_of_ne_nil (@Nat.toDigits_ne_nil n 10)
  have hstripped : ((Nat.toDigits 10 n).dropWhile isHeaderSpace).rdropWhile isHeaderSpace =
      Nat.toDigits 10 n := by
    rw [List.dropWhile_eq_self_iff.mpr fun hl => hspace _ (List.getElem_mem hl)]
    exact List.rdropWhile_eq_self_iff.mpr fun hl => hspace _ (List.getLast_mem hl)
  have hunsigned : (match Nat.toDigits 10 n with
      | '-' :: rest => rest
      | '+' :: rest => rest
      | rest => rest) = Nat.toDigits 10 n := by
    split
    · rename_i heq
      exact absurd (by simp [heq]) (hother '-' (by decide))
    · rename_i heq
      exact absurd (by simp [heq]) (hother '+' (by decide))
    · rfl
  have hgroups : (Nat.toDigits 10 n).splitOn '_' = [Nat.toDigits 10 n] := by
    have h : (List.intercalate ['_'] [Nat.toDigits 10 n]).splitOn '_' = [Nat.toDigits 10 n] :=
      List.splitOn_intercalate '_' (by simp [hother '_' (by decide)]) (List.cons_ne_nil _ _)
    simpa using h
  simp only [headerInt, String.toList_ofList, hstripped]
  rw [hunsigned, hgroups]
  have hall : ([Nat.toDigits 10 n].all fun group => group ≠ [] && group.all Char.isDigit) = true := by
    simpa [hdigits] using fun c hc => hdigit c (hdigits ▸ hc)
  have hsign : (Nat.toDigits 10 n).head? ≠ some '-' := fun heq =>
    hother '-' (by decide) (List.mem_of_head? heq)
  rw [hall, List.flatten_singleton, Bool.true_and, if_pos (decide_eq_true hn), if_neg hsign,
    Nat.ofDigitChars_ten_toDigits]

/-- What the adapter reads of a request to the agent's application. The body arrives in
chunks, and the client may leave before it is complete. -/
structure HttpRequest where
  contentType : Option String
  contentLength : Option String
  chunks : List Bytes
  disconnects : Bool

structure HttpResponse where
  statusCode : ℤ
  content : String
  deriving DecidableEq

/-- What reading a body raises. -/
inductive BodyError
  | overflowError (message : String)
  | valueError (message : String)
  | clientDisconnect
  deriving DecidableEq

namespace HttpRequest

/-- `request.headers.get("content-type", "").split(";", 1)[0]`. -/
def mediaType (request : HttpRequest) : String :=
  String.ofList ((request.contentType.getD "").toList.takeWhile (· ≠ ';'))

/-- The loop over the stream, which raises behind its last chunk when the client has left. -/
def readStream (limit : ℤ) (disconnects : Bool) : Bytes → List Bytes → Except BodyError Bytes
  | body, [] => if disconnects then .error .clientDisconnect else .ok body
  | body, chunk :: chunks =>
      if limit < (body ++ chunk).length then
        .error (.overflowError "request body exceeds admission limit")
      else readStream limit disconnects (body ++ chunk) chunks

/-- `_bounded_body`. -/
def boundedBody (limit : ℤ) (request : HttpRequest) : Except BodyError Bytes :=
  match request.contentLength with
  | none => .error (.valueError "content-length is required")
  | some contentLength =>
      match headerInt contentLength with
      | none => .error (.valueError "content-length is invalid")
      | some declared => do
          if declared < 0 ∨ limit < declared then
            .error (.overflowError "request body exceeds admission limit")
          let body ← readStream limit request.disconnects [] request.chunks
          if body.length ≠ declared then
            .error (.valueError "content-length does not match streamed body")
          return body

/-- The whole body, however it was cut. -/
def content (request : HttpRequest) : Bytes := request.chunks.flatten

/-- A request that the agent's application hands on when its stream ends without raising: its
content is JSON of the declared length within the limit. -/
def Admissible (limit : ℤ) (request : HttpRequest) : Prop :=
  request.mediaType = "application/json" ∧
    request.contentLength.bind headerInt = some (request.content.length : ℤ) ∧
    request.content.length ≤ limit

/-- The stream is read whole when it stays within the limit, wherever it was cut. -/
theorem readStream_eq (limit : ℤ) (disconnects : Bool) (body : Bytes) (chunks : List Bytes)
    (hbody : body.length ≤ limit) :
    readStream limit disconnects body chunks = if limit < (body ++ chunks.flatten).length then
      .error (.overflowError "request body exceeds admission limit")
    else if disconnects then .error .clientDisconnect else .ok (body ++ chunks.flatten) := by
  induction chunks generalizing body with
  | nil => simp [readStream, hbody]
  | cons chunk chunks ih =>
      rw [readStream, List.flatten_cons, ← List.append_assoc]
      by_cases hover : limit < ((body ++ chunk).length : ℤ)
      · -- A part of the stream that is over the limit leaves the whole over it.
        have hwhole : limit < ((body ++ chunk ++ chunks.flatten).length : ℤ) := by
          rw [List.length_append, Nat.cast_add]
          omega
        rw [if_pos hover, if_pos hwhole]
      · rw [if_neg hover, ih (body ++ chunk) (not_lt.mp hover)]

theorem boundedBody_eq_ok (limit : ℤ) (request : HttpRequest) (raw : Bytes) :
    request.boundedBody limit = .ok raw ↔ request.disconnects = false ∧
      request.contentLength.bind headerInt = some (request.content.length : ℤ) ∧
        request.content.length ≤ limit ∧ raw = request.content := by
  unfold boundedBody
  cases hlength : request.contentLength with
  | none => simp
  | some contentLength =>
      cases hdeclared : headerInt contentLength with
      | none => simp [hdeclared]
      | some declared =>
          simp only [Option.bind_some, hdeclared, Option.some.injEq]
          by_cases hrange : declared < 0 ∨ limit < declared
          · rw [if_pos hrange]
            constructor
            · intro h
              cases h
            · rintro ⟨-, rfl, hlimit, -⟩
              omega
          rw [if_neg hrange, readStream_eq limit _ [] request.chunks (by simp; omega)]
          rw [List.nil_append, show request.chunks.flatten = request.content from rfl]
          by_cases hover : limit < (request.content.length : ℤ)
          · rw [if_pos hover]
            constructor
            · intro h
              cases h
            · rintro ⟨-, -, hlimit, -⟩
              omega
          rw [if_neg hover]
          cases hleft : request.disconnects with
          | true => simp
          | false =>
              rw [if_neg (by decide)]
              by_cases hmatch : (request.content.length : ℤ) = declared
              · rw [except_ok_bind, if_neg (not_not.mpr hmatch), except_pure, Except.ok.injEq]
                exact ⟨fun heq => ⟨rfl, hmatch.symm, not_lt.mp hover, heq.symm⟩, fun h => h.2.2.2.symm⟩
              · rw [except_ok_bind, if_pos hmatch]
                constructor
                · intro h
                  cases h
                · rintro ⟨-, rfl, -, -⟩
                  exact absurd rfl hmatch

/-- A body whose stream ends without raising is refused in the two ways that the handler catches. -/
theorem boundedBody_ne_disconnect (limit : ℤ) (request : HttpRequest)
    (h : request.disconnects = false) : request.boundedBody limit ≠ .error .clientDisconnect := by
  unfold boundedBody
  split
  · nofun
  · split
    · nofun
    · rename_i declared _
      by_cases hrange : declared < 0 ∨ limit < declared
      · rw [if_pos hrange]
        nofun
      rw [if_neg hrange, readStream_eq limit _ [] request.chunks (by simp; omega), h]
      by_cases hover : limit < ((([] : Bytes) ++ request.chunks.flatten).length : ℤ)
      · rw [if_pos hover]
        nofun
      · rw [if_neg hover, if_neg (by decide), except_ok_bind]
        split_ifs <;> nofun

/-- The agent's application reads the body of a request exactly when it is admissible. -/
theorem admissible_iff (limit : ℤ) (request : HttpRequest) (h : request.disconnects = false) :
    request.Admissible limit ↔ request.mediaType = "application/json" ∧
      request.boundedBody limit = .ok request.content := by
  rw [Admissible, boundedBody_eq_ok]
  simp [h]

end HttpRequest

/-! ## The applications -/

def RunPhase.value : RunPhase → String
  | .running => "RUNNING"
  | .killing => "KILLING"
  | .killed => "KILLED"
  | .completed => "COMPLETED"

/-- A request to one of the two applications. -/
inductive HttpCall
  | dispatch (request : HttpRequest)
  | status
  | complete (authorization : Option String)
  | receipt (authorization : Option String)

section Applications

variable {P : Platform} (d : Deployment P) (bearerToken : String)

/-- `_json_response`. -/
def jsonResponse (value : Json) (statusCode : ℤ) : Prog P HttpResponse :=
  .ofExcept (do return ⟨statusCode, ← canonicalJson P value⟩)

namespace AgentApp

/-- A request that is refused before anything is submitted contains the run. -/
def refuse (reasonCode : String) (statusCode : ℤ) : Prog P HttpResponse := do
  Gateway.failClosed reasonCode none
  jsonResponse (.obj [("accepted", .bool false), ("reason_code", .str reasonCode)]) statusCode

def acceptedBody (decision : Decision P) (result : TransportResult) : Json :=
  .obj [("accepted", .bool true),
    ("decision_hash", .str decision.decisionHash.1),
    ("response_bytes", .int result.responseBytes),
    ("response_sha256", .str result.responseSha256),
    ("status_code", .int result.statusCode)]

/-- The dispatch of what was submitted. -/
def answerSubmission (authorized : GatewayResult P) : Prog P HttpResponse := do
  if authorized.accepted then
    match authorized.action, authorized.decision with
    | some action, some decision => do
        -- `time.monotonic_ns()`.
        let nowNs ← monotonicNow
        let result ← Executor.dispatch d action decision nowNs
        jsonResponse (acceptedBody decision result) 200
    | _, _ => .raise (.assertionError "")
  else do
    let state ← perform .snapshot
    jsonResponse (.obj [("accepted", .bool false), ("reason_code", .str authorized.reasonCode),
      ("phase", .str state.phase.value)]) 403

/-- `POST /v1/dispatch`. -/
def dispatch (request : HttpRequest) : Prog P HttpResponse :=
  if request.mediaType ≠ "application/json" then
    refuse "request.content_type_invalid" 415
  else
    match request.boundedBody d.manifest.body.killCriteria.maxEventPayloadBytes.1 with
    | .error (.overflowError _) => refuse "admission.body_too_large" 413
    | .error (.valueError _) => refuse "request.length_invalid" 400
    -- No `except` clause is for this one.
    | .error .clientDisconnect => .raise .clientDisconnect
    | .ok raw => do
        let authorized ← Gateway.submitRaw d raw
        answerSubmission d authorized

/-- `GET /v1/status`. -/
def status : Prog P HttpResponse := do
  let state ← perform .snapshot
  jsonResponse (.obj [
    ("counters", .obj [("admitted", .int state.admitted), ("allowed", .int state.allowed),
      ("denied", .int state.denied), ("dispatched", .int state.dispatched),
      ("dropped_after_kill", .int state.droppedAfterKill), ("observed", .int state.observed),
      ("overload", .int state.rejectedOverload)]),
    ("kill_epoch", .int state.killEpoch),
    ("phase", .str state.phase.value)]) 200

end AgentApp

namespace ControlApp

/-- `authenticated`. -/
def authenticated (authorization : Option String) : Bool :=
  authorization.getD "" == "Bearer " ++ bearerToken

/-- The reply to a privileged request: the receipt, or why there is none. -/
def reply (authorization : Option String) (operation : Prog P (Receipt P)) : Prog P HttpResponse :=
  if authenticated bearerToken authorization then
    (do
      match ← operation.attempt with
      | .ok receipt => jsonResponse ((Sealed.codec P (receiptSealing P)).encode receipt) 200
      | .error (.runtimeError message) => jsonResponse (.obj [("error", .str message)]) 409
      | .error error => .raise error)
  else jsonResponse (.obj [("error", .str "unauthorized")]) 401

/-- `POST /v1/complete`. -/
def complete (authorization : Option String) : Prog P HttpResponse :=
  reply bearerToken authorization (Supervisor.complete d)

/-- `GET /v1/receipt`. -/
def receipt (authorization : Option String) : Prog P HttpResponse :=
  reply bearerToken authorization (Supervisor.receipt d none)

end ControlApp

def httpBody : HttpCall → Prog P HttpResponse
  | .dispatch request => AgentApp.dispatch d request
  | .status => AgentApp.status
  | .complete authorization => ControlApp.complete d bearerToken authorization
  | .receipt authorization => ControlApp.receipt d bearerToken authorization

/-- The runtime behind the two applications. -/
@[reducible]
def httpService : Service (Op P) Op.Res PyError :=
  (runtimeService d).serving HttpCall HttpResponse (httpBody d bearerToken) fun _ _ s => s

/-- Requests may arrive at any time. -/
def servedRequests : RunRule (httpService d bearerToken) where
  starts _ _ := True
  moves _ _ _ := True

/-- Requests that arrive at any time, beside a clock that never raises. -/
def steadyRequests : RunRule (httpService d bearerToken) where
  starts _ _ := True
  moves _ op env := op = .monotonicClock → ∃ ns, env.monotonicClock = .ok ns

end Applications

/-- What a successful answer stands on: the action that the body of the request spells has left
under an allowance on record, and the answer says what the RESULT on record says. -/
def Accounted {P : Platform} (d : Deployment P) (log : List (Entry P)) (request : HttpRequest)
    (response : HttpResponse) : Prop :=
  ∃ action decision id result, Action.fromWire P request.content = .ok action ∧
    Mediation.Delivered d True log action decision id result ∧
    canonicalJson P (AgentApp.acceptedBody decision result) = .ok response.content

namespace Adapter

variable {P : Platform} {d : Deployment P} {bearerToken : String} {t : ℕ}

theorem clean_reply {S : Service (Op P) Op.Res PyError} {rule : RunRule S} {D : Discipline rule}
    (authorization : Option String) {operation : Prog P (Receipt P)} (hoperation : D.Clean operation) :
    D.Clean (ControlApp.reply bearerToken authorization operation) := by
  unfold ControlApp.reply
  split_ifs
  · refine clean_bind (clean_attempt hoperation) fun outcome => ?_
    cases outcome with
    | ok receipt => exact clean_ofExcept _
    | error error => cases error <;> first | exact clean_ofExcept _ | exact clean_raise _
  · exact clean_ofExcept _

/-! ## Mediation -/

variable (d bearerToken) in
def mediated : Discipline (servedRequests d bearerToken) :=
  (Mediation.discipline d True).serving fun _ _ _ _ => trivial

theorem yields_jsonResponse (value : Json) (statusCode : ℤ) :
    (jsonResponse value statusCode : Prog P HttpResponse).Yields fun response =>
      response.statusCode = statusCode := by
  unfold jsonResponse
  cases canonicalJson P value with
  | ok text => exact rfl
  | error error => exact trivial

theorem yields_refuse (reasonCode : String) (statusCode : ℤ) :
    (AgentApp.refuse reasonCode statusCode : Prog P HttpResponse).Yields fun response =>
      response.statusCode = statusCode :=
  yields_bind fun _ => yields_jsonResponse _ _

/-- A submission returns the action that was submitted, if any. -/
theorem yields_submitRaw (raw : Bytes) : (Gateway.submitRaw d raw).Yields fun result =>
    ∀ action, result.action = some action → Action.fromWire P raw = .ok action := by
  have hrefused (reasonCode : String) (action : Action P)
      (heq : (Gateway.refused reasonCode : GatewayResult P).action = some action) :
      Action.fromWire P raw = .ok action := by
    cases heq
  refine yields_bind fun admittedNs => ?_
  split_ifs
  · exact yields_bind fun _ => yields_bind fun _ => yields_bind fun _ => hrefused _
  refine yields_bind fun admission => ?_
  cases admission with
  | droppedAfterKill => exact hrefused _
  | firstOverload => exact yields_bind fun _ => yields_bind fun _ => hrefused _
  | admitted =>
      cases hwire : Action.fromWire P raw with
      | error error =>
          refine yields_bind fun _ => yields_bind fun _ => yields_bind fun _ => ?_
          intro action heq
          cases heq
      | ok action =>
          have hsame (verdict : Bool) (reasonCode : String) (decision : Decision P) :
              ∀ action', (⟨verdict, reasonCode, some action, some decision⟩ : GatewayResult P).action =
                some action' → (Except.ok action : Except PyError (Action P)) = .ok action' := by
            rintro _ ⟨⟩
            rfl
          refine yields_bind fun sha => yields_bind fun request => yields_bind fun decidedNs =>
            yields_bind fun wall => yields_bind fun decidedAt => yields_bind fun result =>
            yields_bind fun _ => yields_bind fun epoch => yields_bind fun capability =>
            yields_bind fun decision => yields_bind fun _ => yields_bind fun _ => ?_
          unfold Gateway.conclude
          split_ifs
          · exact yields_bind fun _ => yields_bind fun _ => hsame _ _ _
          · exact hsame _ _ _

variable (d) in
/-- The successful answers are accounted for. -/
def Accounts (call : HttpCall) (outcome : Except PyError HttpResponse) (s : Runtime P) : Prop :=
  ∀ request response, call = .dispatch request → outcome = .ok response →
    response.statusCode = 200 → Accounted d s.history.log request response

theorem safe_answerSubmission {request : HttpRequest} {authorized : GatewayResult P} {s : Runtime P}
    (hwire : ∀ action, authorized.action = some action →
      Action.fromWire P request.content = .ok action)
    (h : ∀ decision, authorized.decision = some decision → OnRecord d decision s.history.log) :
    (Mediation.discipline d True).Safe t (Accounts d (.dispatch request))
      (AgentApp.answerSubmission d authorized) s := by
  unfold AgentApp.answerSubmission
  split_ifs
  · split
    · rename_i action decision haction hdecision
      have hstable : (Mediation.discipline d True).Stable fun s => OnRecord d decision s.history.log :=
        Mediation.stable_log fun _ rest hrecorded => hrecorded.append rest
      have hclock := safe_stable hstable
        (Mediation.clean_of_inside (Mediation.compositional.monotonicNow Mediation.inside_ordinary) t s)
        (h decision hdecision)
      refine safe_seq hclock (fun nowNs s₁ hrecorded => ?_) fun _ _ _ _ _ _ heq => by cases heq
      refine safe_seq (Mediation.safe_dispatch nowNs fun _ => hrecorded.2)
        (fun result s₂ hdelivered => ?_) fun _ _ _ _ _ _ heq => by cases heq
      obtain ⟨id, hdelivered⟩ := hdelivered result rfl
      refine safe_ofExcept.mpr fun request' response hcall houtcome _ => ?_
      obtain rfl := HttpCall.dispatch.inj hcall
      obtain ⟨text, htext, hresponse⟩ := bind_eq_ok.mp houtcome
      obtain rfl := Except.ok.inj hresponse
      exact ⟨action, decision, id, result, hwire action haction, hdelivered, htext⟩
    · intro _ _ _ heq
      cases heq
  · refine safe_mono ?_ (safe_yields (yields_bind fun state =>
      yields_jsonResponse _ 403) (clean_bind (Mediation.clean_of_inside
        (Mediation.inside_ordinary .snapshot trivial)) (fun _ => clean_ofExcept _) t s))
    rintro outcome s₁ ⟨-, hvalue⟩ request' response - rfl hcode
    rw [hvalue response rfl] at hcode
    exact absurd hcode (by decide)

theorem mediated_dispatch (request : HttpRequest) (s : Runtime P) :
    (Mediation.discipline d True).Safe t (Accounts d (.dispatch request))
      (AgentApp.dispatch d request) s := by
  have hrefuse (reasonCode : String) {statusCode : ℤ} (hcode : statusCode ≠ 200) :
      (Mediation.discipline d True).Safe t (Accounts d (.dispatch request))
        (AgentApp.refuse reasonCode statusCode) s := by
    refine safe_mono ?_ (safe_yields (yields_refuse reasonCode statusCode)
      (clean_bind (Mediation.clean_of_inside (Mediation.inside_failClosed _ _))
        (fun _ => clean_ofExcept _) t s))
    rintro outcome s₁ ⟨-, hvalue⟩ request' response - rfl heq
    exact absurd ((hvalue response rfl).symm.trans heq) hcode
  unfold AgentApp.dispatch
  split_ifs
  · exact hrefuse _ (by decide)
  · split
    · exact hrefuse _ (by decide)
    · exact hrefuse _ (by decide)
    · intro _ _ _ heq
      cases heq
    · rename_i raw hraw
      obtain rfl := ((HttpRequest.boundedBody_eq_ok _ _ _).mp hraw).2.2.2
      refine safe_seq (safe_yields (yields_submitRaw _) (Mediation.safe_submitRaw _))
        (fun authorized s₁ h => ?_) fun _ _ _ _ _ _ heq => by cases heq
      exact safe_answerSubmission (h.2 authorized rfl) (h.1 authorized rfl)

theorem covers_mediated : (mediated d bearerToken).Covers (Accounts d) := by
  refine covers_serving (fun hrely h => ?_) (fun t call s _ _ => ?_) fun _ _ _ => rfl
  · intro request response hcall houtcome hcode
    obtain ⟨action, decision, id, result, hwire, hdelivered, hcontent⟩ :=
      h request response hcall houtcome hcode
    obtain ⟨rest, hrest⟩ := Mediation.Rely.log hrely
    refine ⟨action, decision, id, result, hwire, ?_, hcontent⟩
    rw [hrest]
    exact hdelivered.append rest
  have hcontrol (call : HttpCall) (hcall : ∀ request, call ≠ .dispatch request)
      (hclean : (Mediation.discipline d True).Clean (httpBody d bearerToken call)) :
      (Mediation.discipline d True).Safe t (Accounts d call) (httpBody d bearerToken call) s :=
    safe_mono (fun _ _ _ request _ heq => absurd heq (hcall request)) (hclean t s)
  cases call with
  | dispatch request => exact mediated_dispatch request s
  | status =>
      exact hcontrol _ (fun _ heq => by cases heq) (clean_bind (Mediation.clean_of_inside
        (Mediation.inside_ordinary .snapshot trivial)) fun _ => clean_ofExcept _)
  | complete authorization =>
      exact hcontrol _ (fun _ heq => by cases heq) (clean_reply _ (Mediation.clean_of_inside
        (Mediation.compositional.complete Mediation.inside_supervisor d)))
  | receipt authorization =>
      exact hcontrol _ (fun _ heq => by cases heq) (clean_reply _ (Mediation.clean_of_inside
        (Mediation.compositional.receipt Mediation.inside_supervisor d none)))

/-! ## Charges -/

variable (d bearerToken) in
/-- Requests beside the charges of the policy. -/
def chargedRequests : RunRule ((httpService d bearerToken).ghost
    fun _ t op s _ spending => spendingAfter d op t s spending) where
  starts _ _ := True
  moves _ _ _ := True

variable (d bearerToken) in
def charged : Discipline (chargedRequests d bearerToken) :=
  (RuleBudgets.discipline d).serving fun _ _ _ _ => trivial

theorem charged_dispatch (request : HttpRequest) :
    (RuleBudgets.discipline d).Clean (AgentApp.dispatch d request) := by
  have hrefuse (reasonCode : String) (statusCode : ℤ) :
      (RuleBudgets.discipline d).Clean (AgentApp.refuse reasonCode statusCode) :=
    clean_bind (RuleBudgets.clean_side (side_failClosed _ _)) fun _ => clean_ofExcept _
  have hanswer (authorized : GatewayResult P) :
      (RuleBudgets.discipline d).Clean (AgentApp.answerSubmission d authorized) := by
    unfold AgentApp.answerSubmission
    split_ifs
    · split
      · refine clean_bind (RuleBudgets.clean_side side_monotonicNow) fun nowNs => ?_
        refine clean_bind (RuleBudgets.clean_of_undeciding (all_dispatch
          (fun _ => RuleBudgets.undeciding_of_quiet) (fun _ => RuleBudgets.undeciding_of_side) d _ _ _
          (fun _ _ heq => by cases heq) fun _ _ _ heq => by cases heq)) fun _ => clean_ofExcept _
      · exact clean_raise _
    · exact clean_bind (RuleBudgets.clean_of_undeciding (all_perform trivial)) fun _ => clean_ofExcept _
  unfold AgentApp.dispatch
  split_ifs
  · exact hrefuse _ _
  · split
    · exact hrefuse _ _
    · exact hrefuse _ _
    · exact clean_raise _
    · exact clean_bind (RuleBudgets.clean_submitRaw _) hanswer

theorem covers_charged : (charged d bearerToken).Covers fun _ _ _ => True where
  stable _ _ := trivial
  calls t call s _ _ := by
    have hsnapshot : (perform .snapshot : Prog P RunState).All RuleBudgets.Op.Undeciding :=
      all_perform trivial
    have hclean : (RuleBudgets.discipline d).Clean (httpBody d bearerToken call) := by
      cases call with
      | dispatch request => exact charged_dispatch request
      | status => exact clean_bind (RuleBudgets.clean_of_undeciding hsnapshot) fun _ => clean_ofExcept _
      | complete authorization => exact clean_reply _ (RuleBudgets.clean_side (side_complete d))
      | receipt authorization => exact clean_reply _ (RuleBudgets.clean_side (side_receipt d none))
    exact safe_serving (hclean t s)
  retire_inv h _ := h
  retire_rely _ _ _ := rfl

/-! ## Refusals -/

variable (d bearerToken) in
/-- A run that is no longer running stays so. -/
def stopping : Discipline (steadyRequests d bearerToken) where
  inv _ := True
  ready _ _ _ := True
  rely _ s s' := s.state.phase ≠ .running → s'.state.phase ≠ .running
  rely_refl _ _ := id
  rely_trans h h' hphase := h' (h hphase)
  act_inv _ _ _ _ := trivial
  act_rely _ _ _ hexec _ _ := notRunning_exec hexec

theorem stable_stopped : (stopping d bearerToken).Stable fun s => s.state.phase ≠ .running where
  rely hrely h := hrely h
  act _ hexec h := notRunning_exec hexec h

theorem clean_stopping {α : Type} (p : Prog P α) : (stopping d bearerToken).Clean p := by
  induction p with
  | ret value => exact clean_ret value
  | raise error => exact clean_raise error
  | act op next ih => exact clean_act (fun _ _ _ => trivial) ih

variable (d) in
/-- How the agent's application ends with a request it does not hand on. -/
def Refuses (call : HttpCall) (outcome : Except PyError HttpResponse) (s : Runtime P) : Prop :=
  ∀ request, call = .dispatch request → request.disconnects = false →
    ¬ request.Admissible d.manifest.body.killCriteria.maxEventPayloadBytes.1 →
    (∀ response, outcome = .ok response → response.statusCode ∈ [400, 413, 415]) ∧
      s.state.phase ≠ .running

theorem safe_refuse (reasonCode : String) (statusCode : ℤ) (s : Runtime P) :
    (stopping d bearerToken).Safe t (fun outcome s =>
      (∀ response, outcome = .ok response → response.statusCode = statusCode) ∧
        s.state.phase ≠ .running)
      (AgentApp.refuse reasonCode statusCode) s := by
  have hclosed : (stopping d bearerToken).Safe t (fun _ s => s.state.phase ≠ .running)
      (Gateway.failClosed reasonCode none : Prog P Unit) s := by
    refine safe_act fun s₁ _ _ => ⟨trivial, fun env s₂ r hmove hexec _ => ?_⟩
    obtain ⟨ns, hns⟩ := hmove rfl
    have hread : exec d env t s₁ .monotonicClock = some (s₂, r) := hexec
    simp only [exec, Option.some.injEq, Prod.mk.injEq] at hread
    obtain ⟨-, rfl⟩ := hread
    rw [hns]
    -- From here on the run has been latched, whatever becomes of the evidence.
    refine safe_act fun s₃ _ _ => ⟨trivial, fun env s₄ latched _ hexec _ => ?_⟩
    exact safe_mono (fun _ _ h => h.2)
      (safe_stable stable_stopped (clean_stopping _ t s₄) (Latching.notRunning_latchKill hexec))
  refine safe_seq hclosed (fun _ s₁ hstopped => safe_ofExcept.mpr ?_)
    fun error s₁ hstopped => ⟨fun response heq => (by cases heq), hstopped⟩
  refine ⟨fun response heq => ?_, hstopped⟩
  obtain ⟨text, -, hresponse⟩ := bind_eq_ok.mp heq
  obtain rfl := Except.ok.inj hresponse
  rfl

theorem covers_stopping : (stopping d bearerToken).Covers (Refuses d) where
  stable hrely h request hcall hends hbad := (h request hcall hends hbad).imp id hrely
  retire_inv _ _ := trivial
  retire_rely _ _ _ := id
  calls t call s _ _ := by
    cases call with
    | dispatch request =>
        by_cases hgood : request.Admissible d.manifest.body.killCriteria.maxEventPayloadBytes.1
        · refine safe_mono (fun outcome s _ => ?_) (clean_stopping _ t s)
          rintro request' heq - hbad
          obtain rfl := HttpCall.dispatch.inj heq
          exact absurd hgood hbad
        cases hleft : request.disconnects with
        | true =>
            refine safe_mono (fun outcome s _ => ?_) (clean_stopping _ t s)
            rintro request' heq hends
            obtain rfl := HttpCall.dispatch.inj heq
            rw [hleft] at hends
            cases hends
        | false =>
            have hrefused {reasonCode : String} {statusCode : ℤ} (hcode : statusCode ∈ [400, 413, 415]) :
                (stopping d bearerToken).Safe t (Refuses d (.dispatch request))
                  (AgentApp.refuse reasonCode statusCode) s := by
              refine safe_mono (fun outcome s h => ?_) (safe_refuse reasonCode statusCode s)
              intro request' _ _ _
              exact ⟨fun response heq => by rwa [h.1 response heq], h.2⟩
            change (stopping d bearerToken).Safe t _ (AgentApp.dispatch d request) s
            rw [HttpRequest.admissible_iff _ _ hleft, not_and_or] at hgood
            unfold AgentApp.dispatch
            split_ifs with hmedia
            · exact hrefused (by simp)
            · split
              · exact hrefused (by simp)
              · exact hrefused (by simp)
              · rename_i hraw
                exact absurd hraw (HttpRequest.boundedBody_ne_disconnect _ _ hleft)
              · rename_i raw hraw
                have hcontent := ((HttpRequest.boundedBody_eq_ok _ _ _).mp hraw).2.2.2
                rw [hcontent] at hraw
                exact absurd hraw (hgood.resolve_left (not_not.mpr (not_not.mp hmedia)))
    | status => exact safe_mono (fun _ _ _ _ heq => by cases heq) (clean_stopping _ t s)
    | complete => exact safe_mono (fun _ _ _ _ heq => by cases heq) (clean_stopping _ t s)
    | receipt => exact safe_mono (fun _ _ _ _ heq => by cases heq) (clean_stopping _ t s)

end Adapter

/-- What leaves the runtime is preceded by the whole record of what was decided about it, no
authorization is carried twice, the transports stay within the limits of the rules, and what a
successful answer says is on record. -/
structure Served {P : Platform} {d : Deployment P} {bearerToken : String}
    (c : Config (httpService d bearerToken)) : Prop where
  cleared : Justified (Cleared d True) c.shared.history.log
  budgets : WithinBudgets d c.shared.history.log
  accounted : ∀ t request response, c.running t = some (.dispatch request, .ret response) →
    response.statusCode = 200 → Accounted d c.shared.history.log request response

section

variable (P : Platform) (d : Deployment P) (bearerToken : String) (witness : TransparencyWitness P)
  (c : Config (httpService d bearerToken))

/-- Behind the web applications no condition on the callers is left: mediation, budgets and
truthful answers hold in every interleaving of any requests, whatever they hold and however their
bodies are cut. -/
theorem served_of_reachable
    (h : Reachable (servedRequests d bearerToken) (Runtime.init d witness) c) : Served c := by
  have hholds := holds_of_reachable Adapter.covers_mediated (Mediation.inv_init witness) h
  have hcleared : Justified (Cleared d True) c.shared.history.log := hholds.1.cleared
  obtain ⟨spending, hreach⟩ : ∃ spending, Reachable (Adapter.chargedRequests d bearerToken)
      (Runtime.init d witness, Spending.start) (c.beside spending) :=
    steps_ghost (fun _ _ _ _ => trivial) (fun _ _ _ _ _ => trivial) h _
  refine ⟨hcleared, withinBudgets_of_charges hcleared
    (invariant_of_reachable Adapter.covers_charged (RuleBudgets.inv_init witness) hreach), ?_⟩
  intro t request response hended hcode
  exact hholds.2 t _ _ hended request response rfl rfl hcode

/-- A request whose stream ends without raising and whose content is not JSON, has another length
than declared or is over the limit, however it is cut, ends with a refusal or an error, and when
it ends the run is no longer running and never is again, whatever other requests are served and
whatever becomes of the evidence. -/
theorem refused_of_reachable
    (h : Reachable (steadyRequests d bearerToken) (Runtime.init d witness) c) (t : ℕ)
    (request : HttpRequest) (outcome : Except PyError HttpResponse)
    (hended : c.running t = some (.dispatch request, .ofExcept outcome))
    (hends : request.disconnects = false)
    (hbad : ¬ request.Admissible d.manifest.body.killCriteria.maxEventPayloadBytes.1)
    (c' : Config (httpService d bearerToken))
    (hlater : Relation.ReflTransGen (Step (steadyRequests d bearerToken)) c c') :
    (∀ response, outcome = .ok response → response.statusCode ∈ [400, 413, 415]) ∧
      c'.shared.state.phase ≠ .running := by
  have hholds := holds_of_reachable Adapter.covers_stopping trivial h
  obtain ⟨hcode, hstopped⟩ := safe_ofExcept.mp (hholds.2 t _ _ hended) request rfl hends hbad
  exact ⟨hcode, (hholds.steps Adapter.covers_stopping (fun hrely => hrely) hstopped hlater).2⟩

end

namespace Reference

/-- The reference request as it is posted, in two chunks. -/
def posted (raw : Bytes) : HttpRequest where
  contentType := some "application/json; charset=utf-8"
  contentLength := some (String.ofList (Nat.toDigits 10 raw.length))
  chunks := [raw.take 1, raw.drop 1]
  disconnects := false

theorem mediaType_posted (raw : Bytes) : (posted raw).mediaType = "application/json" := by
  change String.ofList ("application/json; charset=utf-8".toList.takeWhile (· ≠ ';')) = _
  decide

theorem boundedBody_posted {raw : Bytes} (hraw : raw.length ≤ 24000) {limit : ℤ} (hlimit : 24000 ≤ limit) :
    (posted raw).boundedBody limit = .ok raw := by
  have hcontent : (posted raw).content = raw := by
    simp only [HttpRequest.content, posted, List.flatten_cons, List.flatten_nil, List.append_nil,
      List.take_append_drop]
  have hdigits : (Nat.toDigits 10 raw.length).length ≤ 4300 := by
    have hfive : (Nat.toDigits 10 raw.length).length ≤ 5 :=
      (Nat.length_toDigits_le_iff (by decide) (by decide)).mpr (by omega)
    omega
  have hdeclared : (posted raw).contentLength.bind headerInt = some (raw.length : ℤ) := by
    rw [posted, Option.bind_some, headerInt_toDigits _ hdigits]
  rw [HttpRequest.boundedBody_eq_ok, hcontent]
  exact ⟨rfl, hdeclared, by omega, rfl⟩

end Reference

open Reference in
/-- The theorem when a posted request is on its way to the outside. -/
theorem served_transported : ∃ (manifest : Manifest platform)
    (c : Config (httpService (deployment manifest) "token")),
    Reachable (servedRequests (deployment manifest) "token")
      (Runtime.init (deployment manifest) Reference.witness) c ∧
    .transported action authorizationId ∈ c.shared.history.log ∧ Served c := by
  obtain ⟨manifest, hm⟩ := exists_signed
  obtain ⟨raw, hwire, hraw⟩ := exists_wire
  let rule := handedDecisions (deployment manifest) True
  obtain ⟨s', request, decided, decision, digest, hends, hdecided⟩ :=
    exists_submitRaw rule 0 ⟨2000, by decide⟩
      ⟨1000002000, by decide⟩ hm (fun _ _ _ _ _ => trivial) (healthy_init manifest 2000) (by decide)
      (roomy_init hm) (show 0 < 800 by decide) ⟨by decide, by decide⟩ rfl hwire hraw
  have hsubmitted : Ends rule 0 (Runtime.init (deployment manifest) Reference.witness)
      (Gateway.submitRaw (deployment manifest) raw) (counted s') (.ok _) :=
    Ends.of_map (fun _ _ heq => Reply.submitted.inj heq) hends
  obtain ⟨s₂, code, hruns, hmem⟩ := exists_carried hm rule (fun _ _ => trivial) hdecided
    (show counted s' = { counted s' with history := (counted s').history } from rfl)
  have hclock : Ends rule 0 (counted s') (monotonicNow : Prog platform ℤ) (counted s') (.ok 2000) :=
    ends_raising (ends_perform (world 2000) trivial (by simp only [exec, world]))
  have hlimit : (24000 : ℤ) ≤ (deployment manifest).manifest.body.killCriteria.maxEventPayloadBytes.1 := by
    rw [show (deployment manifest).manifest.body = manifestBody from hm.body]
    decide
  obtain ⟨code', hdispatch⟩ : ∃ code', Runs rule 0 (Runtime.init (deployment manifest) Reference.witness)
      (AgentApp.dispatch (deployment manifest) (posted raw)) s₂ code' := by
    rw [AgentApp.dispatch, if_neg (not_not.mpr (mediaType_posted raw)), boundedBody_posted hraw hlimit]
    exact ⟨_, Ends.bind hsubmitted (Ends.bind hclock (Runs.bind hruns))⟩
  have hserved : Runs (servedRequests (deployment manifest) "token") 0
      (Runtime.init (deployment manifest) Reference.witness)
      (httpBody (deployment manifest) "token" (.dispatch (posted raw))) s₂ code' :=
    Runs.serving (fun _ _ _ _ => trivial) hdispatch
  have hstart : (servedRequests (deployment manifest) "token").starts
    (Runtime.init (deployment manifest) Reference.witness) (.dispatch (posted raw)) := trivial
  have hreach := steps_call (S := httpService (deployment manifest) "token")
    (c := Config.initial (Runtime.init (deployment manifest) Reference.witness)) (t := 0) rfl hstart hserved
  exact ⟨manifest, _, hreach, hmem, served_of_reachable _ _ _ _ _ hreach⟩

open Reference in
/-- The theorem for a post that is not JSON while no evidence can be committed. -/
theorem refused_outage : ∃ (manifest : Manifest platform)
    (c : Config (httpService (deployment manifest) "token")) (request : HttpRequest)
    (outcome : Except PyError HttpResponse),
    Reachable (steadyRequests (deployment manifest) "token")
      (Runtime.init (deployment manifest) Reference.witness) c ∧
    c.running 0 = some (.dispatch request, .ofExcept outcome) ∧
    ¬ request.Admissible (deployment manifest).manifest.body.killCriteria.maxEventPayloadBytes.1 ∧
    (∀ response, outcome = .ok response → response.statusCode ∈ [400, 413, 415]) ∧
      c.shared.state.phase ≠ .running := by
  obtain ⟨manifest, -⟩ := exists_signed
  let request : HttpRequest := ⟨some "text/plain", none, [], false⟩
  let rule : RunRule (runtimeService (deployment manifest)) :=
    ⟨fun _ _ => True, fun _ op env => op = .monotonicClock → ∃ ns, env.monotonicClock = .ok ns⟩
  obtain ⟨s', outcome, hclosed⟩ : ∃ s' outcome, Ends rule 0
      (Runtime.init (deployment manifest) Reference.witness)
      (Gateway.failClosed "request.content_type_invalid" none : Prog platform Unit) s' outcome :=
    exists_failClosed (fun _ _ _ => ⟨2000, rfl⟩) ⟨rfl, rfl⟩ _ _
  obtain ⟨outcome', hrefused⟩ : ∃ outcome', Ends rule 0
      (Runtime.init (deployment manifest) Reference.witness)
      (AgentApp.dispatch (deployment manifest) request) s' outcome' := by
    rw [AgentApp.dispatch, if_pos (by decide), AgentApp.refuse]
    cases outcome with
    | ok value => exact ⟨_, Ends.bind hclosed ends_ofExcept⟩
    | error error => exact ⟨_, Ends.bind_error hclosed⟩
  have hserved : Runs (steadyRequests (deployment manifest) "token") 0
      (Runtime.init (deployment manifest) Reference.witness)
      (httpBody (deployment manifest) "token" (.dispatch request)) s' (.ofExcept outcome') :=
    Runs.serving (fun _ _ _ h => h) hrefused
  have hstart : (steadyRequests (deployment manifest) "token").starts
    (Runtime.init (deployment manifest) Reference.witness) (.dispatch request) := trivial
  have hreach := steps_call (S := httpService (deployment manifest) "token")
    (c := Config.initial (Runtime.init (deployment manifest) Reference.witness)) (t := 0) rfl hstart hserved
  have hbad : ¬ request.Admissible
      (deployment manifest).manifest.body.killCriteria.maxEventPayloadBytes.1 := fun h =>
    absurd h.1 (by decide)
  set c := (Config.initial (Runtime.init (deployment manifest) Reference.witness) :
    Config (httpService (deployment manifest) "token")).set s' 0
      (some (.dispatch request, .ofExcept outcome')) with hc
  have hended : c.running 0 = some (.dispatch request, .ofExcept outcome') := by
    simp [hc, Config.set]
  exact ⟨manifest, c, request, outcome', hreach, hended, hbad,
    refused_of_reachable _ _ _ _ _ hreach 0 request outcome' hended rfl hbad _ .refl⟩

end Containment
