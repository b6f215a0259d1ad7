import Mathlib.Data.List.Basic

/-!
# Requests to the Engine API

`apiDo` makes a request and may make it again, and the HTTP/3 transport below it may turn to
another transport. Neither sends a request twice that changes something: only a request without
a body whose method is GET or HEAD is made again, and only a dial that failed before anything
was sent leads to the other transport.
-/

namespace Rstream.Http

section Model

/-- What is at the end of a chain of errors. -/
inductive ApiFailure
  | canceled
  | certificateVerification
  | unknownAuthority
  | hostname
  | dns (isNotFound : Bool)
  | other (text : String)
  deriving DecidableEq, Repr

structure ApiTransportError where
  /-- There is an `apiQUICDialError` in the chain. -/
  quicDial : Bool
  failure : ApiFailure
  deriving DecidableEq, Repr

/-- `retryableAPITransportError`, with the cause of the context. -/
def retryableAPITransportError (cause : Option ApiFailure) (status : Nat) :
    Option ApiFailure → Bool
  | none => false
  | some err =>
    if cause ≠ none ∨ err = .canceled then false
    else if status ≠ 0 ∧ (status < 200 ∨ 300 ≤ status) then false
    else
      match err with
      | .certificateVerification | .unknownAuthority | .hostname => false
      | .dns isNotFound => !isNotFound
      | _ => true

/-- The transports below the client. -/
inductive ApiRoute
  | http3
  | tcp
  deriving DecidableEq, Repr

/-- What a transport does with a request: whether it sends it, and the status of the response
or an error. -/
structure ApiAnswer where
  sent : Bool
  result : Except ApiTransportError Nat

def ApiAnswer.dialFailed (answer : ApiAnswer) : Prop :=
  ∃ failure, answer.result = .error ⟨true, failure⟩

/-- The transport of an API client, with the calls of the transports below it. -/
structure ApiTransport where
  /-- It is an `apiHTTP3Transport`. -/
  http3 : Bool
  /-- There is a `fallback`. -/
  fallback : Bool
  useTCP : Bool
  calls : List (ApiRoute × ApiAnswer)

inductive RequestBody
  | none
  /-- `http.NoBody`. -/
  | empty
  /-- There is no `GetBody`. -/
  | once
  /-- The result of `GetBody`. -/
  | replayable (again : Except ApiFailure Unit)

/-- The answers of the transports to a request, and the cause of its context. -/
structure ApiRound where
  http3 : ApiAnswer
  tcp : ApiAnswer
  cause : Option ApiFailure

def ApiTransport.call (t : ApiTransport) (route : ApiRoute) (answer : ApiAnswer) :
    Except ApiTransportError Nat × ApiTransport :=
  (answer.result, { t with calls := t.calls ++ [(route, answer)] })

/-- `RoundTrip` of an `apiHTTP3Transport`, or of the TCP transport if there is none. -/
def ApiTransport.roundTrip (t : ApiTransport) (body : RequestBody) (round : ApiRound) :
    Except ApiTransportError Nat × ApiTransport :=
  if t.http3 = false ∨ t.useTCP = true then t.call .tcp round.tcp
  else
    match round.http3.result with
    | .ok _ => t.call .http3 round.http3
    | .error err =>
      if t.fallback = false ∨ err.quicDial = false ∨
          retryableAPITransportError round.cause 0 (some err.failure) = false then
        t.call .http3 round.http3
      else
        match body with
        | .once => t.call .http3 round.http3
        | .replayable (.error bodyErr) => (.error ⟨false, bodyErr⟩, (t.call .http3 round.http3).2)
        | _ => { (t.call .http3 round.http3).2 with useTCP := true }.call .tcp round.tcp

/-- What happens around a request of `apiDo`. -/
structure ApiAttempt where
  /-- `http.NewRequestWithContext`. -/
  newRequest : Except ApiFailure Unit
  round : ApiRound
  /-- The reading of the response. -/
  readAll : Except ApiFailure Unit
  /-- `context.Cause` after the request. -/
  cause : Option ApiFailure
  waitAPIRetry : Except ApiFailure Unit
  resolveEngineAPIURL : Except ApiFailure Unit

/-- `apiRequest`: the status and the error. The client follows no redirects. -/
def apiRequest (t : ApiTransport) (body : RequestBody) (attempt : ApiAttempt) :
    (Nat × Option ApiFailure) × ApiTransport :=
  match attempt.newRequest with
  | .error err => ((0, some err), t)
  | .ok _ =>
    match t.roundTrip body attempt.round with
    | (.error err, t) => ((0, some err.failure), t)
    | (.ok status, t) =>
      match attempt.readAll with
      | .error err => ((status, some err), t)
      | .ok _ =>
        if status < 200 ∨ 300 ≤ status then ((status, some (.other "API error")), t)
        else ((status, none), t)

/-- The loop of `apiDo` over the attempts that are left. -/
def apiDoLoop (body : RequestBody) (retryable : Bool) (t : ApiTransport) :
    List ApiAttempt → (Nat × Option ApiFailure) × ApiTransport
  | [] => ((0, some (.other "API request retry invariant failed")), t)
  | attempt :: rest =>
    match apiRequest t body attempt with
    | ((status, err), t) =>
      if err ≠ none ∧ attempt.cause ≠ none then ((status, attempt.cause), t)
      else if err = none ∨ retryable = false ∨ rest.isEmpty = true ∨
          retryableAPITransportError attempt.cause status err = false then
        ((status, err), t)
      else
        match attempt.waitAPIRetry, attempt.resolveEngineAPIURL with
        | .error err, _ => ((status, some err), t)
        | _, .error err => ((0, some err), t)
        | _, _ => apiDoLoop body retryable t rest

/-- The request may be made again. -/
def retryableRequest (method : String) : RequestBody → Bool
  | .none => method = "GET" || method = "HEAD"
  | _ => false

/-- `apiDo` with its two attempts; `prepare` stands for what comes before the loop. -/
def apiDo (t : ApiTransport) (method : String) (body : RequestBody)
    (prepare : Except ApiFailure Unit) (first second : ApiAttempt) :
    (Nat × Option ApiFailure) × ApiTransport :=
  match prepare with
  | .error err => ((0, some err), t)
  | .ok _ => apiDoLoop body (retryableRequest method body) t [first, second]

end Model

section Once

/-- What one request leads to: no call, one, or a second after a dial that failed. -/
inductive Requested (t : ApiTransport) (round : ApiRound) : ApiTransport → Prop
  | none : Requested t round t
  | tcp (hroute : t.http3 = false ∨ t.useTCP = true) :
      Requested t round { t with calls := t.calls ++ [(.tcp, round.tcp)] }
  | http3 : Requested t round { t with calls := t.calls ++ [(.http3, round.http3)] }
  | fellBack (hdial : round.http3.dialFailed) : Requested t round { t with
      useTCP := true
      calls := t.calls ++ [(.http3, round.http3)] ++ [(.tcp, round.tcp)] }

theorem ApiTransport.roundTrip_request (t : ApiTransport) (body : RequestBody)
    (round : ApiRound) : Requested t round (t.roundTrip body round).2 := by
  unfold roundTrip
  split_ifs with htcp
  · exact .tcp htcp
  split
  · exact .http3
  · next err herr =>
    split_ifs with hstay
    · exact .http3
    · simp only [not_or, Bool.not_eq_false] at hstay
      obtain ⟨quicDial, failure⟩ := err
      obtain rfl : quicDial = true := hstay.2.1
      split
      · exact .http3
      · exact .http3
      · exact .fellBack ⟨failure, herr⟩

theorem apiRequest_request (t : ApiTransport) (body : RequestBody) (attempt : ApiAttempt) :
    Requested t attempt.round (apiRequest t body attempt).2 := by
  have hround := t.roundTrip_request body attempt.round
  unfold apiRequest
  split
  · exact .none
  · split
    · next h => simpa only [h] using hround
    · next h =>
      rw [h] at hround
      split
      · exact hround
      · split_ifs <;> exact hround

/-- A request that may not be made again is made once. -/
theorem apiDoLoop_once (t : ApiTransport) (body : RequestBody) (attempt : ApiAttempt)
    (rest : List ApiAttempt) : (apiDoLoop body false t (attempt :: rest)).2 =
      (apiRequest t body attempt).2 := by
  unfold apiDoLoop
  split
  next h =>
    rw [h]
    split_ifs with _ hagain
    · rfl
    · rfl
    · exact absurd (.inr (.inl rfl)) hagain

theorem retryableRequest_eq_false {method : String} {body : RequestBody}
    (h : body ≠ .none ∨ method ≠ "GET" ∧ method ≠ "HEAD") :
    retryableRequest method body = false := by
  cases body with
  | none => simpa [retryableRequest] using h
  | _ => rfl

/-- From `t` to `t'` the calls send a request once at most. They come to TCP where there is no
HTTP/3 or its dial has failed before, or after a dial that failed before anything was sent. -/
structure SentOnce (t t' : ApiTransport) (calls : List (ApiRoute × ApiAnswer)) : Prop where
  history : t'.calls = t.calls ++ calls
  once : calls.countP (·.2.sent) ≤ 1
  tcp {before after : List (ApiRoute × ApiAnswer)} {answer : ApiAnswer} :
    calls = before ++ (.tcp, answer) :: after →
      before = [] ∧ (t.http3 = false ∨ t.useTCP = true) ∨
      ∃ failed, before = [(.http3, failed)] ∧ failed.dialFailed ∧ failed.sent = false
  useTCP : t'.useTCP = true →
    t.useTCP = true ∨ ∃ failed, (.http3, failed) ∈ calls ∧ failed.dialFailed

theorem Requested.sentOnce {t t' : ApiTransport} {round : ApiRound} (h : Requested t round t')
    (hdial : round.http3.dialFailed → round.http3.sent = false) :
    ∃ calls, SentOnce t t' calls := by
  cases h with
  | none => exact ⟨[], by simp, by simp, by simp, .inl⟩
  | tcp hroute =>
    refine ⟨[(.tcp, round.tcp)], rfl, List.countP_le_length, fun {before} _ _ hsplit => ?_, .inl⟩
    exact .inl ⟨by cases before <;> simp_all, hroute⟩
  | http3 =>
    refine ⟨[(.http3, round.http3)], rfl, List.countP_le_length, fun {before} _ _ hsplit => ?_,
      .inl⟩
    cases before <;> simp_all
  | fellBack hfailed =>
    refine ⟨[(.http3, round.http3), (.tcp, round.tcp)], List.append_assoc .., ?_,
      fun {before} _ _ hsplit => .inr ⟨round.http3, ?_, hfailed, hdial hfailed⟩,
      fun _ => .inr ⟨round.http3, List.mem_cons_self, hfailed⟩⟩
    · rw [List.countP_cons_of_neg (by simp [hdial hfailed])]
      exact List.countP_le_length
    · rcases before with _ | ⟨_, _ | _⟩ <;> simp_all

/-- A request with a body or of another method than GET and HEAD is sent once at most. -/
theorem apiDo_sent_once {t : ApiTransport} {method : String} {body : RequestBody}
    {prepare : Except ApiFailure Unit} {first second : ApiAttempt}
    (hmutation : body ≠ .none ∨ method ≠ "GET" ∧ method ≠ "HEAD")
    (hdial : ∀ attempt ∈ [first, second], attempt.round.http3.dialFailed →
      attempt.round.http3.sent = false) :
    ∃ calls, SentOnce t (apiDo t method body prepare first second).2 calls := by
  have hunsent := hdial first List.mem_cons_self
  unfold apiDo
  split
  · exact Requested.none.sentOnce hunsent
  · rw [retryableRequest_eq_false hmutation, apiDoLoop_once]
    exact (apiRequest_request t body first).sentOnce hunsent

/-- An attempt whose dial fails, with a response over TCP. -/
def dialFails : ApiAttempt where
  newRequest := .ok ()
  round := ⟨⟨false, .error ⟨true, .other "timeout"⟩⟩, ⟨true, .ok 201⟩, none⟩
  readAll := .ok ()
  cause := none
  waitAPIRetry := .ok ()
  resolveEngineAPIURL := .ok ()

theorem apiDo_sent_once_sample : ∃ calls, SentOnce ⟨true, true, false, []⟩ (apiDo
    ⟨true, true, false, []⟩ "POST" (.replayable (.ok ())) (.ok ()) dialFails dialFails).2 calls :=
  apiDo_sent_once (.inl nofun) (by simp [dialFails])

end Once

end Rstream.Http
