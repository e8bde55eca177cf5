import Vrl.Api.RequestBody
import Vrl.Security.ApiKeys
import Vrl.Security.Backpressure
import Vrl.Security.RateLimit

/-!
# Vrl.Api.Routes

The routes that need an API key (`api/routes.py`): what a request has to pass before the code
behind the route is run, and what the route makes of the exceptions of that code.

A request goes on in steps (`advance`), between which other requests take theirs. What the code
behind a route does, is left to the step in which it comes to an end. When a client goes away the
request is cancelled where it waits.
-/

namespace Vrl.Api

variable (std : PyStd)

/-! ### Requests and answers -/

/-- The routes that call `_require_api_key`. -/
inductive Route where
  | calculate
  | prove
  | verify
  | run
  | trainingDataset
  | trainingMoat
  | getProof
  deriving DecidableEq, Repr

/-- The routes that look at the rate limit, and load a payload. -/
def Route.isLimited : Route → Bool
  | .calculate | .prove | .verify | .run => true
  | .trainingDataset | .trainingMoat | .getProof => false

/-- The routes whose code runs behind the queue guard. -/
def Route.isGuarded : Route → Bool
  | .calculate | .prove | .run => true
  | .verify | .trainingDataset | .trainingMoat | .getProof => false

/-- What a request brings: the host of the client if it is known, the header, the body, and the
query parameter of the training routes. -/
structure ApiRequest where
  route : Route
  clientHost : Option String := none
  xApiKey : Option String := none
  body : ByteArray := ⟨#[]⟩
  limit : Int := 1000

/-- `_client_key`. -/
def ApiRequest.clientKey (r : ApiRequest) : String := r.clientHost.getD "unknown"

/-- The exception classes that the routes tell apart. None of them is a subclass of another. -/
inductive ExceptionClass where
  | httpException (statusCode : Nat) (detail : String)
  | backpressureError
  | duplicateInputHashError
  | repositoryUnavailableError
  | securityViolation
  | validationError
  | persistenceIntegrityError
  | other
  deriving DecidableEq, Repr

/-- An exception, with its text. -/
structure RaisedException where
  kind : ExceptionClass
  text : String
  deriving DecidableEq, Repr

/-- How a request ends: with content, with the content of a verification that is not valid, with
an error that has a status, with an exception that no route handles, or cancelled. -/
inductive Answer where
  | content
  | invalid (reason : String)
  | http (statusCode : Nat) (detail : String)
  | unhandled
  | cancelled
  deriving DecidableEq, Repr

/-- The `except` clauses of a route around the code that it runs. -/
def Route.handles (route : Route) (e : RaisedException) : Answer :=
  match route, e.kind with
  | .calculate, .httpException statusCode detail => .http statusCode detail
  | .calculate, .backpressureError => .http 503 e.text
  | .calculate, .duplicateInputHashError => .http 409 e.text
  | .calculate, .repositoryUnavailableError => .http 503 e.text
  | .calculate, .securityViolation => .http 400 e.text
  | .calculate, .validationError => .http 400 "Input validation failed"
  | .calculate, .persistenceIntegrityError => .http 500 "Persistence integrity check failed"
  | .calculate, .other => .http 500 "Unable to calculate landed cost"
  | .prove, .httpException statusCode detail => .http statusCode detail
  | .prove, .backpressureError => .http 503 e.text
  | .prove, .repositoryUnavailableError => .http 503 e.text
  | .prove, .securityViolation => .http 400 e.text
  | .prove, .validationError => .http 400 "Input validation failed"
  | .prove, _ => .http 500 "Unable to enqueue proof"
  -- here an `HTTPException` of the code is one of the other exceptions
  | .run, .backpressureError => .http 503 e.text
  | .run, .duplicateInputHashError => .http 409 e.text
  | .run, .repositoryUnavailableError => .http 503 e.text
  | .run, .securityViolation => .http 400 e.text
  | .run, .validationError => .http 400 "Input validation failed"
  | .run, .persistenceIntegrityError => .http 500 "Persistence integrity check failed"
  | .run, _ => .http 500 "Unable to run deterministic calculation"
  | .verify, .repositoryUnavailableError => .invalid e.text
  | .verify, .securityViolation => .invalid e.text
  | .verify, .validationError => .invalid ("Input validation failed: " ++ e.text)
  | .verify, _ => .invalid ("Unable to verify persisted evidence: " ++ e.text)
  | .trainingDataset, .repositoryUnavailableError => .http 503 e.text
  | .trainingDataset, _ => .http 500 "Unable to export verified training dataset"
  | .trainingMoat, .repositoryUnavailableError => .http 503 e.text
  | .trainingMoat, _ => .http 500 "Unable to compute moat metrics"
  | .getProof, .httpException statusCode detail => .http statusCode detail
  | .getProof, _ => .unhandled

/-- How the code behind a route comes to an end. -/
inductive CodeEnd where
  | returned
  | raised (e : RaisedException)
  | cancelled
  deriving DecidableEq, Repr

/-- The answer of a route to the end of its code. -/
def Route.answers (route : Route) : CodeEnd → Answer
  | .returned => .content
  | .raised e => route.handles e
  | .cancelled => .cancelled

/-! ### What comes before the code of a route -/

/-- `_require_api_key`: the detail of the error 401 if there is one, and the keys that are
left. -/
def requireApiKey (keys : ApiKeyStore) (xApiKey : Option String) (today : String) :
    Except String Unit × ApiKeyStore :=
  if keys.isEnabled = false then (.ok (), keys)
  else
    match xApiKey with
    | none => (.error "X-Api-Key header is required", keys)
    | some key =>
        if key = "" then (.error "X-Api-Key header is required", keys)
        else
          match keys.authenticate std.toSha256 key today with
          | (none, keys) => (.error "Invalid API key", keys)
          | (some _, keys) => (.ok (), keys)

/-- What a route makes of the result of `_load_json_payload`: nothing, if it goes on. -/
def Route.refusesPayload (route : Route) :
    Except BodyError (List (PyText × BodyValue)) → Option Answer
  | .error (.http statusCode detail) => some (.http statusCode detail)
  | .error (.raised _) => some .unhandled
  | .ok payload =>
      if route = .run ∧ payload = [] then
        some (.http 400 "Explicit input payload is required for deterministic execution")
      else none

/-- What the training routes make of their parameter: nothing, if they go on. -/
def ApiRequest.refusesLimit (r : ApiRequest) : Option Answer :=
  if r.route = .getProof then none
  else if r.limit < 1 ∨ 10000 < r.limit then
    some (.http 400 "limit must be between 1 and 10000")
  else none

/-! ### A request on its way -/

/-- How far a request has come. -/
inductive Stage where
  | received
  /-- The key is good, or none is needed. -/
  | identified
  /-- The rate limit has let it through, and the body is awaited. -/
  | admitted
  /-- The payload is loaded. -/
  | loaded
  /-- The code of the route runs behind the guard. -/
  | inFlight
  /-- The code of the route runs. -/
  | running
  | answered (answer : Answer)
  deriving DecidableEq, Repr

/-- A request, with the day on which its key was counted and the time at which it was let
through. -/
structure ApiCall where
  request : ApiRequest
  stage : Stage := .received
  countedOn : Option String := none
  admittedAt : Option ℚ := none

/-- What the requests share, and the last reading of the clock. -/
structure ApiState where
  keys : ApiKeyStore
  limiter : RateLimiter
  guard : QueueDepthGuard
  clock : ℚ

/-- What a step reads: the day, the clock, or how the code of the route ends. -/
inductive Reading where
  | authenticate (today : String)
  | allow (now : ℚ)
  | load
  | enter
  | finish (result : CodeEnd)
  | disconnect

/-- The call is answered. -/
def ApiCall.answer (call : ApiCall) (answer : Answer) : ApiCall :=
  { call with stage := .answered answer }

/-- The next step of a request, where the reading is one that it waits for. -/
def advance (s : ApiState) (call : ApiCall) : Reading → Option (ApiState × ApiCall)
  | .authenticate today =>
      if call.stage = .received then
        match requireApiKey std s.keys call.request.xApiKey today with
        | (.ok (), keys) =>
            some ({ s with keys }, { call with stage := .identified, countedOn := some today })
        | (.error detail, keys) => some ({ s with keys }, call.answer (.http 401 detail))
      else none
  | .allow now =>
      if call.stage = .identified ∧ call.request.route.isLimited ∧ s.clock ≤ now then
        let (result, limiter) := s.limiter.allow call.request.clientKey now
        let s := { s with limiter, clock := now }
        if result.allowed then
          some (s, { call with stage := .admitted, admittedAt := some now })
        else some (s, call.answer (.http 429 "Rate limit exceeded"))
      else none
  | .load =>
      if call.stage = .admitted then
        match call.request.route.refusesPayload (loadJsonPayload std call.request.body) with
        | some answer => some (s, call.answer answer)
        | none => some (s, { call with stage := .loaded })
      else none
  | .enter =>
      if call.stage = .loaded then
        if call.request.route.isGuarded then
          match s.guard.acquire with
          | (.ok (), guard) => some ({ s with guard }, { call with stage := .inFlight })
          | (.error text, guard) =>
              some ({ s with guard },
                call.answer (call.request.route.handles ⟨.backpressureError, text⟩))
        else some (s, { call with stage := .running })
      else if call.stage = .identified ∧ call.request.route.isLimited = false then
        match call.request.refusesLimit with
        | some answer => some (s, call.answer answer)
        | none => some (s, { call with stage := .running })
      else none
  | .finish result =>
      if call.stage = .inFlight then
        some ({ s with guard := s.guard.release },
          call.answer (call.request.route.answers result))
      else if call.stage = .running then
        some (s, call.answer (call.request.route.answers result))
      else none
  | .disconnect =>
      if call.stage = .admitted then some (s, call.answer .unhandled) else none

end Vrl.Api
