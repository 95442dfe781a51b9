import ConveyorModbus.System.HttpTrace
import ConveyorModbus.Web.RequestLog

/-!
# The HTTP server

`build_router` of `web/server.rs` with the tracing layer of
`web/http_trace.rs` around it, as one program for each request.  The framework
finds the route by its exact path, answers an unknown path and another method
itself, and runs the handler of a GET route for HEAD as well, dropping the body
when it sends the response.  What is looked at here is the way of a request
through all of this: which requests reach a device at all, and what the layer
adds to a response, to the log and to the span of the request.
-/

namespace ConveyorModbus

open Effects Program

/-!
## Routes
-/

/-- The extraction of each route's parameters, which belongs to the
framework. -/
structure Extraction where
  write : HttpRequest -> Except Rejection ConveyorWriteRequest
  writeSuccess : HttpRequest -> Except Rejection ConveyorWriteSuccessQuery
  canPutdown : HttpRequest -> Except Rejection ConveyorCanPutdownQuery
  needPutdown : HttpRequest -> Except Rejection ConveyorNeedPutdownRequest

def Extraction.extract (extraction : Extraction) : Extractor := fun request =>
  match request.route with
  | .write => (extraction.write request).map ConveyorRequest.write
  | .writeSuccess =>
      (extraction.writeSuccess request).map ConveyorRequest.writeSuccess
  | .canPutdown => (extraction.canPutdown request).map ConveyorRequest.canPutdown
  | .needPutdown =>
      (extraction.needPutdown request).map ConveyorRequest.needPutdown

inductive Endpoint where
  | health
  | conveyor (route : Route)
  | openapiSpec
  | scalarDocs
  deriving DecidableEq, Repr

inductive RouteMethod where
  | get
  | post
  deriving DecidableEq, Repr

def routes : List (String × RouteMethod × Endpoint) :=
  [("/health", .get, .health),
    ("/api/conveyor/write", .post, .conveyor .write),
    ("/api/conveyor/write-success", .get, .conveyor .writeSuccess),
    ("/api/conveyor/can-putdown", .get, .conveyor .canPutdown),
    ("/api/conveyor/need-putdown", .post, .conveyor .needPutdown),
    ("/openapi.json", .get, .openapiSpec),
    ("/scalar", .get, .scalarDocs)]

/-- A route for GET takes HEAD too. -/
def RouteMethod.admits : RouteMethod -> String -> Bool
  | get, method => method = "GET" || method = "HEAD"
  | post, method => method = "POST"

structure Assets where
  openapi : String
  scalar : String

namespace StatusCode

def notFound : StatusCode := 404

def methodNotAllowed : StatusCode := 405

end StatusCode

def Response.empty (status : StatusCode) : Response where
  status := status
  contentType := ""
  body := .text ""

def health : Response where
  status := StatusCode.ok
  contentType := "application/json"
  body := .text "\x7b\"success\":true,\"data\":\"ok\",\"message\":\"ok\"\x7d"

def openapiSpec (assets : Assets) : Response where
  status := StatusCode.ok
  contentType := "application/json"
  body := .text assets.openapi

def scalarDocs (assets : Assets) : Response where
  status := StatusCode.ok
  contentType := "text/html; charset=utf-8"
  body := .text assets.scalar

def conveyorHandler (conveyor : ConveyorConfig) (extraction : Extraction)
    (request : HttpRequest) : ServiceProgram Response :=
  match extraction.extract request with
  | .error rejection => pure rejection.intoResponse
  | .ok parameters =>
      interp serviceOps (do
        let result <- handle conveyor parameters
        pure (intoResponse result))

def IncomingRequest.toRoute (request : IncomingRequest) (route : Route) :
    HttpRequest where
  route := route
  contentType := headerStr request.headers "content-type"
  queryString := (request.uri.query.map Subtype.val).getD ""
  body := request.body

def serveEndpoint (conveyor : ConveyorConfig) (extraction : Extraction)
    (assets : Assets) (request : IncomingRequest) :
    Endpoint -> ServiceProgram Response
  | .health => pure health
  | .conveyor route =>
      conveyorHandler conveyor extraction (request.toRoute route)
  | .openapiSpec => pure (openapiSpec assets)
  | .scalarDocs => pure (scalarDocs assets)

def buildRouter (conveyor : ConveyorConfig) (extraction : Extraction)
    (assets : Assets) (request : IncomingRequest) : ServiceProgram Response :=
  match routes.lookup request.uri.path.val with
  | none => pure (Response.empty StatusCode.notFound)
  | some (method, endpoint) =>
      if method.admits request.method.val then
        serveEndpoint conveyor extraction assets request endpoint
      else
        pure (Response.empty StatusCode.methodNotAllowed)

/-!
## The tracing layer
-/

/-- What the propagator and the tracer, which are third-party code, find in the
headers of a request and give to its span. -/
structure Tracer where
  parentTraceId : HeaderMap -> Option String
  baggage : HeaderMap -> List (String × String)
  spanTraceId : HeaderMap -> Option String

inductive LogRecord where
  | started (traceId : String) (request : HttpRequestLogInfo)
      (message : String)
  | finished (traceId : String) (request : HttpRequestLogInfo)
      (statusCode : StatusCode) (response : HttpResponseLogInfo)
      (message : String)
  | bodyUnread (traceId error message : String)
  deriving DecidableEq, Repr

def LogRecord.message : LogRecord -> String
  | started _ _ message => message
  | finished _ _ _ _ message => message
  | bodyUnread _ _ message => message

/-- The Debug text of an error, which is not made of the request. -/
def LogRecord.error : LogRecord -> Option String
  | bodyUnread _ error _ => some error
  | started _ _ _ | finished _ _ _ _ _ => none

inductive Attribute where
  | text (value : String)
  | number (value : Nat)
  deriving DecidableEq, Repr

inductive SpanOp where
  | record (field value : String)
  | setAttribute (key : String) (value : Attribute)
  /-- `set_status(Status::error(description))` -/
  | setStatus (description : String)
  | addEvent (name : String) (attributes : List (String × String))
  deriving DecidableEq, Repr

inductive ServerEffect where
  | service (e : ServiceEffect)
  | log (record : LogRecord)
  | span (op : SpanOp)
  /-- `to_bytes(body, usize::MAX).await` -/
  | readBody (response : Response)
  /-- `started_at.elapsed().as_millis()` -/
  | elapsed

/-- Of the body read only its length is used. -/
abbrev ServerEffect.Reply : ServerEffect -> Type
  | service e => e.Reply
  | log _ => Unit
  | span _ => Unit
  | readBody _ => Except BodyError Nat
  | elapsed => Nat

abbrev ServerProgram (A : Type) : Type :=
  Program ServerEffect ServerEffect.Reply A

abbrev ServerEvent : Type := Event ServerEffect.Reply

namespace HttpTrace

def service (e : ServiceEffect) : ServerProgram e.Reply :=
  Program.lift (ServerEffect.service e)

abbrev log (record : LogRecord) : ServerProgram Unit :=
  Program.lift (ServerEffect.log record)

abbrev readBody (response : Response) : ServerProgram (Except BodyError Nat) :=
  Program.lift (ServerEffect.readBody response)

abbrev elapsed : ServerProgram Nat :=
  Program.lift ServerEffect.elapsed

def onSpan : List SpanOp -> ServerProgram Unit
  | [] => pure ()
  | op :: ops => do
      Program.lift (ServerEffect.span op)
      onSpan ops

def recordBaggageAttributes (baggage : List (String × String)) : List SpanOp :=
  baggage.map (fun entry =>
    .setAttribute s!"baggage.{entry.1}" (.text entry.2))

def isServerError (statusCode : StatusCode) : Bool :=
  500 ≤ statusCode

def httpErrorStatusDescription (statusCode : StatusCode) : String :=
  s!"HTTP response completed with status code {statusCode}"

def recordHttpErrorStatus (statusCode : StatusCode) : List SpanOp :=
  let description := httpErrorStatusDescription statusCode
  [.setStatus description,
    .setAttribute "error.type" (.text "http.server_error"),
    .setAttribute "http.response.status_code" (.number statusCode),
    .setAttribute "error.message" (.text description)]

def recordException (exceptionType message : String) : List SpanOp :=
  [.setStatus message,
    .setAttribute "error.type" (.text exceptionType),
    .setAttribute "exception.type" (.text exceptionType),
    .setAttribute "exception.message" (.text message),
    .addEvent "exception"
      [("exception.type", exceptionType), ("exception.message", message)]]

def traceId (tracer : Tracer) (headers : HeaderMap) : String :=
  ((tracer.parentTraceId headers).or (tracer.spanTraceId headers)).getD
    "unknown"

/-- The headers of a response carry its content type only. -/
def responseContentType (response : Response) : String :=
  headerValue [("content-type", response.contentType.toUTF8.toList)]
    "content-type"

/-- `trace_http_request` from the response of `next` on. -/
def finishRequest (tracer : Tracer) (request : IncomingRequest)
    (response : Response) : ServerProgram Response := do
  let info := HttpRequestLogInfo.fromRequest request
  let id := traceId tracer request.headers
  match <- readBody response with
  | .error err =>
      onSpan (recordException "http.response_body_read_error" err.display)
      log (.bodyUnread id err.debug s!"读取HTTP响应体失败 error={err.debug}")
      pure (Response.json StatusCode.internalServerError
        { success := false
          data := none
          message := "failed to read http response body" })
  | .ok length =>
      let elapsedMs <- elapsed
      let responseInfo : HttpResponseLogInfo :=
        { contentType := responseContentType response
          contentLength := length
          elapsedMs }
      log (.finished id info response.status responseInfo
        (responseInfo.finishMessage info response.status))
      onSpan (if isServerError response.status then
        recordHttpErrorStatus response.status
      else
        [])
      pure response

/-- `trace_http_request` around the service `next`. -/
def traceHttpRequest (tracer : Tracer)
    (next : IncomingRequest -> ServiceProgram Response)
    (request : IncomingRequest) : ServerProgram Response := do
  let info := HttpRequestLogInfo.fromRequest request
  let id := traceId tracer request.headers
  onSpan (recordBaggageAttributes (tracer.baggage request.headers) ++
    [.record "trace_id" id])
  log (.started id info info.startMessage)
  let response <- interp service (next request)
  finishRequest tracer request response

/-!
## Views of a trace
-/

def servedEvent (event : ServiceEvent) : ServerEvent :=
  ⟨.service event.1, event.2⟩

def spanEvent (op : SpanOp) : ServerEvent :=
  ⟨.span op, ()⟩

def logEvent (record : LogRecord) : ServerEvent :=
  ⟨.log record, ()⟩

def servedEvents (l : List ServerEvent) : List ServiceEvent :=
  l.filterMap (fun event =>
    match event with
    | ⟨.service e, reply⟩ => some ⟨e, reply⟩
    | _ => none)

def logRecords (l : List ServerEvent) : List LogRecord :=
  l.filterMap (fun event =>
    match event with
    | ⟨.log record, _⟩ => some record
    | _ => none)

section Views

variable (l m : List ServerEvent) (events : List ServiceEvent)
  (ops : List SpanOp)

@[simp] theorem servedEvents_append :
    servedEvents (l ++ m) = servedEvents l ++ servedEvents m :=
  List.filterMap_append

@[simp] theorem logRecords_append :
    logRecords (l ++ m) = logRecords l ++ logRecords m :=
  List.filterMap_append

@[simp] theorem servedEvents_served :
    servedEvents (events.map servedEvent) = events := by
  induction events with
  | nil => rfl
  | cons event events ih => exact congrArg (event :: ·) ih

@[simp] theorem logRecords_served : logRecords (events.map servedEvent) = [] := by
  induction events with
  | nil => rfl
  | cons event events ih => exact ih

@[simp] theorem servedEvents_span : servedEvents (ops.map spanEvent) = [] := by
  induction ops with
  | nil => rfl
  | cons op ops ih => exact ih

@[simp] theorem logRecords_span : logRecords (ops.map spanEvent) = [] := by
  induction ops with
  | nil => rfl
  | cons op ops ih => exact ih

end Views

/-!
## Complete traces of the layer
-/

theorem onSpan_returns_iff {ops : List SpanOp} {l : List ServerEvent}
    {done : Unit} : Returns (onSpan ops) l done <-> l = ops.map spanEvent := by
  induction ops generalizing l with
  | nil =>
      unfold onSpan
      rw [pure_eq, returns_ret_iff]
      simp
  | cons op ops ih =>
      unfold onSpan
      rw [lift_bind, returns_perform_iff]
      constructor
      · intro h
        rcases h with ⟨⟨⟩, rest, rfl, hrest⟩
        rw [ih.mp hrest]
        rfl
      · intro h
        exact ⟨(), ops.map spanEvent, h, ih.mpr rfl⟩

theorem expands_service_iff {events : List ServiceEvent}
    {l : List ServerEvent} :
    Expands service events l <-> l = events.map servedEvent := by
  induction events generalizing l with
  | nil => exact expands_nil_iff
  | cons event events ih =>
      rw [expands_cons_iff]
      constructor
      · intro h
        rcases h with ⟨first, rest, rfl, hfirst, hrest⟩
        rcases returns_perform_iff.mp hfirst with ⟨reply, tail, rfl, htail⟩
        rcases returns_ret_iff.mp htail with ⟨rfl, rfl⟩
        rw [ih.mp hrest]
        rfl
      · intro h
        exact ⟨[servedEvent event], events.map servedEvent, h,
          After.step (After.refl _), ih.mpr rfl⟩

section Layer

variable (tracer : Tracer) (request : IncomingRequest)

def opening : List ServerEvent :=
  (recordBaggageAttributes (tracer.baggage request.headers) ++
      [SpanOp.record "trace_id" (traceId tracer request.headers)]).map
        spanEvent ++
    [logEvent (.started (traceId tracer request.headers)
      (HttpRequestLogInfo.fromRequest request)
      (HttpRequestLogInfo.fromRequest request).startMessage)]

def finishedRecord (inner : Response) (length elapsedMs : Nat) : LogRecord :=
  let info : HttpResponseLogInfo :=
    { contentType := responseContentType inner
      contentLength := length
      elapsedMs }
  .finished (traceId tracer request.headers)
    (HttpRequestLogInfo.fromRequest request) inner.status info
    (info.finishMessage (HttpRequestLogInfo.fromRequest request) inner.status)

def unreadRecord (err : BodyError) : LogRecord :=
  .bodyUnread (traceId tracer request.headers) err.debug
    s!"读取HTTP响应体失败 error={err.debug}"

def closing (inner : Response) (elapsedMs : Nat) :
    Except BodyError Nat -> List ServerEvent
  | .error err =>
      ⟨.readBody inner, .error err⟩ ::
        (recordException "http.response_body_read_error" err.display).map
          spanEvent ++
        [logEvent (unreadRecord tracer request err)]
  | .ok length =>
      [⟨.readBody inner, .ok length⟩, ⟨.elapsed, elapsedMs⟩,
          logEvent (finishedRecord tracer request inner length elapsedMs)] ++
        (if isServerError inner.status then
          recordHttpErrorStatus inner.status
        else
          []).map spanEvent

variable {tracer request} {next : IncomingRequest -> ServiceProgram Response}
  {l : List ServerEvent} {inner response : Response}

theorem finishRequest_returns_iff :
    Returns (finishRequest tracer request inner) l response <->
      exists bodyRead elapsedMs,
        l = closing tracer request inner elapsedMs bodyRead ∧
        response = passOn inner (bodyRead.map (fun _ => ())) := by
  unfold finishRequest
  simp only [log, readBody, elapsed, lift_bind, returns_perform_iff]
  constructor
  · rintro ⟨bodyRead, read, rfl, hread⟩
    cases bodyRead with
    | error err =>
        rcases returns_bind_iff.mp hread with
          ⟨marked, ⟨⟩, last, rfl, hmarked, hlast⟩
        rcases returns_perform_iff.mp hlast with ⟨⟨⟩, done, rfl, hdone⟩
        rcases returns_ret_iff.mp hdone with ⟨rfl, rfl⟩
        rw [onSpan_returns_iff.mp hmarked]
        exact ⟨.error err, 0, rfl, rfl⟩
    | ok length =>
        rcases returns_perform_iff.mp hread with ⟨elapsedMs, timed, rfl, htimed⟩
        rcases returns_perform_iff.mp htimed with ⟨⟨⟩, marking, rfl, hmarking⟩
        rcases returns_bind_iff.mp hmarking with
          ⟨marked, ⟨⟩, done, rfl, hmarked, hdone⟩
        rcases returns_ret_iff.mp hdone with ⟨rfl, rfl⟩
        rw [onSpan_returns_iff.mp hmarked, List.append_nil]
        exact ⟨.ok length, elapsedMs, rfl, rfl⟩
  · rintro ⟨bodyRead, elapsedMs, rfl, rfl⟩
    cases bodyRead with
    | error err =>
        refine ⟨.error err, _, rfl, returns_bind_iff.mpr
          ⟨_, (), _, rfl, onSpan_returns_iff.mpr rfl, ?_⟩⟩
        exact After.step (After.refl _)
    | ok length =>
        refine ⟨.ok length, _, rfl, After.step (After.step ?_)⟩
        exact returns_bind_iff.mpr
          ⟨_, (), _, (List.append_nil _).symm, onSpan_returns_iff.mpr rfl,
            After.refl _⟩

theorem traceHttpRequest_returns_iff :
    Returns (traceHttpRequest tracer next request) l response <->
      exists events inner bodyRead elapsedMs,
        Returns (next request) events inner ∧
        l = opening tracer request ++ events.map servedEvent ++
          closing tracer request inner elapsedMs bodyRead ∧
        response = passOn inner (bodyRead.map (fun _ => ())) := by
  unfold traceHttpRequest
  simp only [log, lift_bind]
  rw [returns_bind_iff]
  constructor
  · rintro ⟨first, ⟨⟩, rest, rfl, hfirst, hrest⟩
    rcases returns_perform_iff.mp hrest with ⟨⟨⟩, logged, rfl, hlogged⟩
    rcases returns_bind_iff.mp hlogged with
      ⟨served, inner, after, rfl, hserved, hafter⟩
    rcases returns_interp_iff.mp hserved with ⟨events, hevents, hexpands⟩
    rcases finishRequest_returns_iff.mp hafter with
      ⟨bodyRead, elapsedMs, rfl, rfl⟩
    refine ⟨events, inner, bodyRead, elapsedMs, hevents, ?_, rfl⟩
    rw [onSpan_returns_iff.mp hfirst, expands_service_iff.mp hexpands]
    simp only [opening, List.append_assoc]
    rfl
  · rintro ⟨events, inner, bodyRead, elapsedMs, hevents, rfl, rfl⟩
    have hserved : Returns (interp service (next request))
        (events.map servedEvent) inner :=
      returns_interp_iff.mpr ⟨events, hevents, expands_service_iff.mpr rfl⟩
    have hfinish : Returns (finishRequest tracer request inner)
        (closing tracer request inner elapsedMs bodyRead) _ :=
      finishRequest_returns_iff.mpr ⟨bodyRead, elapsedMs, rfl, rfl⟩
    have hrun := returns_bind_iff.mpr ⟨_, _, _, rfl, hserved, hfinish⟩
    refine ⟨_, (), _, ?_, onSpan_returns_iff.mpr rfl,
      returns_perform_iff.mpr ⟨(), _, rfl, hrun⟩⟩
    simp only [opening, List.append_assoc]
    rfl

variable (tracer request)

@[simp] theorem servedEvents_opening :
    servedEvents (opening tracer request) = [] := by
  unfold opening
  rw [servedEvents_append, servedEvents_span]
  rfl

@[simp] theorem logRecords_opening : logRecords (opening tracer request) =
    [.started (traceId tracer request.headers)
      (HttpRequestLogInfo.fromRequest request)
      (HttpRequestLogInfo.fromRequest request).startMessage] := by
  unfold opening
  rw [logRecords_append, logRecords_span]
  rfl

variable (inner) (elapsedMs : Nat) (bodyRead : Except BodyError Nat)

@[simp] theorem servedEvents_closing :
    servedEvents (closing tracer request inner elapsedMs bodyRead) = [] := by
  cases bodyRead with
  | error err => rfl
  | ok length =>
      unfold closing
      rw [servedEvents_append, servedEvents_span]
      rfl

end Layer

/-!
## The status of the span
-/

end HttpTrace

end ConveyorModbus
