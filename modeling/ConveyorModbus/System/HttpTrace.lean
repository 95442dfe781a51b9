import ConveyorModbus.System.Plan

/-!
# From the request to the response that leaves the router

`web/http_trace.rs` around the routes of `web/server.rs`: the framework
extracts the parameters of a route, the handler runs only when that succeeds,
and the tracing layer reads the whole body of the response before it passes it
on.  The extraction is the framework's; it answers a request it cannot extract
with the response of its own rejection.
-/

namespace ConveyorModbus

open Effects Program

/-!
## Requests and rejections
-/

/-- The four routes, each requested with its own method. -/
inductive Route where
  | write
  | writeSuccess
  | canPutdown
  | needPutdown
  deriving DecidableEq, Repr

structure HttpRequest where
  route : Route
  contentType : Option String
  queryString : String
  body : List UInt8
  deriving DecidableEq, Repr

/-- Why the framework could not extract the parameters. -/
inductive RejectionKind where
  | jsonDataError
  | jsonSyntaxError
  | missingJsonContentType
  | lengthLimitError
  | unknownBodyError
  | failedToDeserializeQueryString
  deriving DecidableEq, Repr

structure Rejection where
  kind : RejectionKind
  bodyText : String
  deriving DecidableEq, Repr

namespace Rejection

def status (rejection : Rejection) : StatusCode :=
  match rejection.kind with
  | .jsonDataError => 422
  | .jsonSyntaxError => 400
  | .missingJsonContentType => 415
  | .lengthLimitError => 413
  | .unknownBodyError => 400
  | .failedToDeserializeQueryString => 400

def invalidParameters (rejection : Rejection) : Bool :=
  match rejection.kind with
  | .jsonDataError | .jsonSyntaxError | .failedToDeserializeQueryString => true
  | .missingJsonContentType | .lengthLimitError | .unknownBodyError => false

def intoResponse (rejection : Rejection) : Response where
  status := rejection.status
  contentType := "text/plain; charset=utf-8"
  body := .text rejection.bodyText

end Rejection

abbrev Extractor : Type := HttpRequest -> Except Rejection ConveyorRequest

/-!
## The router
-/

def serveRoute (conveyor : ConveyorConfig) (extract : Extractor)
    (request : HttpRequest) : ServiceProgram TaskOutput :=
  match extract request with
  | .error rejection => pure (.response rejection.intoResponse)
  | .ok parameters => taskProgram conveyor (.handler parameters)

/-- The two texts of the error of a body. -/
structure BodyError where
  display : String
  debug : String
  deriving DecidableEq, Repr

/-- `to_bytes(body, usize::MAX).await` -/
abbrev BodyRead : Type := Except BodyError Unit

/-- The response that `trace_http_request` passes on. -/
def passOn (response : Response) (bodyRead : BodyRead) : Response :=
  match bodyRead with
  | .ok () => response
  | .error _ =>
      Response.json StatusCode.internalServerError
        { success := false
          data := none
          message := "failed to read http response body" }

def Responds (conveyor : ConveyorConfig) (extract : Extractor)
    (request : HttpRequest) (bodyRead : BodyRead) (response : Response) :
    Prop :=
  exists l inner,
    Returns (serveRoute conveyor extract request) l (.response inner) ∧
      response = passOn inner bodyRead

/-!
## The envelope
-/

/-- The standard envelope: data on success, none otherwise. -/
def Response.Enveloped (response : Response) : Prop :=
  response.contentType = "application/json" ∧
    exists envelope, response.body = .json envelope ∧
      ((response.status = StatusCode.ok ∧ envelope.success = true ∧
          envelope.data.isSome = true) ∨
        (response.status ≠ StatusCode.ok ∧ envelope.success = false ∧
          envelope.data = none))

theorem json_enveloped_ok (data : ResponseData) (message : String) :
    (Response.json StatusCode.ok
      { success := true, data := some data, message }).Enveloped :=
  ⟨rfl, _, rfl, Or.inl ⟨rfl, rfl, rfl⟩⟩

theorem json_enveloped_error {status : StatusCode} (message : String)
    (hstatus : status ≠ StatusCode.ok) :
    (Response.json status
      { success := false, data := none, message }).Enveloped :=
  ⟨rfl, _, rfl, Or.inr ⟨hstatus, rfl, rfl⟩⟩

theorem apiError_enveloped {error : ApiError}
    (hstatus : error.status ≠ StatusCode.ok) : error.intoResponse.Enveloped :=
  json_enveloped_error error.message hstatus

theorem Plan.respond_enveloped (plan : Plan)
    (result : Except ModbusError plan.request.Answer) :
    (plan.respond result).Enveloped := by
  cases result with
  | ok answer => exact json_enveloped_ok (plan.data answer) "ok"
  | error err =>
      have hstatus : StatusCode.badGateway ≠ StatusCode.ok := by decide
      exact apiError_enveloped hstatus

theorem handler_enveloped {conveyor : ConveyorConfig}
    {request : ConveyorRequest} {l : List ServiceEvent} {response : Response}
    (h : Returns (taskProgram conveyor (.handler request)) l
      (.response response)) : response.Enveloped := by
  cases hplan : request.plan conveyor with
  | none =>
      rcases (handler_returns_of_no_plan hplan h).right with ⟨message, hresponse⟩
      cases hresponse
      have hstatus : StatusCode.badRequest ≠ StatusCode.ok := by decide
      exact json_enveloped_error message hstatus
  | some plan =>
      rcases handler_returns_of_plan hplan h with
        ⟨runtime, err, _, hresponse⟩ | ⟨runtime, object, result, _, hresponse⟩
      · cases hresponse
        exact plan.respond_enveloped _
      · cases hresponse
        exact plan.respond_enveloped _

theorem rejection_not_enveloped (rejection : Rejection) :
    ¬ rejection.intoResponse.Enveloped := by
  intro h
  rcases h with ⟨_, envelope, hbody, _⟩
  cases hbody

theorem unread_enveloped (response : Response) (error : BodyError) :
    (passOn response (.error error)).Enveloped := by
  have hstatus : StatusCode.internalServerError ≠ StatusCode.ok := by decide
  exact json_enveloped_error _ hstatus

/-!
## Every request
-/

/-- The request is answered in the envelope, and with 400 when its parameters
are missing or malformed. -/
def UniformlyAnswered (conveyor : ConveyorConfig) (extract : Extractor)
    (request : HttpRequest) (bodyRead : BodyRead) : Prop :=
  forall response, Responds conveyor extract request bodyRead response ->
    response.Enveloped ∧
      forall rejection, extract request = .error rejection ->
        rejection.invalidParameters = true ->
          response.status = StatusCode.badRequest

/-- The parameters were extracted, or a rejection for another reason was lost
while its body was read. -/
def ExtractedOrUnread (extract : Extractor) (request : HttpRequest)
    (bodyRead : BodyRead) : Prop :=
  match extract request with
  | .ok _ => True
  | .error rejection =>
      rejection.invalidParameters = false ∧ exists error, bodyRead = .error error

theorem uniformlyAnswered_iff (conveyor : ConveyorConfig) (extract : Extractor)
    (request : HttpRequest) (bodyRead : BodyRead) :
    UniformlyAnswered conveyor extract request bodyRead <->
      ExtractedOrUnread extract request bodyRead := by
  unfold UniformlyAnswered Responds ExtractedOrUnread serveRoute
  cases hextract : extract request with
  | ok parameters =>
      refine ⟨fun _ => trivial, fun _ => ?_⟩
      rintro response ⟨l, inner, hreturns, rfl⟩
      refine ⟨?_, fun rejection hrejection => by cases hrejection⟩
      cases bodyRead with
      | ok read => exact handler_enveloped hreturns
      | error error => exact unread_enveloped inner error
  | error rejection =>
      have hreturns : Returns (pure (.response rejection.intoResponse) :
          ServiceProgram TaskOutput) [] (.response rejection.intoResponse) :=
        After.refl _
      constructor
      · intro h
        have hanswer := h _ ⟨[], _, hreturns, rfl⟩
        cases bodyRead with
        | ok read => exact absurd hanswer.left (rejection_not_enveloped rejection)
        | error error =>
            refine ⟨?_, error, rfl⟩
            cases hinvalid : rejection.invalidParameters with
            | false => rfl
            | true =>
                have hstatus : StatusCode.internalServerError =
                    StatusCode.badRequest := hanswer.right rejection rfl hinvalid
                exact absurd hstatus (by decide)
      · rintro ⟨hvalid, error, rfl⟩ response ⟨l, inner, _, rfl⟩
        refine ⟨unread_enveloped inner error, ?_⟩
        intro found hfound hinvalid
        cases hfound
        rw [hvalid] at hinvalid
        cases hinvalid

/-!
## A body without a field
-/

/-- A body with `source` only, posted to the write endpoint. -/
def missingDestination : HttpRequest where
  route := .write
  contentType := some "application/json"
  queryString := ""
  body := "\x7b\"source\":\"A1\"\x7d".toUTF8.toList

/-- The framework on a body without `destination`. -/
def rejectMissing : Extractor := fun _ =>
  .error
    { kind := .jsonDataError
      bodyText :=
        "Failed to deserialize the JSON body into the target type: " ++
          "missing field `destination` at line 1 column 15" }

theorem missing_not_uniform :
    ¬ UniformlyAnswered default rejectMissing missingDestination (.ok ()) := by
  intro h
  have hanswer := h _ ⟨[], _, After.refl _, rfl⟩
  exact rejection_not_enveloped _ hanswer.left

end ConveyorModbus
