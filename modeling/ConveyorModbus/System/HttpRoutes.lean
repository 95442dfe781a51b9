import ConveyorModbus.System.HttpServer
import ConveyorModbus.System.Wire

/-!
# Which requests reach a device

A request touches a device only when the router knows its path and its method,
its parameters can be extracted and an entry of the configuration matches them;
it then makes the one operation of that entry.  Registers are written on POST
only, and never before the request is in the log, also when the client does not
wait for the end.
-/

namespace ConveyorModbus

open Effects Program

/-!
## What a request asks for
-/

def IncomingRequest.Routed (request : IncomingRequest) (route : Route) : Prop :=
  exists method,
    routes.lookup request.uri.path.val = some (method, .conveyor route) ∧
      method.admits request.method.val = true

def IncomingRequest.Asks (conveyor : ConveyorConfig) (extraction : Extraction)
    (request : IncomingRequest) (plan : Plan) : Prop :=
  exists route parameters, request.Routed route ∧
    extraction.extract (request.toRoute route) = .ok parameters ∧
      parameters.plan conveyor = some plan

def Plan.operation (plan : Plan) :
    ServiceProgram (Except ModbusError plan.request.Answer) :=
  ModbusService.operate plan.device plan.slaveId plan.request
    (plan.request.result plan.device)

section Router

variable {conveyor : ConveyorConfig} {extraction : Extraction}
  {assets : Assets} {request : IncomingRequest} {events : List ServiceEvent}
  {response : Response}

theorem conveyorHandler_bind {parameters : ConveyorRequest}
    {served : HttpRequest} (hextract : extraction.extract served = .ok parameters) :
    conveyorHandler conveyor extraction served >>=
        (fun response => ret (TaskOutput.response response)) =
      taskProgram conveyor (.handler parameters) := by
  unfold conveyorHandler taskProgram
  rw [hextract]
  simp only [webProgram, interp_bind, bind_assoc, pure_eq, interp_ret, ret_bind]

theorem buildRouter_cases (conveyor : ConveyorConfig) (extraction : Extraction)
    (assets : Assets) (request : IncomingRequest) :
    (exists route, request.Routed route ∧
      buildRouter conveyor extraction assets request =
        conveyorHandler conveyor extraction (request.toRoute route)) ∨
    ((forall route, ¬ request.Routed route) ∧
      exists response,
        buildRouter conveyor extraction assets request = ret response) := by
  unfold buildRouter IncomingRequest.Routed
  cases hlookup : routes.lookup request.uri.path.val with
  | none => exact Or.inr ⟨by simp, _, rfl⟩
  | some found =>
      rcases found with ⟨method, endpoint⟩
      by_cases hadmits : method.admits request.method.val = true
      · simp only [hadmits, if_true]
        cases endpoint with
        | conveyor route => exact Or.inl ⟨route, ⟨method, rfl, hadmits⟩, rfl⟩
        | health => exact Or.inr ⟨by simp, _, rfl⟩
        | openapiSpec => exact Or.inr ⟨by simp, _, rfl⟩
        | scalarDocs => exact Or.inr ⟨by simp, _, rfl⟩
      · refine Or.inr ⟨?_, _, by simp only [hadmits]; rfl⟩
        rintro route ⟨other, hother, hadmitted⟩
        rw [Option.some.injEq, Prod.mk.injEq] at hother
        rw [<- hother.left] at hadmitted
        exact hadmits hadmitted

theorem routed_unique {route other : Route} (h : request.Routed route)
    (hother : request.Routed other) : route = other := by
  rcases h with ⟨method, hlookup, _⟩
  rcases hother with ⟨method', hlookup', _⟩
  rw [hlookup] at hlookup'
  cases hlookup'
  rfl

/-- What a request does behind the router: the operation it asks for, or
nothing at all. -/
theorem buildRouter_returns
    (h : Returns (buildRouter conveyor extraction assets request) events
      response) :
    (exists plan result, request.Asks conveyor extraction plan ∧
      Returns plan.operation events result ∧
      response = plan.respond result) ∨
    ((forall plan, ¬ request.Asks conveyor extraction plan) ∧ events = []) := by
  rcases buildRouter_cases conveyor extraction assets request with
    ⟨route, hrouted, hprogram⟩ | ⟨hnone, answer, hprogram⟩
  · rw [hprogram] at h
    cases hextract : extraction.extract (request.toRoute route) with
    | error rejection =>
        unfold conveyorHandler at h
        rw [hextract] at h
        refine Or.inr ⟨?_, (returns_ret_iff.mp h).left⟩
        rintro plan ⟨other, parameters, hother, hextracted, _⟩
        rw [<- routed_unique hrouted hother, hextract] at hextracted
        cases hextracted
    | ok parameters =>
        have htask : Returns (taskProgram conveyor (.handler parameters)) events
            (.response response) := by
          rw [<- conveyorHandler_bind hextract]
          exact returns_bind_iff.mpr
            ⟨events, response, [], (List.append_nil _).symm, h, After.refl _⟩
        cases hplan : parameters.plan conveyor with
        | none =>
            refine Or.inr ⟨?_, (handler_returns_of_no_plan hplan htask).left⟩
            rintro plan ⟨other, others, hother, hextracted, hfound⟩
            rw [<- routed_unique hrouted hother, hextract] at hextracted
            cases hextracted
            rw [hplan] at hfound
            cases hfound
        | some plan =>
            rw [handler_program_of_plan hplan] at htask
            rcases returns_bind_iff.mp htask with
              ⟨first, result, rest, rfl, hfirst, hrest⟩
            rcases returns_ret_iff.mp hrest with ⟨rfl, hresponse⟩
            rw [List.append_nil]
            cases hresponse
            exact Or.inl ⟨plan, result,
              ⟨route, parameters, hrouted, hextract, hplan⟩, hfirst, rfl⟩
  · rw [hprogram] at h
    refine Or.inr ⟨?_, (returns_ret_iff.mp h).left⟩
    rintro plan ⟨route, parameters, hrouted, _⟩
    exact hnone route hrouted

theorem buildRouter_calling {operationTimeout : Duration} {object : Object}
    {sent : ModbusRequest} {k : CallResult sent.Answer -> ServiceProgram Response}
    (h : After (buildRouter conveyor extraction assets request) events
      (perform (.call operationTimeout object sent) k)) :
    exists plan, request.Asks conveyor extraction plan ∧
      plan.request = sent := by
  rcases buildRouter_cases conveyor extraction assets request with
    ⟨route, hrouted, hprogram⟩ | ⟨_, answer, hprogram⟩
  · rw [hprogram] at h
    cases hextract : extraction.extract (request.toRoute route) with
    | error rejection =>
        unfold conveyorHandler at h
        rw [hextract] at h
        cases h
    | ok parameters =>
        have htask := h.bind_left
          (fun response => ret (TaskOutput.response response))
        rw [conveyorHandler_bind hextract, perform_bind] at htask
        rcases task_calling htask with ⟨_, _, _, ⟨plan, hplan, _, hsent⟩, _, _⟩
        exact ⟨plan, ⟨route, parameters, hrouted, hextract, hplan⟩, hsent⟩
  · rw [hprogram] at h
    cases h

end Router

/-!
## Writes are posted
-/

def ConveyorRequest.route : ConveyorRequest -> Route
  | write _ => .write
  | writeSuccess _ => .writeSuccess
  | canPutdown _ => .canPutdown
  | needPutdown _ => .needPutdown

theorem map_eq_ok {A B : Type} {read : Except Rejection A} {f : A -> B} {b : B}
    (h : read.map f = .ok b) : exists a, b = f a := by
  cases read with
  | error rejection => cases h
  | ok a =>
      cases h
      exact ⟨a, rfl⟩

theorem extract_route {extraction : Extraction} {served : HttpRequest}
    {parameters : ConveyorRequest}
    (h : extraction.extract served = .ok parameters) :
    parameters.route = served.route := by
  unfold Extraction.extract at h
  cases hroute : served.route <;> simp only [hroute] at h <;>
    rcases map_eq_ok h with ⟨found, rfl⟩ <;> rfl

theorem route_of_write {conveyor : ConveyorConfig} {parameters : ConveyorRequest}
    {plan : Plan} {registerAddress value : UInt16}
    (hplan : parameters.plan conveyor = some plan)
    (hwrite : plan.request = .writeSingleRegister registerAddress value) :
    parameters.route = .write ∨ parameters.route = .needPutdown := by
  cases parameters with
  | write request => exact Or.inl rfl
  | needPutdown request => exact Or.inr rfl
  | writeSuccess query =>
      simp only [ConveyorRequest.plan] at hplan
      split at hplan
      · split at hplan
        · cases hplan
          cases hwrite
        · cases hplan
      · cases hplan
  | canPutdown query =>
      simp only [ConveyorRequest.plan] at hplan
      split at hplan
      · split at hplan
        · cases hplan
          cases hwrite
        · cases hplan
      · cases hplan

/-- A request that asks for a write is a POST to one of the two routes that
write. -/
theorem posted_of_write {conveyor : ConveyorConfig} {extraction : Extraction}
    {request : IncomingRequest} {plan : Plan} {registerAddress value : UInt16}
    (hasks : request.Asks conveyor extraction plan)
    (hwrite : plan.request = .writeSingleRegister registerAddress value) :
    request.method.val = "POST" ∧
      (request.uri.path.val = "/api/conveyor/write" ∨
        request.uri.path.val = "/api/conveyor/need-putdown") := by
  rcases hasks with
    ⟨route, parameters, ⟨method, hlookup, hadmits⟩, hextract, hplan⟩
  have hwrites := route_of_write hplan hwrite
  have hroute : parameters.route = route := extract_route hextract
  rw [hroute] at hwrites
  have hmem : (request.uri.path.val, method, Endpoint.conveyor route) ∈
      routes := by
    rcases List.lookup_eq_some_iff.mp hlookup with ⟨before, after, hroutes, _⟩
    rw [hroutes]
    exact List.mem_append_right _ List.mem_cons_self
  simp only [routes, List.mem_cons, List.not_mem_nil, or_false, Prod.mk.injEq,
    Endpoint.conveyor.injEq, reduceCtorEq, and_false, false_or] at hmem
  rcases hmem with ⟨hpath, rfl, rfl⟩ | ⟨_, _, rfl⟩ | ⟨_, _, rfl⟩ |
    ⟨hpath, rfl, rfl⟩
  · exact ⟨of_decide_eq_true hadmits, Or.inl hpath⟩
  · simp at hwrites
  · simp at hwrites
  · exact ⟨of_decide_eq_true hadmits, Or.inr hpath⟩

/-!
## Unfinished exchanges
-/

namespace HttpTrace

def OfLayer : ServerEffect -> Prop
  | .service _ => False
  | _ => True

theorem onSpan_ofLayer (ops : List SpanOp) : Performs OfLayer (onSpan ops) := by
  induction ops with
  | nil => trivial
  | cons op ops ih => exact ⟨trivial, fun _ => ih⟩

theorem finishRequest_ofLayer (tracer : Tracer) (request : IncomingRequest)
    (response : Response) :
    Performs OfLayer (finishRequest tracer request response) := by
  refine ⟨trivial, fun bodyRead => ?_⟩
  cases bodyRead with
  | error err =>
      exact (onSpan_ofLayer _).bind (fun _ => ⟨trivial, fun _ => trivial⟩)
  | ok length =>
      refine ⟨trivial, fun elapsedMs => ⟨trivial, fun _ => ?_⟩⟩
      exact (onSpan_ofLayer _).bind (fun _ => trivial)

/-- An exchange that has come to an effect of its handler has recorded its
start, and nothing since. -/
theorem traceHttpRequest_serving_iff {tracer : Tracer}
    {next : IncomingRequest -> ServiceProgram Response}
    {request : IncomingRequest} {l : List ServerEvent} {e : ServiceEffect} :
    (exists k, After (traceHttpRequest tracer next request) l
      (perform (.service e) k)) <->
    exists events k, After (next request) events (perform e k) ∧
      l = opening tracer request ++ events.map servedEvent := by
  unfold traceHttpRequest
  simp only [log, lift_bind]
  constructor
  · rintro ⟨k, h⟩
    rcases after_bind h with
      ⟨f, inner, hinner, hhead⟩ | ⟨first, ⟨⟩, rest, rfl, hfirst, hrest⟩
    · cases hhead
      exact ((hinner.performs (onSpan_ofLayer _)).right.left).elim
    · rcases after_perform_iff.mp hrest with
        ⟨_, hhead⟩ | ⟨⟨⟩, logged, rfl, hlogged⟩
      · cases hhead
      · rcases after_bind hlogged with
          ⟨f, inner, hinner, hhead⟩ | ⟨served, response, after, rfl, _, hafter⟩
        · cases hhead
          rcases after_interp hinner with
            ⟨events, e', k', begun, inside, _, hevents, rfl, hexpands, hcurrent⟩
          rcases after_perform_iff.mp hcurrent with
            ⟨rfl, hsame⟩ | ⟨reply, tail, _, htail⟩
          · cases hsame
            refine ⟨events, k', hevents, ?_⟩
            rw [onSpan_returns_iff.mp hfirst, expands_service_iff.mp hexpands,
              List.append_nil]
            simp only [opening, List.append_assoc]
            rfl
          · cases htail
        · exact ((hafter.performs
            (finishRequest_ofLayer tracer request response)).right.left).elim
  · rintro ⟨events, k, hevents, rfl⟩
    have hserving := hevents.interp (expands_service_iff.mpr rfl)
    refine ⟨fun r => interp service (k r) >>= finishRequest tracer request, ?_⟩
    have hopened : forall ops, Returns (onSpan ops) (ops.map spanEvent) () :=
      fun ops => onSpan_returns_iff.mpr rfl
    rw [opening, List.append_assoc]
    exact ((hopened _).bind_left _).append
      (After.step (hserving.bind_left (finishRequest tracer request)))

end HttpTrace

/-!
## Every exchange
-/

open HttpTrace

/-- An exchange makes the operation its request asks for, once, or leaves every
device alone. -/
theorem exchange_operates (conveyor : ConveyorConfig) (extraction : Extraction)
    (assets : Assets) (tracer : Tracer) (request : IncomingRequest)
    (l : List ServerEvent) (response : Response)
    (h : Returns (HttpTrace.traceHttpRequest tracer
      (buildRouter conveyor extraction assets) request) l response) :
    (exists plan result bodyRead, request.Asks conveyor extraction plan ∧
      Returns plan.operation (servedEvents l) result ∧
      response = passOn (plan.respond result)
        bodyRead) ∨
    ((forall plan, ¬ request.Asks conveyor extraction plan) ∧
      servedEvents l = []) := by
  rcases traceHttpRequest_returns_iff.mp h with
    ⟨events, inner, bodyRead, elapsedMs, hevents, rfl, hresponse⟩
  simp only [servedEvents_append, servedEvents_opening, servedEvents_served,
    servedEvents_closing, List.nil_append, List.append_nil]
  rcases buildRouter_returns hevents with
    ⟨plan, result, hasks, hoperation, rfl⟩ | ⟨hnone, hnothing⟩
  · exact Or.inl ⟨plan, result, _, hasks, hoperation, hresponse⟩
  · exact Or.inr ⟨hnone, hnothing⟩

/-- A write posted to the line, with the extraction of its body. -/
def lineRequest : IncomingRequest where
  method := ⟨"POST", by decide⟩
  version := .http11
  uri :=
    { scheme := none
      authority := none
      path := ⟨"/api/conveyor/write", by decide⟩
      query := none }
  headers :=
    [("host", "10.0.0.2:3000".toUTF8.toList),
      ("content-type", "application/json".toUTF8.toList),
      ("content-length", "34".toUTF8.toList)]
  body := "\x7b\"source\":\"A1\",\"destination\":\"B1\"\x7d".toUTF8.toList

def lineExtraction : Extraction where
  write _ := .ok { source := "A1", destination := "B1" }
  writeSuccess _ := .ok { source := "A1" }
  canPutdown _ := .ok { location := "B1" }
  needPutdown _ := .ok { location := "B1" }

def noTracer : Tracer where
  parentTraceId _ := none
  baggage _ := []
  spanTraceId _ := none

/-- A pool from which no connection is to be had. -/
def refusing : Environment ServiceEffect ServiceEffect.Reply Unit where
  answer
    | _, .runtime address slaveId =>
        buildModbusRuntime address slaveId default 0
    | _, .get pool =>
        .error { cause := .invalidAddress pool.manager.addr, text := "refused" }
    | _, .call _ _ _ => CallResult.timedOut false
    | _, .release _ => ()
    | _, .post _ _ => .ok 200
  next _ _ := ()

theorem exchange_operates_refused :
    exists l response plan result,
      Returns (HttpTrace.traceHttpRequest noTracer
        (buildRouter lineConveyor lineExtraction ⟨"", ""⟩) lineRequest) l
          response ∧
      lineRequest.Asks lineConveyor lineExtraction plan ∧
      Returns plan.operation (servedEvents l) result := by
  have hplayed := play_returns refusing ()
    (buildRouter lineConveyor lineExtraction ⟨"", ""⟩ lineRequest)
  have hreturns : Returns (HttpTrace.traceHttpRequest noTracer
      (buildRouter lineConveyor lineExtraction ⟨"", ""⟩) lineRequest) _ _ :=
    traceHttpRequest_returns_iff.mpr
      ⟨_, _, .ok 0, 0, hplayed, rfl, rfl⟩
  rcases exchange_operates lineConveyor lineExtraction ⟨"", ""⟩ noTracer
    lineRequest _ _ hreturns with
      ⟨plan, result, _, hasks, hoperation, _⟩ | ⟨_, hnothing⟩
  · exact ⟨_, _, plan, result, hreturns, hasks, hoperation⟩
  · simp only [servedEvents_append, servedEvents_opening, servedEvents_served,
      servedEvents_closing, List.nil_append, List.append_nil] at hnothing
    cases hnothing

/-- When a register is about to be written, finished or not, the request is a
POST to a route that writes, asks for this very write, and is in the log. -/
theorem exchange_writes_posted (conveyor : ConveyorConfig)
    (extraction : Extraction) (assets : Assets) (tracer : Tracer)
    (request : IncomingRequest) (l : List ServerEvent)
    (operationTimeout : Duration) (object : Object)
    (registerAddress value : UInt16)
    (k : CallResult Unit -> ServerProgram Response)
    (h : After (HttpTrace.traceHttpRequest tracer
      (buildRouter conveyor extraction assets) request) l
      (perform (.service (.call operationTimeout object
        (.writeSingleRegister registerAddress value))) k)) :
    request.method.val = "POST" ∧
      (request.uri.path.val = "/api/conveyor/write" ∨
        request.uri.path.val = "/api/conveyor/need-putdown") ∧
      (exists plan, request.Asks conveyor extraction plan ∧
        plan.request = .writeSingleRegister registerAddress value) ∧
      logRecords l =
        [.started (traceId tracer request.headers)
          (HttpRequestLogInfo.fromRequest request)
          (HttpRequestLogInfo.fromRequest request).startMessage] := by
  rcases (traceHttpRequest_serving_iff (e := .call operationTimeout object
    (.writeSingleRegister registerAddress value))).mp ⟨k, h⟩ with
    ⟨events, k', hevents, rfl⟩
  rcases buildRouter_calling hevents with ⟨plan, hasks, hwrite⟩
  rcases posted_of_write hasks hwrite with ⟨hmethod, hpath⟩
  refine ⟨hmethod, hpath, ⟨plan, hasks, hwrite⟩, ?_⟩
  rw [logRecords_append, logRecords_opening, logRecords_served,
    List.append_nil]

theorem exchange_writes_posted_line :
    exists l operationTimeout object k,
      After (HttpTrace.traceHttpRequest noTracer
        (buildRouter lineConveyor lineExtraction ⟨"", ""⟩) lineRequest) l
        (perform (.service (.call operationTimeout object
          (.writeSingleRegister 100 7))) k) ∧
      (logRecords l).length = 1 := by
  let runtime := buildModbusRuntime "10.0.0.5:502" 1 default 0
  let object : Object :=
    { pool := runtime.pool
      connection := runtime.pool.manager.established (Context.attach 0) }
  have hcalling : exists k, After
      (buildRouter lineConveyor lineExtraction ⟨"", ""⟩ lineRequest)
      (ModbusService.connectionEvents "10.0.0.5:502" 1 runtime (.ok object))
      (perform (.call object.connection.operationTimeout object
        (.writeSingleRegister 100 7)) k) :=
    ⟨_, After.step (After.step (After.refl _))⟩
  rcases hcalling with ⟨k, hcalling⟩
  rcases traceHttpRequest_serving_iff.mpr ⟨_, k, hcalling, rfl⟩ with
    ⟨k', hserving⟩
  have hposted := exchange_writes_posted lineConveyor lineExtraction ⟨"", ""⟩
    noTracer lineRequest _ _ object 100 7 k' hserving
  exact ⟨_, _, object, k', hserving, by rw [hposted.right.right.right]; rfl⟩

end ConveyorModbus
