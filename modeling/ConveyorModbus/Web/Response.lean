import ConveyorModbus.Modbus.Operations

/-!
# Requests and responses of the HTTP interface

The extracted parameters of the four conveyor endpoints, the data each of them
answers with, and the envelope every handler result is turned into.
-/

namespace ConveyorModbus

/-!
## Extracted parameters
-/

structure ConveyorWriteRequest where
  source : String
  destination : String
  deriving DecidableEq, Repr

structure ConveyorCanPutdownQuery where
  location : String
  deriving DecidableEq, Repr

structure ConveyorWriteSuccessQuery where
  source : String
  deriving DecidableEq, Repr

structure ConveyorNeedPutdownRequest where
  location : String
  deriving DecidableEq, Repr

/-!
## Response data
-/

structure ConveyorWriteResponse where
  source : String
  destination : String
  device : String
  slaveId : UInt8
  function : String
  registerAddress : UInt16
  value : UInt16
  deriving DecidableEq, Repr

structure ConveyorNeedPutdownResponse where
  location : String
  device : String
  slaveId : UInt8
  function : String
  registerAddress : UInt16
  value : UInt16
  deriving DecidableEq, Repr

structure ApiResponse (T : Type) where
  success : Bool
  data : Option T
  message : String
  deriving DecidableEq, Repr

/-- The value of the `data` field, over all endpoints. -/
inductive ResponseData where
  | write (response : ConveyorWriteResponse)
  | needPutdown (response : ConveyorNeedPutdownResponse)
  | values (values : List UInt16)
  deriving DecidableEq, Repr

def ApiResponse.map {T U : Type} (f : T -> U) (response : ApiResponse T) :
    ApiResponse U where
  success := response.success
  data := response.data.map f
  message := response.message

/-!
## Errors
-/

namespace StatusCode

def ok : StatusCode := 200

def badRequest : StatusCode := 400

def badGateway : StatusCode := 502

def internalServerError : StatusCode := 500

end StatusCode

structure ApiError where
  status : StatusCode
  message : String
  deriving DecidableEq, Repr

/-- `impl From<ModbusError> for ApiError` -/
def ApiError.ofModbusError (error : ModbusError) : ApiError where
  status := StatusCode.badGateway
  message := error.toString

/-!
## Responses
-/

inductive Body where
  | json (envelope : ApiResponse ResponseData)
  | text (content : String)
  deriving DecidableEq, Repr

structure Response where
  status : StatusCode
  contentType : String
  body : Body
  deriving DecidableEq, Repr

namespace Response

/-- `(status, Json(envelope)).into_response()` -/
def json (status : StatusCode) (envelope : ApiResponse ResponseData) :
    Response where
  status := status
  contentType := "application/json"
  body := .json envelope

end Response

/-- `impl IntoResponse for ApiError` -/
def ApiError.intoResponse (error : ApiError) : Response :=
  Response.json error.status
    { success := false, data := none, message := error.message }

/-- `impl IntoResponse for Result<Json<ApiResponse<_>>, ApiError>` -/
def intoResponse (result : Except ApiError (ApiResponse ResponseData)) :
    Response :=
  match result with
  | .ok envelope => Response.json StatusCode.ok envelope
  | .error error => error.intoResponse

end ConveyorModbus
