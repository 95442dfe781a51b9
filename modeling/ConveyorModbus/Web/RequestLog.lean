import Mathlib.Data.List.Basic
import ConveyorModbus.Web.Response

/-!
# What is logged about a request

The two records of `web/http_trace.rs` and the messages made of them.  A client
chooses most of what goes into a message, headers included.  Each message is
one line all the same: the HTTP library admits no line break in a request line,
and of a header only a value without control characters is used.
-/

namespace ConveyorModbus

/-!
## Lines
-/

def isLineBreak (c : Char) : Bool :=
  c = '\n' || c = '\x0d'

def OneLine (text : String) : Prop :=
  text.toList.all (fun c => !isLineBreak c) = true

instance (text : String) : Decidable (OneLine text) :=
  inferInstanceAs (Decidable (_ = true))

/-- A part of a request line, in which the HTTP library admits no break. -/
abbrev Line : Type := { text : String // OneLine text }

inductive Version where
  | http09
  | http10
  | http11
  | http2
  | http3
  deriving DecidableEq, Repr

def Version.debug : Version -> String
  | http09 => "HTTP/0.9"
  | http10 => "HTTP/1.0"
  | http11 => "HTTP/1.1"
  | http2 => "HTTP/2.0"
  | http3 => "HTTP/3.0"

structure Uri where
  scheme : Option Line
  authority : Option Line
  path : Line
  query : Option Line

/-- The bytes of a header value, which may be any. -/
abbrev HeaderValue : Type := List UInt8

/-- Names are in lower case; the first value of a name counts. -/
abbrev HeaderMap : Type := List (String × HeaderValue)

structure IncomingRequest where
  method : Line
  version : Version
  uri : Uri
  headers : HeaderMap
  body : List UInt8

/-!
## Headers
-/

/-- A printable ASCII character or a tab. -/
def isVisibleAscii (b : UInt8) : Bool :=
  (32 ≤ b && b < 127) || b = 9

/-- `HeaderValue::to_str` -/
def HeaderValue.toStr (value : HeaderValue) : Option String :=
  if value.all isVisibleAscii then
    some (String.ofList (value.map (fun b => Char.ofNat b.toNat)))
  else
    none

def headerStr (headers : HeaderMap) (name : String) : Option String :=
  (headers.lookup name).bind HeaderValue.toStr

def headerValue (headers : HeaderMap) (name : String) : String :=
  (headerStr headers name).getD ""

structure HttpRequestLogInfo where
  protocol : String
  method : String
  scheme : String
  host : String
  path : String
  queryString : String
  contentType : String
  contentLength : Nat
  deriving DecidableEq, Repr

structure HttpResponseLogInfo where
  contentType : String
  contentLength : Nat
  elapsedMs : Nat
  deriving DecidableEq, Repr

/-- `str::parse::<u64>` -/
def parseU64 (text : String) : Option Nat :=
  let digits :=
    match text.toList with
    | '+' :: rest => rest
    | chars => chars
  if digits ≠ [] ∧ digits.all Char.isDigit then
    let value := Nat.ofDigitChars 10 digits 0
    if value < 18446744073709551616 then some value else none
  else
    none

namespace HttpTrace

def protocol (version : Version) : String :=
  version.debug

def scheme (uri : Uri) (headers : HeaderMap) : String :=
  ((uri.scheme.map Subtype.val).or
    ((headerStr headers "x-forwarded-proto").or
      (headerStr headers "x-scheme"))).getD "http"

def host (uri : Uri) (headers : HeaderMap) : String :=
  ((uri.authority.map Subtype.val).or (headerStr headers "host")).getD ""

def queryString (uri : Uri) : String :=
  (uri.query.map (fun query => s!"?{query.val}")).getD ""

def contentLength (headers : HeaderMap) : Nat :=
  ((headerStr headers "content-length").bind parseU64).getD 0

end HttpTrace

namespace HttpRequestLogInfo

def fromRequest (request : IncomingRequest) : HttpRequestLogInfo where
  protocol := HttpTrace.protocol request.version
  method := request.method.val
  scheme := HttpTrace.scheme request.uri request.headers
  host := HttpTrace.host request.uri request.headers
  path := request.uri.path.val
  queryString := HttpTrace.queryString request.uri
  contentType := headerValue request.headers "content-type"
  contentLength := HttpTrace.contentLength request.headers

def startMessage (info : HttpRequestLogInfo) : String :=
  let pathbase := ""
  s!"Request starting {info.protocol} {info.method} {info.scheme}://{info.host}{pathbase}{info.path}{info.queryString} - {info.contentType} {info.contentLength}"

end HttpRequestLogInfo

namespace HttpResponseLogInfo

def finishMessage (info : HttpResponseLogInfo) (request : HttpRequestLogInfo)
    (statusCode : StatusCode) : String :=
  let pathbase := ""
  s!"Request finished {request.protocol} {request.method} {request.scheme}://{request.host}{pathbase}{request.path}{request.queryString} - {statusCode} {info.contentLength} {info.contentType} {info.elapsedMs}ms"

end HttpResponseLogInfo

/-!
## One line for each message
-/

section OneLine

open HttpTrace

structure HttpRequestLogInfo.OneLine (info : HttpRequestLogInfo) : Prop where
  protocol : ConveyorModbus.OneLine info.protocol
  method : ConveyorModbus.OneLine info.method
  scheme : ConveyorModbus.OneLine info.scheme
  host : ConveyorModbus.OneLine info.host
  path : ConveyorModbus.OneLine info.path
  queryString : ConveyorModbus.OneLine info.queryString
  contentType : ConveyorModbus.OneLine info.contentType

end OneLine

end ConveyorModbus
