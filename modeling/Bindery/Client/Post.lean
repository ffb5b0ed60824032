import Bindery.Client.Request
import Bindery.Client.ServerError

/-!
# Sending operations

An operation is sent to a server, and the data of the response are decoded into a value.

## Main definitions

- `decodeData` — decodes the data of a response into what a pointer points to
- `HttpResponse`, `Transport` — what comes back from a server, and what sends requests
- `ErrorResponse` — a response that reports errors or a failure
- `HttpResponse.accept`, `HttpResponse.interpret` — what a response says, and what that makes of a target
- `Client`, `Client.post` — sends an operation
- `PostError`, `PostError.message` — why there is no answer
-/

namespace Bindery

/-- Why data cannot be decoded. -/
inductive DataError where
  /-- The target is no pointer to a value. -/
  | target (type : String)
  /-- The data do not fit the target. -/
  | json (fault : Json.Fault)

/-- The text of an error, where `fault` words an error of JSON. -/
def DataError.message (fault : Json.Fault → String) : DataError → String
  | target type => "decode graphql data: decode json: cannot decode into non-pointer " ++ type
  | json f => "decode graphql data: decode json: " ++ fault f

/-- Decodes data into what a pointer points to, and returns what it points to then. -/
def decodeData (data : List Char) : Value → Except DataError Value
  | .pointer target => (Json.decodeText Value.decode target data).mapError .json
  | .interface _ content => decodeData data content
  | .nilInterface _ => .error (.target "<nil>")
  | v => .error (.target v.type.name)

/-- What comes back from a server. -/
structure HttpResponse where
  /-- The status. -/
  status : Int
  /-- The body, as far as it can be read. -/
  body : Octets
  /-- Why the body cannot be read to its end, if so. -/
  broken : Option String

/-- Sends a request, or tells why it cannot be sent. -/
abbrev Transport := HttpRequest → Except String HttpResponse

/-- A response that reports errors or a failure. -/
structure ErrorResponse where
  /-- The status of the response. -/
  status : Int
  /-- The body of a response that failed. -/
  body : Octets
  /-- The errors that the server reports. -/
  errors : List (Option ServerError)

/-- The text of a response that reports errors or a failure. -/
def ErrorResponse.message (e : ErrorResponse) : Octets :=
  if e.errors.isEmpty then
    Octets.ofString ("http error: status " ++ toString e.status ++ ": ") ++ e.body
  else Octets.ofString ("graphql error: " ++ errorsText e.errors)

/-- Why there is no answer. -/
inductive PostError where
  | request (error : RequestError)
  | transport (url : Octets) (reason : String)
  | unreadable (reason : String)
  | undecodable (fault : Json.Fault)
  | response (error : ErrorResponse)
  | data (error : DataError)

/-- The text of an error, where `fault` words an error of JSON. -/
def PostError.message (fault : Json.Fault → String) : PostError → Octets
  | request e => Octets.ofString ("failed to create post request: " ++ e.message fault)
  | transport url reason => Octets.ofString ("request failed: Post " ++ url.quoted ++ ": " ++ reason)
  | unreadable reason => Octets.ofString ("failed to read response body: " ++ reason)
  | undecodable f => Octets.ofString ("failed to decode response: " ++ fault f)
  | response e => e.message
  | data e => Octets.ofString ("failed to decode data into response: " ++ e.message fault)

/-- The parts of a response. -/
structure Envelope where
  /-- The data as they are written, empty if there are none. -/
  data : List Char
  /-- The errors. -/
  errors : List (Option ServerError)
  deriving Inhabited

/-- Decodes the parts of a response. The data are only checked for their form. -/
def Envelope.decode : Json.Decoder Envelope :=
  Json.decodeRecord
    [⟨"data", fun p e v => (Json.checkForm true p v).map fun _ => { e with data := v.rawText }⟩,
      .of "errors" (fun e => some e.errors) (fun x e => { e with errors := x.getD [] })
        (Json.decodeList (Json.decodeOption ServerError.decode))]

/-- Whether data say nothing. -/
def isVoid (data : List Char) : Bool :=
  data.isEmpty || data == "null".toList

/-- The parts of a response that was read to its end and reports neither a failure nor errors. -/
def HttpResponse.accept (r : HttpResponse) : Except PostError Envelope := do
  if let some reason := r.broken then throw (.unreadable reason)
  let envelope := Json.decodeText Envelope.decode default (Json.charsOf r.body)
  if r.status < 200 || 300 ≤ r.status then
    throw (.response ⟨r.status, r.body, (envelope.toOption.map (·.errors)).getD []⟩)
  let e ← envelope.mapError .undecodable
  if !e.errors.isEmpty then throw (.response ⟨r.status, [], e.errors⟩)
  return e

/-- Interprets a response: a failure, errors, or data for the target, which may be missing. -/
def HttpResponse.interpret (r : HttpResponse) (out : Option Value) : Except PostError (Option Value) := do
  let e ← r.accept
  match out with
  | none => return none
  | some target =>
    if isVoid e.data then return some target
    else return some (.pointer (← (decodeData e.data target).mapError .data))

/-- A client: the address of the server, the header of its requests and what sends them. -/
structure Client where
  /-- The address of the server. -/
  endpoint : Octets
  /-- The header of each request. -/
  header : Header
  /-- What sends requests. -/
  transport : Transport

/-- Sends an operation and decodes the data into the target, which may be missing. Returns the request
that was sent, if any, and the target or why there is no answer. -/
def Client.post (c : Client) (call : Call) (out : Option Value) :
    Option HttpRequest × Except PostError (Option Value) :=
  match call.request c.endpoint c.header with
  | .error e => (none, .error (.request e))
  | .ok request =>
    (some request,
      match c.transport request with
      | .error reason => .error (.transport request.url.redacted reason)
      | .ok response => response.interpret out)

end Bindery
