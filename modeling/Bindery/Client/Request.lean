import Bindery.Client.Header
import Bindery.Client.Url
import Bindery.Data.Encode

/-!
# Requests

An operation is sent as a JSON object in the body of a request.

## Main definitions

- `Call` — the query document, the name of the operation and its variables
- `Call.json` — the body of the request
- `HttpRequest` — the request that is sent
- `RequestError` — why there is no request
-/

namespace Bindery

/-- An operation to be sent. -/
structure Call where
  /-- The name of the operation, empty if it has none. -/
  operation : Octets
  /-- The query document. -/
  query : Octets
  /-- The variables and their values. -/
  values : List (Octets × Value)

/-- The body of the request for an operation. The name and the variables are left out if there are
none. -/
def Call.json (c : Call) : Except Json.Fault Json :=
  Value.encode (.record
    [(⟨"Query", "query"⟩, .text .plain c.query),
      (⟨"OperationName", "operationName,omitempty"⟩, .text .plain c.operation),
      (⟨"Variables", "variables,omitempty"⟩,
        .map (.text .plain) (.interface .any)
          (c.values.map fun (name, v) => (.text .plain name, v.inInterface)))])

/-- A request. -/
structure HttpRequest where
  /-- The address of the server. -/
  url : Url
  /-- The header. -/
  header : Header
  /-- The body. -/
  body : Json

/-- Why there is no request. -/
inductive RequestError where
  /-- A variable or the document has no JSON form. -/
  | encode (fault : Json.Fault)
  /-- The address is none. -/
  | address (text : Octets) (error : UrlError)

/-- The text of an error, where `fault` words an error of JSON. -/
def RequestError.message (fault : Json.Fault → String) : RequestError → String
  | encode f => "encode request: " ++ fault f
  | address text e => "parse " ++ text.quoted ++ ": " ++ e.message

/-- The credentials of a user in a header field. -/
def credentials (u : UserInfo) : String :=
  let octets := u.name ++ 0x3a :: u.password.getD []
  "Basic " ++ String.ofList (base64 (octets.map (·.toNat)))

/-- The request for an operation. A name and password in the address are sent in the header, unless
the header has its own. -/
def Call.request (c : Call) (endpoint : Octets) (header : Header) : Except RequestError HttpRequest := do
  let body ← c.json.mapError .encode
  let url ← (Url.parse endpoint).mapError fun (text, e) => .address text e
  let url := url.withoutEmptyPort
  let header := ((Header.addAll [] header).set "Content-Type" "application/json; charset=utf-8").set
    "Accept" "application/json"
  let header := match url.user? with
    | some user =>
      if header.get "Authorization" == "" then header.set "Authorization" (credentials user) else header
    | none => header
  return ⟨url, header, body⟩

end Bindery
