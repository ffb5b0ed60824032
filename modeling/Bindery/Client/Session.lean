import Bindery.Client.Post

/-!
# Calls of one client, one after another

A client is set up with options. A call may bring options of its own, which are applied to a copy of the setup and so
hold for that call only. What sends the requests is only named in a setup: the network says what a sender does, which
may be something else at each call. All calls of a session decode into one target.

## Main definitions

- `ClientSetup`, `ClientOption` — how a client is set up, and what changes it
- `ClientSetup.new` — the setup of a new client
- `HttpResponse.receive` — takes a response in, with the target before and after it
- `Turn`, `Posting` — a call of a session, and what comes of it
- `ClientSetup.post`, `ClientSetup.postAll` — one call, and all calls of a session
-/

namespace Bindery

/-- How a client is set up, with senders that are named by `σ`. -/
structure ClientSetup (σ : Type) where
  /-- The address of the server. -/
  endpoint : Octets
  /-- The header of each request. -/
  header : Header
  /-- What sends the requests. -/
  sender : σ

/-- Changes how a client is set up. -/
abbrev ClientOption (σ : Type) := ClientSetup σ → ClientSetup σ

namespace ClientSetup

variable {σ : Type}

/-- Lets requests be sent by another sender. -/
def withSender (sender : σ) : ClientOption σ :=
  fun c => { c with sender }

/-- Gives requests another header. -/
def withHeader (header : Header) : ClientOption σ :=
  fun c => { c with header }

/-- The setup with some options, one after another. -/
def apply (c : ClientSetup σ) (options : List (ClientOption σ)) : ClientSetup σ :=
  options.foldl (fun c o => o c) c

/-- The setup of a new client: without options it has no header and the usual sender. -/
def new (usual : σ) (endpoint : Octets) (options : List (ClientOption σ)) : ClientSetup σ :=
  apply ⟨endpoint, [], usual⟩ options

end ClientSetup

/-- What is left of a target after data that do not fit it were decoded into it. -/
abbrev Leftover := List Char → Value → Value

/-- Takes a response in. Returns whether there is an answer and the target afterwards. -/
def HttpResponse.receive (r : HttpResponse) (leftover : Leftover) (out : Option Value) :
    Except PostError Unit × Option Value :=
  match r.accept, out with
  | .error e, _ => (.error e, out)
  | .ok _, none => (.ok (), out)
  | .ok e, some target =>
    if isVoid e.data then (.ok (), out)
    else match decodeData e.data target with
      | .ok v => (.ok (), some (.pointer v))
      | .error f => (.error (.data f), some (leftover e.data target))

/-- A call of a session: its options, the operation, and what the senders do with requests at that time. -/
structure Turn (σ : Type) where
  /-- The options for this call. -/
  options : List (ClientOption σ)
  /-- The operation. -/
  call : Call
  /-- What each sender does with a request. -/
  network : σ → Transport

/-- What comes of a call. -/
structure Posting where
  /-- The request that was sent, if any. -/
  request : Option HttpRequest
  /-- Why there is no answer, if so. -/
  result : Except PostError Unit
  /-- The target before the call. -/
  before : Option Value
  /-- The target after the call. -/
  after : Option Value

namespace ClientSetup

variable {σ : Type}

/-- Sends the operation of a call and decodes the data into the target, which may be missing. -/
def post (c : ClientSetup σ) (leftover : Leftover) (out : Option Value) (t : Turn σ) : Posting :=
  let c := c.apply t.options
  match t.call.request c.endpoint c.header with
  | .error e => ⟨none, .error (.request e), out, out⟩
  | .ok request =>
    match t.network c.sender request with
    | .error reason => ⟨some request, .error (.transport request.url.redacted reason), out, out⟩
    | .ok response =>
      let (result, after) := response.receive leftover out
      ⟨some request, result, out, after⟩

/-- The calls of a session, with one target. -/
def postAll (c : ClientSetup σ) (leftover : Leftover) : Option Value → List (Turn σ) → List Posting
  | _, [] => []
  | out, t :: rest => c.post leftover out t :: c.postAll leftover (c.post leftover out t).after rest

end ClientSetup

end Bindery
