import Signet.Admin.AdminServer
import Signet.Core.ConvosInvite
import Signet.Lib.Lines
import Signet.Lib.Utf8
import Signet.Schemas.ZodSchema

/-!
# The admin socket

A connection of `createAdminServer`: chunks of bytes are decoded one by one, the text is broken into
lines, and each line starts a `handleLine` that nobody waits for. A segment between two awaits is a
step. What the key manager, the elevation manager and the dispatcher answer to a line is given by
the number of the line (`AdminSocketDeps`), so that two runs with the same lines can be compared.

* `startLine`: `handleLine` up to its first await; the session decides what a line is taken for.
* `adminSocket`: one connection.
-/

namespace Signet

open Lib

/-! ### Frames -/

/-- The id of a request. -/
inductive JsonRpcId where
  | number (value : Rat)
  | string (value : String)
  deriving DecidableEq

/-- `z.union([z.number(), z.string()])`. -/
def Zod.rpcId : ZodSchema JsonRpcId
  | .number value => .ok (.number value)
  | .string value => .ok (.string value)
  | _ => .error (issue "Invalid input")

structure JsonRpcRequest where
  id : JsonRpcId
  method : String
  params : JsonObject

def adminAuthFrame : ZodSchema String := fun value => do
  let fields ← Zod.object value
  let _ ← Zod.member fields "type" (Zod.literal "admin_auth")
  Zod.member fields "token" Zod.text

def jsonRpcRequest : ZodSchema JsonRpcRequest := fun value => do
  let fields ← Zod.object value
  let _ ← Zod.member fields "jsonrpc" (Zod.literal "2.0")
  let id ← Zod.member fields "id" Zod.rpcId
  let method ← Zod.member fields "method" Zod.text
  let params ← Zod.optionalMember fields "params" Zod.object
  .ok ⟨id, method, params.getD []⟩

def jsonRpcCodeForCategory : ErrorCategory → Int
  | .validation => -32602
  | .auth => -32000
  | .permission => -32001
  | .notFound => -32002
  | _ => -32603

/-- The message of an error reply: a text, or that of an error, which may go along as data. -/
inductive RpcMessage where
  | text (message : String)
  | ofError (error : SignetError) (withData : Bool)
  deriving DecidableEq

/-- What is written to the socket. -/
inductive AdminReply where
  | authenticated
  | success (id : JsonRpcId) (result : JsonValue)
  | error (id : Option JsonRpcId) (code : Int) (message : RpcMessage)

def AdminReply.failed (request : JsonRpcRequest) (error : SignetError) : AdminReply :=
  .error (some request.id) (jsonRpcCodeForCategory error.category) (.ofError error true)

/-! ### A line -/

/-- What the connection asks others. -/
structure AdminSocketDeps where
  /-- `JSON.parse`, none where it throws. -/
  parseJson : String → Option JsonValue
  hasMethod : String → Bool
  validate : String → JsonObject → Result JsonObject
  /-- The answers to a line, by its number. -/
  verifyJwt : Nat → String → Result AdminSession
  resolveForRequest : Nat → ResolveInput Unit → Result (Option AdminReadElevation)
  dispatchValidated : Nat → String → JsonObject → HandlerContext → Result JsonValue

/-- What a line that is handled waits for. -/
inductive SocketCall where
  | verifying (token : String)
  | resolving (request : JsonRpcRequest) (params : JsonObject) (session : AdminSession)
  | dispatching (request : JsonRpcRequest) (params : JsonObject) (context : HandlerContext)

/-- The first segment of `handleLine`. -/
inductive LineStart where
  | reply (reply : AdminReply)
  | await (call : SocketCall)

section Line

variable (deps : AdminSocketDeps)

/-- A request of an authenticated connection. -/
def startRequest (session : AdminSession) (value : JsonValue) : LineStart :=
  match jsonRpcRequest value with
  | .error _ => .reply (.error none (-32600) (.text "Invalid JSON-RPC request"))
  | .ok request =>
    if deps.hasMethod request.method then
      match deps.validate request.method request.params with
      | .error e => .reply (.failed request e)
      | .ok params => .await (.resolving request params session)
    else
      .reply (.error (some request.id) (-32601)
        (.text ("Method '" ++ request.method ++ "' not found")))

/-- The first frame. -/
def startAuth (value : JsonValue) : LineStart :=
  match adminAuthFrame value with
  | .error _ => .reply (.error none (-32000) (.text "Expected admin_auth frame as first message"))
  | .ok token => .await (.verifying token)

/-- `handleLine`, up to its first await. -/
def startLine (session : Option AdminSession) (line : String) : LineStart :=
  match deps.parseJson line with
  | none => .reply (.error none (-32700) (.text "Parse error"))
  | some value =>
    match session with
    | none => startAuth value
    | some session => startRequest deps session value

/-- The reply to an auth frame. -/
def verifyReply : Result AdminSession → AdminReply
  | .error e => .error none (-32000) (.ofError e false)
  | .ok _ => .authenticated

def dispatchReply (request : JsonRpcRequest) : Result JsonValue → AdminReply
  | .error e => .failed request e
  | .ok result => .success request.id result

/-- `resolveForRequest`, as it is called. -/
def resolveInput (request : JsonRpcRequest) (params : JsonObject) (session : AdminSession) :
    ResolveInput Unit :=
  ⟨request.method, mergeTransportControls request.params params, session, ()⟩

/-- `makeHandlerContext`. -/
def socketContext (session : Option AdminSession) (elevation : Option AdminReadElevation) :
    HandlerContext :=
  ⟨some (session.elim "" (·.iss)), none, elevation⟩

end Line

/-! ### The connection -/

/-- `ConnectionState`; the buffer as its characters. -/
structure AdminSocketState where
  buffer : List Char
  /-- `adminFingerprint` and `adminSessionKey`, once `authenticated`. -/
  session : Option AdminSession
  /-- How many lines have been handled. -/
  lines : Nat
  /-- The lines in flight, by number. -/
  calls : OrdMap Nat SocketCall

/-- What can happen next. -/
inductive SocketAction where
  | data (data : Bytes)
  /-- The answer to a line arrives. -/
  | verified (line : Nat)
  | resolved (line : Nat)
  | dispatched (line : Nat)

/-- What a connection does. -/
inductive SocketEvent where
  | received (data : Bytes)
  /-- A line is handled; lines are numbered in this order. -/
  | handled (text : String) (start : LineStart)
  | replied (line : Nat) (reply : AdminReply)

/-- White space of `trim`. -/
def isSpaceChar (c : Char) : Bool :=
  isJsSpace c.toNat

/-- The lines that are handled: trimmed, without the empty ones. -/
def trimmedLines (lines : List (List Char)) : List String :=
  (lines.map fun line => String.ofList (trimBoth isSpaceChar line)).filter (· ≠ "")

namespace AdminSocketState

variable (deps : AdminSocketDeps) (s : AdminSocketState)

def handleLine (line : String) : AdminSocketState × List SocketEvent :=
  let next := { s with lines := s.lines + 1 }
  match startLine deps s.session line with
  | .reply reply => (next, [.handled line (.reply reply), .replied s.lines reply])
  | .await call =>
    ({ next with calls := s.calls.set s.lines call }, [.handled line (.await call)])

/-- Several lines, one after the other. -/
def handleLines (s : AdminSocketState) : List String → AdminSocketState × List SocketEvent
  | [] => (s, [])
  | line :: lines =>
    let (s₁, es₁) := s.handleLine deps line
    let (s₂, es₂) := handleLines s₁ lines
    (s₂, es₁ ++ es₂)

/-- The buffer with a chunk, broken into lines. -/
def breakBuffer (data : Bytes) : List (List Char) × List Char :=
  breakLines '\n' [] (s.buffer ++ textDecode data)

/-- The `data` handler. -/
def receive (data : Bytes) : AdminSocketState × List SocketEvent :=
  let (lines, rest) := s.breakBuffer data
  let (s', es) := { s with buffer := rest }.handleLines deps (trimmedLines lines)
  (s', .received data :: es)

/-- A line is answered. -/
def finish (line : Nat) (reply : AdminReply) : AdminSocketState × List SocketEvent :=
  ({ s with calls := s.calls.erase line }, [.replied line reply])

def step : SocketAction → Option (AdminSocketState × List SocketEvent)
  | .data data => some (s.receive deps data)
  | .verified line =>
    match s.calls.get? line with
    | some (.verifying token) =>
      match deps.verifyJwt line token with
      | .error e => some (s.finish line (verifyReply (.error e)))
      | .ok session =>
        some ({ s with session := some session }.finish line (verifyReply (.ok session)))
    | _ => none
  | .resolved line =>
    match s.calls.get? line with
    | some (.resolving request params session) =>
      match deps.resolveForRequest line (resolveInput request params session) with
      | .error e => some (s.finish line (.failed request e))
      | .ok elevation =>
        some ({ s with
          calls := s.calls.set line
            (.dispatching request params (socketContext s.session elevation)) }, [])
    | _ => none
  | .dispatched line =>
    match s.calls.get? line with
    | some (.dispatching request params context) =>
      some (s.finish line (dispatchReply request
        (deps.dispatchValidated line request.method params context)))
    | _ => none

end AdminSocketState

/-- One connection. -/
def adminSocket (deps : AdminSocketDeps) : Machine AdminSocketState SocketAction SocketEvent where
  init := ⟨[], none, 0, .empty⟩
  step s a := s.step deps a

end Signet
