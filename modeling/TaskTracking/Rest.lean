import TaskTracking.Json.Printer
import TaskTracking.Snapshot.Format
import TaskTracking.Failure
import TaskTracking.Url.Parser

/-! # Requests to the task server

  The three operations of the server as HTTP requests below a base URL, and what their
  responses mean. A task id is one segment of the path, so whatever it holds is
  percent-encoded.
-/

namespace TaskTracking.Rest

/-- An operation of the task server. -/
inductive Operation where
  | create (params : Json.Value)
  | status (taskId : String)
  | cancel (taskId : String)

namespace Operation

/-- A task id as a segment of a path. -/
def segment (taskId : String) : String :=
  String.ofList (Percent.encode Percent.segment taskId.toList)

/-- The path of the operation below the base. -/
def reference : Operation → String
  | .create _ => "tasks"
  | .status taskId => "tasks/" ++ segment taskId
  | .cancel taskId => "tasks/" ++ segment taskId ++ "/cancel"

def method : Operation → String
  | .create _ => "POST"
  | .status _ => "GET"
  | .cancel _ => "POST"

/-- The JSON body that is sent along. -/
def body : Operation → Option Json.Value
  | .create params => some params
  | _ => none

end Operation

/-- The base of all requests: its path ends with a slash, so references go below it. -/
def base (url : Url) : Url := { url with path := url.path.asDirectory }

/-- The URL of an operation. -/
def endpoint (url : Url) (operation : Operation) : Except TransportFailure Url :=
  ((base url).join operation.reference).mapError fun failure =>
    .connection ("invalid endpoint '" ++ operation.reference ++ "': " ++ failure.text)

/-- The part of a URL that stands in a request. -/
def target (url : Url) : String :=
  match url.query with
  | some query => url.path.text ++ "?" ++ query
  | none => url.path.text

/-! ### Responses -/

/-- What arrives of the body of a response. -/
inductive Body where
  | whole (bytes : List UInt8)
  /-- The connection breaks before the end. -/
  | torn
  /-- The end does not come in time. -/
  | late

/-- What comes back for a request. -/
inductive Response where
  | reply (status : Nat) (body : Body)
  /-- There is no connection, or it breaks before there is a reply. -/
  | broken
  /-- No reply comes in time. -/
  | silent

def isSuccess (status : Nat) : Bool := 200 ≤ status && status < 300

/-- Whether a reply with this status has a body. -/
def hasBody (status : Nat) : Bool := 200 ≤ status && status ≠ 204 && status ≠ 304

/-- The body that a reply with this status is taken to have. -/
def Body.of (status : Nat) (body : Body) : Body := if hasBody status then body else .whole []

/-- The text of an error reply, empty if it cannot be read. -/
def Body.errorText : Body → String
  | .whole bytes => Utf8.lossy (Utf8.decode bytes)
  | .torn | .late => ""

/-- Reads what a response holds. -/
def read {α : Type} (decoder : Json.Decoder α) : Response → Except TransportFailure α
  | .broken => .error (.connection "connection lost")
  | .silent => .error .timeout
  | .reply status body =>
    let body := body.of status
    if isSuccess status then
      match body with
      | .whole bytes =>
        (decoder.run (Json.Draft.document (Utf8.decode bytes))).mapError fun refusal =>
          .decode refusal.text
      | .torn => .error (.decode "the body is incomplete")
      | .late => .error .timeout
    else .error (.http status body.errorText)

/-- The new task's id. -/
def readCreated (response : Response) : Except TransportFailure String :=
  (read Created.decoder response).map Created.taskId

/-- The snapshot of the task asked for; one without id gets that task's. -/
def readStatus (taskId : String) (response : Response) : Except TransportFailure Snapshot :=
  (read Snapshot.decoder response).map (·.withDefaultId taskId)

/-- Whether the server cancels the task. -/
def readCancelled (response : Response) : Except TransportFailure Bool :=
  (read CancelAnswer.decoder response).map CancelAnswer.success

end TaskTracking.Rest
