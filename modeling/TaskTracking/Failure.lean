import TaskTracking.Json.Refusal

/-! # Failures

  Failures by who sees them: transport failures, which the channels retry or report;
  storage and configuration failures; and tracking errors, which a page shows to its
  user.
-/

namespace TaskTracking

/-- Failure of a request to the task server or of the push connection. -/
inductive TransportFailure where
  /-- A status outside the successful range, with the body. -/
  | http (status : Nat) (body : String)
  | timeout
  | connection (message : String)
  /-- The body could not be read as what it should be. -/
  | decode (message : String)
  | webSocket (message : String)
  | closed
deriving DecidableEq

namespace TransportFailure

def text : TransportFailure → String
  | .http status body => "HTTP " ++ toString status ++ ": " ++ body
  | .timeout => "request timed out"
  | .connection message => "connection error: " ++ message
  | .decode message => "decode error: " ++ message
  | .webSocket message => "websocket error: " ++ message
  | .closed => "connection closed"

/-- The kind of failure, as logs name it. -/
def category : TransportFailure → String
  | .http .. => "http"
  | .timeout => "timeout"
  | .connection _ => "connection"
  | .decode _ => "decode"
  | .webSocket _ => "websocket"
  | .closed => "closed"

/-- Whether the server does not know the task. -/
def isNotFound : TransportFailure → Bool
  | .http status _ => status == 404
  | _ => false

end TransportFailure

/-- What is wrong with the address of a WebSocket. -/
inductive AddressFault where
  /-- There is no authority where one has to be. -/
  | format
  /-- The authority has more than one port, or is otherwise none. -/
  | authority
  | character
deriving DecidableEq

def AddressFault.text : AddressFault → String
  | .format => "invalid format"
  | .authority => "invalid authority"
  | .character => "invalid uri character"

/-- What a WebSocket can fail with. -/
inductive SocketFailure where
  | connectionClosed
  | alreadyClosed
  | io (text : String)
  /-- The server answers the upgrade with this status. -/
  | http (status : Nat)
  | encoding (message : String)
  | noHost
  | unsupportedScheme
  | malformedAddress (fault : AddressFault)
  | attack
deriving DecidableEq

/-- The transport failure that a socket failure is. -/
def SocketFailure.toTransport : SocketFailure → TransportFailure
  | .connectionClosed | .alreadyClosed => .closed
  | .io text => .connection text
  | .http status => .http status "websocket upgrade rejected"
  | .encoding message => .webSocket ("UTF-8 encoding error: " ++ message)
  | .noHost => .webSocket "URL error: No host name in the URL"
  | .unsupportedScheme => .webSocket "URL error: URL scheme not supported"
  | .malformedAddress fault => .webSocket ("HTTP format error: " ++ fault.text)
  | .attack => .webSocket "Attack attempt detected"

/-- Failure of an identity store's backend. -/
inductive StorageFailure where
  /-- The file at `path` could not be read or written, for the reason given. -/
  | io (path cause : String)
  /-- The stored text is not what it should be. -/
  | serialization (cause : Json.Refusal)
  | backend (message : String)

namespace StorageFailure

def text : StorageFailure → String
  | .io path cause => "storage I/O error on '" ++ path ++ "': " ++ cause
  | .serialization cause => "storage serialization error: " ++ cause.text
  | .backend message => "backend error: " ++ message

/-- The text of the error behind the failure. -/
def source : StorageFailure → Option String
  | .io _ cause => some cause
  | .serialization cause => some cause.text
  | .backend _ => none

end StorageFailure

/-- Failure to load a configuration. -/
inductive ConfigFailure where
  /-- The text is no TOML document. -/
  | malformed
  /-- The document holds something of the wrong shape. -/
  | mismatch (message : String)
  | io (path cause : String)
  /-- The values do not make sense together. -/
  | validation (message : String)
deriving DecidableEq

namespace ConfigFailure

def text : ConfigFailure → String
  | .malformed => "failed to parse config TOML: malformed document"
  | .mismatch message => "failed to parse config TOML: " ++ message
  | .io path cause => "failed to read config file '" ++ path ++ "': " ++ cause
  | .validation message => "config validation error: " ++ message

/-- The text of the error behind the failure. -/
def source : ConfigFailure → Option String
  | .malformed => some "malformed document"
  | .mismatch message => some message
  | .io _ cause => some cause
  | .validation _ => none

end ConfigFailure

/-- Where a tracker is in the life of a task. -/
inductive Lifecycle where
  | idle
  | creating
  | tracking
  | done
deriving DecidableEq

def Lifecycle.name : Lifecycle → String
  | .idle => "idle"
  | .creating => "creating"
  | .tracking => "tracking"
  | .done => "done"

/-- Errors that the operations of a tracker return. -/
inductive TrackingError where
  | create (cause : TransportFailure)
  | cancel (taskId : String) (cause : TransportFailure)
  | cancelRejected (taskId : String)
  | invalidState (expected actual : Lifecycle)
  | storage (cause : StorageFailure)
  | setup (cause : TransportFailure)
  | config (cause : ConfigFailure)

namespace TrackingError

def text : TrackingError → String
  | .create cause => "failed to create task: " ++ cause.text
  | .cancel taskId cause => "failed to cancel task " ++ taskId ++ ": " ++ cause.text
  | .cancelRejected taskId => "server refused to cancel task " ++ taskId
  | .invalidState expected actual =>
    "operation requires " ++ expected.name ++ " state, tracker is " ++ actual.name
  | .storage cause => cause.text
  | .setup cause => "failed to set up tracker: " ++ cause.text
  | .config cause => cause.text

/-- The text of the error behind the error. -/
def source : TrackingError → Option String
  | .create cause => some cause.text
  | .cancel _ cause => some cause.text
  | .cancelRejected _ => none
  | .invalidState .. => none
  | .storage cause => cause.source
  | .setup cause => some cause.text
  | .config cause => cause.source

end TrackingError

end TaskTracking
