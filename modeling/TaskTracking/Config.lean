import TaskTracking.Failure
import TaskTracking.Json.Record
import TaskTracking.SystemError
import TaskTracking.Text.Blank
import TaskTracking.Toml.Document
import TaskTracking.Url.Parser

/-! # Configuration

  The settings of one page's tracker: built from a page's own defaults, or read from a
  TOML document. Times are in milliseconds.
-/

namespace TaskTracking

/-- The pages that run background tasks. -/
inductive Page where
  | screening
  | ragAnalysis
deriving DecidableEq

namespace Page

def name : Page → String
  | .screening => "screening"
  | .ragAnalysis => "rag_analysis"

/-- Where the page's task id is stored. -/
def storageKey : Page → String
  | .screening => "tasksync.screening.task_id"
  | .ragAnalysis => "tasksync.rag.task_id"

def decoder : Json.Decoder Page := .choice ([screening, ragAnalysis].map fun p => (p.name, p))

end Page

/-- Where the task server is. -/
structure ApiSettings where
  baseUrl : Url
  requestTimeout : Nat := 30000

/-- Where the push endpoint is, and how to keep connected to it. -/
structure PushSettings where
  url : Url
  /-- Failures in a row after which push is given up. -/
  maxRetry : Nat := 3
  reconnectDelay : Nat := 3000

structure Config where
  /-- Where the task id is stored. -/
  pageKey : String
  pollInterval : Nat := 2000
  /-- The length of a streak of failed polls that is reported. -/
  stallThreshold : Nat := 5
  api : ApiSettings
  /-- Without it the page only polls. -/
  push : Option PushSettings := none

namespace Config

/-- The default settings of a page. -/
def ofPage (page : Page) (api : ApiSettings) : Config := { pageKey := page.storageKey, api }

/-- The settings with a poll interval of the given seconds and nanoseconds, cut to whole
    milliseconds of 64 bits. -/
def withPollInterval (c : Config) (seconds nanoseconds : Nat) : Config :=
  { c with pollInterval := min (seconds * 1000 + nanoseconds / 1000000) (1 <<< 64 - 1) }

/-! ### Validation -/

/-- Values that make no sense. -/
inductive Violation where
  | blankPageKey
  | noPollInterval
  | noStallThreshold
  | noRequestTimeout
  | baseScheme (scheme : String)
  | pushScheme (scheme : String)
  | noRetry
deriving DecidableEq

def Violation.text : Violation → String
  | .blankPageKey => "page_key must not be empty"
  | .noPollInterval => "poll_interval_ms must be > 0"
  | .noStallThreshold => "poll_stall_threshold must be > 0"
  | .noRequestTimeout => "api.request_timeout_ms must be > 0"
  | .baseScheme scheme => "api.base_url must use http or https, got: " ++ scheme
  | .pushScheme scheme => "push.url must use ws or wss, got: " ++ scheme
  | .noRetry => "push.max_retry must be >= 1"

def pushViolation? (p : PushSettings) : Option Violation :=
  if p.url.scheme ≠ "ws" ∧ p.url.scheme ≠ "wss" then some (.pushScheme p.url.scheme)
  else if p.maxRetry = 0 then some .noRetry
  else none

/-- The first value that makes no sense. -/
def violation? (c : Config) : Option Violation :=
  if Text.isBlankText c.pageKey then some .blankPageKey
  else if c.pollInterval = 0 then some .noPollInterval
  else if c.stallThreshold = 0 then some .noStallThreshold
  else if c.api.requestTimeout = 0 then some .noRequestTimeout
  else if c.api.baseUrl.scheme ≠ "http" ∧ c.api.baseUrl.scheme ≠ "https" then
    some (.baseScheme c.api.baseUrl.scheme)
  else c.push.bind pushViolation?

/-- The settings themselves if all their values make sense. -/
def validated (c : Config) : Except ConfigFailure Config :=
  match c.violation? with
  | some v => .error (.validation v.text)
  | none => .ok c

/-! ### Reading -/

open Json (Decoder RecordField Shape Outcome Value)

/-- A URL out of a text. -/
def urlDecoder : Decoder Url :=
  (Decoder.textAs "a string representing an URL").refine fun text =>
    (Url.parse text).mapError fun failure => .mismatch (.unreadable text failure.text)

/-- A record out of a table or of an array, of which items beyond the record's are left alone. -/
def recordDecoder {σ α : Type} (shape : Shape σ) (finish : σ → α) : Decoder α :=
  let d := shape.decoder finish
  { d with
    ofValue := fun
      | .array items => d.ofValue (.array (items.take shape.fields.length))
      | value => d.ofValue value }

/-- A field that a partial record keeps by itself. -/
def setting {σ β : Type} (name : String) (get : σ → Option β) (set : β → σ → σ)
    (decoder : Decoder β) (default : Option (σ → σ)) : RecordField σ where
  name := name
  filled := fun s => (get s).isSome
  decoder := decoder.map set
  absent := default

/-- API settings with the fields read so far. -/
structure PartialApi where
  baseUrl : Option Url := none
  requestTimeout : Option Nat := none

def apiDecoder : Decoder (Option ApiSettings) :=
  recordDecoder
    { expected := "struct ApiConfig"
      empty := ({} : PartialApi)
      fields :=
        [setting "base_url" (·.baseUrl) (fun v s => { s with baseUrl := some v }) urlDecoder none,
          setting "request_timeout_ms" (·.requestTimeout)
            (fun v s => { s with requestTimeout := some v }) .natural
            (some fun s => { s with requestTimeout := some 30000 })] }
    fun s => do return { baseUrl := ← s.baseUrl, requestTimeout := ← s.requestTimeout }

/-- Push settings with the fields read so far. -/
structure PartialPush where
  url : Option Url := none
  maxRetry : Option Nat := none
  reconnectDelay : Option Nat := none

def pushDecoder : Decoder (Option PushSettings) :=
  recordDecoder
    { expected := "struct PushConfig"
      empty := ({} : PartialPush)
      fields :=
        [setting "url" (·.url) (fun v s => { s with url := some v }) urlDecoder none,
          setting "max_retry" (·.maxRetry) (fun v s => { s with maxRetry := some v })
            (.naturalOfBits 32) (some fun s => { s with maxRetry := some 3 }),
          setting "reconnect_delay_ms" (·.reconnectDelay)
            (fun v s => { s with reconnectDelay := some v }) .natural
            (some fun s => { s with reconnectDelay := some 3000 })] }
    fun s => do
      return { url := ← s.url, maxRetry := ← s.maxRetry, reconnectDelay := ← s.reconnectDelay }

/-- Settings with the fields read so far. -/
structure Partial where
  pageKey : Option String := none
  pollInterval : Option Nat := none
  stallThreshold : Option Nat := none
  api : Option (Option ApiSettings) := none
  push : Option (Option PushSettings) := none

def decoder : Decoder (Option Config) :=
  recordDecoder
    { expected := "struct TrackerConfig"
      empty := ({} : Partial)
      fields :=
        [setting "page_key" (·.pageKey) (fun v s => { s with pageKey := some v }) .text none,
          setting "poll_interval_ms" (·.pollInterval)
            (fun v s => { s with pollInterval := some v }) .natural
            (some fun s => { s with pollInterval := some 2000 }),
          setting "poll_stall_threshold" (·.stallThreshold)
            (fun v s => { s with stallThreshold := some v }) (.naturalOfBits 32)
            (some fun s => { s with stallThreshold := some 5 }),
          setting "api" (·.api) (fun v s => { s with api := some v }) apiDecoder none,
          setting "push" (·.push) (fun v s => { s with push := some v }) pushDecoder
            (some fun s => { s with push := some none })] }
    fun s => do
      return {
        pageKey := ← s.pageKey
        pollInterval := ← s.pollInterval
        stallThreshold := ← s.stallThreshold
        api := ← (← s.api)
        push := ← s.push }

/-- Reads and validates settings out of a TOML document. Larger integers than the format
    promises pass where they fit, but a document that has them and does not fit counts as
    malformed. -/
def ofToml (text : String) : Except ConfigFailure Config :=
  match Toml.parse text with
  | none => .error .malformed
  | some document =>
    match decoder.ofValue document with
    | .ok (some c) => c.validated
    | .ok none => .error .malformed
    | .error (.mismatch m) =>
      if Toml.hasPortableIntegers document then
        .error (.mismatch (m.messageWith Binary64.positionalText))
      else .error .malformed
    | .error (.fault _) => .error .malformed

/-- Reads settings out of a file, given what reading its bytes gave. -/
def load (path : String) (content : Except SystemError (List UInt8)) :
    Except ConfigFailure Config :=
  match content with
  | .error e => .error (.io path e.text)
  | .ok bytes =>
    match Utf8.strict (Utf8.decode bytes) with
    | some text => ofToml text
    | none => .error (.io path "stream did not contain valid UTF-8")

end Config

end TaskTracking
