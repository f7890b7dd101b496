import OAuth2Server.Dictionaries
import OAuth2Server.Endpoints
import OAuth2Server.TimestampText

/-!
# Ingested events

`ingest` of `routes/events.py`, `services/events_bus.py` and the ring of
`services/events.py`. An accepted event enters the ring twice, once from the
route and once from the plugin that `build_event_bus` always appends, and a
repeated key is answered before both.
-/

namespace OAuth2Server.EventIngest

open OAuth2Server Models JsonText Effects Process Dictionaries

set_option autoImplicit false

/-! ### Envelopes -/

structure AuthEvent where
  id : String
  eventType : String
  timestamp : String
  severity : String := "info"
  userId : Option String := none
  clientId : Option String := none
  metadata : List (String × String) := []
  error : Option String := none
  deriving DecidableEq

structure EventEnvelope where
  event : AuthEvent
  idempotencyKey : Option String := none
  traceparent : Option String := none
  tracestate : Option String := none
  correlationId : String
  producer : String := "oauth2_server"
  producedAt : String
  attributes : List (String × String) := []
  deriving DecidableEq

/-- What the default factories of the two models draw. -/
structure Drawn where
  eventId : String
  timestamp : Instant
  correlationId : String
  producedAt : Instant

/-- A `str` field; without a default the field is required. -/
def textField (members : List (String × Json)) (key : String) (default : Option String) :
    Option String :=
  match members.lookup key with
  | none => default
  | some (.str text) => some text
  | some _ => none

/-- A `str | None = None` field. -/
def optionalTextField (members : List (String × Json)) (key : String) : Option (Option String) :=
  match members.lookup key with
  | none => some none
  | some .null => some none
  | some (.str text) => some (some text)
  | some _ => none

/-- A `dict[str, str]` field with an empty default. -/
def textsField (members : List (String × Json)) (key : String) :
    Option (List (String × String)) :=
  match members.lookup key with
  | none => some []
  | some (.obj entries) => entries.mapM fun entry => entry.2.str?.map fun text => (entry.1, text)
  | some _ => none

/-- `AuthEvent.model_validate`; `none` is `ValidationError`. -/
def AuthEvent.modelValidate (platform : Platform) (drawn : Drawn) : Json → Option AuthEvent
  | .obj members => do
      let id ← textField members "id" (some drawn.eventId)
      let eventType ← textField members "event_type" none
      let timestamp ← textField members "timestamp" (some (TimestampText.boundText drawn.timestamp))
      -- `_lowercase_severity` does not run on the default, which is lower case.
      let severity ← match members.lookup "severity" with
        | none => some "info"
        | some value => value.str?.map platform.lower
      let userId ← optionalTextField members "user_id"
      let clientId ← optionalTextField members "client_id"
      let metadata ← textsField members "metadata"
      let error ← optionalTextField members "error"
      return { id, eventType, timestamp, severity, userId, clientId, metadata, error }
  | _ => none

/-- `EventEnvelope.model_validate`; `none` is `ValidationError`. -/
def EventEnvelope.modelValidate (platform : Platform) (drawn : Drawn) :
    Json → Option EventEnvelope
  | .obj members => do
      let event ← (members.lookup "event").bind (AuthEvent.modelValidate platform drawn)
      let idempotencyKey ← optionalTextField members "idempotency_key"
      let traceparent ← optionalTextField members "traceparent"
      let tracestate ← optionalTextField members "tracestate"
      let correlationId ← textField members "correlation_id" (some drawn.correlationId)
      let producer ← textField members "producer" (some "oauth2_server")
      let producedAt ← textField members "produced_at"
        (some (TimestampText.boundText drawn.producedAt))
      let attributes ← textsField members "attributes"
      return { event, idempotencyKey, traceparent, tracestate, correlationId, producer, producedAt,
               attributes }
  | _ => none

def nullable (value : Option String) : Json := (value.map Json.str).getD .null

def textsJson (entries : List (String × String)) : Json :=
  .obj (entries.map fun entry => (entry.1, .str entry.2))

/-- Nothing is left out of the inner event. -/
def AuthEvent.modelDump (event : AuthEvent) : Json :=
  .obj [("id", .str event.id), ("event_type", .str event.eventType),
    ("timestamp", .str event.timestamp), ("severity", .str event.severity),
    ("user_id", nullable event.userId), ("client_id", nullable event.clientId),
    ("metadata", textsJson event.metadata), ("error", nullable event.error)]

/-- `model_dump(mode="json")` with what `_serialize` takes out. -/
def EventEnvelope.modelDump (envelope : EventEnvelope) : Json :=
  .obj ([("event", envelope.event.modelDump)] ++
    optionalMember "idempotency_key" (envelope.idempotencyKey.map .str) ++
    optionalMember "traceparent" (envelope.traceparent.map .str) ++
    optionalMember "tracestate" (envelope.tracestate.map .str) ++
    [("correlation_id", .str envelope.correlationId), ("producer", .str envelope.producer),
      ("produced_at", .str envelope.producedAt)] ++
    if envelope.attributes.isEmpty then [] else [("attributes", textsJson envelope.attributes)])

def EventEnvelope.effectiveIdempotencyKey (envelope : EventEnvelope) : String :=
  let key := Text.strip (envelope.idempotencyKey.getD "")
  if key == "" then envelope.event.id else key

/-! ### The bus -/

inductive FilterMode where
  | allowAll
  | includeOnly
  | excludeEvents
  deriving DecidableEq

structure EventFilter where
  mode : FilterMode := .allowAll
  types : List String := []
  deriving DecidableEq

def EventFilter.allowAll : EventFilter := {}

def EventFilter.shouldEmit (filter : EventFilter) (eventType : String) : Bool :=
  match filter.mode with
  | .includeOnly => filter.types.contains eventType
  | .excludeEvents => !filter.types.contains eventType
  | .allowAll => true

inductive Plugin where
  | inMemory
  | console
  | recentEvents
  deriving DecidableEq

structure EventBus where
  plugins : List Plugin
  filter : EventFilter

/-- The settings of events. -/
structure EventsConfig where
  eventsEnabled : Bool := true
  eventsPublicIngest : Bool := false
  eventsIngestBearerToken : Option String := none
  eventsBackend : String := "in_memory"
  eventsFilterMode : String := "allow_all"
  eventsTypes : List String := []

def buildEventBus (platform : Platform) (config : EventsConfig) : EventBus :=
  let backend := platform.lower
    (Text.strip (if config.eventsBackend == "" then "in_memory" else config.eventsBackend))
  let plugins : List Plugin :=
    if backend == "console" then [.console]
    else if backend == "both" then [.inMemory, .console]
    else [.inMemory]
  let filterMode := platform.lower
    (Text.strip (if config.eventsFilterMode == "" then "allow_all" else config.eventsFilterMode))
  { plugins := plugins ++ [.recentEvents]
    filter :=
      if filterMode == "include" then { mode := .includeOnly, types := config.eventsTypes }
      else if filterMode == "exclude" then { mode := .excludeEvents, types := config.eventsTypes }
      else .allowAll }

/-! ### The process -/

/-- The application: its settings, and the bounds of its ring and of its store of keys. -/
structure Server where
  platform : Platform
  config : EventsConfig := {}
  capacity : Nat := 500
  ttl : ℚ := 300
  maxEntries : Nat := 100000

/-- `app.state.event_bus`. -/
def Server.eventBus (server : Server) : Option EventBus :=
  if server.config.eventsEnabled then some (buildEventBus server.platform server.config) else none

/-- A `_fan_out` in flight: the plugins it has not reached. -/
structure FanOut where
  envelope : EventEnvelope
  plugins : List Plugin

/-- What the process holds: the keys with the times of their insertion, the ring
with the newest first, the tasks in flight, the in-memory plugin's events with
the oldest first, the console's lines. -/
structure State where
  entries : Dict ℚ := []
  recent : List Json := []
  tasks : List FanOut := []
  events : List AuthEvent := []
  console : List String := []

/-- `RecentEventsStore.push`. -/
def push (capacity : Nat) (event : Json) (recent : List Json) : List Json :=
  (event :: recent).take capacity

def maxEvents : Nat := 1000

/-- `emit` of a plugin. -/
def Plugin.emit (server : Server) (envelope : EventEnvelope) (state : State) : Plugin → State
  | .inMemory =>
      let events := state.events ++ [envelope.event]
      { state with events := events.drop (events.length - maxEvents) }
  | .console =>
      let line := dumps { floatRepr := server.platform.floatRepr } envelope.modelDump
      { state with console := state.console ++ ["Event: " ++ line] }
  | .recentEvents =>
      { state with recent := push server.capacity envelope.modelDump state.recent }

def EventBus.publishBestEffort (bus : EventBus) (envelope : EventEnvelope) (state : State) :
    State :=
  if bus.filter.shouldEmit envelope.event.eventType then
    { state with tasks := state.tasks ++ [{ envelope, plugins := bus.plugins }] }
  else state

/-- A task goes on to its next plugin; one that has none left is discarded. -/
def fanOut (server : Server) (index : Nat) (state : State) : State :=
  match state.tasks[index]? with
  | none => state
  | some task =>
      match task.plugins with
      | [] => { state with tasks := state.tasks.eraseIdx index }
      | plugin :: plugins =>
          plugin.emit server task.envelope
            { state with tasks := state.tasks.set index { task with plugins } }

/-- `_prune`. -/
def prune (ttl now : ℚ) (entries : Dict ℚ) : Dict ℚ :=
  entries.filter fun entry => !decide (ttl ≤ now - entry.2)

def isDuplicateAndRecord (server : Server) (key : String) (now : ℚ) (entries : Dict ℚ) :
    Bool × Dict ℚ :=
  let live := prune server.ttl now entries
  let kept := if server.maxEntries ≤ live.length then [] else live
  if Dict.contains kept key then (true, kept) else (false, Dict.set key now kept)

/-! ### The route -/

/-- A request as the route reads it; the body is `none` when its bytes do not decode. -/
structure IngestRequest where
  authorization : Option String := none
  idempotencyKey : Option String := none
  body : Option String

/-- `_extract_bearer`. -/
def extractBearer (platform : Platform) (header : Option String) : Option String :=
  let text := header.getD ""
  if text == "" || !Text.startsWith (platform.lower text) "bearer " then none
  else some (Text.strip (Text.drop text 7)) |>.filter (· != "")

/-- `_bearer_matches`: a header's characters are its bytes. -/
def bearerMatches (presented expected : String) : Bool :=
  presented.toList.map Char.toNat == Text.utf8Encode expected.toList

def unauthorized : Response :=
  { Endpoints.json 401 [("error", .str "invalid_token"),
      ("error_description", .str "Missing or invalid bearer token")] with
    headers := [("WWW-Authenticate", "Bearer")] }

def invalidRequest : Response := Endpoints.json 400 [("error", .str "invalid_request")]

/-- The first check of `ingest`; `none` lets the request through. -/
def authGuard (server : Server) (request : IngestRequest) : Option Response :=
  if server.config.eventsPublicIngest then none
  else match server.config.eventsIngestBearerToken.filter (· != "") with
    | none => some (Endpoints.json 503 [("error", .str "event_ingest_auth_not_configured")])
    | some expected =>
        match extractBearer server.platform request.authorization with
        | none => some unauthorized
        | some presented => if bearerMatches presented expected then none else some unauthorized

/-- `await request.json()`; `RecursionError` is no `ValueError`. -/
def requestJson (server : Server) (request : IngestRequest) : Except Response Json :=
  match request.body with
  | none => .error invalidRequest
  | some text =>
      match loads server.platform.recursionLimit text with
      | .ok body => .ok body
      | .error .recursion => .error internalServerError
      | .error _ => .error invalidRequest

/-- The header's key, or else the envelope's. -/
def effectiveKey (request : IngestRequest) (envelope : EventEnvelope) : String :=
  let headerKey := Text.strip (request.idempotencyKey.getD "")
  if headerKey == "" then envelope.effectiveIdempotencyKey else headerKey

def answer (status key eventId : String) : Response :=
  Endpoints.json 202 [("status", .str status), ("idempotency_key", .str key),
    ("event_id", .str eventId)]

def ingest (server : Server) (request : IngestRequest) (now : ℚ) (drawn : Drawn) (state : State) :
    Response × State :=
  match authGuard server request with
  | some refusal => (refusal, state)
  | none =>
      match server.eventBus with
      | none => (Endpoints.json 503 [("error", .str "eventing_disabled")], state)
      | some bus =>
          match requestJson server request with
          | .error refusal => (refusal, state)
          | .ok body =>
              match EventEnvelope.modelValidate server.platform drawn body with
              | none => (invalidRequest, state)
              | some envelope =>
                  let key := effectiveKey request envelope
                  let seen := isDuplicateAndRecord server key now state.entries
                  let recorded := { state with entries := seen.2 }
                  if seen.1 then (answer "duplicate" key envelope.event.id, recorded)
                  else
                    (answer "accepted" key envelope.event.id,
                      bus.publishBestEffort envelope { recorded with
                        recent := push server.capacity envelope.modelDump recorded.recent })

/-! ### Runs -/

/-- A request is served, or a task in flight goes one plugin further. -/
inductive Action where
  | ingest (request : IngestRequest) (now : ℚ) (drawn : Drawn)
  | fanOut (index : Nat)

/-- A request with its answer. -/
structure Served where
  request : IngestRequest
  now : ℚ
  drawn : Drawn
  response : Response

/-- The process with the requests it has answered, the earliest first. -/
structure Run where
  state : State := {}
  served : List Served := []

def perform (server : Server) (run : Run) : Action → Run
  | .ingest request now drawn =>
      let reply := EventIngest.ingest server request now drawn run.state
      { state := reply.2, served := run.served ++ [{ request, now, drawn, response := reply.1 }] }
  | .fanOut index => { run with state := EventIngest.fanOut server index run.state }

def runOf (server : Server) (actions : List Action) : Run := actions.foldl (perform server) {}

/-- The reading of the monotonic clock. -/
def Action.time? : Action → Option ℚ
  | .ingest _ now _ => some now
  | .fanOut _ => none

/-- The clock does not go back. -/
def Monotonic (actions : List Action) : Prop := (actions.filterMap Action.time?).Pairwise (· ≤ ·)

/-- `response.json()["status"]`. -/
def statusOf (response : Response) : Option String := (response.body.get? "status").bind Json.str?

def accepted (served : List Served) : List Served :=
  served.filter fun one => statusOf one.response == some "accepted"

/-- The envelope a request's body says. -/
def Served.envelope (server : Server) (one : Served) : Option EventEnvelope :=
  (requestJson server one.request).toOption.bind
    (EventEnvelope.modelValidate server.platform one.drawn)

def Served.key (server : Server) (one : Served) : Option String :=
  (one.envelope server).map (effectiveKey one.request)

end OAuth2Server.EventIngest
