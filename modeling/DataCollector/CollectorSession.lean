import DataCollector.CollectorCommonBlock

/-! The Session class of data_collector.py, its two mode variants and create_session. A call
runs in a world (the settings of the moment and what each external call answers); it changes
at most self._rpc and records every external call it makes, in order. -/
namespace DataCollector.Core

/-- A StreamingRpc, known by the arguments it was built with. -/
structure StreamingRpc where
  endpoint : String
  spanIterator : PyObj
  metadata : PyObj
  recordMetric : PyObj
  ssl : PyObj
  compression : PyObj

/-- A call on the primary or the OTLP protocol. -/
inductive ProtocolCall where
  | send (method : String) (payload : PyObj)
  | otlpSend (method : String) (payload : PyObj) (path : String)
  | closeConnection
  | finalize

/-- An external call a session makes. -/
inductive Call where
  | protocol (call : ProtocolCall)
  | newStreamingRpc (rpc : StreamingRpc)
  | connect (rpc : StreamingRpc)
  | close (rpc : StreamingRpc)

/-- The session's collaborators at the time of one call: self._protocol.configuration, and
what each external call returns or raises. -/
structure World where
  configuration : PyObj
  send : String → PyObj → Except PyExc PyObj
  otlpSend : String → PyObj → String → Except PyExc PyObj
  closeConnection : Except PyExc Unit
  finalize : Except PyExc PyObj
  newStreamingRpc : StreamingRpc → Except PyExc Unit
  connect : StreamingRpc → Except PyExc Unit
  close : StreamingRpc → Except PyExc Unit

/-- The class create_session chose. -/
inductive Variant where
  | session
  | developerModeSession
  | serverlessModeSession
  deriving DecidableEq, Repr

/-- A session object: its class and self._rpc. The protocol handles never change; what they
answer is part of the world. -/
structure Session where
  variant : Variant
  rpc : Option StreamingRpc

/-- What one call did: its result or exception, the session after it, its external calls. -/
structure Outcome (α : Type) where
  result : Except PyExc α
  session : Session
  calls : List Call

def Outcome.map {α β : Type} (f : α → β) (o : Outcome α) : Outcome β :=
  ⟨o.result.map f, o.session, o.calls⟩

@[simp] theorem Outcome.map_session {α β : Type} (f : α → β) (o : Outcome α) :
    (o.map f).session = o.session := rfl

@[simp] theorem Outcome.map_calls {α β : Type} (f : α → β) (o : Outcome α) :
    (o.map f).calls = o.calls := rfl

/-! ### Methods that drive only the protocols -/

/-- A method that reads the settings and calls the two protocols, and nothing else. -/
def ProtocolM (α : Type) : Type := World → Except PyExc α × List ProtocolCall

namespace ProtocolM

def pure {α : Type} (a : α) : ProtocolM α := fun _ => (.ok a, [])

def bind {α β : Type} (m : ProtocolM α) (f : α → ProtocolM β) : ProtocolM β := fun w =>
  match m w with
  | (.ok a, calls) => ((f a w).1, calls ++ (f a w).2)
  | (.error e, calls) => (.error e, calls)

instance : Monad ProtocolM where
  pure := pure
  bind := bind

/-- A read of the settings, which may raise. -/
def read {α : Type} (r : PyObj → Except PyExc α) : ProtocolM α := fun w => (r w.configuration, [])

/-- A computation that calls nothing, which may raise. -/
def lift {α : Type} (x : Except PyExc α) : ProtocolM α := fun _ => (x, [])

/-- self._protocol.send(method, payload) -/
def send (method : String) (payload : PyObj) : ProtocolM PyObj := fun w =>
  (w.send method payload, [.send method payload])

/-- self._otlp_protocol.send(method, payload, path=path) -/
def otlpSend (method : String) (payload : PyObj) (path : String) : ProtocolM PyObj := fun w =>
  (w.otlpSend method payload path, [.otlpSend method payload path])

@[simp] theorem bind_apply {α β : Type} (m : ProtocolM α) (f : α → ProtocolM β) (w : World) :
    (m >>= f) w = match m w with
      | (.ok a, calls) => ((f a w).1, calls ++ (f a w).2)
      | (.error e, calls) => (.error e, calls) := rfl

@[simp] theorem read_apply {α : Type} (r : PyObj → Except PyExc α) (w : World) :
    read r w = (r w.configuration, []) := rfl

@[simp] theorem send_apply (method : String) (payload : PyObj) (w : World) :
    send method payload w = (w.send method payload, [.send method payload]) := rfl

end ProtocolM

/-- A log record, a named tuple: _asdict() gives its fields in order. -/
structure LogRecord where
  fields : List (String × PyObj)

def LogRecord.asdict (log : LogRecord) : PyObj := .dict log.fields

namespace Session

/-- Session.agent_run_id -/
def agentRunId : ProtocolM PyObj := ProtocolM.read fun c => c.attr ["agent_run_id"]

/-- The shape most payload methods share: the payload (agent_run_id, *args) sent to one
collector method. -/
def sendWithRunId (method : String) (args : List PyObj) : ProtocolM PyObj := do
  ProtocolM.send method (.seq ((← agentRunId) :: args))

/-- Session.send_transaction_traces: no call at all for an empty collection. -/
def sendTransactionTraces (transactionTraces : PyObj) : ProtocolM PyObj :=
  if !transactionTraces.truthy then pure .none
  else sendWithRunId "transaction_sample_data" [transactionTraces]

def sendTransactionEvents (samplingInfo sampleSet : PyObj) : ProtocolM PyObj :=
  sendWithRunId "analytic_event_data" [samplingInfo, sampleSet]

def sendCustomEvents (samplingInfo customEventData : PyObj) : ProtocolM PyObj :=
  sendWithRunId "custom_event_data" [samplingInfo, customEventData]

/-- Session.send_ml_events: the encoded events go to the OTLP logs path. -/
def sendMlEvents (rt : Runtime) (_samplingInfo customEventData : PyObj) : ProtocolM PyObj := do
  let payload ← ProtocolM.lift (rt.encodeMlEventData customEventData (rt.format (← agentRunId)))
  ProtocolM.otlpSend "ml_event_data" payload "/v1/logs"

def sendSpanEvents (samplingInfo spanEventData : PyObj) : ProtocolM PyObj :=
  sendWithRunId "span_event_data" [samplingInfo, spanEventData]

def sendMetricData (startTime endTime metricData : PyObj) : ProtocolM PyObj :=
  sendWithRunId "metric_data" [startTime, endTime, metricData]

/-- Session.send_dimensional_metric_data: the encoded metrics go to the OTLP metrics path. -/
def sendDimensionalMetricData (rt : Runtime) (startTime endTime metricData : PyObj) :
    ProtocolM PyObj := do
  let payload ← ProtocolM.lift (rt.encodeMetricData metricData startTime endTime)
  ProtocolM.otlpSend "dimensional_metric_data" payload "/v1/metrics"

/-- The payload of send_log_events: the records as dicts, and the common block under
"common" only when it is not empty. -/
def logEventsPayload (logEventData : List LogRecord) (common : Dict) : PyObj :=
  .seq [.dict ([("logs", .seq (logEventData.map LogRecord.asdict))] ++
    if common.toPy.truthy then [("common", .dict [("attributes", common.toPy)])] else [])]

/-- Session.send_log_events -/
def sendLogEvents (rt : Runtime) (_samplingInfo : PyObj) (logEventData : List LogRecord) :
    ProtocolM PyObj := do
  let common ← ProtocolM.read fun c => .ok (getLogEventsCommonBlock rt c)
  ProtocolM.send "log_event_data" (logEventsPayload logEventData common)

def getAgentCommands : ProtocolM PyObj := sendWithRunId "get_agent_commands" []

def sendErrors (errors : PyObj) : ProtocolM PyObj := sendWithRunId "error_data" [errors]

def sendErrorEvents (samplingInfo errorData : PyObj) : ProtocolM PyObj :=
  sendWithRunId "error_event_data" [samplingInfo, errorData]

/-- Session.send_sql_traces: the payload has no run id. -/
def sendSqlTraces (sqlTraces : PyObj) : ProtocolM PyObj :=
  ProtocolM.send "sql_trace_data" (.seq [sqlTraces])

def sendAgentCommandResults (cmdResults : PyObj) : ProtocolM PyObj :=
  sendWithRunId "agent_command_results" [cmdResults]

def sendProfileData (profileData : PyObj) : ProtocolM PyObj :=
  sendWithRunId "profile_data" [profileData]

/-- Session.send_loaded_modules: the literal tag "Jars" stands where the run id would. -/
def sendLoadedModules (environmentInfo : PyObj) : ProtocolM PyObj :=
  ProtocolM.send "update_loaded_modules" (.seq [.str "Jars", environmentInfo])

def shutdownSession : ProtocolM PyObj := sendWithRunId "shutdown" []

/-- Session.close_connection: only the primary protocol is closed. -/
def closeConnection : ProtocolM PyObj := fun w =>
  (w.closeConnection.map fun _ => .none, [.closeConnection])

def finalize : ProtocolM PyObj := fun w => (w.finalize, [.finalize])

end Session

/-- ServerlessModeSession.get_agent_commands: an empty tuple, no call. -/
def ServerlessModeSession.getAgentCommands : ProtocolM PyObj := pure (.seq [])

/-- ServerlessModeSession.shutdown_session: nothing. -/
def ServerlessModeSession.shutdownSession : ProtocolM PyObj := pure .none

/-! ### The span stream -/

/-- The truth of a and b and ... in an if: operands are read left to right, and the first
false one stops the reading. -/
def allTruthy : List (Except PyExc PyObj) → Except PyExc Bool
  | [] => .ok true
  | x :: rest => do if (← x).truthy then allTruthy rest else pure false

/-- What connect_span_stream reads before it builds a channel: the trace observer host, then
the port, ssl and compression, then, with streaming enabled, the metadata. Gives the
endpoint, metadata, ssl and compression of the channel, or none. -/
def spanStreamSettings (rt : Runtime) (configuration : PyObj) :
    Except PyExc (Option (String × PyObj × PyObj × PyObj)) := do
  let host ← configuration.attr ["infinite_tracing", "trace_observer_host"]
  if !host.truthy then return none
  let port ← configuration.attr ["infinite_tracing", "trace_observer_port"]
  let ssl ← configuration.attr ["infinite_tracing", "ssl"]
  let compressionSetting ← configuration.attr ["infinite_tracing", "compression"]
  let endpoint := rt.format host ++ ":" ++ rt.format port
  if ← allTruthy [configuration.attr ["distributed_tracing", "enabled"],
      configuration.attr ["span_events", "enabled"], configuration.attr ["collect_span_events"]] then
    let metadata := PyObj.seq [.seq [.str "agent_run_token", ← configuration.attr ["agent_run_id"]],
      .seq [.str "license_key", ← configuration.attr ["license_key"]]]
    return some (endpoint, metadata, ssl, compressionSetting)
  return none

/-- Session.connect_span_stream: nothing while a channel is stored; otherwise, when the
settings allow it, the channel is built, stored, connected and returned. It is stored before
connect() runs. -/
def Session.connectSpanStream (rt : Runtime) (spanIterator recordMetric : PyObj) (w : World)
    (s : Session) : Outcome (Option StreamingRpc) :=
  if s.rpc.isSome then ⟨.ok none, s, []⟩
  else
    match spanStreamSettings rt w.configuration with
    | .error e => ⟨.error e, s, []⟩
    | .ok none => ⟨.ok none, s, []⟩
    | .ok (some (endpoint, metadata, ssl, compression)) =>
      let rpc : StreamingRpc := ⟨endpoint, spanIterator, metadata, recordMetric, ssl, compression⟩
      match w.newStreamingRpc rpc with
      | .error e => ⟨.error e, s, [.newStreamingRpc rpc]⟩
      | .ok () =>
        ⟨(w.connect rpc).map fun _ => some rpc, { s with rpc := some rpc },
          [.newStreamingRpc rpc, .connect rpc]⟩

/-- DeveloperModeSession.connect_span_stream: the base method under the debug flag; what it
returns is dropped. -/
def DeveloperModeSession.connectSpanStream (rt : Runtime) (spanIterator recordMetric : PyObj)
    (w : World) (s : Session) : Outcome (Option StreamingRpc) :=
  match w.configuration.attr ["debug", "connect_span_stream_in_developer_mode"] with
  | .error e => ⟨.error e, s, []⟩
  | .ok flag =>
    if flag.truthy then (Session.connectSpanStream rt spanIterator recordMetric w s).map fun _ => none
    else ⟨.ok none, s, []⟩

/-- ServerlessModeSession.connect_span_stream: nothing. -/
def ServerlessModeSession.connectSpanStream (s : Session) : Outcome (Option StreamingRpc) :=
  ⟨.ok none, s, []⟩

/-- Session.shutdown_span_stream: close the stored channel, if there is one. -/
def Session.shutdownSpanStream (w : World) (s : Session) : Outcome PyObj :=
  match s.rpc with
  | some rpc => ⟨(w.close rpc).map fun _ => .none, s, [.close rpc]⟩
  | none => ⟨.ok .none, s, []⟩

/-! ### Calls on a session -/

/-- The methods of a session that drive only the protocols, with their arguments. -/
inductive ProtocolMethod where
  | closeConnection
  | sendTransactionTraces (transactionTraces : PyObj)
  | sendTransactionEvents (samplingInfo sampleSet : PyObj)
  | sendCustomEvents (samplingInfo customEventData : PyObj)
  | sendMlEvents (samplingInfo customEventData : PyObj)
  | sendSpanEvents (samplingInfo spanEventData : PyObj)
  | sendMetricData (startTime endTime metricData : PyObj)
  | sendDimensionalMetricData (startTime endTime metricData : PyObj)
  | getLogEventsCommonBlock
  | sendLogEvents (samplingInfo : PyObj) (logEventData : List LogRecord)
  | getAgentCommands
  | sendErrors (errors : PyObj)
  | sendErrorEvents (samplingInfo errorData : PyObj)
  | sendSqlTraces (sqlTraces : PyObj)
  | sendAgentCommandResults (cmdResults : PyObj)
  | sendProfileData (profileData : PyObj)
  | sendLoadedModules (environmentInfo : PyObj)
  | shutdownSession
  | finalize

/-- The method a class runs for a protocol method: the serverless class overrides two. -/
def ProtocolMethod.run (rt : Runtime) (v : Variant) : ProtocolMethod → ProtocolM PyObj
  | .closeConnection => Session.closeConnection
  | .sendTransactionTraces t => Session.sendTransactionTraces t
  | .sendTransactionEvents i d => Session.sendTransactionEvents i d
  | .sendCustomEvents i d => Session.sendCustomEvents i d
  | .sendMlEvents i d => Session.sendMlEvents rt i d
  | .sendSpanEvents i d => Session.sendSpanEvents i d
  | .sendMetricData a b d => Session.sendMetricData a b d
  | .sendDimensionalMetricData a b d => Session.sendDimensionalMetricData rt a b d
  | .getLogEventsCommonBlock =>
    ProtocolM.read fun c => .ok (DataCollector.Core.getLogEventsCommonBlock rt c).toPy
  | .sendLogEvents i logs => Session.sendLogEvents rt i logs
  | .getAgentCommands =>
    if v = .serverlessModeSession then ServerlessModeSession.getAgentCommands
    else Session.getAgentCommands
  | .sendErrors e => Session.sendErrors e
  | .sendErrorEvents i d => Session.sendErrorEvents i d
  | .sendSqlTraces t => Session.sendSqlTraces t
  | .sendAgentCommandResults r => Session.sendAgentCommandResults r
  | .sendProfileData p => Session.sendProfileData p
  | .sendLoadedModules e => Session.sendLoadedModules e
  | .shutdownSession =>
    if v = .serverlessModeSession then ServerlessModeSession.shutdownSession
    else Session.shutdownSession
  | .finalize => Session.finalize

/-- A call the host makes on a session. -/
inductive Method where
  | connectSpanStream (spanIterator recordMetric : PyObj)
  | shutdownSpanStream
  | protocol (m : ProtocolMethod)

/-- What a call returns: connect_span_stream a channel or None, the rest a value. -/
inductive Reply where
  | spanStream (rpc : Option StreamingRpc)
  | value (v : PyObj)

/-- A protocol method run on a session: the session is left as it is. -/
def liftProtocol {α : Type} (r : Except PyExc α × List ProtocolCall) (s : Session) : Outcome α :=
  ⟨r.1, s, r.2.map .protocol⟩

/-- One call on a session, dispatched on its class, in the world of that call. -/
def Session.call (rt : Runtime) (w : World) (s : Session) : Method → Outcome Reply
  | .connectSpanStream spanIterator recordMetric =>
    (match s.variant with
      | .session => Session.connectSpanStream rt spanIterator recordMetric w s
      | .developerModeSession =>
        DeveloperModeSession.connectSpanStream rt spanIterator recordMetric w s
      | .serverlessModeSession => ServerlessModeSession.connectSpanStream s).map .spanStream
  | .shutdownSpanStream => (Session.shutdownSpanStream w s).map .value
  | .protocol m => (liftProtocol (m.run rt s.variant w) s).map .value

/-- The session after a sequence of calls, each in its own world. -/
def Session.run (rt : Runtime) (s : Session) (calls : List (World × Method)) : Session :=
  calls.foldl (fun s c => (s.call rt c.1 c.2).session) s

theorem Session.run_cons (rt : Runtime) (s : Session) (w : World) (m : Method)
    (calls : List (World × Method)) :
    s.run rt ((w, m) :: calls) = (s.call rt w m).session.run rt calls := rfl

/-! ### Creating a session -/

/-- The protocol classes a session connects. -/
inductive ProtocolClass where
  | agentProtocol
  | otlpProtocol
  | serverlessModeProtocol
  deriving DecidableEq, Repr

/-- The HTTP client classes a session hands to its protocols. -/
inductive ClientClass where
  | applicationModeClient
  | developerModeClient
  | serverlessModeClient
  deriving DecidableEq, Repr

/-- The class attribute PROTOCOL. -/
def Variant.protocolClass : Variant → ProtocolClass
  | .serverlessModeSession => .serverlessModeProtocol
  | _ => .agentProtocol

/-- The class attribute CLIENT. -/
def Variant.clientClass : Variant → ClientClass
  | .session => .applicationModeClient
  | .developerModeSession => .developerModeClient
  | .serverlessModeSession => .serverlessModeClient

/-- Session.__init__: PROTOCOL.connect, then OTLP_PROTOCOL.connect, both with CLIENT; a
connection error propagates; self._rpc starts as None. Gives the connect calls made. -/
def Session.init (v : Variant) (connect : ProtocolClass → ClientClass → Except PyExc Unit) :
    Except PyExc Session × List (ProtocolClass × ClientClass) :=
  match connect v.protocolClass v.clientClass with
  | .error e => (.error e, [(v.protocolClass, v.clientClass)])
  | .ok () =>
    match connect .otlpProtocol v.clientClass with
    | .error e => (.error e, [(v.protocolClass, v.clientClass), (.otlpProtocol, v.clientClass)])
    | .ok () => (.ok ⟨v, none⟩, [(v.protocolClass, v.clientClass), (.otlpProtocol, v.clientClass)])

/-- create_session, on global_settings(): serverless mode, then developer mode, then the
application session. -/
def createSession (settings : PyObj) (connect : ProtocolClass → ClientClass → Except PyExc Unit) :
    Except PyExc Session × List (ProtocolClass × ClientClass) :=
  match settings.attr ["serverless_mode", "enabled"] with
  | .error e => (.error e, [])
  | .ok serverless =>
    if serverless.truthy then Session.init .serverlessModeSession connect
    else
      match settings.attr ["developer_mode"] with
      | .error e => (.error e, [])
      | .ok developer =>
        if developer.truthy then Session.init .developerModeSession connect
        else Session.init .session connect

end DataCollector.Core
