import DataCollector.CollectorSession

/-! The span stream over whole runs. One lemma says everything each method can do to
self._rpc and which channel calls it makes; the run results follow by induction. -/
namespace DataCollector.Core

/-- The trace observer host is set and distributed tracing, span events and span collection
are all on. -/
def spanStreamingEnabled (configuration : PyObj) : Bool :=
  configuration.attrTruthy ["infinite_tracing", "trace_observer_host"] &&
    configuration.attrTruthy ["distributed_tracing", "enabled"] &&
    configuration.attrTruthy ["span_events", "enabled"] &&
    configuration.attrTruthy ["collect_span_events"]

theorem allTruthy_eq_true {xs : List (Except PyExc PyObj)} (h : allTruthy xs = .ok true) :
    ∀ x ∈ xs, ∃ v, x = .ok v ∧ v.truthy = true := by
  induction xs with
  | nil => simp
  | cons x rest ih =>
    rcases x with e | v
    · cases h
    · by_cases hv : v.truthy
      · simp only [allTruthy, bind, Except.bind, hv, ↓reduceIte] at h
        simpa [hv] using ih h
      · simp [allTruthy, bind, Except.bind, hv, pure, Except.pure] at h

/-- What connect_span_stream has read when it builds a channel: streaming is enabled, the
endpoint is host:port, and the metadata is the pairs (agent_run_token, run id) and
(license_key, key), in that order. -/
theorem spanStreamSettings_eq_some {rt : Runtime} {c : PyObj} {endpoint : String}
    {metadata ssl compression : PyObj}
    (h : spanStreamSettings rt c = .ok (some (endpoint, metadata, ssl, compression))) :
    ∃ host port runId licenseKey,
      c.attr ["infinite_tracing", "trace_observer_host"] = .ok host ∧
      c.attr ["infinite_tracing", "trace_observer_port"] = .ok port ∧
      c.attr ["infinite_tracing", "ssl"] = .ok ssl ∧
      c.attr ["infinite_tracing", "compression"] = .ok compression ∧
      c.attr ["agent_run_id"] = .ok runId ∧ c.attr ["license_key"] = .ok licenseKey ∧
      spanStreamingEnabled c = true ∧
      endpoint = rt.format host ++ ":" ++ rt.format port ∧
      metadata = .seq [.seq [.str "agent_run_token", runId], .seq [.str "license_key", licenseKey]] := by
  simp only [spanStreamSettings, pure_bind] at h
  obtain ⟨host, hhost, h⟩ := bind_eq_ok h
  split at h
  · cases h
  obtain ⟨port, hport, h⟩ := bind_eq_ok h
  obtain ⟨ssl', hssl, h⟩ := bind_eq_ok h
  obtain ⟨compression', hcompression, h⟩ := bind_eq_ok h
  obtain ⟨b, hall, h⟩ := bind_eq_ok h
  split at h
  · rename_i hb
    subst hb
    obtain ⟨runId, hrun, h⟩ := bind_eq_ok h
    obtain ⟨key, hkey, h⟩ := bind_eq_ok h
    obtain ⟨⟨v1, h1, t1⟩, ⟨v2, h2, t2⟩, ⟨v3, h3, t3⟩⟩ := by simpa using allTruthy_eq_true hall
    simp only [pure, Except.pure, Except.ok.injEq, Option.some.injEq, Prod.mk.injEq] at h
    obtain ⟨rfl, rfl, rfl, rfl⟩ := h
    refine ⟨host, port, runId, key, hhost, hport, hssl, hcompression, hrun, hkey, ?_, rfl, rfl⟩
    simp_all [spanStreamingEnabled, PyObj.attrTruthy_of_ok]
  · cases h

/-- connect_span_stream reaches the channel only when streaming is enabled. -/
theorem spanStreamSettings_enabled {rt : Runtime} {c : PyObj} {x : String × PyObj × PyObj × PyObj}
    (h : spanStreamSettings rt c = .ok (some x)) : spanStreamingEnabled c = true := by
  obtain ⟨endpoint, metadata, ssl, compression⟩ := x
  obtain ⟨_, _, _, _, -, -, -, -, -, -, hen, -⟩ := spanStreamSettings_eq_some h
  exact hen

/-- A call on a channel that the stored one permits: close only the stored channel, build
or connect one only when none is stored. -/
def Call.allowedFrom (s : Session) : Call → Prop
  | .protocol _ => True
  | .newStreamingRpc _ => s.rpc = none
  | .connect _ => s.rpc = none
  | .close r => s.rpc = some r

section Methods

variable (rt : Runtime) (spanIterator recordMetric : PyObj) (w : World) (s : Session)

theorem Session.connectSpanStream_of_isSome (h : s.rpc.isSome) :
    Session.connectSpanStream rt spanIterator recordMetric w s = ⟨.ok none, s, []⟩ := by
  simp [Session.connectSpanStream, h]

/-- Everything Session.connect_span_stream can do: leave the session as it is, at most
having tried to build a channel while none was stored; or, from no channel and with streaming
enabled, build, store and connect one. -/
theorem Session.connectSpanStream_cases :
    ((Session.connectSpanStream rt spanIterator recordMetric w s).session = s ∧
      ∀ c ∈ (Session.connectSpanStream rt spanIterator recordMetric w s).calls,
        s.rpc = none ∧ ∃ r, c = .newStreamingRpc r) ∨
    ∃ r, s.rpc = none ∧ spanStreamingEnabled w.configuration = true ∧
      (Session.connectSpanStream rt spanIterator recordMetric w s).session =
        { s with rpc := some r } ∧
      (Session.connectSpanStream rt spanIterator recordMetric w s).calls =
        [.newStreamingRpc r, .connect r] := by
  unfold Session.connectSpanStream
  split
  · exact .inl ⟨rfl, by simp⟩
  · rename_i hs
    have hs : s.rpc = none := by simpa using hs
    split
    · exact .inl ⟨rfl, by simp⟩
    · exact .inl ⟨rfl, by simp⟩
    · rename_i hset
      dsimp only
      split
      · exact .inl ⟨rfl, by simp [hs]⟩
      · exact .inr ⟨_, hs, spanStreamSettings_enabled hset, rfl, rfl⟩

/-- Everything DeveloperModeSession.connect_span_stream can do: nothing, or, with the debug
flag on, what the base method does. -/
theorem DeveloperModeSession.connectSpanStream_cases :
    ((DeveloperModeSession.connectSpanStream rt spanIterator recordMetric w s).session = s ∧
      (DeveloperModeSession.connectSpanStream rt spanIterator recordMetric w s).calls = []) ∨
    (w.configuration.attrTruthy ["debug", "connect_span_stream_in_developer_mode"] = true ∧
      (DeveloperModeSession.connectSpanStream rt spanIterator recordMetric w s).session =
        (Session.connectSpanStream rt spanIterator recordMetric w s).session ∧
      (DeveloperModeSession.connectSpanStream rt spanIterator recordMetric w s).calls =
        (Session.connectSpanStream rt spanIterator recordMetric w s).calls) := by
  unfold DeveloperModeSession.connectSpanStream
  split
  · exact .inl ⟨rfl, rfl⟩
  · rename_i flag hflag
    split
    · exact .inr ⟨(PyObj.attrTruthy_of_ok hflag).trans ‹_›, rfl, rfl⟩
    · exact .inl ⟨rfl, rfl⟩

theorem Session.shutdownSpanStream_session : (Session.shutdownSpanStream w s).session = s := by
  unfold Session.shutdownSpanStream; split <;> rfl

theorem Session.shutdownSpanStream_calls :
    ∀ c ∈ (Session.shutdownSpanStream w s).calls, c.allowedFrom s := by
  unfold Session.shutdownSpanStream
  split
  · simpa [Call.allowedFrom]
  · simp

end Methods

section Calls

variable (rt : Runtime) (w : World) (s : Session) (m : Method)

/-- Every channel call any method makes is one the stored channel permits. -/
theorem Session.call_calls_allowed : ∀ c ∈ (s.call rt w m).calls, c.allowedFrom s := by
  have base (it rm : PyObj) :
      ∀ c ∈ (Session.connectSpanStream rt it rm w s).calls, c.allowedFrom s := by
    rcases Session.connectSpanStream_cases rt it rm w s with ⟨-, h⟩ | ⟨r, hs, -, -, h⟩
    · intro c hc
      obtain ⟨hs, r, rfl⟩ := h c hc
      exact hs
    · simp [h, Call.allowedFrom, hs]
  cases m with
  | connectSpanStream it rm =>
    simp only [Session.call, Outcome.map_calls]
    split
    · exact base it rm
    · rcases DeveloperModeSession.connectSpanStream_cases rt it rm w s with ⟨-, h⟩ | ⟨-, -, h⟩
      · simp [h]
      · rw [h]; exact base it rm
    · simp [ServerlessModeSession.connectSpanStream]
  | shutdownSpanStream => exact Session.shutdownSpanStream_calls w s
  | protocol p => simp [Session.call, liftProtocol, Call.allowedFrom]

/-- Everything a call can do to the session: leave it as it is, connecting no channel; or,
in connect_span_stream from no channel, not in serverless mode, with the debug flag on in
developer mode and with streaming enabled, build a channel, store it and connect it. -/
theorem Session.call_session :
    ((s.call rt w m).session = s ∧ ∀ r, Call.connect r ∉ (s.call rt w m).calls) ∨
    ∃ r spanIterator recordMetric, m = .connectSpanStream spanIterator recordMetric ∧
      s.rpc = none ∧ spanStreamingEnabled w.configuration = true ∧
      s.variant ≠ .serverlessModeSession ∧
      (s.variant = .developerModeSession →
        w.configuration.attrTruthy ["debug", "connect_span_stream_in_developer_mode"] = true) ∧
      (s.call rt w m).session = { s with rpc := some r } ∧
      (s.call rt w m).calls = [.newStreamingRpc r, .connect r] := by
  cases m with
  | connectSpanStream it rm =>
    obtain ⟨v, rpc⟩ := s
    cases v <;> simp only [Session.call, Outcome.map_session, Outcome.map_calls]
    · rcases Session.connectSpanStream_cases rt it rm w ⟨_, rpc⟩ with ⟨h, hc⟩ | ⟨r, hs, he, h, hc⟩
      · exact .inl ⟨h, fun r hr => by obtain ⟨-, _, h'⟩ := hc _ hr; cases h'⟩
      · exact .inr ⟨r, it, rm, rfl, hs, he, by simp, by simp, h, hc⟩
    · rcases DeveloperModeSession.connectSpanStream_cases rt it rm w ⟨_, rpc⟩ with
        ⟨h, hc⟩ | ⟨hf, h, hc⟩
      · exact .inl ⟨h, by simp [hc]⟩
      · rw [h, hc]
        rcases Session.connectSpanStream_cases rt it rm w ⟨_, rpc⟩ with
          ⟨h', hc'⟩ | ⟨r, hs, he, h', hc'⟩
        · exact .inl ⟨h', fun r hr => by obtain ⟨-, _, h''⟩ := hc' _ hr; cases h''⟩
        · exact .inr ⟨r, it, rm, rfl, hs, he, by simp, fun _ => hf, h', hc'⟩
    · exact .inl ⟨rfl, by simp [ServerlessModeSession.connectSpanStream]⟩
  | shutdownSpanStream =>
    refine .inl ⟨Session.shutdownSpanStream_session w s, fun r => ?_⟩
    simp only [Session.call, Outcome.map_calls, Session.shutdownSpanStream]
    split <;> simp
  | protocol p => exact .inl ⟨rfl, by simp [Session.call, liftProtocol]⟩

theorem Session.call_variant : (s.call rt w m).session.variant = s.variant := by
  rcases Session.call_session rt w s m with ⟨h, -⟩ | ⟨_, _, _, _, _, _, _, _, h, _⟩ <;> rw [h]

/-- A stored channel stays stored through any call. -/
theorem Session.call_rpc_of_some {r : StreamingRpc} (h : s.rpc = some r) :
    (s.call rt w m).session.rpc = some r := by
  rcases Session.call_session rt w s m with ⟨hs, -⟩ | ⟨_, _, _, _, hn, _⟩
  · rw [hs, h]
  · simp [h] at hn

/-- While a channel is stored, connect_span_stream returns None in every class, unless in
developer mode the read of the debug flag itself raises. -/
theorem Session.call_connectSpanStream_of_isSome (it rm : PyObj) (h : s.rpc.isSome) :
    (s.call rt w (.connectSpanStream it rm)).result = .ok (.spanStream none) ∨
      s.variant = .developerModeSession ∧ ∃ e,
        w.configuration.attr ["debug", "connect_span_stream_in_developer_mode"] = .error e ∧
        (s.call rt w (.connectSpanStream it rm)).result = .error e := by
  obtain ⟨v, rpc⟩ := s
  have base := Session.connectSpanStream_of_isSome rt it rm w ⟨v, rpc⟩ h
  cases v
  · simp [Session.call, base, Outcome.map, Except.map]
  · simp only [Session.call, DeveloperModeSession.connectSpanStream]
    split
    · exact .inr ⟨trivial, _, ‹_›, rfl⟩
    · split <;> simp [base, Outcome.map, Except.map]
  · exact .inl rfl

end Calls

section Runs

variable (rt : Runtime)

theorem Session.run_append (s : Session) (pre post : List (World × Method)) :
    s.run rt (pre ++ post) = (s.run rt pre).run rt post :=
  List.foldl_append _ _ _ _

theorem Session.run_variant (s : Session) (calls : List (World × Method)) :
    (s.run rt calls).variant = s.variant := by
  induction calls generalizing s with
  | nil => rfl
  | cons c cs ih => exact (ih _).trans (Session.call_variant rt c.1 s c.2)

theorem Session.run_rpc_of_some (s : Session) (calls : List (World × Method)) {r : StreamingRpc}
    (h : s.rpc = some r) : (s.run rt calls).rpc = some r := by
  induction calls generalizing s with
  | nil => exact h
  | cons c cs ih => exact ih _ (Session.call_rpc_of_some rt c.1 s c.2 h)

/-- Over any run of any class, a stored channel is never replaced or cleared, and while one is
held no call builds or connects another; close() targets only the stored channel; and only
connect_span_stream sets self._rpc, with streaming enabled, outside serverless mode. -/
theorem span_stream_channel_at_most_once (v : Variant) (calls : List (World × Method)) :
    (∀ pre post r, calls = pre ++ post → (Session.run rt ⟨v, none⟩ pre).rpc = some r →
        (Session.run rt ⟨v, none⟩ calls).rpc = some r) ∧
    ∀ pre w m post, calls = pre ++ (w, m) :: post →
      let s := Session.run rt ⟨v, none⟩ pre
      let o := s.call rt w m
      (s.rpc.isSome →
          (∀ r, Call.newStreamingRpc r ∉ o.calls ∧ Call.connect r ∉ o.calls) ∧
          ∀ it rm, m = .connectSpanStream it rm →
            o.result = .ok (.spanStream none) ∨
            v = .developerModeSession ∧ ∃ e,
              w.configuration.attr ["debug", "connect_span_stream_in_developer_mode"] = .error e ∧
              o.result = .error e) ∧
      (∀ r, Call.close r ∈ o.calls → s.rpc = some r) ∧
      (∀ r, s.rpc = none → o.session.rpc = some r →
        (∃ it rm, m = .connectSpanStream it rm) ∧ spanStreamingEnabled w.configuration = true ∧
        v ≠ .serverlessModeSession ∧
        (v = .developerModeSession →
          w.configuration.attrTruthy ["debug", "connect_span_stream_in_developer_mode"] = true) ∧
        Call.newStreamingRpc r ∈ o.calls) := by
  refine ⟨fun pre post r hcalls hr => ?_, fun pre w m post _ => ?_⟩
  · rw [hcalls, Session.run_append]
    exact Session.run_rpc_of_some rt _ post hr
  · intro s o
    have hv : s.variant = v := Session.run_variant rt _ pre
    have hallowed := Session.call_calls_allowed rt w s m
    refine ⟨fun hs => ⟨fun r => ⟨fun hc => Option.ne_none_iff_isSome.mpr hs (hallowed _ hc),
        fun hc => Option.ne_none_iff_isSome.mpr hs (hallowed _ hc)⟩, fun it rm hm => ?_⟩,
      fun r hc => hallowed _ hc, fun r hs hr => ?_⟩
    · subst hm
      simpa [hv] using Session.call_connectSpanStream_of_isSome rt w s it rm hs
    · rcases Session.call_session rt w s m with ⟨h, -⟩ | ⟨r', it, rm, hm, -, he, hns, hdev, h, hc⟩
      · simp [o, h, hs] at hr
      · have hr' : r' = r := by simpa [o, h] using hr
        subst hr'
        exact ⟨⟨it, rm, hm⟩, he, hv ▸ hns, hv ▸ hdev, by simp [o, hc]⟩

end Runs

section Failures

variable (rt : Runtime) (w : World) (s : Session)

/-- From no channel, with settings that let connect_span_stream build a channel: it calls
the constructor, and when that returns it stores the channel, then connects it. -/
theorem Session.connectSpanStream_builds (it rm : PyObj) (endpoint : String)
    (metadata ssl compression : PyObj) (hs : s.rpc = none)
    (hset : spanStreamSettings rt w.configuration = .ok (some (endpoint, metadata, ssl, compression))) :
    Session.connectSpanStream rt it rm w s =
      match w.newStreamingRpc ⟨endpoint, it, metadata, rm, ssl, compression⟩ with
      | .error e => ⟨.error e, s, [.newStreamingRpc ⟨endpoint, it, metadata, rm, ssl, compression⟩]⟩
      | .ok () =>
        ⟨(w.connect ⟨endpoint, it, metadata, rm, ssl, compression⟩).map fun _ =>
            some ⟨endpoint, it, metadata, rm, ssl, compression⟩,
          { s with rpc := some ⟨endpoint, it, metadata, rm, ssl, compression⟩ },
          [.newStreamingRpc ⟨endpoint, it, metadata, rm, ssl, compression⟩,
            .connect ⟨endpoint, it, metadata, rm, ssl, compression⟩]⟩ := by
  cases h : w.newStreamingRpc ⟨endpoint, it, metadata, rm, ssl, compression⟩ <;>
    simp [Session.connectSpanStream, hs, hset, h]

/-- DeveloperModeSession.connect_span_stream with the debug flag on: the base method, its
result dropped. -/
theorem DeveloperModeSession.connectSpanStream_of_flag (it rm flag : PyObj)
    (hflag : w.configuration.attr ["debug", "connect_span_stream_in_developer_mode"] = .ok flag)
    (hon : flag.truthy = true) :
    DeveloperModeSession.connectSpanStream rt it rm w s =
      (Session.connectSpanStream rt it rm w s).map fun _ => none := by
  simp [DeveloperModeSession.connectSpanStream, hflag, hon]

/-- Settings under which a session streams spans, with the developer-mode debug flag given. -/
def streamingSettingsWith (developerFlag : Bool) : PyObj :=
  .ns [("infinite_tracing", .ns [("trace_observer_host", .str "observer"),
      ("trace_observer_port", .int 443), ("ssl", .bool true), ("compression", .bool true)]),
    ("distributed_tracing", .ns [("enabled", .bool true)]),
    ("span_events", .ns [("enabled", .bool true)]), ("collect_span_events", .bool true),
    ("agent_run_id", .str "run"), ("license_key", .str "key"),
    ("debug", .ns [("connect_span_stream_in_developer_mode", .bool developerFlag)])]

/-- Those settings with the debug flag on. -/
def streamingSettings : PyObj := streamingSettingsWith true

/-- A world with those settings, whose channel constructor returns and whose connect()
answers as given; the protocols answer None. -/
def streamingWorld (connectResult : Except PyExc Unit) : World where
  configuration := streamingSettings
  send _ _ := .ok .none
  otlpSend _ _ _ := .ok .none
  closeConnection := .ok ()
  finalize := .ok .none
  newStreamingRpc _ := .ok ()
  connect _ := connectResult
  close _ := .ok ()

/-- The channel a session builds in that world, for span iterator 0 and recorder 1. -/
def streamingChannel : StreamingRpc :=
  ⟨"observer:443", .handle 0, .seq [.seq [.str "agent_run_token", .str "run"],
    .seq [.str "license_key", .str "key"]], .handle 1, .bool true, .bool true⟩

/-- From no channel, with settings that build the channel r: if the constructor raises, nothing
is stored and a later call builds, stores and connects a channel; if connect() raises, r stays
stored, so every later connect_span_stream does nothing and shutdown_span_stream closes r. -/
theorem Session.connectSpanStream_raises (it rm : PyObj) (e : PyExc) (endpoint : String)
    (metadata ssl compression : PyObj) (hs : s.rpc = none)
    (hset : spanStreamSettings rt w.configuration = .ok (some (endpoint, metadata, ssl, compression))) :
    (w.newStreamingRpc ⟨endpoint, it, metadata, rm, ssl, compression⟩ = .error e →
      Session.connectSpanStream rt it rm w s =
        ⟨.error e, s, [.newStreamingRpc ⟨endpoint, it, metadata, rm, ssl, compression⟩]⟩ ∧
      ∀ (w' : World) (it' rm' : PyObj) (endpoint' : String) (metadata' ssl' compression' : PyObj),
        spanStreamSettings rt w'.configuration =
          .ok (some (endpoint', metadata', ssl', compression')) →
        w'.newStreamingRpc ⟨endpoint', it', metadata', rm', ssl', compression'⟩ = .ok () →
        (Session.connectSpanStream rt it' rm' w' s).session.rpc =
          some ⟨endpoint', it', metadata', rm', ssl', compression'⟩ ∧
        (Session.connectSpanStream rt it' rm' w' s).calls =
          [.newStreamingRpc ⟨endpoint', it', metadata', rm', ssl', compression'⟩,
            .connect ⟨endpoint', it', metadata', rm', ssl', compression'⟩]) ∧
    (w.newStreamingRpc ⟨endpoint, it, metadata, rm, ssl, compression⟩ = .ok () →
      w.connect ⟨endpoint, it, metadata, rm, ssl, compression⟩ = .error e →
      Session.connectSpanStream rt it rm w s =
        ⟨.error e, { s with rpc := some ⟨endpoint, it, metadata, rm, ssl, compression⟩ },
          [.newStreamingRpc ⟨endpoint, it, metadata, rm, ssl, compression⟩,
            .connect ⟨endpoint, it, metadata, rm, ssl, compression⟩]⟩ ∧
      (∀ (w' : World) (it' rm' : PyObj),
        Session.connectSpanStream rt it' rm' w'
            { s with rpc := some ⟨endpoint, it, metadata, rm, ssl, compression⟩ } =
          ⟨.ok none, { s with rpc := some ⟨endpoint, it, metadata, rm, ssl, compression⟩ }, []⟩) ∧
      ∀ w' : World, (Session.shutdownSpanStream w'
          { s with rpc := some ⟨endpoint, it, metadata, rm, ssl, compression⟩ }).calls =
        [.close ⟨endpoint, it, metadata, rm, ssl, compression⟩]) := by
  refine ⟨fun hnew => ⟨?_, fun w' it' rm' endpoint' metadata' ssl' compression' hset' hnew' => ?_⟩,
    fun hnew hconn => ⟨?_, fun w' it' rm' => ?_, fun w' => rfl⟩⟩
  · simp [Session.connectSpanStream_builds rt w s it rm endpoint metadata ssl compression hs hset,
      hnew]
  · simp [Session.connectSpanStream_builds rt w' s it' rm' endpoint' metadata' ssl' compression' hs
      hset', hnew']
  · simp [Session.connectSpanStream_builds rt w s it rm endpoint metadata ssl compression hs hset,
      hnew, hconn, Except.map]
  · exact Session.connectSpanStream_of_isSome rt it' rm' w' _ rfl

theorem Session.connectSpanStream_raises_streamingWorld :
    spanStreamSettings Runtime.basic streamingSettings = .ok (some (streamingChannel.endpoint,
        streamingChannel.metadata, streamingChannel.ssl, streamingChannel.compression)) ∧
      Session.connectSpanStream Runtime.basic (.handle 0) (.handle 1)
          (streamingWorld (.error (.other "ConnectionError"))) ⟨.session, none⟩ =
        ⟨.error (.other "ConnectionError"), ⟨.session, some streamingChannel⟩,
          [.newStreamingRpc streamingChannel, .connect streamingChannel]⟩ :=
  ⟨rfl, ((Session.connectSpanStream_raises Runtime.basic
    (streamingWorld (.error (.other "ConnectionError"))) ⟨.session, none⟩ (.handle 0) (.handle 1)
    (.other "ConnectionError") streamingChannel.endpoint streamingChannel.metadata
    streamingChannel.ssl streamingChannel.compression rfl rfl).2 rfl rfl).1⟩

end Failures

/-- A connect() that raises leaves its channel stored: the next connect_span_stream, with
streaming enabled and a connect() that works, builds nothing. -/
theorem connect_failure_blocks_retry :
    (Session.connectSpanStream Runtime.basic (.handle 0) (.handle 1)
        (streamingWorld (.error (.other "ConnectionError"))) ⟨.session, none⟩).result =
        .error (.other "ConnectionError") ∧
      (Session.connectSpanStream Runtime.basic (.handle 0) (.handle 1)
        (streamingWorld (.error (.other "ConnectionError"))) ⟨.session, none⟩).session.rpc.isSome ∧
      (Session.connectSpanStream Runtime.basic (.handle 0) (.handle 1) (streamingWorld (.ok ()))
        (Session.connectSpanStream Runtime.basic (.handle 0) (.handle 1)
          (streamingWorld (.error (.other "ConnectionError"))) ⟨.session, none⟩).session).calls = [] :=
  ⟨rfl, rfl, rfl⟩

/-- In developer mode with the debug flag on and streaming enabled, the base method returns
the channel it stored; the developer override stores the same channel and returns None. -/
theorem developer_connect_drops_channel :
    ∃ r, (Session.connectSpanStream Runtime.basic (.handle 0) (.handle 1) (streamingWorld (.ok ()))
          ⟨.developerModeSession, none⟩).result = .ok (some r) ∧
      (DeveloperModeSession.connectSpanStream Runtime.basic (.handle 0) (.handle 1)
          (streamingWorld (.ok ())) ⟨.developerModeSession, none⟩).result = .ok none ∧
      (DeveloperModeSession.connectSpanStream Runtime.basic (.handle 0) (.handle 1)
          (streamingWorld (.ok ())) ⟨.developerModeSession, none⟩).session.rpc = some r :=
  ⟨_, rfl, rfl, rfl⟩

end DataCollector.Core
