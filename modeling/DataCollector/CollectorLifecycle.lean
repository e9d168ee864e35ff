import DataCollector.CollectorSpanStream

/-! The span-stream lifecycle of the spec, Absent, Active and Closed, with Closed terminal,
and the sessions against it: the calls any run makes are a run of the lifecycle, whose channel
is always self._rpc. Then what the two mode classes do over whole runs. -/
namespace DataCollector.Core

/-- The span-stream lifecycle: no channel, a live channel, a closed one. -/
inductive SpanStream where
  | absent
  | active (rpc : StreamingRpc)
  | closed (rpc : StreamingRpc)

/-- Whether a call is a connect(). -/
def Call.isConnect : Call → Bool
  | .connect _ => true
  | _ => false

namespace SpanStream

def channel : SpanStream → Option StreamingRpc
  | absent => none
  | active rpc => some rpc
  | closed rpc => some rpc

/-- The external calls a state admits: a channel is built and connected only while none
exists, and close() is called only on the channel held, live or closed. -/
def allows : SpanStream → Call → Prop
  | _, .protocol _ => True
  | σ, .newStreamingRpc _ => σ = absent
  | σ, .connect _ => σ = absent
  | σ, .close rpc => σ.channel = some rpc

/-- Connecting a channel makes the state Active, closing the live one makes it Closed;
nothing else moves it. -/
def step : SpanStream → Call → SpanStream
  | absent, .connect rpc => active rpc
  | active rpc, .close _ => closed rpc
  | σ, _ => σ

/-- The calls are admitted one after another. -/
def accepts : SpanStream → List Call → Prop
  | _, [] => True
  | σ, c :: cs => σ.allows c ∧ (σ.step c).accepts cs

def stepAll (σ : SpanStream) (cs : List Call) : SpanStream := cs.foldl step σ

theorem accepts_append (σ : SpanStream) (l₁ l₂ : List Call) :
    σ.accepts (l₁ ++ l₂) ↔ σ.accepts l₁ ∧ (σ.stepAll l₁).accepts l₂ := by
  induction l₁ generalizing σ with
  | nil => simp [accepts, stepAll]
  | cons c cs ih => simp [accepts, stepAll, ih, and_assoc]

theorem stepAll_append (σ : SpanStream) (l₁ l₂ : List Call) :
    σ.stepAll (l₁ ++ l₂) = (σ.stepAll l₁).stepAll l₂ :=
  List.foldl_append _ _ _ _

theorem eq_absent_of_channel {σ : SpanStream} (h : σ.channel = none) : σ = absent := by
  cases σ <;> simp_all [channel]

/-- Only connect moves the lifecycle's channel. -/
theorem channel_step {σ : SpanStream} {c : Call} (hc : c.isConnect = false) :
    (σ.step c).channel = σ.channel := by
  rcases σ with _ | r | r <;> cases c <;> first | rfl | cases hc

/-- Calls that the stored channel permits and that connect nothing are admitted, and keep
the lifecycle's channel. -/
theorem accepts_of_allowedFrom (s : Session) (cs : List Call)
    (hc : ∀ c ∈ cs, c.allowedFrom s) (hn : ∀ r, Call.connect r ∉ cs) (σ : SpanStream)
    (h : σ.channel = s.rpc) : σ.accepts cs ∧ (σ.stepAll cs).channel = s.rpc := by
  induction cs generalizing σ with
  | nil => exact ⟨trivial, h⟩
  | cons c cs ih =>
    have hc' := hc c (List.mem_cons_self _ _)
    have hrest := ih (fun c' h' => hc c' (List.mem_cons_of_mem _ h'))
      (fun r h' => hn r (List.mem_cons_of_mem _ h'))
    have hallow : σ.allows c ∧ c.isConnect = false := by
      cases c with
      | protocol p => exact ⟨trivial, rfl⟩
      | newStreamingRpc r => exact ⟨eq_absent_of_channel (h.trans hc'), rfl⟩
      | connect r => exact absurd (List.mem_cons_self _ _) (hn r)
      | close r => exact ⟨h.trans hc', rfl⟩
    have hstep : (σ.step c).channel = s.rpc := (channel_step hallow.2).trans h
    exact ⟨⟨hallow.1, (hrest _ hstep).1⟩, (hrest _ hstep).2⟩

/-- An admitted sequence connects at most one channel, and none once a channel exists. -/
theorem accepts_countP_connect {σ : SpanStream} {cs : List Call} (h : σ.accepts cs) :
    cs.countP Call.isConnect + (if σ.channel.isSome then 1 else 0) ≤ 1 := by
  induction cs generalizing σ with
  | nil => split <;> simp
  | cons c cs ih =>
    have hrest := ih h.2
    cases hc : c.isConnect
    · rw [channel_step hc] at hrest
      simpa [hc] using hrest
    · cases c with
      | connect r =>
        obtain rfl : σ = absent := h.1
        simpa [Call.isConnect, step, channel] using hrest
      | _ => cases hc

/-- A step holds a channel only when the state held it or the step connected it. -/
theorem channel_step_eq_some {σ : SpanStream} {c : Call} {r : StreamingRpc}
    (h : (σ.step c).channel = some r) : σ.channel = some r ∨ c = .connect r := by
  rcases σ with _ | _ | _ <;> cases c <;> simp_all [step, channel]

/-- The lifecycle holds a channel only when it held it before or a connect of it was called. -/
theorem channel_stepAll_eq_some {σ : SpanStream} {cs : List Call} {r : StreamingRpc}
    (h : (σ.stepAll cs).channel = some r) : σ.channel = some r ∨ Call.connect r ∈ cs := by
  induction cs generalizing σ with
  | nil => exact .inl h
  | cons c cs ih =>
    rcases ih h with h' | h'
    · rcases channel_step_eq_some h' with h'' | rfl
      · exact .inl h''
      · exact .inr (List.mem_cons_self _ _)
    · exact .inr (List.mem_cons_of_mem _ h')

/-- From Absent, close() is admitted only on a channel whose connect was called before. -/
theorem accepts_close_after_connect {pre post : List Call} {r : StreamingRpc}
    (h : absent.accepts (pre ++ .close r :: post)) : Call.connect r ∈ pre :=
  (channel_stepAll_eq_some ((accepts_append _ _ _).mp h).2.1).resolve_left (by simp [channel])

end SpanStream

/-- The external calls a run makes, in order. -/
def Session.trace (rt : Runtime) (s : Session) : List (World × Method) → List Call
  | [] => []
  | (w, m) :: rest => (s.call rt w m).calls ++ (s.call rt w m).session.trace rt rest

theorem Session.trace_cons (rt : Runtime) (s : Session) (w : World) (m : Method)
    (rest : List (World × Method)) :
    s.trace rt ((w, m) :: rest) = (s.call rt w m).calls ++ (s.call rt w m).session.trace rt rest :=
  rfl

/-- One call, seen by the lifecycle: its calls are admitted and the lifecycle's channel
follows self._rpc. -/
theorem Session.call_refines (rt : Runtime) (w : World) (s : Session) (m : Method)
    (σ : SpanStream) (h : σ.channel = s.rpc) :
    σ.accepts (s.call rt w m).calls ∧
      (σ.stepAll (s.call rt w m).calls).channel = (s.call rt w m).session.rpc := by
  rcases Session.call_session rt w s m with ⟨hs, hn⟩ | ⟨r, _, _, -, hr, -, -, -, hs, hc⟩
  · rw [hs]
    exact SpanStream.accepts_of_allowedFrom s _ (Session.call_calls_allowed rt w s m) hn σ h
  · obtain rfl := SpanStream.eq_absent_of_channel (h.trans hr)
    simp [hs, hc, SpanStream.accepts, SpanStream.allows, SpanStream.stepAll, SpanStream.step,
      SpanStream.channel]

/-- A whole run, seen by the lifecycle, from any state whose channel is self._rpc. -/
theorem Session.run_refines (rt : Runtime) (calls : List (World × Method)) (s : Session)
    (σ : SpanStream) (h : σ.channel = s.rpc) :
    σ.accepts (s.trace rt calls) ∧ (σ.stepAll (s.trace rt calls)).channel = (s.run rt calls).rpc := by
  induction calls generalizing s σ with
  | nil => exact ⟨trivial, h⟩
  | cons c cs ih =>
    obtain ⟨w, m⟩ := c
    obtain ⟨hacc, hch⟩ := Session.call_refines rt w s m σ h
    obtain ⟨hacc', hch'⟩ := ih _ _ hch
    rw [Session.trace_cons, Session.run_cons, SpanStream.accepts_append, SpanStream.stepAll_append]
    exact ⟨⟨hacc, hacc'⟩, hch'⟩

/-- Every session refines the lifecycle of the spec: from a new session of any class, the
calls of any run are admitted by the lifecycle from Absent, one after another, and the
lifecycle's channel is self._rpc at the end of the run. -/
theorem Session.run_refines_lifecycle (rt : Runtime) (v : Variant) (calls : List (World × Method)) :
    SpanStream.absent.accepts (Session.trace rt ⟨v, none⟩ calls) ∧
      (SpanStream.absent.stepAll (Session.trace rt ⟨v, none⟩ calls)).channel =
        (Session.run rt ⟨v, none⟩ calls).rpc :=
  Session.run_refines rt calls _ _ rfl

/-- Over any run of a new session of any class, connect() is called at most once. -/
theorem Session.run_connects_at_most_once (rt : Runtime) (v : Variant)
    (calls : List (World × Method)) :
    (Session.trace rt ⟨v, none⟩ calls).countP Call.isConnect ≤ 1 := by
  simpa [SpanStream.channel] using
    SpanStream.accepts_countP_connect (Session.run_refines rt calls ⟨v, none⟩ .absent rfl).1

/-- Over any run of a new session of any class, close() is called only on a channel whose
connect() was called earlier in the run. -/
theorem Session.run_close_after_connect (rt : Runtime) (v : Variant)
    (calls : List (World × Method)) (pre post : List Call) (r : StreamingRpc)
    (h : Session.trace rt ⟨v, none⟩ calls = pre ++ .close r :: post) : Call.connect r ∈ pre :=
  SpanStream.accepts_close_after_connect (h ▸ (Session.run_refines rt calls ⟨v, none⟩ .absent rfl).1)

theorem Session.run_close_after_connect_streamingWorld :
    Session.trace Runtime.basic ⟨.session, none⟩
        [(streamingWorld (.ok ()), .connectSpanStream (.handle 0) (.handle 1)),
          (streamingWorld (.ok ()), .shutdownSpanStream)] =
      [.newStreamingRpc streamingChannel, .connect streamingChannel] ++ [.close streamingChannel] ∧
      Call.connect streamingChannel ∈ [.newStreamingRpc streamingChannel, .connect streamingChannel] :=
  ⟨rfl, Session.run_close_after_connect Runtime.basic .session
    [(streamingWorld (.ok ()), .connectSpanStream (.handle 0) (.handle 1)),
      (streamingWorld (.ok ()), .shutdownSpanStream)] _ [] _ rfl⟩

/-! ### The mode classes over runs -/

section Modes

variable (rt : Runtime)

/-- A run keeps self._rpc empty when at each of its calls the session's class cannot store a
channel: it is serverless, or it is developer and the debug flag is off. -/
theorem Session.run_rpc_none (calls : List (World × Method)) (s : Session) (hr : s.rpc = none)
    (hblock : ∀ c ∈ calls, s.variant = .serverlessModeSession ∨ s.variant = .developerModeSession ∧
      c.1.configuration.attrTruthy ["debug", "connect_span_stream_in_developer_mode"] = false) :
    (s.run rt calls).rpc = none := by
  induction calls generalizing s with
  | nil => exact hr
  | cons c cs ih =>
    rcases Session.call_session rt c.1 s c.2 with ⟨h, -⟩ | ⟨_, _, _, _, _, _, hns, hdev, _⟩
    · exact ih (s.call rt c.1 c.2).session (by rw [h, hr]) fun c' h' => by
        rw [h]; exact hblock c' (List.mem_cons_of_mem _ h')
    · rcases hblock c (List.mem_cons_self _ _) with hv | ⟨hv, hoff⟩
      · exact absurd hv hns
      · simp [hdev hv] at hoff

/-- A serverless session never holds a channel. -/
theorem Session.run_serverless_no_channel (calls : List (World × Method)) :
    (Session.run rt ⟨.serverlessModeSession, none⟩ calls).rpc = none :=
  Session.run_rpc_none rt calls _ rfl fun _ _ => .inl rfl

/-- A developer session whose debug flag is off at every call never holds a channel. -/
theorem Session.run_developer_flag_off (calls : List (World × Method))
    (hoff : ∀ c ∈ calls,
      c.1.configuration.attrTruthy ["debug", "connect_span_stream_in_developer_mode"] = false) :
    (Session.run rt ⟨.developerModeSession, none⟩ calls).rpc = none :=
  Session.run_rpc_none rt calls _ rfl fun c hc => .inr ⟨rfl, hoff c hc⟩

/-- The streaming world with the debug flag off: every other setting enables the stream. -/
def quietWorld : World := { streamingWorld (.ok ()) with configuration := streamingSettingsWith false }

theorem Session.run_developer_flag_off_quietWorld :
    (∀ c ∈ [(quietWorld, Method.connectSpanStream (.handle 0) (.handle 1)),
        (quietWorld, .shutdownSpanStream)],
      c.1.configuration.attrTruthy ["debug", "connect_span_stream_in_developer_mode"] = false) ∧
      (Session.run Runtime.basic ⟨.developerModeSession, none⟩
        [(quietWorld, .connectSpanStream (.handle 0) (.handle 1)), (quietWorld, .shutdownSpanStream)]).rpc =
        none :=
  ⟨by decide, Session.run_developer_flag_off Runtime.basic _ (by decide)⟩

/-- Session.connect_span_stream reads of the session only self._rpc. -/
theorem Session.connectSpanStream_variant (it rm : PyObj) (w : World) (v v' : Variant)
    (rpc : Option StreamingRpc) :
    let o := Session.connectSpanStream rt it rm w ⟨v, rpc⟩
    let o' := Session.connectSpanStream rt it rm w ⟨v', rpc⟩
    o.result = o'.result ∧ o.session.rpc = o'.session.rpc ∧ o.calls = o'.calls := by
  cases rpc with
  | some _ => exact ⟨rfl, rfl, rfl⟩
  | none =>
    simp only [Session.connectSpanStream, Option.isSome_none, Bool.false_eq_true, ite_false]
    cases spanStreamSettings rt w.configuration with
    | error => exact ⟨rfl, rfl, rfl⟩
    | ok settings =>
      rcases settings with _ | ⟨endpoint, metadata, ssl, compression⟩
      · exact ⟨rfl, rfl, rfl⟩
      · dsimp only
        cases w.newStreamingRpc ⟨endpoint, it, metadata, rm, ssl, compression⟩ <;> exact ⟨rfl, rfl, rfl⟩

/-- The protocol methods of a developer session are those of the application session. -/
theorem ProtocolMethod.run_developer (m : ProtocolMethod) :
    m.run rt .developerModeSession = m.run rt .session := by
  cases m <;> rfl

/-- With the debug flag on, a call on a developer session makes the calls the same call makes
on an application session holding the same channel, and leaves it the same channel. -/
theorem Session.call_developer_simulates (w : World) (rpc : Option StreamingRpc) (m : Method)
    (hon : w.configuration.attrTruthy ["debug", "connect_span_stream_in_developer_mode"] = true) :
    (Session.call rt w ⟨.developerModeSession, rpc⟩ m).session.rpc =
        (Session.call rt w ⟨.session, rpc⟩ m).session.rpc ∧
      (Session.call rt w ⟨.developerModeSession, rpc⟩ m).calls =
        (Session.call rt w ⟨.session, rpc⟩ m).calls := by
  cases m with
  | connectSpanStream it rm =>
    obtain ⟨flag, hflag, htruthy⟩ := PyObj.attrTruthy_eq_true.mp hon
    obtain ⟨-, hr, hc⟩ := Session.connectSpanStream_variant rt it rm w .developerModeSession .session rpc
    simp [Session.call, DeveloperModeSession.connectSpanStream_of_flag rt w _ it rm flag hflag htruthy, hr, hc]
  | shutdownSpanStream => cases rpc <;> exact ⟨rfl, rfl⟩
  | protocol p => simp [Session.call, liftProtocol, ProtocolMethod.run_developer]

theorem Session.call_session_eq (w : World) (s : Session) (m : Method) :
    (s.call rt w m).session = ⟨s.variant, (s.call rt w m).session.rpc⟩ := by
  rw [← Session.call_variant rt w s m]

/-- A developer session whose debug flag is on at every call is an application session as
far as the channel goes: over any run from the same channel it makes the same calls, in the
same order, and ends with the same channel. -/
theorem Session.run_developer_simulates (calls : List (World × Method)) (rpc : Option StreamingRpc)
    (hon : ∀ c ∈ calls,
      c.1.configuration.attrTruthy ["debug", "connect_span_stream_in_developer_mode"] = true) :
    (Session.run rt ⟨.developerModeSession, rpc⟩ calls).rpc =
        (Session.run rt ⟨.session, rpc⟩ calls).rpc ∧
      Session.trace rt ⟨.developerModeSession, rpc⟩ calls = Session.trace rt ⟨.session, rpc⟩ calls := by
  induction calls generalizing rpc with
  | nil => exact ⟨rfl, rfl⟩
  | cons c cs ih =>
    obtain ⟨w, m⟩ := c
    obtain ⟨hrpc, hcalls⟩ :=
      Session.call_developer_simulates rt w rpc m (hon (w, m) (List.mem_cons_self _ _))
    obtain ⟨ih₁, ih₂⟩ := ih (Session.call rt w ⟨.session, rpc⟩ m).session.rpc
      fun c' h' => hon c' (List.mem_cons_of_mem _ h')
    rw [Session.run_cons, Session.run_cons, Session.trace_cons, Session.trace_cons,
      Session.call_session_eq rt w ⟨.developerModeSession, rpc⟩ m,
      Session.call_session_eq rt w ⟨.session, rpc⟩ m, hrpc, hcalls]
    exact ⟨ih₁, congrArg _ ih₂⟩

theorem Session.run_developer_simulates_streamingWorld :
    (∀ c ∈ [(streamingWorld (.ok ()), Method.connectSpanStream (.handle 0) (.handle 1)),
        (streamingWorld (.ok ()), .shutdownSpanStream)],
      c.1.configuration.attrTruthy ["debug", "connect_span_stream_in_developer_mode"] = true) ∧
      (Session.run Runtime.basic ⟨.developerModeSession, none⟩
          [(streamingWorld (.ok ()), .connectSpanStream (.handle 0) (.handle 1)),
            (streamingWorld (.ok ()), .shutdownSpanStream)]).rpc =
        (Session.run Runtime.basic ⟨.session, none⟩
          [(streamingWorld (.ok ()), .connectSpanStream (.handle 0) (.handle 1)),
            (streamingWorld (.ok ()), .shutdownSpanStream)]).rpc ∧
      Session.trace Runtime.basic ⟨.developerModeSession, none⟩
          [(streamingWorld (.ok ()), .connectSpanStream (.handle 0) (.handle 1)),
            (streamingWorld (.ok ()), .shutdownSpanStream)] =
        Session.trace Runtime.basic ⟨.session, none⟩
          [(streamingWorld (.ok ()), .connectSpanStream (.handle 0) (.handle 1)),
            (streamingWorld (.ok ()), .shutdownSpanStream)] :=
  have h : ∀ c ∈ [(streamingWorld (.ok ()), Method.connectSpanStream (.handle 0) (.handle 1)),
      (streamingWorld (.ok ()), .shutdownSpanStream)],
      c.1.configuration.attrTruthy ["debug", "connect_span_stream_in_developer_mode"] = true := by
    decide
  ⟨h, Session.run_developer_simulates Runtime.basic _ none h⟩

end Modes

end DataCollector.Core
