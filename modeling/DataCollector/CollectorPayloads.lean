import DataCollector.CollectorSpanStream

/-! Log delivery: send_log_events always sends the records, and a fault in the common block
only drops the "common" entry. -/
namespace DataCollector.Core

@[simp] theorem Dict.truthy_toPy (d : Dict) : d.toPy.truthy = (d.size != 0) := by
  rcases d with ⟨_ | _, _⟩ <;> rfl

/-- A protocol method on a session: the session is unchanged and every call it makes is a
protocol call. -/
@[simp] theorem Session.call_protocol (rt : Runtime) (w : World) (s : Session) (m : ProtocolMethod) :
    s.call rt w (.protocol m) =
      ⟨(m.run rt s.variant w).1.map .value, s, (m.run rt s.variant w).2.map .protocol⟩ := rfl

/-- The log payload, with "common" only for a non-empty common block. -/
theorem Session.logEventsPayload_eq (logEventData : List LogRecord) (common : Dict) :
    Session.logEventsPayload logEventData common =
      .seq [.dict (("logs", .seq (logEventData.map LogRecord.asdict)) ::
        if common.size = 0 then [] else [("common", .dict [("attributes", common.toPy)])])] := by
  by_cases h : common.size = 0 <;> simp [Session.logEventsPayload, h]

/-- get_log_events_common_block always returns, the empty dict when its body raises; and
send_log_events makes exactly one send to log_event_data, of the records under "logs" and,
when the common block B is not empty, "common" = {"attributes": B}. -/
theorem sendLogEvents_always_delivers (rt : Runtime) (w : World) (s : Session)
    (samplingInfo : PyObj) (logEventData : List LogRecord) :
    let B := getLogEventsCommonBlock rt w.configuration
    let payload := PyObj.seq [.dict (("logs", .seq (logEventData.map LogRecord.asdict)) ::
      if B.size = 0 then [] else [("common", .dict [("attributes", B.toPy)])])]
    (∀ e, commonBlock rt w.configuration = .error e → B = ∅) ∧
      (∀ C, commonBlock rt w.configuration = .ok C → B = C) ∧
      s.call rt w (.protocol .getLogEventsCommonBlock) = ⟨.ok (.value B.toPy), s, []⟩ ∧
      s.call rt w (.protocol (.sendLogEvents samplingInfo logEventData)) =
        ⟨(w.send "log_event_data" payload).map .value, s,
          [.protocol (.send "log_event_data" payload)]⟩ := by
  intro B payload
  refine ⟨fun e h => by simp [B, getLogEventsCommonBlock, h],
    fun C h => by simp [B, getLogEventsCommonBlock, h], rfl, ?_⟩
  simp only [Session.call_protocol, ProtocolMethod.run, Session.sendLogEvents, ProtocolM.bind_apply,
    ProtocolM.read_apply, ProtocolM.send_apply, Session.logEventsPayload_eq]
  rfl

end DataCollector.Core
