/-
# The window and the endpoint

The endpoint logs what it does, and the window shows what it reads of the log.

* `EndpointRecord.state?_toLogRecord` : the state that a record tells;
* `window_shows_endpoint` : once the log is read, the window shows what the endpoint does.
-/
import MatfVpn.HandshakeAgreement
import MatfVpn.LogStream
import MatfVpn.TruthfulLog

namespace MatfVpn

open Program JsonText

/-! ## Records as log records -/

/-- `str(address)`. -/
def IPv4Address.text (address : IPv4Address) : String :=
  ".".intercalate ((BigEndian.toBytes 4 address.value).map fun octet =>
    String.ofList (intText octet.toNat))

/-- The text of a UDP address. -/
def Address.text (address : Address) : String :=
  address.host.text ++ ":" ++ String.ofList (intText address.port)

namespace EndpointRecord

/-- The level of the call of the logger. -/
def levelname {τ : Type} : EndpointRecord τ → String
  | reconnectScheduled _ _ _ => "WARNING"
  | _ => "INFO"

/-- The message of the record. -/
def message {τ : Type} : EndpointRecord τ → String
  | sessionEstablished _ _ _ _ => "VPN session established"
  | reconnectScheduled _ _ _ => "VPN session failed; reconnecting"
  | endpointStopped => "VPN endpoint stopped"

theorem levelname_eq {τ : Type} (record : EndpointRecord τ) :
    record.levelname = "INFO" ∨ record.levelname = "WARNING" := by
  cases record with
  | reconnectScheduled attempt delaySeconds error => exact Or.inr rfl
  | _ => exact Or.inl rfl

theorem message_eq {τ : Type} (record : EndpointRecord τ) :
    record.message = "VPN session established" ∨
      record.message = "VPN session failed; reconnecting" ∨
      record.message = "VPN endpoint stopped" := by
  cases record with
  | sessionEstablished tunName localAddress sessionId encrypted => exact Or.inl rfl
  | reconnectScheduled attempt delaySeconds error => exact Or.inr (Or.inl rfl)
  | endpointStopped => exact Or.inr (Or.inr rfl)

/-- The state that the record tells. -/
def state {τ : Type} : EndpointRecord τ → EndpointState
  | sessionEstablished _ _ _ _ => .connected
  | reconnectScheduled _ _ _ => .reconnecting
  | endpointStopped => .disconnected

/-- The `extra` of the call of the logger.  `describe` gives the name of the class of an
exception and its text. -/
def extra (options : EndpointConfig Binary64) (describe : PyError → String × String) :
    EndpointRecord Binary64 → List (String × Json)
  | sessionEstablished tunName localAddress sessionId encrypted =>
      [("event", .string "session_established"), ("tun_name", .string tunName),
        ("tun_address", .string options.tunAddress),
        ("bind_address", .string localAddress.text),
        ("peer_address", .string options.peer.text), ("session_id", .int sessionId),
        ("encrypted", .bool encrypted), ("ephemeral_handshake", .bool options.ephemeralHandshake),
        ("packets_per_key", .int options.packetsPerKey)]
  | reconnectScheduled attempt delaySeconds error =>
      [("event", .string "reconnect_scheduled"), ("attempt", .int attempt),
        ("delay_seconds", .float delaySeconds), ("error_type", .string (describe error).1),
        ("error", .string (describe error).2)]
  | endpointStopped => [("event", .string "endpoint_stopped")]

variable {options : EndpointConfig Binary64} {describe : PyError → String × String}

theorem map_fst_extra (record : EndpointRecord Binary64) :
    (record.extra options describe).map Prod.fst
        = ["event", "tun_name", "tun_address", "bind_address", "peer_address", "session_id",
          "encrypted", "ephemeral_handshake", "packets_per_key"] ∨
      (record.extra options describe).map Prod.fst
        = ["event", "attempt", "delay_seconds", "error_type", "error"] ∨
      (record.extra options describe).map Prod.fst = ["event"] := by
  cases record with
  | sessionEstablished tunName localAddress sessionId encrypted => exact Or.inl rfl
  | reconnectScheduled attempt delaySeconds error => exact Or.inr (Or.inl rfl)
  | endpointStopped => exact Or.inr (Or.inr rfl)

variable (options describe) in
/-- The record that `logging` makes at the time `created`. -/
def toLogRecord (created : String) (record : EndpointRecord Binary64) : LogRecord where
  created := created
  levelname := record.levelname
  name := "matf_vpn"
  message := record.message
  extra := ⟨record.extra options describe, by
    rcases @map_fst_extra options describe record with h | h | h <;> rw [h] <;> decide⟩
  extra_new := by
    rcases @map_fst_extra options describe record with h | h | h <;>
      rw [OrderedDict.keys, h] <;> decide
  exception := none

/-- **The state that a record tells** in the log. -/
theorem state?_toLogRecord (created : String) (record : EndpointRecord Binary64) :
    (record.toLogRecord options describe created).state? = some record.state := by
  rw [LogRecord.state?, LogRecord.get?_payload, if_neg (by decide), Option.none_or]
  cases record with
  | sessionEstablished tunName localAddress sessionId encrypted => rfl
  | reconnectScheduled attempt delaySeconds error => rfl
  | endpointStopped => rfl

end EndpointRecord

/-! ## The log -/

/-- A local time, to the millisecond. -/
structure LocalTime where
  year : ℕ
  month : ℕ
  day : ℕ
  hour : ℕ
  minute : ℕ
  second : ℕ
  millisecond : ℕ

/-- A number with leading zeros. -/
def zeroPadded (width n : ℕ) : List Char :=
  List.replicate (width - (Nat.toDigits 10 n).length) '0' ++ Nat.toDigits 10 n

/-- `%(asctime)s`. -/
def LocalTime.asctime (time : LocalTime) : List Char :=
  Nat.toDigits 10 time.year ++ '-' :: (zeroPadded 2 time.month ++ '-' :: (zeroPadded 2 time.day ++
    ' ' :: (zeroPadded 2 time.hour ++ ':' :: (zeroPadded 2 time.minute ++
      ':' :: (zeroPadded 2 time.second ++ ',' :: zeroPadded 3 time.millisecond)))))

/-- A call of the logger, with the two texts of its time. -/
structure LogCall where
  record : EndpointRecord Binary64
  created : String
  localTime : LocalTime

namespace LogCall

/-- The line of `logging.Formatter("%(asctime)s %(levelname)s %(message)s")`. -/
def text (call : LogCall) : List Char :=
  call.localTime.asctime ++
    ' ' :: (call.record.levelname.toList ++ ' ' :: call.record.message.toList)

/-- The line of the formatter that `configure_logging` has chosen. -/
def line (repr : FloatRepr) (describe : PyError → String × String) (config : LoadedConfig)
    (call : LogCall) : Except PyError (List Char) :=
  if config.jsonLogs then
    (call.record.toLogRecord config.toEndpointConfig describe call.created).format repr
  else .ok call.text

end LogCall

/-- What `StreamHandler` writes for the calls of the logger. -/
def logStream (repr : FloatRepr) (describe : PyError → String × String) (config : LoadedConfig)
    (calls : List LogCall) : Except PyError Bytes := do
  let lines ← calls.mapM (LogCall.line repr describe config)
  encodeLines lines

/-- The JSON log tells the state of the last record. -/
theorem lastState?_of_calls {options : EndpointConfig Binary64}
    {describe : PyError → String × String} (calls : List LogCall) :
    LogRecord.lastState? (calls.map fun call =>
        call.record.toLogRecord options describe call.created)
      = ((calls.map LogCall.record).getLast?).map EndpointRecord.state := by
  have hstates : (calls.map fun call =>
      call.record.toLogRecord options describe call.created).filterMap LogRecord.state?
        = (calls.map LogCall.record).map EndpointRecord.state := by
    rw [List.filterMap_map, List.map_map, ← List.filterMap_eq_map]
    refine List.filterMap_congr fun call _ => ?_
    exact EndpointRecord.state?_toLogRecord call.created call.record
  rw [LogRecord.lastState?, hstates, List.getLast?_map]

/-- A JSON log is the stream of its records. -/
theorem logStream_json {repr : FloatRepr} {describe : PyError → String × String}
    {config : LoadedConfig} (hjson : config.jsonLogs = true) (calls : List LogCall) :
    logStream repr describe config calls = LogRecord.stream repr (calls.map fun call =>
      call.record.toLogRecord config.toEndpointConfig describe call.created) := by
  rw [logStream, LogRecord.stream, List.mapM_map]
  congr 2
  funext call
  exact if_pos hjson

/-! ## The window -/

/-- The state of the window says what the endpoint does. -/
def EndpointState.Describes {τ : Type} (state : EndpointState) : ProcessEffect τ → Prop
  | .session e =>
      (∃ sessionId, e.isTunnel sessionId = true) ∧ state = .connected ∨
        e.isHandshake = true ∧ (state = .connecting ∨ state = .reconnecting)
  | .opened _ | .lost _ | .command _ | .log (.sessionEstablished _ _ _ _) =>
      state = .connecting ∨ state = .reconnecting
  | .closed _ | .log (.reconnectScheduled _ _ _) | .log .endpointStopped => state ≠ .disconnected
  | .sleep _ => state = .reconnecting

/-- The state before a session. -/
theorem state_of_idle {τ : Type} {record : Option (EndpointRecord τ)} (h : Idle record) :
    (record.map EndpointRecord.state).getD .connecting = .connecting ∨
      (record.map EndpointRecord.state).getD .connecting = .reconnecting := by
  rcases h with rfl | ⟨_, _, _, rfl⟩
  · exact Or.inl rfl
  · exact Or.inr rfl

/-- The state before the stop. -/
theorem state_of_live {τ : Type} {record : Option (EndpointRecord τ)}
    (h : record ≠ some .endpointStopped) :
    (record.map EndpointRecord.state).getD .connecting ≠ .disconnected := by
  cases record with
  | none => exact EndpointState.noConfusion
  | some record =>
    cases record with
    | endpointStopped => exact absurd rfl h
    | _ => exact EndpointState.noConfusion

/-- The last record describes what comes next. -/
theorem describes_of_fits {τ : Type} {options : EndpointConfig τ} {done : List (ProcessEffect τ)}
    {next : ProcessEffect τ} (h : next.Fits options done) : EndpointState.Describes
      (((lastRecord? done).map EndpointRecord.state).getD .connecting) next := by
  obtain ⟨hsleep, hfits⟩ := h
  cases next with
  | opened d => exact state_of_idle hfits
  | lost d => exact state_of_idle hfits
  | command arguments => exact state_of_idle hfits
  | closed d => exact state_of_live hfits
  | effect e =>
  cases e with
  | session e =>
    simp only at hfits
    cases hlast : lastRecord? done with
    | none =>
      rw [hlast] at hfits
      exact Or.inr ⟨hfits, Or.inl rfl⟩
    | some record =>
      rw [hlast] at hfits
      cases record with
      | sessionEstablished tunName localAddress sessionId encrypted =>
        exact Or.inl ⟨⟨sessionId, hfits⟩, rfl⟩
      | reconnectScheduled attempt delaySeconds error => exact Or.inr ⟨hfits, Or.inr rfl⟩
      | endpointStopped => cases hfits
  | log record =>
    cases record with
    | sessionEstablished tunName localAddress sessionId encrypted => exact state_of_idle hfits.1
    | reconnectScheduled attempt delaySeconds error => exact state_of_live hfits.2.2
    | endpointStopped => exact state_of_live hfits
  | sleep seconds =>
    -- a sleep comes right after the record that announces it
    have hlast : ∃ attempt error,
        done.getLast? = some (.log (.reconnectScheduled attempt seconds error)) := by
      rw [dueSleep?] at hsleep
      split at hsleep
      · rename_i heq
        rw [heq, ← Option.some.inj hsleep]
        exact ⟨_, _, rfl⟩
      · cases hsleep
    obtain ⟨attempt, error, hlast⟩ := hlast
    obtain ⟨before, rfl⟩ := List.getLast?_eq_some_iff.1 hlast
    rw [lastRecord?, recordsOf_append]
    show ((recordsOf before ++ [_]).getLast?.map EndpointRecord.state).getD _ = _
    rw [List.getLast?_concat]
    rfl

/-- **The window shows what the endpoint does.**  The user starts the endpoint of a profile with
`json_logs`, which has done something and is about to do more; while it runs, writes nothing else
and nobody stops it, the window has read what it has logged until now, in chunks of any size.
Then the state of the window describes what comes next: packets of the tunnel and writes to the
TUN device come while it shows `connected`; the TUN device is opened and configured, and hellos
and sleeps come, while it does not. -/
theorem window_shows_endpoint (P : Primitives) (files : KeyFiles) (config : LoadedConfig)
    (inputs : List (LoggedInput Binary64)) (done rest : List (ProcessEffect Binary64))
    (next : ProcessEffect Binary64) (repr : FloatRepr) (describe : PyError → String × String)
    (calls : List LogCall) (bytes : Bytes) (env : GuiEnvironment) (before life : List GuiEvent)
    (guiFiles : GuiFiles) (profile : PosixPath) (idle desktop : Desktop) (u t : List GuiEffect)
    (hdone : (Logged.main P config.toEndpointConfig files inputs ()).trace = done ++ next :: rest)
    (hjson : config.jsonLogs = true) (hcalls : calls.map LogCall.record = recordsOf done)
    (hstream : logStream repr describe config calls = .ok bytes)
    (hlimits : ∀ call ∈ calls, ∀ line, call.line repr describe config = .ok line →
      WithinLimits env line)
    (hidle : Desktop.run env .new before = some (idle, u))
    (hprocess : idle.controller.process = .notRunning)
    (hload : loadProfile guiFiles profile = .ok config)
    (hlife : ∀ e ∈ life, e.keepsToLog = true ∧ e.isStop = false)
    (hread : (chunks .standardError life).flatten = bytes)
    (h : Desktop.run env idle (.start guiFiles profile :: life) = some (desktop, t)) :
    desktop.controller.state.Describes next := by
  rw [logStream_json hjson] at hstream
  obtain ⟨lines, hlines, hnewline, hencode⟩ := LogRecord.stream_eq_ok hstream
  obtain ⟨hwhole, hall⟩ := whole_pieces hencode hnewline (by rw [hread])
  rw [hall hread, List.take_length] at hwhole
  have hlimits' : ∀ line ∈ lines, WithinLimits env line := by
    intro line hline
    obtain ⟨record, hrecord, hformat⟩ := exists_of_mem_forall₂ hlines.flip hline
    obtain ⟨call, hcall, rfl⟩ := List.mem_map.1 hrecord
    exact hlimits call hcall line ((if_pos hjson).trans hformat)
  obtain ⟨-, hstate, herror⟩ := LogRecord.lines_spec hlimits' hlines
  obtain ⟨-, hshown⟩ :=
    started_run hidle hprocess hload (fun e he => (hlife e he).1) hwhole herror h
  rw [hshown fun e he => (hlife e he).2, hstate, lastState?_of_calls, hcalls]
  exact describes_of_fits ((Logged.main_tells P config.toEndpointConfig files inputs).1 done next
    rest hdone)

/-! ## A log that is no JSON -/

/-- Digits are in a line by themselves. -/
theorem newline_not_mem_toDigits (n : ℕ) : '\n' ∉ Nat.toDigits 10 n := fun h =>
  absurd (isDigit_of_mem_toDigits h).1 (by decide)

theorem newline_not_mem_zeroPadded (width n : ℕ) : '\n' ∉ zeroPadded width n := by
  rw [zeroPadded, List.mem_append, not_or]
  refine ⟨fun h => ?_, newline_not_mem_toDigits n⟩
  exact absurd (List.eq_of_mem_replicate h) (by decide)

/-- A time has no end of a line. -/
theorem LocalTime.newline_not_mem (time : LocalTime) : '\n' ∉ time.asctime := by
  simp only [asctime, List.mem_append, List.mem_cons, newline_not_mem_toDigits,
    newline_not_mem_zeroPadded, or_false, false_or]
  decide

/-- A time starts with a digit and has colons in it. -/
theorem LocalTime.exists_asctime (time : LocalTime) : ∃ first rest,
    time.asctime = first :: rest ∧ isDigit first = true ∧ ':' ∈ rest := by
  cases hyear : Nat.toDigits 10 time.year with
  | nil => exact absurd hyear Nat.toDigits_ne_nil
  | cons first digits =>
    have hfirst : isDigit first = true :=
      List.all_eq_true.1 (all_isDigit_toDigits _) first (hyear ▸ List.mem_cons_self)
    rw [asctime, hyear]
    exact ⟨first, _, rfl, hfirst, by simp⟩

namespace LogCall

/-- A text line starts with a digit, has colons in it and ends with a letter. -/
theorem text_spec (call : LogCall) : ∃ first inner last,
    call.text = first :: (inner ++ [last]) ∧ isDigit first = true ∧ ':' ∈ inner ∧
      isUnicodeSpace last = false := by
  obtain ⟨init, last, hmessage, hlast⟩ : ∃ init last,
      call.record.message.toList = init ++ [last] ∧ isUnicodeSpace last = false := by
    rcases call.record.message_eq with h | h | h <;> rw [h]
    · exact ⟨"VPN session establishe".toList, 'd', by decide, by decide⟩
    · exact ⟨"VPN session failed; reconnectin".toList, 'g', by decide, by decide⟩
    · exact ⟨"VPN endpoint stoppe".toList, 'd', by decide, by decide⟩
  obtain ⟨first, rest, htime, hfirst, hcolon⟩ := call.localTime.exists_asctime
  refine ⟨first, rest ++ ' ' :: (call.record.levelname.toList ++ ' ' :: init), last, ?_, hfirst,
    List.mem_append_left _ hcolon, hlast⟩
  rw [text, htime, hmessage]
  simp only [List.append_assoc, List.cons_append]

theorem newline_not_mem_text (call : LogCall) : '\n' ∉ call.text := by
  have hlevel : '\n' ∉ call.record.levelname.toList := by
    rcases call.record.levelname_eq with h | h <;> rw [h] <;> decide
  have hmessage : '\n' ∉ call.record.message.toList := by
    rcases call.record.message_eq with h | h | h <;> rw [h] <;> decide
  simp only [text, List.mem_append, List.mem_cons, call.localTime.newline_not_mem, hlevel, hmessage,
    or_false, false_or]
  decide

/-- **A text line** is no event, and tells no state. -/
theorem text_ignored {env : GuiEnvironment} (call : LogCall)
    (hlimits : WithinLimits env call.text) : lineEvent? env call.text = none ∧
      lineState? env call.text = none ∧ lineError? env call.text = none := by
  obtain ⟨first, inner, last, htext, hfirst, hcolon, hlast⟩ := call.text_spec
  have hrange := isDigit_iff.1 hfirst
  have hspace : isUnicodeSpace first = false := by
    rw [isUnicodeSpace, not_isNumberSpace_of_token (by rw [isTokenCharacter, hfirst]; rfl),
      Bool.false_or, Bool.and_eq_false_iff, decide_eq_false_iff_not, decide_eq_false_iff_not]
    omega
  have hdecode : jsonLoads (String.ofList (first :: (inner ++ [last]))) = none := by
    rw [jsonLoads, String.toList_ofList, decode_eq_none_of_mem ?_
      (List.mem_append_left _ hcolon) (by decide) (by decide)]
    · rfl
    · rw [isTokenCharacter, hfirst]
      rfl
  obtain ⟨message, hloads⟩ := hlimits.refuses (by rw [htext, hdecode])
  rw [htext] at hloads
  rw [lineEvent?, lineState?, lineError?, htext, pyStrip_of_ends hspace hlast,
    if_neg (List.cons_ne_nil _ _), if_neg (List.cons_ne_nil _ _), if_neg (List.cons_ne_nil _ _),
    hloads]
  exact ⟨rfl, rfl, rfl⟩

end LogCall

/-- A log without JSON is the text lines. -/
theorem mapM_line_text {repr : FloatRepr} {describe : PyError → String × String}
    {config : LoadedConfig} (hjson : config.jsonLogs = false) (calls : List LogCall) :
    calls.mapM (LogCall.line repr describe config) = .ok (calls.map LogCall.text) := by
  rw [mapM_eq_ok_iff, List.forall₂_map_right_iff, List.forall₂_same]
  intro call _
  exact if_neg (by rw [hjson]; exact Bool.false_ne_true)

/-- **A log that is no JSON leaves the window connecting.**  Without `json_logs` the window is told
no event, whatever the endpoint logs and however much of it has been read, while it runs and writes
nothing else; until the user stops the endpoint it shows `connecting`. -/
theorem window_ignores_text_log (config : LoadedConfig) (repr : FloatRepr)
    (describe : PyError → String × String) (calls : List LogCall) (bytes : Bytes)
    (env : GuiEnvironment) (before life : List GuiEvent) (files : GuiFiles) (profile : PosixPath)
    (idle desktop : Desktop) (u t : List GuiEffect) (hjson : config.jsonLogs = false)
    (hstream : logStream repr describe config calls = .ok bytes)
    (hlimits : ∀ call ∈ calls, ∀ line, call.line repr describe config = .ok line →
      WithinLimits env line)
    (hidle : Desktop.run env .new before = some (idle, u))
    (hprocess : idle.controller.process = .notRunning)
    (hload : loadProfile files profile = .ok config)
    (hlife : ∀ e ∈ life, e.keepsToLog = true)
    (hread : (chunks .standardError life).flatten <+: bytes)
    (h : Desktop.run env idle (.start files profile :: life) = some (desktop, t)) :
    eventsReceived t = [] ∧
      ((∀ e ∈ life, e.isStop = false) → desktop.controller.state = .connecting) := by
  rw [logStream, mapM_line_text hjson] at hstream
  have hnewline : ∀ line ∈ calls.map LogCall.text, '\n' ∉ line := by
    intro line hline
    obtain ⟨call, -, rfl⟩ := List.mem_map.1 hline
    exact call.newline_not_mem_text
  obtain ⟨hwhole, -⟩ := whole_pieces hstream hnewline hread
  have hignored : ∀ call ∈ calls.take ((chunks .standardError life).flatten.count 10),
      lineEvent? env call.text = none ∧ lineState? env call.text = none ∧
        lineError? env call.text = none := by
    intro call hcall
    refine call.text_ignored (hlimits call (List.mem_of_mem_take hcall) call.text (if_neg ?_))
    rw [hjson]
    exact Bool.false_ne_true
  rw [← List.map_take] at hwhole
  have herror : linesError? env
      ((calls.take ((chunks .standardError life).flatten.count 10)).map LogCall.text) = none := by
    rw [FirstFailure.failure_eq_none_iff, List.forall_mem_map]
    exact fun call hcall => (hignored call hcall).2.2
  obtain ⟨hreceived, hshown⟩ := started_run hidle hprocess hload hlife hwhole herror h
  constructor
  · rw [hreceived, List.filterMap_map, List.filterMap_eq_nil_iff]
    exact fun call hcall => (hignored call hcall).1
  · intro hstop
    have hnone : lastState? env ((calls.take ((chunks .standardError life).flatten.count 10)).map
        LogCall.text) = none := by
      rw [lastState?, List.filterMap_map, List.getLast?_eq_none_iff, List.filterMap_eq_nil_iff]
      exact fun call hcall => (hignored call hcall).2.1
    rw [hshown hstop, hnone]
    rfl

/-! ## A sample window -/

/-- The profile of a plain endpoint, with a JSON log or without one. -/
def windowFiles (jsonLogs : Bool) : GuiFiles := { plainFiles with
  documents := fun _ => .ok (.object [("tun_address", .string "10.0.0.1/30"),
    ("bind", .string "192.0.2.1:51820"), ("peer", .string "192.0.2.2:51820"),
    ("json_logs", .bool jsonLogs)]) }

/-- The path of the profile. -/
def windowProfile : PosixPath := .ofText "client.json".toList

theorem isSome_windowProfile (jsonLogs : Bool) :
    (loadProfile (windowFiles jsonLogs) windowProfile).toOption.isSome := by
  cases jsonLogs <;> decide +kernel

/-- The configuration of the profile. -/
def windowConfig (jsonLogs : Bool) : LoadedConfig :=
  (loadProfile (windowFiles jsonLogs) windowProfile).toOption.get (isSome_windowProfile jsonLogs)

/-- A session in which nothing arrives. -/
def windowInput : LoggedInput Binary64 where
  udp := ⟨none, fun _ => none, fun _ => none, none⟩
  entropy := sampleClientEntropy
  attempt _ := ⟨none, .error (.timeoutError "timed out"), sampleServerEntropy⟩
  tun := ⟨none, .ok [109, 118, 112, 110, 48, 0], none⟩
  ipAddress := none
  ipLink := none
  startClock := 0
  iterations := [⟨0, none, none, none, 0, fun _ => .ok 0, 0, none⟩]
  localAddress := ⟨.ofOctets 192 0 2 1, 51820⟩
  sleepFailure := none

/-- What the endpoint has done before it waits for packets. -/
def windowDone : List (ProcessEffect Binary64) :=
  .opened .socket :: (configured (windowConfig true).toEndpointConfig "mvpn0" ++
    [.log (.sessionEstablished "mvpn0" ⟨.ofOctets 192 0 2 1, 51820⟩ 1 false)])

/-- What the endpoint has logged. -/
def windowCall : LogCall :=
  ⟨.sessionEstablished "mvpn0" ⟨.ofOctets 192 0 2 1, 51820⟩ 1 false, "2026-01-01T00:00:00+00:00",
    ⟨2026, 1, 1, 0, 0, 0, 0⟩⟩

/-- Its log can be written. -/
theorem exists_windowBytes (jsonLogs : Bool) : ∃ bytes,
    logStream plainRepr (fun _ => ("", "")) (windowConfig jsonLogs) [windowCall] = .ok bytes := by
  cases jsonLogs with
  | true =>
    rw [logStream_json (by decide +kernel)]
    exact LogRecord.exists_stream plainRepr (by decide +kernel)
  | false =>
    rw [logStream, mapM_line_text (by decide +kernel)]
    exact ⟨_, eq_ok_get (by decide +kernel)⟩

/-- The window reads the log. -/
theorem exists_windowRun (jsonLogs : Bool) (bytes : Bytes) : ∃ desktop t,
    Desktop.run readingEnvironment .new
      (.start (windowFiles jsonLogs) windowProfile :: reading [bytes]) = some (desktop, t) :=
  exists_reading (fun _ => lineError?_of_withinLimits (withinLimits_readingEnvironment _)) rfl rfl
    (eq_ok_get (isSome_windowProfile jsonLogs)) [bytes]

/-- The endpoint waits for packets while the window shows that the session is up. -/
theorem window_shows_endpoint_sample : ∃ bytes desktop t,
    Desktop.run readingEnvironment .new (.start (windowFiles true) windowProfile :: reading [bytes])
        = some (desktop, t) ∧
      desktop.controller.state.Describes
        (.session (.effect (.select none)) : ProcessEffect Binary64) := by
  obtain ⟨bytes, hstream⟩ := exists_windowBytes true
  obtain ⟨desktop, t, hrun⟩ := exists_windowRun true bytes
  refine ⟨bytes, desktop, t, hrun, ?_⟩
  refine window_shows_endpoint sample (fun _ => none) (windowConfig true) [windowInput]
    windowDone [.closed .tunDevice, .closed .socket] _ plainRepr (fun _ => ("", "")) [windowCall]
    bytes readingEnvironment [] (reading [bytes]) (windowFiles true) windowProfile .new desktop [] t
    ?_ ?_ rfl hstream (fun _ _ line _ => withinLimits_readingEnvironment line) rfl rfl (eq_ok_get _)
    (keepsToLog_reading _) ?_ hrun
  · decide +kernel
  · decide +kernel
  · rw [chunks_reading, List.flatten_singleton]

/-- The same endpoint without a JSON log. -/
theorem window_ignores_text_log_sample : ∃ bytes desktop t,
    Desktop.run readingEnvironment .new
        (.start (windowFiles false) windowProfile :: reading [bytes]) = some (desktop, t) ∧
      desktop.controller.state = .connecting := by
  obtain ⟨bytes, hstream⟩ := exists_windowBytes false
  obtain ⟨desktop, t, hrun⟩ := exists_windowRun false bytes
  refine ⟨bytes, desktop, t, hrun, ?_⟩
  exact (window_ignores_text_log (windowConfig false) plainRepr (fun _ => ("", "")) [windowCall]
    bytes readingEnvironment [] (reading [bytes]) (windowFiles false) windowProfile .new desktop []
    t (by decide +kernel) hstream (fun _ _ line _ => withinLimits_readingEnvironment line) rfl rfl
    (eq_ok_get _) (fun e he => (keepsToLog_reading _ e he).1)
    (by rw [chunks_reading, List.flatten_singleton]) hrun).2
    fun e he => (keepsToLog_reading _ e he).2

end MatfVpn
