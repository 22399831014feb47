/-
# The JSON log (`JsonFormatter` of `operations.py`)

A record of the log becomes one line: an object with the time, the level, the name of the
logger, the message and the attributes that the caller of the logger added.

* `format_spec` : the line has no control characters, and `json.loads` gives the object back.
-/
import MatfVpn.JsonValues

namespace MatfVpn

open JsonText

/-- `STANDARD_LOG_RECORD_FIELDS`. -/
def standardLogRecordFields : List String :=
  ["name", "msg", "args", "levelname", "levelno", "pathname", "filename", "module", "exc_info",
    "exc_text", "stack_info", "lineno", "funcName", "created", "msecs", "relativeCreated",
    "thread", "threadName", "processName", "process", "taskName"]

/-- What the formatter reads of a `logging.LogRecord`: `created` is the text of its time,
`extra` are the attributes that are no standard ones, and `exception` is the text of
`exc_info`.  `makeRecord` refuses the names of the other attributes. -/
structure LogRecord where
  created : String
  levelname : String
  name : String
  message : String
  extra : OrderedDict String Json
  extra_new : ∀ field ∈ extra.keys, field ∉ "message" :: "asctime" :: standardLogRecordFields
  exception : Option String

namespace LogRecord

/-- The fields that do not depend on the caller of the logger. -/
def base (record : LogRecord) : OrderedDict String Json :=
  (((OrderedDict.empty.insert "timestamp" (.string record.created)).insert
    "level" (.string record.levelname)).insert
    "logger" (.string record.name)).insert
    "message" (.string record.message)

/-- The loop over `record.__dict__`. -/
def addExtra (payload : OrderedDict String Json) (extra : List (String × Json)) :
    OrderedDict String Json :=
  extra.foldl (fun payload field =>
    if field.1 ∉ standardLogRecordFields ∧ field.1 ≠ "message" then
      payload.insert field.1 field.2
    else payload) payload

/-- The object of the record. -/
def payload (record : LogRecord) : OrderedDict String Json :=
  let payload := addExtra record.base record.extra.entries
  match record.exception with
  | some text => payload.insert "exception" (.string text)
  | none => payload

/-- `JsonFormatter.format`. -/
def format (repr : FloatRepr) (record : LogRecord) : Except PyError (List Char) :=
  jsonDumps repr (.object record.payload.entries)

/-! ## The fields -/

/-- Every attribute of the caller gets into the object. -/
theorem get?_addExtra {extra : List (String × Json)} (hnodup : (extra.map Prod.fst).Nodup)
    (hnew : ∀ field ∈ extra, field.1 ∉ "message" :: "asctime" :: standardLogRecordFields)
    (payload : OrderedDict String Json) (name : String) :
    (addExtra payload extra).get? name = (extra.lookup name).or (payload.get? name) := by
  induction extra generalizing payload with
  | nil => rfl
  | cons field extra ih =>
    obtain ⟨hfield, hextra⟩ := List.forall_mem_cons.1 hnew
    rw [List.map_cons, List.nodup_cons] at hnodup
    rw [List.mem_cons, List.mem_cons, not_or, not_or] at hfield
    rw [addExtra, List.foldl_cons, if_pos ⟨hfield.2.2, hfield.1⟩, ← addExtra,
      ih hnodup.2 hextra, OrderedDict.get?_insert, List.lookup_cons]
    by_cases hname : name = field.1
    · have hlookup : extra.lookup name = none := by
        rw [List.lookup_eq_none_iff]
        intro other hother
        rw [bne_iff_ne, hname]
        intro heq
        exact hnodup.1 (heq ▸ List.mem_map_of_mem hother)
      rw [if_pos hname, hlookup, hname, beq_self_eq_true]
      rfl
    · rw [if_neg hname, beq_eq_false_iff_ne.2 hname]

/-- **The fields of the object.** -/
theorem get?_payload (record : LogRecord) (name : String) :
    record.payload.get? name
      = (if name = "exception" then record.exception.map .string else none).or
        ((record.extra.get? name).or (record.base.get? name)) := by
  have hextra := get?_addExtra record.extra.nodup_keys (fun field hfield =>
    record.extra_new field.1 (List.mem_map_of_mem hfield)) record.base name
  unfold payload
  simp only
  cases record.exception with
  | none =>
    rw [hextra, Option.map_none, ite_self]
    rfl
  | some text =>
    simp only [OrderedDict.get?_insert, hextra]
    by_cases hname : name = "exception"
    · rw [if_pos hname, if_pos hname]
      rfl
    · rw [if_neg hname, if_neg hname]
      rfl

/-! ## The line -/

variable {repr : FloatRepr} {record : LogRecord} {line : List Char}

/-- The `dict` that `json.loads` returns for the line of the record. -/
def event (repr : FloatRepr) (record : LogRecord) : JsonObject :=
  (dictOf (sortFields (Json.rereadFields repr record.payload.entries))).entries

/-- **The line of a record**: printable ASCII, and an object with the fields of the record. -/
theorem format_spec (h : record.format repr = .ok line) :
    (∀ c ∈ line, IsPrintable c) ∧
      jsonLoads (String.ofList line) = some (.object (record.event repr)) ∧
      ∀ name, (record.event repr).lookup name
        = (record.payload.get? name).map (Json.reread repr) :=
  ⟨fun _ hc => isPrintable_of_jsonDumps h hc, jsonLoads_jsonDumps h,
    lookup_reread repr record.payload⟩

/-- The line is in braces. -/
theorem exists_format_eq (h : record.format repr = .ok line) :
    ∃ inner, line = '\x7b' :: (inner ++ ['\x7d']) := by
  rw [format, jsonDumps] at h
  split at h
  · obtain ⟨inner, hinner⟩ := exists_encodeFields_eq
      (sortFields (Json.toFields repr record.payload.entries))
    refine ⟨inner, ?_⟩
    rw [← hinner]
    exact (Except.ok.inj h).symm
  · cases h

end LogRecord

end MatfVpn
