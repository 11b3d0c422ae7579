import CryoDaq.Alarms.Snapshot
import CryoDaq.Periodic.Records

/-!
# The query for the active alarms

The reply that the engine encodes from a snapshot of its alarms and what the report process makes
of the bytes it receives.

**Visits.**  The client counts mappings, lists and items as it walks through the value; the server
counts values, and since whatever fails raises the same error, the order of its walk is left out.

**Digest.**  `sha256` is the hexadecimal digest of some bytes.
-/

namespace CryoDaq
namespace Periodic
namespace AlarmQuery

open Alarms (AlarmCanonicalSnapshot)

def periodicQueryMaxBytes : ℕ := 64 * 1024
def maxSnapshotResponseBytes : ℕ := 60 * 1024
def maxJsonDepth : ℕ := 8
def maxJsonMappings : ℕ := 512
def maxJsonLists : ℕ := 256
def maxJsonItems : ℕ := 16384
def maxSequence : ℕ := 2 ^ 63 - 1
def protocolVersion : ℤ := 2
def periodicQuerySchema : String := "cryodaq.periodic.query/v1"

def maxCommandReplySize : ℕ := 4 * 1024 * 1024
def commandReplyMaxJsonDepth : ℕ := 32
def commandReplyHistoryMaxRows : ℕ := 80305
def commandReplyMaxJsonItems : ℕ := 4 * commandReplyHistoryMaxRows + 64
def commandReplyMaxJsonKeyChars : ℕ := 256
def commandReplyMaxIntegerDigits : ℕ := 128

mutual
/-- The values that a walk meets, the value itself included. -/
def valueCount : Json → ℕ
  | .arr items => itemsCount items + 1
  | .obj fields => fieldsCount fields + 1
  | _ => 1

def itemsCount : List Json → ℕ
  | [] => 0
  | v :: rest => valueCount v + itemsCount rest

def fieldsCount : List (String × Json) → ℕ
  | [] => 0
  | p :: rest => valueCount p.2 + fieldsCount rest
end

mutual
/-- What the walk asks of a value at a depth. -/
def replyValue : ℕ → Json → Bool
  | depth, .arr items => decide (depth ≤ commandReplyMaxJsonDepth) && replyItems (depth + 1) items
  | depth, .obj fields =>
      decide (depth ≤ commandReplyMaxJsonDepth) && replyFields (depth + 1) fields
  | depth, .str s =>
      decide (depth ≤ commandReplyMaxJsonDepth) && decide (s.utf8ByteSize ≤ maxCommandReplySize)
  | depth, .int n =>
      decide (depth ≤ commandReplyMaxJsonDepth) &&
        decide (n.natAbs.repr.length ≤ commandReplyMaxIntegerDigits)
  | depth, .float x => decide (depth ≤ commandReplyMaxJsonDepth) && x.isFinite
  | depth, _ => decide (depth ≤ commandReplyMaxJsonDepth)

def replyItems : ℕ → List Json → Bool
  | _, [] => true
  | depth, v :: rest => replyValue depth v && replyItems depth rest

def replyFields : ℕ → List (String × Json) → Bool
  | _, [] => true
  | depth, p :: rest =>
      decide (p.1.length ≤ commandReplyMaxJsonKeyChars) && replyValue depth p.2 &&
        replyFields depth rest
end

/-- The points of a channel, when they have the shape of a history. -/
def historyPoints : Json → Option ℕ
  | .arr points =>
      if points.all fun
        | .arr [_, _] => true
        | _ => false
      then some points.length else none
  | _ => none

/-- `_validate_history_row_bound` -/
def historyRowBound (envelope : List (String × Json)) : Bool :=
  match envelope.lookup "data" with
  | some (.obj data) =>
      match data.mapM fun p => historyPoints p.2 with
      | some counts => decide (counts.foldl (· + ·) 0 ≤ commandReplyHistoryMaxRows)
      | none => true
  | _ => true

def validateCommandReplyStructure (envelope : List (String × Json)) : Bool :=
  historyRowBound envelope &&
    decide (valueCount (.obj envelope) ≤ commandReplyMaxJsonItems) &&
    replyValue 1 (.obj envelope)

/-- The UTF-8 text of `json.dumps` with sorted keys. -/
def jsonBytes (v : Json) : Option ByteArray :=
  (Json.dumps false v).map fun text => (String.ofList text).toUTF8

/-- `{**reply, "proto": PROTOCOL_VERSION}` -/
def envelope (reply : List (String × Json)) : List (String × Json) :=
  Json.insertField "proto" (.int protocolVersion) reply

/-- `encode_periodic_command_reply`; `none` where it raises. -/
def encodePeriodicCommandReply (reply : List (String × Json)) : Option ByteArray :=
  if validateCommandReplyStructure (envelope reply) then
    (jsonBytes (.obj (envelope reply))).bind fun wire =>
      if maxCommandReplySize < wire.size then none else some wire
  else none

/-- The active alarms of a snapshot as they are encoded. -/
def activeJson (snapshot : AlarmCanonicalSnapshot) : Json :=
  .obj (snapshot.active.map fun p => (p.1, p.2.json))

/-- The reply of `_periodic_snapshot_response`. -/
def snapshotReply (snapshot : AlarmCanonicalSnapshot) : List (String × Json) :=
  [("ok", .bool true), ("schema", .str periodicQuerySchema),
    ("state_revision", .int snapshot.stateRevision), ("state_token", .str snapshot.stateToken),
    ("active", activeJson snapshot)]

/-- The reply of `_periodic_query_failure`. -/
def failureReply (errorCode : String) : List (String × Json) :=
  [("ok", .bool false), ("schema", .str periodicQuerySchema), ("error_code", .str errorCode)]

def periodicSnapshotResponse (sha256 : ByteArray → String) (s : Alarms.AlarmStateManager) :
    Option ByteArray :=
  match (s.snapshotActiveCanonical sha256).bind fun snapshot =>
      encodePeriodicCommandReply (snapshotReply snapshot) with
  | none => encodePeriodicCommandReply (failureReply "snapshot_unavailable")
  | some wire =>
      if 60 * 1024 < wire.size then
        encodePeriodicCommandReply (failureReply "snapshot_unavailable")
      else some wire

/-- `_reject_duplicate_pairs`, `_reject_nonfinite`, `_parse_finite_float` -/
def strictHooks : Json.Hooks where
  pairs := fun pairs => if (pairs.map Prod.fst).Nodup then some pairs else none
  constant := fun _ => none
  float := fun x => if x.isFinite then some (.float x) else none

/-- The counters of `_bounded_json`. -/
structure Counts where
  mappings : ℕ
  lists : ℕ
  items : ℕ

/-- The last check of `visit`. -/
def checkItems (c : Counts) : Option Counts :=
  if maxJsonItems < c.items then none else some c

mutual
def visit : Json → ℕ → Counts → Option Counts
  | .obj fields, depth, c =>
      if maxJsonDepth < depth ∨ maxJsonMappings < c.mappings + 1 then none
      else (visitFields fields (depth + 1)
        { c with mappings := c.mappings + 1, items := c.items + fields.length }).bind checkItems
  | .arr items, depth, c =>
      if maxJsonDepth < depth ∨ maxJsonLists < c.lists + 1 then none
      else (visitItems items (depth + 1)
        { c with lists := c.lists + 1, items := c.items + items.length }).bind checkItems
  | .str s, depth, c =>
      if maxJsonDepth < depth ∨ periodicQueryMaxBytes < s.utf8ByteSize then none else checkItems c
  | _, depth, c => if maxJsonDepth < depth then none else checkItems c

def visitItems : List Json → ℕ → Counts → Option Counts
  | [], _, c => some c
  | v :: rest, depth, c => (visit v depth c).bind fun c => visitItems rest depth c

def visitFields : List (String × Json) → ℕ → Counts → Option Counts
  | [], _, c => some c
  | p :: rest, depth, c =>
      if 256 < p.1.utf8ByteSize then none
      else (visit p.2 depth c).bind fun c => visitFields rest depth c
end

def asMapping : Json → Option (List (String × Json))
  | .obj fields => some fields
  | _ => none

def boundedJson (raw : ByteArray) : Option (List (String × Json)) :=
  if raw.size = 0 ∨ periodicQueryMaxBytes < raw.size then none
  else
    (String.fromUTF8? raw).bind fun text =>
      (Json.loads strictHooks text.toList).bind fun parsed =>
        (visit parsed 0 ⟨0, 0, 0⟩).bind fun _ => asMapping parsed

/-- `set(fields) == set(keys)` -/
def hasKeys (fields : List (String × Json)) (keys : List String) : Bool :=
  keys.all (fun k => decide (k ∈ fields.map Prod.fst)) &&
    (fields.map Prod.fst).all fun k => decide (k ∈ keys)

def text (value : String) (maximum : ℕ) : Bool :=
  decide (value ≠ "") && decide (value.utf8ByteSize ≤ maximum)

/-- An identifier: a text without control characters. -/
def identifier (value : String) : Bool :=
  text value 256 && value.toList.all fun c => 32 ≤ c.toNat && c.toNat ≠ 127

def finiteNumber (value : Json) : Bool :=
  let result : Option Float :=
    match value with
    | .int n => (Number.int n).toFloat.toOption
    | .float x => some x
    | _ => none
  result.any fun x => x.isFinite && !decide (x < 0.0)

/-- Every text comes after the one before. -/
def ascending : List String → Bool
  | a :: b :: rest => decide (a < b) && ascending (b :: rest)
  | _ => true

def channelName : Json → Option String
  | .str s => if identifier s then some s else none
  | _ => none

def validChannels : Json → Bool
  | .arr channels => decide (channels.length ≤ 64) && (channels.mapM channelName).any ascending
  | _ => false

def alarmKeys : List String :=
  ["level", "triggered_at", "channels", "acknowledged", "acknowledged_at"]

/-- `alarm["acknowledged"]` and `alarm["acknowledged_at"]` -/
def validAcknowledgement (acknowledged acknowledgedAt : Option Json) : Bool :=
  match acknowledged, acknowledgedAt with
  | some (.bool true), some time => finiteNumber time
  | some (.bool false), some .null => true
  | _, _ => false

/-- One alarm of `_validate_alarm_active`. -/
def validAlarm : Json → Bool
  | .obj alarm =>
      hasKeys alarm alarmKeys &&
        (match alarm.lookup "level" with
          | some (.str level) => decide (level ∈ ["INFO", "WARNING", "CRITICAL"])
          | _ => false) &&
        (alarm.lookup "triggered_at").any finiteNumber &&
        (alarm.lookup "channels").any validChannels &&
        validAcknowledgement (alarm.lookup "acknowledged") (alarm.lookup "acknowledged_at")
  | _ => false

def validateAlarmActive : Json → Bool
  | .obj active =>
      decide (active.length ≤ 128) && (active.map Prod.fst).all identifier &&
        ascending (active.map Prod.fst) && active.all fun p => validAlarm p.2
  | _ => false

/-- `AlarmQueryResult`; what is accepted has the active alarms in its payload. -/
inductive AlarmQueryResult
  | accepted (active : Json) (stateToken : String) (stateRevision : ℕ)
  | failed (errorCode : String)

/-- The checks of `alarm_snapshot` on a mapping; `none` where they raise. -/
def snapshotResult (sha256 : ByteArray → String) (response : List (String × Json)) :
    Option AlarmQueryResult :=
  match response.lookup "proto", response.lookup "schema", response.lookup "ok" with
  | some (.int proto), some (.str schema), some (.bool ok) =>
      if proto ≠ protocolVersion ∨ schema ≠ periodicQuerySchema then none
      else if ok = false then
        if hasKeys response ["ok", "proto", "schema", "error_code"] then
          match response.lookup "error_code" with
          | some (.str code) => if code = "snapshot_unavailable" then some (.failed code) else none
          | _ => none
        else none
      else if hasKeys response ["ok", "proto", "schema", "state_revision", "state_token", "active"]
      then
        match response.lookup "state_revision", response.lookup "state_token",
            response.lookup "active" with
        | some (.int revision), some (.str token), some active =>
            if 0 ≤ revision ∧ revision ≤ maxSequence ∧ text token 71 ∧ validateAlarmActive active
            then
              (jsonBytes active).bind fun canonical =>
                if hashText token ∧ token = "sha256:" ++ sha256 canonical then
                  some (.accepted active token revision.toNat)
                else none
            else none
        | _, _, _ => none
      else none
  | _, _, _ => none

/-- `alarm_snapshot` on the bytes of a response -/
def alarmSnapshot (sha256 : ByteArray → String) (raw : ByteArray) : AlarmQueryResult :=
  if maxSnapshotResponseBytes < raw.size then .failed "response_invalid"
  else ((boundedJson raw).bind (snapshotResult sha256)).getD (.failed "response_invalid")

end AlarmQuery
end Periodic
end CryoDaq
