import CryoDaq.Alarms.Manager
import CryoDaq.Python.Json

/-!
# The canonical snapshot of the active alarms

`snapshotActiveCanonical` builds the bounded mapping that crosses the transport
and its token.  Whatever the closed schema cannot represent makes the snapshot
unavailable (`none`).
-/

namespace CryoDaq
namespace Alarms

def snapshotMaxActive : ℕ := 128
def snapshotMaxChannels : ℕ := 64
def snapshotMaxText : ℕ := 256
def snapshotMaxCanonicalBytes : ℕ := 60 * 1024
def alarmLevels : List String := ["INFO", "WARNING", "CRITICAL"]

structure SnapshotEntry where
  level : String
  triggeredAt : Float
  channels : List String
  acknowledged : Bool
  acknowledgedAt : Option Float
deriving DecidableEq

structure AlarmCanonicalSnapshot where
  stateRevision : ℕ
  active : List (String × SnapshotEntry)
  stateToken : String
deriving DecidableEq

/-- `_validate_snapshot_text` -/
def validSnapshotText (value : String) : Bool :=
  value ≠ "" && value.length ≤ snapshotMaxText &&
    value.utf8ByteSize ≤ snapshotMaxText &&
    value.toList.all fun c => 32 ≤ c.toNat && c.toNat ≠ 127

/-- `_validate_snapshot_number` -/
def validSnapshotNumber (value : Float) : Bool :=
  value.isFinite && !decide (value < 0.0)

/-- `sorted(set(channels))` -/
def sortedChannels (channels : List String) : List String :=
  channels.dedup.insertionSort fun a b => a ≤ b

def snapshotEntry (alarmId : String) (event : Event) : Option SnapshotEntry :=
  if validSnapshotText alarmId && event.alarmId = alarmId &&
      event.level ∈ alarmLevels && validSnapshotNumber event.triggeredAt &&
      event.channels.length ≤ snapshotMaxChannels &&
      event.channels.all validSnapshotText &&
      (!event.acknowledged || validSnapshotNumber event.acknowledgedAt) then
    some
      { level := event.level
        triggeredAt := event.triggeredAt
        channels := sortedChannels event.channels
        acknowledged := event.acknowledged
        acknowledgedAt := if event.acknowledged then some event.acknowledgedAt else none }
  else none

def SnapshotEntry.json (e : SnapshotEntry) : Json :=
  .obj
    [("level", .str e.level), ("triggered_at", .float e.triggeredAt),
      ("channels", .arr (e.channels.map Json.str)),
      ("acknowledged", .bool e.acknowledged),
      ("acknowledged_at", e.acknowledgedAt.elim .null Json.float)]

/-- The active alarms in the order of their ids. -/
def snapshotActive (active : Dict String Event) :
    Option (List (String × SnapshotEntry)) :=
  (Json.sortFields active.entries).mapM fun p =>
    (snapshotEntry p.1 p.2).map fun entry => (p.1, entry)

/-- `snapshot_active_canonical`; `sha256` is the hexadecimal digest. -/
def AlarmStateManager.snapshotActiveCanonical (sha256 : ByteArray → String)
    (s : AlarmStateManager) : Option AlarmCanonicalSnapshot :=
  if s.active.entries.length > snapshotMaxActive then none
  else do
    let active ← snapshotActive s.active
    let text ← Json.dumps false (.obj (active.map fun p => (p.1, p.2.json)))
    let canonical := (String.ofList text).toUTF8
    guard (canonical.size ≤ snapshotMaxCanonicalBytes)
    some
      { stateRevision := s.stateRevision
        active
        stateToken := "sha256:" ++ sha256 canonical }

end Alarms
end CryoDaq
