import CryoDaq.Python.Dict
import CryoDaq.Python.Json
import CryoDaq.Python.Time

/-!
# Readings

A `Reading` is one measurement of one channel.  Its metadata is a dictionary of
JSON values; the lists and dictionaries inside compare their items as Python's
`==` does, numbers by value.
-/

namespace CryoDaq

namespace Json

/-- The number that a value is; `True` is one and `False` is zero. -/
def number? : Json → Option Number
  | bool b => some (.int (if b then 1 else 0))
  | int n => some (.int n)
  | float x => some (.float x)
  | _ => none

/-- Two items that are not containers.  The same float object equals itself. -/
def sameScalar : Json → Json → Bool
  | null, null => true
  | str a, str b => a == b
  | float x, float y => decide (x = y) || x == y
  | a, b =>
      match a.number?, b.number? with
      | some m, some n => m.eq n
      | _, _ => false

mutual
/-- `a == b` for items of a container. -/
def same : Json → Json → Bool
  | arr xs, arr ys => sameItems xs ys
  | obj xs, obj ys => xs.length == ys.length && sameFields xs ys
  | a, b => sameScalar a b

def sameItems : List Json → List Json → Bool
  | [], [] => true
  | x :: xs, y :: ys => same x y && sameItems xs ys
  | _, _ => false

def sameFields : List (String × Json) → List (String × Json) → Bool
  | [], _ => true
  | p :: xs, ys => (match ys.lookup p.1 with
    | some y => same p.2 y
    | none => false) && sameFields xs ys
end

end Json

namespace Acquisition

inductive ChannelStatus
  | ok
  | overrange
  | underrange
  | sensorError
  | timeout
deriving DecidableEq, Repr

/-- `dict[str, Any]` -/
abbrev Metadata := Dict String Json

structure Reading where
  timestamp : Timestamp
  instrumentId : String
  channel : String
  value : Float
  unit : String
  status : ChannelStatus := .ok
  raw : Option Float := none
  metadata : Metadata := .empty

/-- `left == right`, or both are NaN. -/
def sameNumber (left right : Float) : Bool := left == right || (left.isNaN && right.isNaN)

/-- `same_number` on numbers that may be absent. -/
def sameOptional : Option Float → Option Float → Bool
  | none, none => true
  | some x, some y => sameNumber x y
  | _, _ => false

/-- `_receipt_reading_matches`: the channel is not compared. -/
def receiptReadingMatches (committed admitted : Reading) : Bool :=
  committed.timestamp == admitted.timestamp &&
  committed.instrumentId == admitted.instrumentId &&
  sameNumber committed.value admitted.value &&
  committed.unit == admitted.unit &&
  committed.status == admitted.status &&
  sameOptional committed.raw admitted.raw &&
  Json.same (.obj committed.metadata.entries) (.obj admitted.metadata.entries)

end Acquisition
end CryoDaq
