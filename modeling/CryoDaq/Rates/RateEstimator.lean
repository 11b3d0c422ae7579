import CryoDaq.Python.Dict
import CryoDaq.Python.FloatUnits
import Mathlib.Data.List.Sort

/-!
# The rate estimator

The estimator keeps for each channel the samples of a time window and computes
the slope of their regression line.

**Clock jumps.**  A sample that lies a little back is dropped; one that lies far
back, the fifth dropped sample in a row, and one that comes long after its
predecessor reset the buffer and begin a new one.

**Refill.**  After a reset the buffer is too short for a slope.  Where the reset
was a forward gap the last computed rate is served meanwhile.

Times are finite floats and are computed with as such; values and rates may be
anything.
-/

namespace CryoDaq
namespace Rates

open Binary64

variable {V : Type}

structure Instant where
  seconds : Float
  finite : seconds.isFinite = true := by decide
deriving DecidableEq

/-- The settings of an estimator; `int(window_s * 20)` raises where the product is
not finite. -/
structure Settings where
  windowS : Float := 120
  minPoints : ℕ := 60
  minSpanS : Option Float := none
  clockJumpPollFactor : Float := 4
  driftResetCount : ℕ := 5
  finite : (windowS * 20).isFinite = true := by decide

/-- `int(x)` of a finite float. -/
def truncate (x : Float) : ℤ := (units x).tdiv (2 ^ 1074)

def Settings.maxlen (s : Settings) : ℕ := (max 500 (truncate (s.windowS * 20) + 100)).toNat

/-- What makes the estimator begin a new buffer. -/
inductive Reset
  | forward
  | backward
  | drift
deriving DecidableEq

/-- What is kept for one channel.  `refilling` is no part of the program: it says
since which reset the buffer has not been long enough. -/
structure Track (V : Type) where
  buffer : List (Instant × V) := []
  consecDrops : ℕ := 0
  lastRate : Option V := none
  serveStale : Bool := false
  refilling : Option Reset := none
deriving DecidableEq

inductive Decision
  | ok
  | drop
  | reset
deriving DecidableEq

def gaps (buffer : List (Instant × V)) : List Float :=
  List.zipWith (fun earlier later => later.1.seconds - earlier.1.seconds) buffer buffer.tail

def median (data : List Float) : Float :=
  let sorted := data.insertionSort (· ≤ ·)
  let n := sorted.length
  if n % 2 = 1 then sorted.getD (n / 2) 0
  else (sorted.getD (n / 2 - 1) 0 + sorted.getD (n / 2) 0) / 2

variable (s : Settings)

/-- `_clock_jump_decision`; `last` is the time of the last sample. -/
def clockJumpDecision (buffer : List (Instant × V)) (last timestamp : Instant) : Decision :=
  let gap := timestamp.seconds - last.seconds
  let period := if buffer.length ≥ 2 then median (gaps buffer) else 0
  if gap ≥ 0 then
    if period > 0 ∧ gap > s.clockJumpPollFactor * period then .reset else .ok
  else
    let tolerance := if 0.5 * period > 1 then 0.5 * period else 1
    if -gap ≤ tolerance then .drop else .reset

/-- Whether the buffer is too short for a rate. -/
def insufficient (buffer : List (Instant × V)) : Bool :=
  match buffer.head?, buffer.getLast? with
  | some first, some last =>
      decide (buffer.length < s.minPoints) ||
        s.minSpanS.any fun span => decide (last.1.seconds - first.1.seconds < span)
  | _, _ => true

/-- The buffer with one more sample, cut to its greatest length and to the
window. -/
def appended (buffer : List (Instant × V)) (timestamp : Instant) (value : V) : List (Instant × V) :=
  let full := buffer ++ [(timestamp, value)]
  (full.drop (full.length - s.maxlen)).dropWhile fun p =>
    p.1.seconds < timestamp.seconds - s.windowS

namespace Track

def accept (tr : Track V) (timestamp : Instant) (value : V) : Track V :=
  let buffer := appended s tr.buffer timestamp value
  { tr with
    buffer
    consecDrops := 0
    refilling := if insufficient s buffer then tr.refilling else none }

def clear (tr : Track V) (reset : Reset) : Track V :=
  { tr with buffer := [], refilling := some reset }

def push (tr : Track V) (timestamp : Instant) (value : V) : Track V :=
  match tr.buffer.getLast? with
  | none => tr.accept s timestamp value
  | some last =>
      match clockJumpDecision s tr.buffer last.1 timestamp with
      | .ok => tr.accept s timestamp value
      | .drop =>
          if tr.consecDrops + 1 < s.driftResetCount then
            { tr with consecDrops := tr.consecDrops + 1 }
          else (tr.clear .drift).accept s timestamp value
      | .reset =>
          if timestamp.seconds - last.1.seconds > 0 then
            ({ tr with serveStale := true }.clear .forward).accept s timestamp value
          else (tr.clear .backward).accept s timestamp value

/-- `get_rate`; `slope` is `_ols_slope_per_min`. -/
def getRate (slope : List (Instant × V) → Option V) (tr : Track V) : Track V × Option V :=
  if insufficient s tr.buffer then (tr, if tr.serveStale then tr.lastRate else none)
  else
    match slope tr.buffer with
    | none => (tr, none)
    | some rate => ({ tr with lastRate := some rate, serveStale := false }, some rate)

end Track

/-- `sum` of floats, without the compensation of newer interpreters. -/
def total (xs : List Float) : Float := xs.foldl (· + ·) 0

/-- The estimator: its channels and the short names of their full ones. -/
structure RateEstimator (V : Type) where
  tracks : Dict String (Track V) := .empty
  shortToFull : Dict String String := .empty

/-- `channel.split(" ", 1)[0]` -/
def shortName (channel : String) : String := String.ofList (channel.toList.takeWhile (· ≠ ' '))

namespace RateEstimator

def push (r : RateEstimator V) (channel : String) (timestamp : Instant) (value : V) :
    RateEstimator V :=
  { tracks := r.tracks.set channel (((r.tracks.get? channel).getD {}).push s timestamp value)
    shortToFull :=
      if shortName channel ≠ channel then r.shortToFull.set (shortName channel) channel
      else r.shortToFull }

def resolveChannel (r : RateEstimator V) (channel : String) : String :=
  if (r.tracks.get? channel).isSome then channel
  else (r.shortToFull.get? channel).getD channel

def getRate (slope : List (Instant × V) → Option V) (r : RateEstimator V) (channel : String) :
    RateEstimator V × Option V :=
  match r.tracks.get? (r.resolveChannel channel) with
  | none => (r, none)
  | some tr =>
      let answer := tr.getRate s slope
      ({ r with tracks := r.tracks.set (r.resolveChannel channel) answer.1 }, answer.2)

end RateEstimator

inductive Call (V : Type)
  | push (channel : String) (timestamp : Instant) (value : V)
  | getRate (channel : String)

def RateEstimator.step (slope : List (Instant × V) → Option V) (r : RateEstimator V) :
    Call V → RateEstimator V
  | .push channel timestamp value => r.push s channel timestamp value
  | .getRate channel => (r.getRate s slope channel).1

def RateEstimator.run (slope : List (Instant × V) → Option V) (r : RateEstimator V)
    (calls : List (Call V)) : RateEstimator V :=
  calls.foldl (RateEstimator.step s slope) r

end Rates
end CryoDaq
