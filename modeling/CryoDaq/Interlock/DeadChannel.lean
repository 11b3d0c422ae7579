import CryoDaq.Acquisition.Reading

/-!
# Unusable readings on interlocked channels

An interlocked channel whose readings stay unusable is escalated.  The engine
keeps one window for each channel: when its first unusable reading was
measured, how many there were, and the fault reasons of the instrument that they
carry.

**Debounce.**  A window escalates once it holds enough readings over a long
enough time.  Readings with other fault reasons begin a new window.

**Settlement.**  A window for which the handler answered truthily is settled and
silent; otherwise every further unusable reading calls the handler again.
-/

namespace CryoDaq

namespace Acquisition

def Reading.isUsable (r : Reading) : Bool := r.status = .ok && r.value.isFinite

def instrumentStatusRegisterValues : List String := ["LakeShore 218 RDGST"]

def faultReason : Json → Option String
  | .str reason => if reason = "" then none else some reason
  | _ => none

def Reading.instrumentStatusFaultReasons (r : Reading) : List String :=
  if r.status = .ok then []
  else
    match r.metadata.get? "instrument_status_register",
        r.metadata.get? "instrument_status_fault_reasons" with
    | some (.str register), some (.arr reasons) =>
        if register ∉ instrumentStatusRegisterValues then []
        else if reasons.length > 8 ∨ (reasons.any fun reason => (faultReason reason).isNone) then []
        else reasons.filterMap faultReason
    | _, _ => []

end Acquisition

namespace Interlock

open Acquisition

structure NonUsableWindow where
  firstTs : Timestamp
  count : ℕ := 0
  escalated : Bool := false
  instrumentStatusFaultReasons : List String := []
deriving DecidableEq

/-- The settings of the debounce, and whether a handler is wired. -/
structure Debounce where
  minSamples : ℕ := 5
  minDurationS : Float := 10.0
  handler : Bool := true

/-- A reading as it is processed: the name of the first condition that protects
its channel, what a call of the handler would come to, and whether the recovery
handler, where there is one, accepts it. -/
structure Sample where
  reading : Reading
  condition : Option String
  truthy : Bool
  recovered : Bool := true

/-- What an unusable reading leaves and does. -/
structure Outcome where
  window : NonUsableWindow
  published : Option Float
  called : Bool

def countedWindow (window : Option NonUsableWindow) (r : Reading) : NonUsableWindow :=
  let fresh : NonUsableWindow :=
    { firstTs := r.timestamp
      instrumentStatusFaultReasons := r.instrumentStatusFaultReasons }
  let held :=
    match window with
    | none => fresh
    | some held =>
        if held.instrumentStatusFaultReasons ≠ r.instrumentStatusFaultReasons then fresh
        else held
  { held with count := held.count + 1 }

variable (s : Debounce)

def handleNonusable (window : Option NonUsableWindow) (e : Sample) : Outcome :=
  let held := countedWindow window e.reading
  let span := totalSeconds (e.reading.timestamp - held.firstTs)
  if held.escalated then { window := held, published := none, called := false }
  else if held.count ≥ s.minSamples ∧ span ≥ s.minDurationS then
    -- without a handler nothing can settle the window, which stays silent then
    { window := { held with escalated := !s.handler || e.truthy }
      published := some span
      called := s.handler }
  else { window := held, published := some span, called := false }

/-- The part of `_process_reading` that concerns unusable readings; the second
component says whether the handler was called. -/
def processReading (windows : Dict String NonUsableWindow) (e : Sample) :
    Dict String NonUsableWindow × Bool :=
  if e.condition.isNone then (windows, false)
  else if e.reading.isUsable then
    -- `_handle_usable`
    (if e.recovered then windows.erase e.reading.channel else windows, false)
  else
    let outcome := handleNonusable s (windows.get? e.reading.channel) e
    (windows.set e.reading.channel outcome.window, outcome.called)

def windowsAfter (windows : Dict String NonUsableWindow) (es : List Sample) :
    Dict String NonUsableWindow :=
  es.foldl (fun windows e => (processReading s windows e).1) windows

def calls (windows : Dict String NonUsableWindow) : List Sample → List Sample
  | [] => []
  | e :: es =>
      let next := processReading s windows e
      if next.2 then e :: calls next.1 es else calls next.1 es

end Interlock
end CryoDaq
