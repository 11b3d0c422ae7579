import Mathlib.Data.Finset.Basic
import Mathlib.Data.Rat.Defs

/-!
# Values of the safety manager

The enumerations and small records that `SafetyManager` reads, stores and
returns, and the few Python values whose exact identity or truthiness it
inspects.
-/

namespace CryoDaq
namespace Safety

inductive SafetyState where
  | safeOff | ready | runPermitted | running | faultLatched | manualRecovery
deriving DecidableEq, Repr

def SafetyState.value : SafetyState → String
  | .safeOff => "safe_off"
  | .ready => "ready"
  | .runPermitted => "run_permitted"
  | .running => "running"
  | .faultLatched => "fault_latched"
  | .manualRecovery => "manual_recovery"

/-- `SmuChannel`: the two source outputs. -/
inductive SmuChannel where
  | smua | smub
deriving DecidableEq, Repr

def SmuChannel.text : SmuChannel → String
  | .smua => "smua"
  | .smub => "smub"

/-- `SMU_CHANNELS`, in the order that `sorted` gives them. -/
def smuChannels : List SmuChannel := [.smua, .smub]

/-- `sorted(channels)`. -/
def sortedChannels (channels : Finset SmuChannel) : List SmuChannel :=
  smuChannels.filter (· ∈ channels)

/-- A channel argument of a command, read up to `normalize_smu_channel`. -/
inductive ChannelArg where
  | omitted
  | named (channel : SmuChannel)
  | invalid (text : String)
deriving DecidableEq

inductive PyFloat where
  | finite (q : ℚ)
  | posInf | negInf | nan
deriving DecidableEq

def PyFloat.isFinite : PyFloat → Bool
  | .finite _ => true
  | _ => false

/-- The comparison `x > y`, false as soon as one side is not a number. -/
def PyFloat.gt : PyFloat → PyFloat → Bool
  | .finite x, .finite y => decide (y < x)
  | .posInf, .finite _ => true
  | .posInf, .negInf => true
  | .finite _, .negInf => true
  | _, _ => false

/-- The comparison `x <= 0`. -/
def PyFloat.nonpos : PyFloat → Bool
  | .finite x => decide (x ≤ 0)
  | .negInf => true
  | _ => false

def PyFloat.abs : PyFloat → PyFloat
  | .finite x => .finite (if x < 0 then -x else x)
  | .negInf => .posInf
  | x => x

def PyFloat.text : PyFloat → String
  | .finite q => toString q
  | .posInf => "inf"
  | .negInf => "-inf"
  | .nan => "nan"

inductive SourceOffResult where
  | physicalStateUnknown | commandAccepted | deviceReportedOff
deriving DecidableEq, Repr

inductive SourceOffTier where
  | commandOnly | verifiedOff
deriving DecidableEq, Repr

def physicalOffVerified (tier : SourceOffTier) (result : SourceOffResult) :
    Bool :=
  tier == .verifiedOff && result == .deviceReportedOff

structure SourceOffEvidence where
  offTier : SourceOffTier
  channelOffResults : List (SmuChannel × SourceOffResult)
deriving DecidableEq

def SourceOffEvidence.fromGlobalResult
    (tier : SourceOffTier) (result : SourceOffResult) : SourceOffEvidence :=
  ⟨tier, [(.smua, result), (.smub, result)]⟩

def SourceOffEvidence.verifiedOff (e : SourceOffEvidence) : Bool :=
  e.channelOffResults.all fun p => physicalOffVerified e.offTier p.2

/-- A Python value as far as the manager looks at it: its identity with
`True`, `False` or an OFF result, the `committed` flag of a receipt, and its
truthiness. -/
inductive PyVal where
  | none
  | bool (b : Bool)
  | off (result : SourceOffResult)
  | receipt (committed : Bool)
  | other (truthy : Bool)
deriving DecidableEq

/-- `bool(value)`. -/
def PyVal.truthy : PyVal → Bool
  | .none => false
  | .bool b => b
  | .off _ => true
  | .receipt _ => true
  | .other t => t

/-- The classes of the exceptions that the manager raises or tells apart. -/
inductive ExcKind where
  | typeError | valueError | runtimeError | shutdownUnverified
  | unboundLocalError | assertionError | other
deriving DecidableEq, Repr

/-- An exception: a cancellation, or an ordinary exception with its text. -/
inductive Exc where
  | cancelled
  | raised (kind : ExcKind) (message : String)
deriving DecidableEq

def Exc.text : Exc → String
  | .cancelled => ""
  | .raised _ message => message

/-- `type(exc).__name__`. -/
def Exc.typeName : Exc → String
  | .cancelled => "CancelledError"
  | .raised .typeError _ => "TypeError"
  | .raised .valueError _ => "ValueError"
  | .raised .runtimeError _ => "RuntimeError"
  | .raised .shutdownUnverified _ => "SafetyShutdownUnverifiedError"
  | .raised .unboundLocalError _ => "UnboundLocalError"
  | .raised .assertionError _ => "AssertionError"
  | .raised .other _ => "Exception"

/-- What an awaited call delivers: a value or an exception. -/
abbrev Outcome := Except Exc PyVal

/-- The `source` of a fault: the named origins of the manager itself, and the
free identifier that `latch_fault` accepts. -/
inductive FaultSource where
  | safetyManager | interlock | persistence | safetyCollect | safetyMonitor
  | safetyShutdown | hazardousSuccessReconciliation
  | runPostPublicationReconciliation | safetyTargetUpdate | safetyLimitUpdate
  | reviewedSourceOutputObservation | qualificationInterlock
  | other (name : String)
deriving DecidableEq

inductive InterlockAction where
  | emergencyOff | stopSource | warning
  | other (name : String)
deriving DecidableEq

def InterlockAction.text : InterlockAction → String
  | .emergencyOff => "emergency_off"
  | .stopSource => "stop_source"
  | .warning => "warning"
  | .other name => name

/-- Which of the two safety children a task is. -/
inductive ChildRole where
  | collect | monitor
deriving DecidableEq, Repr

def ChildRole.text : ChildRole → String
  | .collect => "collect"
  | .monitor => "monitor"

def ChildRole.faultSource : ChildRole → FaultSource
  | .collect => .safetyCollect
  | .monitor => .safetyMonitor

/-- `code` of an operator warning. -/
inductive WarningCode where
  | latchedInterlockStart | latchedPersistenceStart
  | cooldownPredictorUnavailable | interlockRearmUnconfirmed
deriving DecidableEq, Repr

structure OperatorWarning where
  code : WarningCode
  operatorText : String
  consequence : String
  reason : String
deriving DecidableEq

/-- `error_code` of an unconfirmed warning-choice receipt. -/
inductive ReceiptError where
  | persistenceUnavailable | persistenceFailed | persistenceReceiptInvalid
  | warningChangedDuringPersistence
deriving DecidableEq, Repr

/-- `operator_warning_receipt`: the committer's own, or an unconfirmed one. -/
inductive WarningReceipt where
  | answered (committed : Bool)
  | unconfirmed (error : ReceiptError)
deriving DecidableEq

/-- `OperatorPresentationState`. -/
inductive PresentationState where
  | ok | caution | warning | fault | stale | disconnected
deriving DecidableEq, Repr

inductive ReadinessTruth where
  | ready | blocked | unknown
deriving DecidableEq, Repr

/-- `SafetyLifecycle`: the state name, or unknown. -/
inductive SafetyLifecycle where
  | known (state : SafetyState)
  | unknown
deriving DecidableEq, Repr

/-- The reason of a state transition, one constructor for each call of
`_transition`. -/
inductive TransitionReason where
  | faultLatched (reason : String)
  | faultAcknowledged (reason : String)
  | startUnderLatch
  | startRequested (channel : SmuChannel) (pTarget : PyFloat)
  | keithleyNotConnected
  | startAbortedSourcesRemain (channel : SmuChannel)
  | startAbortedBeforeCommit (channel : SmuChannel)
  | sourceEnabled (channel : SmuChannel) (pTarget : PyFloat)
  | startRevokedSourcesRemain (channel : SmuChannel)
  | startRevokedSettledOff (channel : SmuChannel)
  | operatorEmergencyOff
  | reviewedSourceDisconnected (context : String)
  | partialStop (channels stillActive : List SmuChannel)
  | stopped (reason : String)
  | interlockStopSource (name : String)
  | recoveryPreconditionsRestored
  | allPreconditionsSatisfied
deriving DecidableEq

/-- `d[key] = value`. -/
def dictSet {κ ν : Type} [DecidableEq κ] (key : κ) (value : ν)
    (d : List (κ × ν)) : List (κ × ν) :=
  (key, value) :: d.filter fun p => p.1 ≠ key

/-- `d.pop(key, None)` on the dictionary. -/
def dictPop {κ ν : Type} [DecidableEq κ] (key : κ) (d : List (κ × ν)) :
    List (κ × ν) :=
  d.filter fun p => p.1 ≠ key

/-- The characters that `str.strip` removes. -/
def isSpace (c : Char) : Bool :=
  let n := c.toNat
  (9 ≤ n && n ≤ 13) || (28 ≤ n && n ≤ 32) || n == 0x85 || n == 0xa0 ||
    n == 0x1680 || (0x2000 ≤ n && n ≤ 0x200a) || n == 0x2028 || n == 0x2029 ||
    n == 0x202f || n == 0x205f || n == 0x3000

def strip (text : String) : String :=
  let rest := text.toList.dropWhile isSpace
  String.ofList (rest.reverse.dropWhile isSpace).reverse

end Safety
end CryoDaq
