import CryoDaq.Python.Dict
import CryoDaq.Python.Number
import Mathlib.Data.List.Sort
import Mathlib.Data.String.Basic

/-!
# The registry of audible annunciations

`sync` replaces the projection of the active alarms and of the safety fault by
a new one, or refuses a malformed one and keeps what it had.  An occurrence that
was already projected keeps its activation id; a new one gets the next number.

**Revision.**  The first accepted projection establishes revision one; later the
revision counts the accepted changes and the acknowledgements.
-/

namespace CryoDaq
namespace Annunciation

/-- A value whose type the registry checks. -/
inductive Raw
  | none
  | bool (b : Bool)
  | int (n : ℤ)
  | float (x : Float)
  | str (s : String)
  | other
deriving DecidableEq

/-- The attributes that are read from an alarm event. -/
structure RawEvent where
  triggeredAt : Raw
  activationId : Raw
  level : Raw
  acknowledged : Raw

structure RawStatus where
  state : Raw
  faultRevision : Raw
  faultActivatedAt : Raw

inductive SyncError
  | projectionUnavailable
  | overflow
deriving DecidableEq

abbrev FiniteFloat := { x : Float // x.isFinite = true }

abbrev Key := String × String

structure Projection where
  discriminator : ℤ
  severity : String
  activatedAt : FiniteFloat
  acknowledged : Bool

@[ext] structure Record where
  activationId : String
  source : String
  sourceKey : String
  discriminator : ℤ
  severity : String
  activatedAt : FiniteFloat
  acknowledged : Bool := false
deriving DecidableEq

/-- What `public` exposes of a record. -/
structure Activation where
  activationId : String
  source : String
  sourceKey : String
  severity : String
  activatedAt : FiniteFloat
  acknowledged : Bool
  sourceActivationId : ℤ
deriving DecidableEq

def Record.public_ (r : Record) : Activation where
  activationId := r.activationId
  source := r.source
  sourceKey := r.sourceKey
  severity := r.severity
  activatedAt := r.activatedAt
  acknowledged := r.acknowledged
  sourceActivationId := r.discriminator

structure SnapshotItem where
  activationId : String
  source : String
  sourceKey : String
  severity : String
  activatedAt : FiniteFloat
  acknowledged : Bool
deriving DecidableEq

def Activation.item (a : Activation) : SnapshotItem where
  activationId := a.activationId
  source := a.source
  sourceKey := a.sourceKey
  severity := a.severity
  activatedAt := a.activatedAt
  acknowledged := a.acknowledged

structure AnnunciationRegistry where
  engineInstanceId : String
  sequence : ℕ
  snapshotRevision : ℕ
  initialized : Bool
  active : Dict Key Record

/-- `AnnunciationRegistry(engine_instance_id=...)` -/
def AnnunciationRegistry.new (engineInstanceId : String) :
    Except PyError AnnunciationRegistry :=
  if engineInstanceId.length = 32 &&
      engineInstanceId.toList.all fun c => c ∈ "0123456789abcdef".toList then
    .ok
      { engineInstanceId, sequence := 0, snapshotRevision := 0, initialized := false
        active := Dict.empty }
  else .error .valueError

/-- `str.upper` as far as it can lead to the three severities: besides the ASCII
letters only the dotless `ı` has an ASCII capital that occurs in them. -/
def upper (s : String) : String :=
  String.ofList (s.toList.map fun c => if c = 'ı' then 'I' else c.toUpper)

def severities : List String := ["INFO", "WARNING", "CRITICAL"]

/-- `type(value) in (int, float)` and `math.isfinite(float(value))` -/
def finiteNumber : Raw → Except SyncError FiniteFloat
  | .int n =>
      match (Number.int n).toFloat with
      | .ok x =>
          if h : x.isFinite = true then .ok ⟨x, h⟩ else .error .projectionUnavailable
      | .error _ => .error .overflow
  | .float x =>
      if h : x.isFinite = true then .ok ⟨x, h⟩ else .error .projectionUnavailable
  | _ => .error .projectionUnavailable

/-- The checks of one alarm event, in the order of the source. -/
def projectEvent (event : RawEvent) : Except SyncError Projection := do
  let activatedAt ← finiteNumber event.triggeredAt
  match event.activationId, event.level, event.acknowledged with
  | .int discriminator, .str level, .bool acknowledged =>
      if 0 < discriminator ∧ upper level ∈ severities then
        .ok { discriminator, severity := upper level, activatedAt, acknowledged }
      else .error .projectionUnavailable
  | _, _, _ => .error .projectionUnavailable

def projectAlarms : List (Raw × RawEvent) → Dict Key Projection →
    Except SyncError (Dict Key Projection)
  | [], projected => .ok projected
  | (.str alarmId, event) :: rest, projected =>
      if alarmId = "" then .error .projectionUnavailable
      else do
        let p ← projectEvent event
        projectAlarms rest (projected.set ("alarm_v2", alarmId) p)
  | _ :: _, _ => .error .projectionUnavailable

def safetyStates : List String :=
  ["safe_off", "ready", "run_permitted", "running", "fault_latched",
    "manual_recovery"]

def faultKey : Key := ("safety_fault", "safety_manager")

def projectSafety (status : RawStatus) (projected : Dict Key Projection) :
    Except SyncError (Dict Key Projection) :=
  match status.state, status.faultRevision with
  | .str state, .int revision =>
      if state ∈ safetyStates ∧ 0 ≤ revision then
        if state = "fault_latched" then
          if revision ≤ 0 then .error .projectionUnavailable
          else do
            let activatedAt ← finiteNumber status.faultActivatedAt
            .ok (projected.set faultKey
              { discriminator := revision, severity := "CRITICAL", activatedAt
                acknowledged := false })
        else .ok projected
      else .error .projectionUnavailable
  | _, _ => .error .projectionUnavailable

/-- The projection of `sync`; an argument that is no mapping is `none`. -/
def project (alarmActive : Option (List (Raw × RawEvent)))
    (safetyStatus : Option RawStatus) : Except SyncError (Dict Key Projection) :=
  match alarmActive, safetyStatus with
  | some alarms, some status => do
      let projected ← projectAlarms alarms Dict.empty
      projectSafety status projected
  | _, _ => .error .projectionUnavailable

/-- `f"a{sequence}"` -/
def activationText (n : ℕ) : String := "a" ++ n.repr

/-- The record of a projected occurrence and the sequence after it. -/
def nextRecord (current : Option Record) (key : Key) (p : Projection)
    (sequence : ℕ) : Record × ℕ :=
  let fresh : Record :=
    { activationId := activationText (sequence + 1), source := key.1
      sourceKey := key.2, discriminator := p.discriminator, severity := p.severity
      activatedAt := p.activatedAt
      acknowledged := key.1 = "alarm_v2" && p.acknowledged }
  match current with
  | none => (fresh, sequence + 1)
  | some r =>
      if r.discriminator = p.discriminator then
        ({ r with
            severity := p.severity
            activatedAt := p.activatedAt
            acknowledged := if key.1 = "alarm_v2" then p.acknowledged
              else r.acknowledged }, sequence)
      else (fresh, sequence + 1)

def advance (old : Dict Key Record) : List (Key × Projection) → ℕ →
    Dict Key Record → ℕ × Dict Key Record
  | [], sequence, built => (sequence, built)
  | p :: rest, sequence, built =>
      let next := nextRecord (old.get? p.1) p.1 p.2 sequence
      advance old rest next.2 (built.set p.1 next.1)

/-- Equality of records; floats are compared as numbers. -/
def Record.eq (r t : Record) : Bool :=
  r.activationId = t.activationId && r.source = t.source &&
    r.sourceKey = t.sourceKey && r.discriminator = t.discriminator &&
    r.severity = t.severity && r.activatedAt.val == t.activatedAt.val &&
    r.acknowledged = t.acknowledged

/-- Equality of two dictionaries of records. -/
def sameActive (d e : Dict Key Record) : Bool :=
  d.entries.length = e.entries.length &&
    d.entries.all fun p => (e.get? p.1).any (p.2.eq ·)

namespace AnnunciationRegistry

/-- The part of `sync` after a projection is accepted. -/
def install (s : AnnunciationRegistry) (projected : Dict Key Projection) :
    AnnunciationRegistry :=
  let next := advance s.active projected.entries s.sequence Dict.empty
  if !s.initialized then
    { s with initialized := true, sequence := next.1, active := next.2
             snapshotRevision := 1 }
  else if !sameActive next.2 s.active then
    { s with sequence := next.1, active := next.2
             snapshotRevision := s.snapshotRevision + 1 }
  else s

def sync (s : AnnunciationRegistry) (alarmActive : Option (List (Raw × RawEvent)))
    (safetyStatus : Option RawStatus) :
    AnnunciationRegistry × Except SyncError Unit :=
  match project alarmActive safetyStatus with
  | .error e => (s, .error e)
  | .ok projected => (s.install projected, .ok ())

def before (a b : SnapshotItem) : Prop :=
  a.source < b.source ∨ a.source = b.source ∧ a.sourceKey ≤ b.sourceKey

instance (a b : SnapshotItem) : Decidable (before a b) :=
  inferInstanceAs (Decidable (_ ∨ _ ∧ _))

def activations (s : AnnunciationRegistry) : List SnapshotItem :=
  (s.active.values.map fun r => r.public_.item).insertionSort before

def acknowledgeSafetyAudio (s : AnnunciationRegistry) (activationId : String) :
    AnnunciationRegistry × Bool :=
  match s.active.entries.find? fun p =>
      p.2.activationId = activationId && p.2.source = "safety_fault" with
  | none => (s, false)
  | some p =>
      if p.2.acknowledged then (s, true)
      else
        ({ s with
            active := s.active.set p.1 { p.2 with acknowledged := true }
            snapshotRevision := s.snapshotRevision + 1 }, true)

end AnnunciationRegistry

end Annunciation
end CryoDaq
