import CryoDaq.Channels.Legacy
import CryoDaq.Python.Dict

/-!
# The store of channel identities

The console keeps one entry for each channel.  It is fed readings that come with
a descriptor, with an issue about one, with both or with neither.

**Receiving.**  `Entry.receive` is what a reading does to the entry of its channel;
`ingest` makes the entry first.

**Showing.**  `view` and `presentation_descriptor` make up a legacy descriptor for
an entry that has none, and keep it in the entry.
-/

namespace CryoDaq
namespace Channels

open ObjectGraph Storage

def maxDiagnosticsPerEntry : ℕ := 16

def maxCatalogDescriptors : ℕ := 4096

inductive IdentityStatus
  | authoritative
  | legacyAbsent
  | refused
deriving DecidableEq, Repr

inductive TransportState
  | connected
  | stale
  | disconnected
deriving DecidableEq, Repr

inductive IngestResult
  | accepted
  | legacyAbsent
  | refused
  | capacityExhausted
deriving DecidableEq, Repr

inductive DescriptorEnvelopeIssue
  | malformed
  | identityMismatch
deriving DecidableEq, Repr

structure DescriptorDiagnostic where
  reason : String
  incomingRevision : Option ℤ
  descriptorIssue : Option DescriptorEnvelopeIssue
deriving DecidableEq, Repr

/-- What the store reads of a `Reading`. -/
structure ReadingTexts where
  instrumentId : CodePoints
  channel : CodePoints
  unit : CodePoints
deriving DecidableEq

/-- `DescriptorQualifiedReading` -/
structure QualifiedReading (p : Platform) where
  reading : ReadingTexts
  descriptor : Option (ChannelDescriptorV1 p)
  descriptorIssue : Option DescriptorEnvelopeIssue

structure Entry (p : Platform) where
  descriptor : Option (ChannelDescriptorV1 p)
  identityStatus : Option IdentityStatus
  transportState : TransportState
  diagnostics : List DescriptorDiagnostic
  legacyArgs : Option ReadingTexts
  legacyCache : Option (ChannelDescriptorV1 p)

/-- What `assert` and the legacy descriptor raise. -/
inductive ViewFault
  | assertion
  | legacy (fault : Fault)
deriving DecidableEq, Repr

variable {p : Platform}

namespace Entry

/-- `__init__` -/
def new (p : Platform) : Entry p where
  descriptor := none
  identityStatus := none
  transportState := .disconnected
  diagnostics := []
  legacyArgs := none
  legacyCache := none

def addDiagnostic (e : Entry p) (diagnostic : DescriptorDiagnostic) : Entry p :=
  { e with
    diagnostics :=
      (if maxDiagnosticsPerEntry ≤ e.diagnostics.length then e.diagnostics.drop 1
        else e.diagnostics) ++ [diagnostic] }

def setLegacyArgs (e : Entry p) (reading : ReadingTexts) : Entry p :=
  if e.legacyArgs = some reading then e
  else { e with legacyArgs := some reading, legacyCache := none }

def legacyDescriptor (p : Platform) (args : ReadingTexts) :
    Except ViewFault (ChannelDescriptorV1 p) :=
  match h : legacyUnknownDescriptor p args.instrumentId args.channel args.unit with
  | .error fault => .error (.legacy fault)
  | .ok _ => .ok (.ofValid (construct_eq_ok.mp h).2)

/-- `presentation_descriptor`, which fills the cache. -/
def presentationDescriptor (e : Entry p) :
    Except ViewFault (Entry p × ChannelDescriptorV1 p) :=
  match e.descriptor with
  | some d => .ok (e, d)
  | none =>
      match e.legacyCache with
      | some d => .ok (e, d)
      | none =>
          match e.legacyArgs with
          | none => .error .assertion
          | some args =>
              (legacyDescriptor p args).map fun d => ({ e with legacyCache := some d }, d)

/-- An item is refused for what it says of the descriptor. -/
def refuse (e : Entry p) (reason : String) (incomingRevision : Option ℤ)
    (issue : Option DescriptorEnvelopeIssue) : Entry p :=
  { e.addDiagnostic ⟨reason, incomingRevision, issue⟩ with identityStatus := some .refused }

/-- Two texts in bytes are compared byte by byte. -/
@[reducible] def decidableEqBytes : DecidableEq ByteArray :=
  fun a b => decidable_of_iff (a.data = b.data) ByteArray.ext_iff.symm

attribute [local instance] decidableEqBytes

def processAuthoritative (e : Entry p) (descriptor : ChannelDescriptorV1 p) :
    Entry p × IngestResult :=
  match e.descriptor with
  | some stored =>
      if descriptor.anchor ≠ stored.anchor ∨ descriptor.quantity ≠ stored.quantity ∨
          descriptor.unit ≠ stored.unit then
        (e.refuse "equivocation" (some descriptor.descriptorRevision) none, .refused)
      else if descriptor.descriptorRevision < stored.descriptorRevision then
        (e.refuse "regression" (some descriptor.descriptorRevision) none, .refused)
      else if descriptor.descriptorRevision = stored.descriptorRevision then
        if descriptor.canonicalJson ≠ stored.canonicalJson then
          (e.refuse "same_revision_conflict" (some descriptor.descriptorRevision) none, .refused)
        else ({ e with identityStatus := some .authoritative }, .accepted)
      else
        ({ e with descriptor := some descriptor, identityStatus := some .authoritative },
          .accepted)
  | none =>
      ({ e with
          descriptor := some descriptor
          legacyArgs := none
          legacyCache := none
          identityStatus := some .authoritative },
        .accepted)

def processRefused (e : Entry p) (issue : DescriptorEnvelopeIssue) (reading : ReadingTexts)
    (incomingRevision : Option ℤ) : Entry p × IngestResult :=
  let refused := e.refuse "refused" incomingRevision (some issue)
  (if refused.descriptor.isNone then refused.setLegacyArgs reading else refused, .refused)

def processLegacyAbsent (e : Entry p) (reading : ReadingTexts) : Entry p × IngestResult :=
  if e.descriptor.isSome ∨ e.identityStatus = some .refused then (e, .legacyAbsent)
  else
    ({ e with identityStatus := some .legacyAbsent : Entry p }.setLegacyArgs reading,
      .legacyAbsent)

end Entry

/-- The descriptor has the channel, the instrument and the unit of the reading. -/
def Matches (descriptor : ChannelDescriptorV1 p) (reading : ReadingTexts) : Prop :=
  descriptor.channelId = reading.channel ∧ descriptor.instrumentId = reading.instrumentId ∧
    descriptor.unit = reading.unit

instance (descriptor : ChannelDescriptorV1 p) (reading : ReadingTexts) :
    Decidable (Matches descriptor reading) :=
  inferInstanceAs (Decidable (_ ∧ _ ∧ _))

namespace Entry

/-- `ingest`, once the reading has its entry. -/
def receive (e : Entry p) (q : QualifiedReading p) : Entry p × IngestResult :=
  let e : Entry p := { e with transportState := .connected }
  match q.descriptorIssue, q.descriptor with
  | some issue, descriptor =>
      e.processRefused issue q.reading (descriptor.map fun d => d.descriptorRevision)
  | none, some descriptor =>
      if Matches descriptor q.reading then e.processAuthoritative descriptor
      else e.processRefused .identityMismatch q.reading (some descriptor.descriptorRevision)
  | none, none => e.processLegacyAbsent q.reading

end Entry

/-- The limits that the constructor takes. -/
abbrev MaxEntries := { n : ℕ // 1 ≤ n ∧ n ≤ maxCatalogDescriptors }

structure DescriptorStore (p : Platform) where
  maxEntries : MaxEntries
  entries : Dict CodePoints (Entry p)

structure DescriptorView (p : Platform) where
  channelId : CodePoints
  descriptor : ChannelDescriptorV1 p
  identityStatus : IdentityStatus
  transportState : TransportState
  diagnostics : List DescriptorDiagnostic

namespace DescriptorStore

def init (p : Platform) (maxEntries : MaxEntries) : DescriptorStore p := ⟨maxEntries, .empty⟩

def put (s : DescriptorStore p) (channel : CodePoints) (e : Entry p) : DescriptorStore p :=
  { s with entries := s.entries.set channel e }

def ingest (s : DescriptorStore p) (q : QualifiedReading p) : DescriptorStore p × IngestResult :=
  match s.entries.get? q.reading.channel with
  | some e => (s.put q.reading.channel (e.receive q).1, (e.receive q).2)
  | none =>
      if s.maxEntries.val ≤ s.entries.entries.length then (s, .capacityExhausted)
      else
        (s.put q.reading.channel ((Entry.new p).receive q).1, ((Entry.new p).receive q).2)

def invalidateTransport (s : DescriptorStore p) : DescriptorStore p :=
  { s with
    entries := s.entries.mapValues fun _ e =>
      { e with transportState := .disconnected, identityStatus := some .refused } }

def presentationDescriptor (s : DescriptorStore p) (channel : CodePoints) :
    Except ViewFault (DescriptorStore p × Option (ChannelDescriptorV1 p)) :=
  match s.entries.get? channel with
  | none => .ok (s, none)
  | some e =>
      match e.presentationDescriptor with
      | .error fault => .error fault
      | .ok shown => .ok (s.put channel shown.1, some shown.2)

def view (s : DescriptorStore p) (channel : CodePoints) :
    Except ViewFault (DescriptorStore p × Option (DescriptorView p)) :=
  match s.entries.get? channel with
  | none => .ok (s, none)
  | some e =>
      match e.identityStatus, e.presentationDescriptor with
      | none, _ => .error .assertion
      | some _, .error fault => .error fault
      | some status, .ok shown =>
          .ok (s.put channel shown.1,
            some ⟨channel, shown.2, status, e.transportState, e.diagnostics⟩)

end DescriptorStore

end Channels
end CryoDaq
