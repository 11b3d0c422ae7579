import CryoDaq.Channels.DescriptorStore

/-!
# Identity is earned and kept

**Received.**  What a reading does to an entry is told by `receive_cases`: it is
refused, accepted or has nothing to say.

**Earned.**  A channel is authoritative only through a descriptor that matched its
reading, came without an issue and is still the last word on the channel
(`Earned`).

**Kept.**  A stored descriptor is replaced only by a later revision of the same
identity (`Succeeds`).  Every entry can be shown (`Entry.Presentable`).
-/

namespace CryoDaq
namespace Channels

open ObjectGraph

variable {p : Platform}

/-- A descriptor that may take the place of another. -/
structure Succeeds (old new : ChannelDescriptorV1 p) : Prop where
  anchor : new.anchor = old.anchor
  quantity : new.quantity = old.quantity
  unit : new.unit = old.unit
  revision : old.descriptorRevision ≤ new.descriptorRevision
  content : new.descriptorRevision = old.descriptorRevision →
    new.canonicalJson = old.canonicalJson

theorem Succeeds.refl (d : ChannelDescriptorV1 p) : Succeeds d d :=
  ⟨rfl, rfl, rfl, le_rfl, fun _ => rfl⟩

theorem Succeeds.trans {d e f : ChannelDescriptorV1 p} (h : Succeeds d e) (h' : Succeeds e f) :
    Succeeds d f where
  anchor := h'.anchor.trans h.anchor
  quantity := h'.quantity.trans h.quantity
  unit := h'.unit.trans h.unit
  revision := h.revision.trans h'.revision
  content hrevision := by
    have hmiddle : e.descriptorRevision = d.descriptorRevision :=
      le_antisymm (hrevision ▸ h'.revision) h.revision
    rw [h'.content (hrevision.trans hmiddle.symm), h.content hmiddle]

/-- What was stored is still stored, or was succeeded. -/
def Keeps (old new : Option (ChannelDescriptorV1 p)) : Prop :=
  ∀ d, old = some d → ∃ d', new = some d' ∧ Succeeds d d'

theorem Keeps.refl (o : Option (ChannelDescriptorV1 p)) : Keeps o o :=
  fun d h => ⟨d, h, .refl d⟩

namespace Entry

@[simp] theorem addDiagnostic_descriptor (e : Entry p) (diagnostic : DescriptorDiagnostic) :
    (e.addDiagnostic diagnostic).descriptor = e.descriptor := rfl

@[simp] theorem refuse_descriptor (e : Entry p) (reason : String) (revision : Option ℤ)
    (issue : Option DescriptorEnvelopeIssue) :
    (e.refuse reason revision issue).descriptor = e.descriptor := rfl

@[simp] theorem refuse_status (e : Entry p) (reason : String) (revision : Option ℤ)
    (issue : Option DescriptorEnvelopeIssue) :
    (e.refuse reason revision issue).identityStatus = some .refused := rfl

@[simp] theorem setLegacyArgs_descriptor (e : Entry p) (reading : ReadingTexts) :
    (e.setLegacyArgs reading).descriptor = e.descriptor := by
  unfold setLegacyArgs
  split <;> rfl

@[simp] theorem setLegacyArgs_status (e : Entry p) (reading : ReadingTexts) :
    (e.setLegacyArgs reading).identityStatus = e.identityStatus := by
  unfold setLegacyArgs
  split <;> rfl

@[simp] theorem setLegacyArgs_diagnostics (e : Entry p) (reading : ReadingTexts) :
    (e.setLegacyArgs reading).diagnostics = e.diagnostics := by
  unfold setLegacyArgs
  split <;> rfl

theorem setLegacyArgs_args (e : Entry p) (reading : ReadingTexts) :
    (e.setLegacyArgs reading).legacyArgs = some reading := by
  unfold setLegacyArgs
  by_cases h : e.legacyArgs = some reading
  · rw [if_pos h, h]
  · rw [if_neg h]

theorem addDiagnostic_length {e : Entry p} (h : e.diagnostics.length ≤ maxDiagnosticsPerEntry)
    (diagnostic : DescriptorDiagnostic) :
    (e.addDiagnostic diagnostic).diagnostics.length ≤ maxDiagnosticsPerEntry := by
  have hpos : 1 ≤ maxDiagnosticsPerEntry := by decide
  simp only [addDiagnostic, List.length_append, List.length_singleton]
  by_cases hfull : maxDiagnosticsPerEntry ≤ e.diagnostics.length
  · rw [if_pos hfull, List.length_drop]
    omega
  · rw [if_neg hfull]
    omega

end Entry

/-- The reading says something about the descriptor of its channel. -/
def QualifiedReading.Speaks (q : QualifiedReading p) : Prop :=
  q.descriptor ≠ none ∨ q.descriptorIssue ≠ none

/-- The reading brings a descriptor that matches it, and no issue. -/
def QualifiedReading.Vouches (q : QualifiedReading p) (d : ChannelDescriptorV1 p) : Prop :=
  q.descriptorIssue = none ∧ q.descriptor = some d ∧ Matches d q.reading

/-- A reading is refused: the entry only loses its standing. -/
structure Refused (q : QualifiedReading p) (e : Entry p) (r : Entry p × IngestResult) :
    Prop where
  speaks : q.Speaks
  result : r.2 = .refused
  status : r.1.identityStatus = some .refused
  descriptor : r.1.descriptor = e.descriptor

/-- A reading is accepted: its descriptor has the content of the stored one. -/
structure Accepted (q : QualifiedReading p) (e : Entry p) (r : Entry p × IngestResult)
    (d kept : ChannelDescriptorV1 p) : Prop where
  vouches : q.Vouches d
  result : r.2 = .accepted
  status : r.1.identityStatus = some .authoritative
  descriptor : r.1.descriptor = some kept
  content : kept.canonicalJson = d.canonicalJson
  succeeds : ∀ stored, e.descriptor = some stored → Succeeds stored kept

/-- A reading has nothing to say about the descriptor. -/
structure Silent (q : QualifiedReading p) (e : Entry p) (r : Entry p × IngestResult) :
    Prop where
  silent : ¬ q.Speaks
  result : r.2 = .legacyAbsent
  status : r.1.identityStatus = e.identityStatus ∨ r.1.identityStatus = some .legacyAbsent
  descriptor : r.1.descriptor = e.descriptor

theorem processRefused_refused {q : QualifiedReading p} (hq : q.Speaks) (e e' : Entry p)
    (he : e'.descriptor = e.descriptor) (issue : DescriptorEnvelopeIssue)
    (revision : Option ℤ) : Refused q e (e'.processRefused issue q.reading revision) := by
  refine ⟨hq, rfl, ?_, ?_⟩
  · unfold Entry.processRefused
    dsimp only
    split <;> simp
  · unfold Entry.processRefused
    dsimp only
    split <;> simp [he]

theorem refuse_refused {q : QualifiedReading p} (hq : q.Speaks) {e e' : Entry p}
    (he : e'.descriptor = e.descriptor) (reason : String) (revision : Option ℤ)
    (issue : Option DescriptorEnvelopeIssue) :
    Refused q e (e'.refuse reason revision issue, .refused) :=
  ⟨hq, rfl, rfl, he⟩

theorem processAuthoritative_cases {q : QualifiedReading p} {d : ChannelDescriptorV1 p}
    (hq : q.Vouches d) (e e' : Entry p) (he : e'.descriptor = e.descriptor) :
    Refused q e (e'.processAuthoritative d) ∨
      ∃ kept, Accepted q e (e'.processAuthoritative d) d kept := by
  have hspeaks : q.Speaks := .inl (by rw [hq.2.1]; exact Option.some_ne_none d)
  unfold Entry.processAuthoritative
  cases hstored : e'.descriptor with
  | none =>
      refine .inr ⟨d, hq, rfl, rfl, rfl, rfl, ?_⟩
      intro stored h
      rw [← he, hstored] at h
      cases h
  | some stored =>
      have hsame : ∀ d', e.descriptor = some d' → d' = stored := by
        intro d' h
        rw [← he, hstored] at h
        exact (Option.some.inj h).symm
      dsimp only
      by_cases hfork : d.anchor ≠ stored.anchor ∨ d.quantity ≠ stored.quantity ∨
          d.unit ≠ stored.unit
      · rw [if_pos hfork]
        exact .inl (refuse_refused hspeaks he _ _ _)
      · rw [if_neg hfork]
        simp only [not_or, not_not] at hfork
        by_cases hless : d.descriptorRevision < stored.descriptorRevision
        · rw [if_pos hless]
          exact .inl (refuse_refused hspeaks he _ _ _)
        · rw [if_neg hless]
          by_cases heq : d.descriptorRevision = stored.descriptorRevision
          · rw [if_pos heq]
            by_cases hcontent : d.canonicalJson ≠ stored.canonicalJson
            · rw [if_pos hcontent]
              exact .inl (refuse_refused hspeaks he _ _ _)
            · rw [if_neg hcontent]
              refine .inr ⟨stored, hq, rfl, rfl, rfl, (not_not.mp hcontent).symm, ?_⟩
              intro d' h
              rw [hsame d' h]
              exact .refl stored
          · rw [if_neg heq]
            refine .inr ⟨d, hq, rfl, rfl, rfl, rfl, ?_⟩
            intro d' h
            rw [hsame d' h]
            exact ⟨hfork.1, hfork.2.1, hfork.2.2, not_lt.mp hless, fun h' => absurd h' heq⟩

/-- The entry of a channel that has just been heard of. -/
def Entry.connected (e : Entry p) : Entry p := { e with transportState := .connected }

theorem receive_cases (e : Entry p) (q : QualifiedReading p) :
    Refused q e (e.receive q) ∨ (∃ d kept, Accepted q e (e.receive q) d kept) ∨
      Silent q e (e.receive q) := by
  unfold Entry.receive
  cases hissue : q.descriptorIssue with
  | some issue =>
      have hspeaks : q.Speaks := .inr (by rw [hissue]; exact Option.some_ne_none issue)
      exact .inl (processRefused_refused hspeaks e e.connected rfl issue _)
  | none =>
      cases hdescriptor : q.descriptor with
      | some d =>
          have hspeaks : q.Speaks := .inl (by rw [hdescriptor]; exact Option.some_ne_none d)
          dsimp only
          by_cases hmatch : Matches d q.reading
          · rw [if_pos hmatch]
            rcases processAuthoritative_cases ⟨hissue, hdescriptor, hmatch⟩ e e.connected rfl with
              hrefused | ⟨kept, haccepted⟩
            · exact .inl hrefused
            · exact .inr (.inl ⟨d, kept, haccepted⟩)
          · rw [if_neg hmatch]
            exact .inl (processRefused_refused hspeaks e e.connected rfl .identityMismatch _)
      | none =>
          have hsilent : ¬ q.Speaks := by
            rintro (h | h)
            · exact h hdescriptor
            · exact h hissue
          refine .inr (.inr ?_)
          unfold Entry.processLegacyAbsent
          dsimp only
          split
          · exact ⟨hsilent, rfl, .inl rfl, rfl⟩
          · exact ⟨hsilent, rfl, .inr (by simp), by simp⟩

theorem receive_keeps (e : Entry p) (q : QualifiedReading p) :
    Keeps e.descriptor (e.receive q).1.descriptor := by
  rcases receive_cases e q with h | ⟨d, kept, h⟩ | h
  · rw [h.descriptor]
    exact .refl _
  · exact fun stored hstored => ⟨kept, h.descriptor, h.succeeds stored hstored⟩
  · rw [h.descriptor]
    exact .refl _

namespace Entry

/-- What `view` relies on. -/
structure Presentable (e : Entry p) : Prop where
  status : e.identityStatus ≠ none
  shown : e.descriptor = none → e.legacyArgs ≠ none
  diagnostics : e.diagnostics.length ≤ maxDiagnosticsPerEntry

structure Sound (e : Entry p) : Prop where
  status : e.descriptor ≠ none → e.identityStatus ≠ none
  shown : e.descriptor = none → e.identityStatus ≠ none → e.legacyArgs ≠ none
  diagnostics : e.diagnostics.length ≤ maxDiagnosticsPerEntry

theorem Presentable.sound {e : Entry p} (h : e.Presentable) : e.Sound :=
  ⟨fun _ => h.status, fun hnone _ => h.shown hnone, h.diagnostics⟩

theorem sound_new : (new p).Sound :=
  ⟨fun h => absurd rfl h, fun _ h => absurd rfl h, Nat.zero_le _⟩

theorem processRefused_presentable {e : Entry p}
    (h : e.diagnostics.length ≤ maxDiagnosticsPerEntry) (issue : DescriptorEnvelopeIssue)
    (reading : ReadingTexts) (revision : Option ℤ) :
    (e.processRefused issue reading revision).1.Presentable := by
  have hdiagnostics := addDiagnostic_length h ⟨"refused", revision, some issue⟩
  unfold processRefused
  dsimp only
  by_cases hnone : (e.refuse "refused" revision (some issue)).descriptor.isNone = true
  · rw [if_pos hnone]
    refine ⟨by simp, fun _ => ?_, ?_⟩
    · rw [setLegacyArgs_args]
      exact Option.some_ne_none reading
    · rw [setLegacyArgs_diagnostics]
      exact hdiagnostics
  · rw [if_neg hnone]
    refine ⟨by simp, fun hdescriptor => ?_, hdiagnostics⟩
    rw [hdescriptor] at hnone
    exact absurd rfl hnone

theorem refuse_presentable {e : Entry p} (h : e.diagnostics.length ≤ maxDiagnosticsPerEntry)
    (hdescriptor : e.descriptor ≠ none) (reason : String) (revision : Option ℤ)
    (issue : Option DescriptorEnvelopeIssue) :
    (e.refuse reason revision issue).Presentable :=
  ⟨Option.some_ne_none _, fun hnone => absurd hnone hdescriptor,
    addDiagnostic_length h ⟨reason, revision, issue⟩⟩

theorem processAuthoritative_presentable {e : Entry p}
    (h : e.diagnostics.length ≤ maxDiagnosticsPerEntry) (d : ChannelDescriptorV1 p) :
    (e.processAuthoritative d).1.Presentable := by
  unfold processAuthoritative
  cases hstored : e.descriptor with
  | none => exact ⟨Option.some_ne_none _, fun hnone => absurd hnone (Option.some_ne_none d), h⟩
  | some stored =>
      have hsome : e.descriptor ≠ none := by
        rw [hstored]
        exact Option.some_ne_none stored
      dsimp only
      split
      · exact refuse_presentable h hsome _ _ _
      · split
        · exact refuse_presentable h hsome _ _ _
        · split
          · split
            · exact refuse_presentable h hsome _ _ _
            · exact ⟨Option.some_ne_none _, fun hnone => absurd hnone (Option.some_ne_none stored), h⟩
          · exact ⟨Option.some_ne_none _, fun hnone => absurd hnone (Option.some_ne_none d), h⟩

theorem processLegacyAbsent_presentable {e : Entry p} (h : e.Sound) (reading : ReadingTexts) :
    (e.processLegacyAbsent reading).1.Presentable := by
  unfold processLegacyAbsent
  by_cases hstands : e.descriptor.isSome = true ∨ e.identityStatus = some .refused
  · rw [if_pos hstands]
    have hstatus : e.identityStatus ≠ none := by
      rcases hstands with hsome | hrefused
      · exact h.status (Option.isSome_iff_ne_none.mp hsome)
      · rw [hrefused]
        exact Option.some_ne_none _
    exact ⟨hstatus, fun hnone => h.shown hnone hstatus, h.diagnostics⟩
  · rw [if_neg hstands]
    refine ⟨by simp, fun _ => ?_, by simpa using h.diagnostics⟩
    rw [setLegacyArgs_args]
    exact Option.some_ne_none reading

theorem receive_presentable {e : Entry p} (h : e.Sound) (q : QualifiedReading p) :
    (e.receive q).1.Presentable := by
  have hconnected : e.connected.Sound := ⟨h.status, h.shown, h.diagnostics⟩
  unfold receive
  cases q.descriptorIssue with
  | some issue => exact processRefused_presentable hconnected.diagnostics issue _ _
  | none =>
      cases q.descriptor with
      | some d =>
          dsimp only
          split
          · exact processAuthoritative_presentable hconnected.diagnostics d
          · exact processRefused_presentable hconnected.diagnostics .identityMismatch _ _
      | none => exact processLegacyAbsent_presentable hconnected q.reading

theorem legacyDescriptor_ok (p : Platform) (args : ReadingTexts) :
    ∃ d, legacyDescriptor p args = .ok d := by
  unfold legacyDescriptor
  split
  · rename_i fault hfault
    rw [legacyUnknownDescriptor_ok] at hfault
    cases hfault
  · exact ⟨_, rfl⟩

theorem presentationDescriptor_ok {e : Entry p} (h : e.Presentable) :
    ∃ cache d, e.presentationDescriptor = .ok ({ e with legacyCache := cache }, d) ∧
      ∀ stored, e.descriptor = some stored → d = stored := by
  obtain ⟨descriptor, status, transport, diagnostics, args, cache⟩ := e
  cases descriptor with
  | some stored => exact ⟨cache, stored, rfl, fun d hd => Option.some.inj hd⟩
  | none =>
      cases cache with
      | some d => exact ⟨some d, d, rfl, fun _ hd => absurd hd.symm (Option.some_ne_none _)⟩
      | none =>
          cases args with
          | none => exact absurd rfl (h.shown rfl)
          | some args =>
              obtain ⟨d, hd⟩ := legacyDescriptor_ok p args
              refine ⟨some d, d, ?_, fun _ hd => absurd hd.symm (Option.some_ne_none _)⟩
              simp only [presentationDescriptor, hd]
              rfl

end Entry

end Channels
end CryoDaq
