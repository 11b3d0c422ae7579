import CryoDaq.Channels.Envelope
import Mathlib.Data.List.Sort

/-!
# The catalog of a daily file

A daily file keeps the envelopes of the descriptors that its readings name.  The catalog only grows,
and every use of it loads all of it and checks it again.

**Loading.**  `loadEnvelopes` reads every row in the order of channels and revisions, compares what
the row repeats with its envelope, and checks the history.  It passes exactly when the rows are
those of descriptors that agree with each other.

**Installing.**  `checkInstall` compares a configured catalog with the history.  What passes repeats
the newest descriptor of a channel or goes beyond all of them.
-/

namespace CryoDaq
namespace DayFiles

open ObjectGraph Storage Channels

variable {p : Platform}

attribute [local instance] Entry.decidableEqBytes
attribute [local irreducible] canonicalBytes

/-- What the calls on a daily file raise.  A locked file is told with the time at which the error is
handled. -/
inductive Raised
  | diskFull
  | locked (now : Float)
  | operational
  | integrity
  | type (message : String)
  | value (message : String)
  | overflow
  | runtime (message : String)
  | envelope (cause : EnvelopeRefusal)
  | storage (message : String) (cause : Option EnvelopeRefusal)

/-- A row of `channel_descriptors`. -/
structure DescriptorRow where
  descriptorHash : CodePoints
  channelId : CodePoints
  instrumentId : CodePoints
  sourceKey : CodePoints
  descriptorRevision : ℤ
  envelopeJson : ByteArray
deriving DecidableEq

def rowOfEnvelope (e : PersistedChannelEnvelopeV1 p) : DescriptorRow where
  descriptorHash := e.descriptorHash
  channelId := e.channelId
  instrumentId := e.instrumentId
  sourceKey := e.sourceKey
  descriptorRevision := e.descriptorRevision
  envelopeJson := e.canonicalJson

def rowOf (d : ChannelDescriptorV1 p) : DescriptorRow := rowOfEnvelope (envelopeOf d)

def maxCatalogEnvelopeBytes : ℕ := maxCatalogDescriptors * maxPersistedEnvelopeBytes

/-- `ORDER BY channel_id, descriptor_revision` -/
def DescriptorRow.before (r s : DescriptorRow) : Prop :=
  r.channelId < s.channelId ∨
    r.channelId = s.channelId ∧ r.descriptorRevision ≤ s.descriptorRevision

instance : DecidableRel DescriptorRow.before := fun _ _ =>
  inferInstanceAs (Decidable (_ ∨ _ ∧ _))

structure RowMessages where
  corrupt : String
  notCanonical : String
  disagrees : String

def rowEnvelope (messages : RowMessages) (row : DescriptorRow) :
    Except Raised (PersistedChannelEnvelopeV1 p) := do
  let envelope ← (decodePersistedChannelEnvelope row.envelopeJson).mapError fun cause =>
    .storage messages.corrupt (some cause)
  ensure (row.envelopeJson = envelope.canonicalJson) (.storage messages.notCanonical none)
  ensure (row = rowOfEnvelope envelope) (.storage messages.disagrees none)
  return envelope

/-- The messages of `_load_envelopes`. -/
def loadMessages : RowMessages where
  corrupt := "persisted descriptor envelope is corrupt"
  notCanonical := "persisted descriptor envelope is not exact canonical bytes"
  disagrees := "descriptor SQL indexes disagree with envelope authority"

def loadEnvelopes (rows : List DescriptorRow) :
    Except Raised (List (PersistedChannelEnvelopeV1 p)) := do
  let sizes := rows.map fun r => r.envelopeJson.size
  ensure (rows.length ≤ maxCatalogDescriptors ∧ (∀ n ∈ sizes, n ≤ maxPersistedEnvelopeBytes) ∧
      sizes.sum ≤ maxCatalogEnvelopeBytes)
    (.storage "descriptor catalog exceeds bounded storage limits" none)
  let result ← (rows.insertionSort DescriptorRow.before).mapM (rowEnvelope loadMessages)
  (validateCatalogUpdate [] (result.map fun e => e.descriptor)).mapError fun cause =>
    .storage "persisted descriptor history is invalid" (some (.fault cause))
  return result

structure Catalogued (ds : List (ChannelDescriptorV1 p)) : Prop where
  length : ds.length ≤ maxCatalogDescriptors
  authoritative : ∀ d ∈ ds, d.quantity ≠ .legacyUnknown
  agree : ∀ d ∈ ds, ∀ e ∈ ds, Agree d e

theorem rowEnvelope_eq_ok {messages : RowMessages} {row : DescriptorRow}
    {e : PersistedChannelEnvelopeV1 p} : rowEnvelope messages row = .ok e ↔
      ∃ d, d.quantity ≠ .legacyUnknown ∧ e = envelopeOf d ∧ row = rowOf d := by
  simp only [rowEnvelope, bind_eq_ok, mapError_eq_ok, ensure_eq_ok, exists_unit, pure_eq_ok]
  constructor
  · rintro ⟨e, hdecode, _, hrow, rfl⟩
    obtain ⟨hquantity, he⟩ := decode_eq_ok hdecode
    refine ⟨e.descriptor, hquantity, he, ?_⟩
    rw [rowOf, ← he]
    exact hrow
  · rintro ⟨d, hquantity, rfl, rfl⟩
    exact ⟨envelopeOf d, decode_envelopeOf hquantity, rfl, rfl, rfl⟩

theorem sum_le_length_mul {l : List ℕ} {b : ℕ} (h : ∀ n ∈ l, n ≤ b) : l.sum ≤ l.length * b := by
  induction l with
  | nil => exact Nat.zero_le _
  | cons n l ih =>
      have hhead : n ≤ b := h n (List.mem_cons_self ..)
      have htail := ih fun m hm => h m (List.mem_cons_of_mem _ hm)
      rw [List.sum_cons, List.length_cons, Nat.add_mul, Nat.one_mul]
      omega

theorem mapM_eq_ok {α β ε : Type} {f : α → Except ε β} {l : List α} {m : List β} :
    l.mapM f = .ok m ↔ List.Forall₂ (fun a b => f a = .ok b) l m := by
  induction l generalizing m with
  | nil => simp [List.mapM_nil, eq_comm, pure, Except.pure]
  | cons a l ih =>
      simp only [List.mapM_cons, bind_eq_ok, pure_eq_ok, ih]
      constructor
      · rintro ⟨b, hb, m, hm, rfl⟩
        exact .cons hb hm
      · rintro (_ | ⟨hb, hm⟩)
        exact ⟨_, hb, _, hm, rfl⟩

theorem mapM_rowEnvelope {messages : RowMessages} {rows : List DescriptorRow}
    {es : List (PersistedChannelEnvelopeV1 p)} (h : rows.mapM (rowEnvelope messages) = .ok es) :
    ∃ ds : List (ChannelDescriptorV1 p), (∀ d ∈ ds, d.quantity ≠ .legacyUnknown) ∧
      rows = ds.map rowOf ∧
      es = ds.map envelopeOf := by
  rw [mapM_eq_ok] at h
  induction h with
  | nil => exact ⟨[], by simp, rfl, rfl⟩
  | @cons row e rows es hrow _ ih =>
      obtain ⟨ds, hquantity, rfl, rfl⟩ := ih
      obtain ⟨d, hlegacy, rfl, rfl⟩ := rowEnvelope_eq_ok.mp hrow
      refine ⟨d :: ds, fun c hc => ?_, rfl, rfl⟩
      rcases List.mem_cons.mp hc with rfl | hc
      · exact hlegacy
      · exact hquantity c hc

theorem mapM_rowOf {messages : RowMessages} {ds : List (ChannelDescriptorV1 p)}
    (h : ∀ d ∈ ds, d.quantity ≠ .legacyUnknown) :
    (ds.map rowOf).mapM (rowEnvelope messages) = .ok (ds.map envelopeOf) := by
  rw [mapM_eq_ok, List.forall₂_map_left_iff, List.forall₂_map_right_iff, List.forall₂_same]
  exact fun d hd => rowEnvelope_eq_ok.mpr ⟨d, h d hd, rfl, rfl⟩

theorem exists_map_rowOf {P : ChannelDescriptorV1 p → Prop} {rows : List DescriptorRow}
    (h : ∀ r ∈ rows, ∃ d, P d ∧ rowOf d = r) :
    ∃ ds : List (ChannelDescriptorV1 p), (∀ d ∈ ds, P d) ∧ ds.map rowOf = rows := by
  induction rows with
  | nil => exact ⟨[], by simp, rfl⟩
  | cons r rows ih =>
      obtain ⟨d, hd, rfl⟩ := h r (List.mem_cons_self ..)
      obtain ⟨ds, hds, rfl⟩ := ih fun r hr => h r (List.mem_cons_of_mem _ hr)
      refine ⟨d :: ds, fun e he => ?_, rfl⟩
      rcases List.mem_cons.mp he with rfl | he
      · exact hd
      · exact hds e he

theorem rowOf_injective {d e : ChannelDescriptorV1 p} (hd : d.quantity ≠ .legacyUnknown)
    (he : e.quantity ≠ .legacyUnknown) (h : rowOf d = rowOf e) : d = e := by
  have hjson : (envelopeOf d).canonicalJson = (envelopeOf e).canonicalJson :=
    congrArg DescriptorRow.envelopeJson h
  have hsame : envelopeOf d = envelopeOf e := by
    have hread := decode_envelopeOf hd
    rw [hjson, decode_envelopeOf he] at hread
    exact (Except.ok.inj hread).symm
  exact congrArg PersistedChannelEnvelopeV1.descriptor hsame

theorem loadEnvelopes_eq_ok {rows : List DescriptorRow}
    {es : List (PersistedChannelEnvelopeV1 p)} : loadEnvelopes rows = .ok es ↔
      ∃ ds : List (ChannelDescriptorV1 p), Catalogued ds ∧
        rows.insertionSort DescriptorRow.before = ds.map rowOf ∧ es = ds.map envelopeOf := by
  have hperm := List.perm_insertionSort DescriptorRow.before rows
  simp only [loadEnvelopes, bind_eq_ok, ensure_eq_ok, exists_unit, mapError_eq_ok, pure_eq_ok,
    validateCatalogUpdate_eq_ok]
  constructor
  · rintro ⟨_, es, hload, hupdate, rfl⟩
    obtain ⟨ds, hquantity, hrows, rfl⟩ := mapM_rowEnvelope hload
    have hds : (ds.map envelopeOf).map (fun e => e.descriptor) = ds := by
      rw [List.map_map]
      exact List.map_id ds
    rw [hds] at hupdate
    exact ⟨ds, ⟨hupdate.proposed_length, hquantity, hupdate.agree⟩, hrows, rfl⟩
  · rintro ⟨ds, hcatalogued, hrows, rfl⟩
    have hmem : ∀ r ∈ rows, ∃ d ∈ ds, rowOf d = r := by
      intro r hr
      have hr' := hperm.mem_iff.mpr hr
      rw [hrows] at hr'
      exact List.mem_map.mp hr'
    have hsizes : ∀ n ∈ rows.map (fun r => r.envelopeJson.size),
        n ≤ maxPersistedEnvelopeBytes := by
      intro n hn
      obtain ⟨r, hr, rfl⟩ := List.mem_map.mp hn
      obtain ⟨d, _, rfl⟩ := hmem r hr
      exact size_envelope d
    have hlength : rows.length = ds.length := by
      rw [← hperm.length_eq, hrows, List.length_map]
    have hds : (ds.map envelopeOf).map (fun e => e.descriptor) = ds := by
      rw [List.map_map]
      exact List.map_id ds
    refine ⟨⟨hlength.trans_le hcatalogued.length, hsizes, ?_⟩, _, ?_, ?_, rfl⟩
    · refine (sum_le_length_mul hsizes).trans ?_
      rw [List.length_map, hlength, maxCatalogEnvelopeBytes]
      exact Nat.mul_le_mul_right maxPersistedEnvelopeBytes hcatalogued.length
    · rw [hrows]
      exact mapM_rowOf hcatalogued.authoritative
    · rw [hds]
      exact ⟨Nat.zero_le _, hcatalogued.length, hcatalogued.agree,
        fun d _ => .inr fun e he => absurd he List.not_mem_nil⟩

/-- Descriptors in the order in which they were stored.  The revisions of a channel go up. -/
structure History (ds : List (ChannelDescriptorV1 p)) : Prop extends Catalogued ds where
  forward : ds.Pairwise fun d e =>
    d.channelId = e.channelId → d.descriptorRevision < e.descriptorRevision

theorem history_nil : History ([] : List (ChannelDescriptorV1 p)) where
  length := Nat.zero_le _
  authoritative := by simp
  agree := by simp
  forward := .nil

theorem History.load {ds : List (ChannelDescriptorV1 p)} (h : History ds) :
    ∃ es : List (ChannelDescriptorV1 p), loadEnvelopes (ds.map rowOf) = .ok (es.map envelopeOf) ∧
      ∀ d, d ∈ es ↔ d ∈ ds := by
  have hperm := List.perm_insertionSort DescriptorRow.before (ds.map rowOf)
  obtain ⟨es, hes, hmap⟩ := exists_map_rowOf (P := fun d => d ∈ ds) fun r hr => by
    obtain ⟨d, hd, hrow⟩ := List.mem_map.mp (hperm.mem_iff.mp hr)
    exact ⟨d, hd, hrow⟩
  have hback : ∀ d ∈ ds, d ∈ es := by
    intro d hd
    have hrow := hperm.mem_iff.mpr (List.mem_map_of_mem (f := rowOf) hd)
    rw [← hmap] at hrow
    obtain ⟨e, he, hsame⟩ := List.mem_map.mp hrow
    rw [← rowOf_injective (h.authoritative e (hes e he)) (h.authoritative d hd) hsame]
    exact he
  have hlength : es.length = ds.length := by
    have hsame := hperm.length_eq
    rw [← hmap, List.length_map, List.length_map] at hsame
    exact hsame
  refine ⟨es, loadEnvelopes_eq_ok.mpr ⟨es, ⟨hlength.trans_le h.length,
    fun d hd => h.authoritative d (hes d hd), fun d hd e he => h.agree d (hes d hd) e (hes e he)⟩,
    hmap.symm, rfl⟩, fun d => ⟨hes d, hback d⟩⟩

theorem catalogued_of_load {ds : List (ChannelDescriptorV1 p)}
    {es : List (PersistedChannelEnvelopeV1 p)} (hds : ∀ d ∈ ds, d.quantity ≠ .legacyUnknown)
    (h : loadEnvelopes (ds.map rowOf) = .ok es) : Catalogued ds := by
  obtain ⟨ds', hcatalogued, hrows, rfl⟩ := loadEnvelopes_eq_ok.mp h
  have hperm := List.perm_insertionSort DescriptorRow.before (ds.map rowOf)
  rw [hrows] at hperm
  have hmem : ∀ d ∈ ds, d ∈ ds' := by
    intro d hd
    obtain ⟨e, he, hsame⟩ := List.mem_map.mp (hperm.mem_iff.mpr (List.mem_map_of_mem hd))
    rw [← rowOf_injective (hcatalogued.authoritative e he) (hds d hd) hsame]
    exact he
  refine ⟨?_, hds, fun d hd e he => hcatalogued.agree d (hmem d hd) e (hmem e he)⟩
  have hlength := hperm.length_eq
  rw [List.length_map, List.length_map] at hlength
  exact hlength.symm.trans_le hcatalogued.length

def snapshotCatalog (catalog : ChannelCatalog p) : Except EnvelopeRefusal (ChannelCatalog p) := do
  let envelopes ← catalog.descriptors.mapM fromDescriptor
  let descriptors ← envelopes.mapM fun e =>
    (decodePersistedChannelEnvelope (p := p) e.canonicalJson).map fun e => e.descriptor
  (channelCatalog descriptors []).mapError .fault

/-- The checks of a configured catalog against the stored history. -/
def checkInstall (configured : ChannelCatalog p) (rows : List DescriptorRow) :
    Except Raised Unit := do
  let existing ← loadEnvelopes rows
  let history := existing.map fun e => e.descriptor
  let checks := do
    validateCatalogUpdate history configured.descriptors
    let _ ← channelCatalog configured.descriptors history
    return ()
  checks.mapError fun cause =>
    .storage "configured descriptor catalog conflicts with persisted history"
      (some (.fault cause))

/-- Whether the row of an envelope is already there; another row with its hash is an error. -/
def priorRow (row : DescriptorRow) (rows : List DescriptorRow) : Except Raised Bool :=
  match rows.find? fun r => r.descriptorHash = row.descriptorHash with
  | none => .ok false
  | some prior => do
      ensure (prior = row) (.storage "descriptor hash collision or non-idempotent row" none)
      return true

/-- `INSERT INTO channel_descriptors` -/
def insertRow (row : DescriptorRow) (rows : List DescriptorRow) :
    Except Raised (List DescriptorRow) := do
  ensure (1 ≤ row.descriptorRevision) .integrity
  ensure (∀ r ∈ rows, r.descriptorHash ≠ row.descriptorHash ∧
      (r.channelId, r.descriptorRevision) ≠ (row.channelId, row.descriptorRevision) ∧
      (r.instrumentId, r.sourceKey, r.descriptorRevision) ≠
        (row.instrumentId, row.sourceKey, row.descriptorRevision)) .integrity
  return rows ++ [row]

theorem decode_fromDescriptor {ds ds' : List (ChannelDescriptorV1 p)}
    {es : List (PersistedChannelEnvelopeV1 p)}
    (hfrom : List.Forall₂ (fun d e => fromDescriptor d = .ok e) ds es)
    (hdecode : List.Forall₂ (fun e d =>
      (decodePersistedChannelEnvelope (p := p) e.canonicalJson).map (fun e => e.descriptor) = .ok d)
      es ds') : ds' = ds := by
  induction hfrom generalizing ds' with
  | nil =>
      cases hdecode
      rfl
  | @cons d e ds es hd _ ih =>
      obtain ⟨hquantity, rfl⟩ := fromDescriptor_eq_ok.mp hd
      cases hdecode with
      | cons hhead htail =>
          rw [decode_envelopeOf hquantity] at hhead
          rw [ih htail, ← Except.ok.inj hhead]
          rfl

theorem snapshotCatalog_eq_ok {catalog configured : ChannelCatalog p}
    (h : snapshotCatalog catalog = .ok configured) :
    channelCatalog catalog.descriptors [] = .ok configured := by
  simp only [snapshotCatalog, bind_eq_ok, mapM_eq_ok, mapError_eq_ok] at h
  obtain ⟨envelopes, hfrom, descriptors, hdecode, hcatalog⟩ := h
  rw [← decode_fromDescriptor hfrom hdecode]
  exact hcatalog

theorem checkInstall_eq_ok {configured : ChannelCatalog p} {ds : List (ChannelDescriptorV1 p)}
    (hds : History ds) (h : checkInstall configured (ds.map rowOf) = .ok ()) :
    ∃ prior : List (ChannelDescriptorV1 p), (∀ d, d ∈ prior ↔ d ∈ ds) ∧
      CatalogOk configured.descriptors prior := by
  obtain ⟨prior, hload, hmem⟩ := hds.load
  simp only [checkInstall, hload, bind_eq_ok, mapError_eq_ok, exists_unit, pure_eq_ok] at h
  obtain ⟨_, hexisting, _, c, hcatalog, _⟩ := h
  cases hexisting
  have hprior : (prior.map envelopeOf).map (fun e => e.descriptor) = prior := by
    rw [List.map_map]
    exact List.map_id prior
  rw [hprior] at hcatalog
  exact ⟨prior, hmem, channelCatalog_eq_ok.mp ⟨c, hcatalog⟩⟩

theorem priorRow_eq_true {row : DescriptorRow} {rows : List DescriptorRow}
    (h : priorRow row rows = .ok true) : row ∈ rows := by
  unfold priorRow at h
  split at h
  case h_1 => cases h
  case h_2 prior hfind =>
    simp only [bind_eq_ok, ensure_eq_ok, exists_unit, pure_eq_ok] at h
    exact h.1 ▸ List.mem_of_find?_eq_some hfind

theorem priorRow_eq_false {row : DescriptorRow} {rows : List DescriptorRow}
    (h : priorRow row rows = .ok false) : ∀ r ∈ rows, r.descriptorHash ≠ row.descriptorHash := by
  unfold priorRow at h
  split at h
  case h_1 hfind =>
    intro r hr
    have hnone := List.find?_eq_none.mp hfind r hr
    exact fun heq => hnone (decide_eq_true heq)
  case h_2 =>
    simp only [bind_eq_ok, pure_eq_ok, Bool.true_eq_false, and_false, exists_false] at h

/-- The rows while a catalog is installed: those of new descriptors come after the old ones. -/
structure Installing (ds done : List (ChannelDescriptorV1 p)) (rows : List DescriptorRow)
    (new : List (ChannelDescriptorV1 p)) : Prop where
  rows_eq : rows = (ds ++ new).map rowOf
  sublist : new.Sublist done
  forward : ∀ d ∈ new, Forward ds d
  present : ∀ d ∈ done, rowOf d ∈ rows

theorem installing_nil (ds : List (ChannelDescriptorV1 p)) :
    Installing ds [] (ds.map rowOf) [] where
  rows_eq := by rw [List.append_nil]
  sublist := .refl []
  forward := by simp
  present := by simp

theorem Installing.skip {ds done new : List (ChannelDescriptorV1 p)} {rows : List DescriptorRow}
    (h : Installing ds done rows new) {d : ChannelDescriptorV1 p} (hd : rowOf d ∈ rows) :
    Installing ds (done ++ [d]) rows new where
  rows_eq := h.rows_eq
  sublist := h.sublist.trans (List.sublist_append_left _ _)
  forward := h.forward
  present := by
    intro e he
    rcases List.mem_append.mp he with he | he
    · exact h.present e he
    · rw [List.mem_singleton.mp he]
      exact hd

theorem Installing.insert {ds done new : List (ChannelDescriptorV1 p)}
    {rows : List DescriptorRow} (h : Installing ds done rows new) {d : ChannelDescriptorV1 p}
    (hnew : ∀ r ∈ rows, r.descriptorHash ≠ (rowOf d).descriptorHash)
    (hupdate : (∃ e ∈ ds, e.identity = d.identity) ∨ Forward ds d) :
    Installing ds (done ++ [d]) (rows ++ [rowOf d]) (new ++ [d]) where
  rows_eq := by
    rw [h.rows_eq]
    simp only [List.map_append, List.append_assoc, List.map_cons, List.map_nil]
  sublist := h.sublist.append (.refl [d])
  forward := by
    intro e he
    rcases List.mem_append.mp he with he | he
    · exact h.forward e he
    · rw [List.mem_singleton.mp he]
      refine hupdate.resolve_left ?_
      rintro ⟨f, hf, hidentity⟩
      have hrow : rowOf f ∈ rows := by
        rw [h.rows_eq]
        exact List.mem_map_of_mem (List.mem_append_left _ hf)
      exact hnew _ hrow (congrArg codePoints (congrArg (fun i => i.2.2.1) hidentity))
  present := by
    intro e he
    rcases List.mem_append.mp he with he | he
    · exact List.mem_append_left _ (h.present e he)
    · rw [List.mem_singleton.mp he]
      exact List.mem_append_right _ (List.mem_singleton_self _)

theorem Installing.history {ds done new configured prior : List (ChannelDescriptorV1 p)}
    {rows : List DescriptorRow} (h : Installing ds done rows new) (hds : History ds)
    (hdone : done = configured) (hok : CatalogOk configured prior)
    {es : List (PersistedChannelEnvelopeV1 p)} (hload : loadEnvelopes rows = .ok es) :
    History (ds ++ new) := by
  subst hdone
  have hauthoritative : ∀ d ∈ ds ++ new, d.quantity ≠ .legacyUnknown := by
    intro d hd
    rcases List.mem_append.mp hd with hd | hd
    · exact hds.authoritative d hd
    · exact hok.authoritative d (h.sublist.subset hd)
  rw [h.rows_eq] at hload
  refine ⟨catalogued_of_load hauthoritative hload, ?_⟩
  refine List.pairwise_append.mpr ⟨hds.forward, ?_, ?_⟩
  · exact (hok.apart.sublist h.sublist).imp fun happart hsame => absurd hsame happart.1
  · exact fun d hd e he => h.forward e he d hd

end DayFiles
end CryoDaq
