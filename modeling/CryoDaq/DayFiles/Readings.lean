import CryoDaq.DayFiles.Catalog
import CryoDaq.Python.Time

/-!
# Readings of a daily file

A row of `readings` has a value that is a number and the status that tells whether it was measured.
With a catalog it also has the hash of the descriptor of its channel.

**Sentinels.**  A value that was not measured is stored as `sentinel`; `decode` gives NaN for it.

**Reading back.**  `readSqliteReading` resolves the hash of a row by the catalog of its file.  In a
`Sound` file this always succeeds, with the descriptor that the row was bound to.
-/

namespace CryoDaq
namespace DayFiles

open ObjectGraph Storage Channels
open Acquisition (ChannelStatus)

variable {p : Platform}

attribute [local instance] Entry.decidableEqBytes
attribute [local irreducible] canonicalBytes

/-- A `datetime` by its clock face, in microseconds, and its offset from UTC. -/
structure DateTime where
  face : ℤ
  offset : Option ℤ

/-- The instant, where a `datetime` without an offset counts as UTC. -/
def DateTime.instant (t : DateTime) : ℤ := t.face - t.offset.getD 0

/-- The calendar day of an instant or of a clock face. -/
def calendarDay (us : ℤ) : ℤ := us / 86400000000

/-- A `Reading`; its value may be `None`. -/
structure Sample where
  timestamp : DateTime
  instrumentId : CodePoints
  channel : CodePoints
  value : Option Float
  unit : CodePoints
  status : ChannelStatus

/-- `timestamp.timestamp()`, where a `datetime` without an offset is taken for local time. -/
def posixTimestamp (localTimestamp : ℤ → Float) (t : DateTime) : Float :=
  match t.offset with
  | some offset => totalSeconds (t.face - offset)
  | none => localTimestamp t.face

def sentinel : Float := -8.888e88

def isSentinel (value : Float) : Bool := value == sentinel

def nan : Float := 0.0 / 0.0

def encode (value : Option Float) (status : ChannelStatus) : Float × String :=
  match value with
  | some v => if status = .ok ∧ v.isFinite then (v, statusValue status)
      else (sentinel, statusValue status)
  | none => (sentinel, statusValue status)

/-- `str.lower` of an ASCII text. -/
def lower (s : String) : String := String.ofList (s.toList.map Char.toLower)

def decode (value : Float) (status : String) : Float :=
  if lower status ≠ statusValue .ok ∨ isSentinel value ∨ !value.isFinite then nan else value

/-- A column of type REAL has no negative zero. -/
def realColumn (x : Float) : Float := if x == 0.0 then 0.0 else x

/-- A row of `readings`.  `call` is the call that wrote it. -/
structure ReadingRow where
  timestamp : Float
  instrumentId : CodePoints
  channel : CodePoints
  value : Float
  unit : CodePoints
  status : String
  descriptorHash : Option CodePoints
  call : ℕ × ℕ

/-- A daily file.  The rows of `readings` have the ids 1, 2, …. -/
structure DayFile where
  descriptors : List DescriptorRow
  readings : List ReadingRow

/-- `PRAGMA foreign_key_check` finds nothing. -/
def ForeignKeys (descriptors : List DescriptorRow) (readings : List ReadingRow) : Prop :=
  ∀ r ∈ readings, ∀ h ∈ r.descriptorHash, ∃ row ∈ descriptors, row.descriptorHash = h

instance (descriptors : List DescriptorRow) (readings : List ReadingRow) :
    Decidable (ForeignKeys descriptors readings) :=
  inferInstanceAs (Decidable (∀ r ∈ readings, ∀ h ∈ r.descriptorHash,
    ∃ row ∈ descriptors, row.descriptorHash = h))

/-- `INSERT INTO readings` -/
def insertReadings (rows : List ReadingRow) (f : DayFile) : Except Raised DayFile := do
  ensure (ForeignKeys f.descriptors rows) .integrity
  return { f with readings := f.readings ++ rows }

def descriptorHashForReading (catalog : ChannelCatalog p) (texts : ReadingTexts) :
    Except Raised CodePoints :=
  match catalog.byChannelId.get? texts.channel with
  | none => .error (.storage "descriptor-required reading has an unknown channel_id" none)
  | some descriptor => do
      ensure (descriptor.instrumentId = texts.instrumentId)
        (.storage "reading instrument_id disagrees with descriptor" none)
      ensure (descriptor.unit = texts.unit) (.storage "reading unit disagrees with descriptor" none)
      return codePoints descriptor.descriptorHash

def Sample.texts (r : Sample) : ReadingTexts := ⟨r.instrumentId, r.channel, r.unit⟩

/-- Whether a reading is dropped: it has no value, or its value and its status disagree. -/
def Sample.refused (r : Sample) : Bool :=
  match r.value with
  | none => true
  | some v => r.status = .ok && (!v.isFinite || isSentinel v)

/-- `r.instrument_id or "unknown"` -/
def storedInstrument (instrumentId : CodePoints) : CodePoints :=
  if instrumentId = [] then codePoints "unknown" else instrumentId

def boundHash (catalog : Option (ChannelCatalog p)) (texts : ReadingTexts) :
    Except Raised (Option CodePoints) :=
  match catalog with
  | none => .ok none
  | some catalog => (descriptorHashForReading catalog texts).map some

/-- The body of the loop over the readings: the row of a reading that is kept. -/
def storedRow (localTimestamp : ℤ → Float) (catalog : Option (ChannelCatalog p)) (call : ℕ × ℕ)
    (r : Sample) : Except Raised (Option ReadingRow) :=
  if r.refused then .ok none
  else do
    let stored := encode r.value r.status
    let hash ← boundHash catalog r.texts
    return some
      { timestamp := realColumn (posixTimestamp localTimestamp r.timestamp)
        instrumentId := storedInstrument r.instrumentId
        channel := r.channel
        value := realColumn stored.1
        unit := r.unit
        status := stored.2
        descriptorHash := hash
        call := call }

def dayRows (localTimestamp : ℤ → Float) (catalog : Option (ChannelCatalog p)) (call : ℕ × ℕ)
    (batch : List Sample) : Except Raised (List ReadingRow) := do
  let rows ← batch.mapM (storedRow localTimestamp catalog call)
  return rows.reduceOption

/-- The messages of `resolve_sqlite_descriptor`. -/
def resolveMessages : RowMessages where
  corrupt := "present descriptor envelope is corrupt"
  notCanonical := "present descriptor envelope is not exact canonical bytes"
  disagrees := "present descriptor indexes disagree with envelope"

def resolveSqliteDescriptor (p : Platform) (f : DayFile) (descriptorHash : Option CodePoints)
    (legacy : ReadingTexts) : Except Raised (ChannelDescriptorV1 p) :=
  match descriptorHash with
  | none => do
      let _ ← loadEnvelopes (p := p) f.descriptors
      ensure (ForeignKeys f.descriptors f.readings)
        (.storage "legacy row database fails foreign-key integrity" none)
      (resolvePersistedChannel none legacy).mapError fun cause =>
        .storage "legacy descriptor" (some cause)
  | some hash => do
      let _ ← loadEnvelopes (p := p) f.descriptors
      ensure (ForeignKeys f.descriptors f.readings)
        (.storage "present descriptor reference fails foreign-key integrity" none)
      match f.descriptors.find? fun row => row.descriptorHash = hash with
      | none => .error (.storage "present descriptor_hash has no catalog row" none)
      | some row => do
          let envelope ← rowEnvelope resolveMessages row
          ensure (legacy =
              ⟨envelope.instrumentId, envelope.channelId, envelope.descriptor.unit⟩)
            (.storage "reading identity disagrees with present descriptor" none)
          return envelope.descriptor

/-- `ResolvedSQLiteReading` -/
structure ResolvedReading (p : Platform) where
  id : ℤ
  timestamp : Float
  instrumentId : CodePoints
  channel : CodePoints
  value : Float
  unit : CodePoints
  status : String
  descriptor : ChannelDescriptorV1 p

def readSqliteReading (p : Platform) (f : DayFile) (readingId : ℤ) :
    Except Raised (ResolvedReading p) := do
  ensure (1 ≤ readingId) (.type "reading_id must be a positive exact integer")
  match f.readings[(readingId - 1).toNat]? with
  | none => .error (.storage "hot reading row does not exist" none)
  | some row => do
      let descriptor ← resolveSqliteDescriptor p f row.descriptorHash
        ⟨row.instrumentId, row.channel, row.unit⟩
      return ⟨readingId, row.timestamp, row.instrumentId, row.channel, row.value, row.unit,
        row.status, descriptor⟩

/-! ## Rows and their readings -/

/-- What a reader is shown of a reading that was stored. -/
def Sample.presented (r : Sample) : Float :=
  match r.value with
  | some v => if r.status = .ok ∧ v.isFinite then realColumn v else nan
  | none => nan

structure Records (localTimestamp : ℤ → Float) (r : Sample) (row : ReadingRow) : Prop where
  timestamp : row.timestamp = realColumn (posixTimestamp localTimestamp r.timestamp)
  instrumentId : row.instrumentId = storedInstrument r.instrumentId
  channel : row.channel = r.channel
  unit : row.unit = r.unit
  status : row.status = statusValue r.status
  value : decode row.value row.status = r.presented

structure Bound (d : ChannelDescriptorV1 p) (row : ReadingRow) : Prop where
  hash : row.descriptorHash = some (codePoints d.descriptorHash)
  texts : (⟨row.instrumentId, row.channel, row.unit⟩ : ReadingTexts) =
    ⟨d.instrumentId, d.channelId, d.unit⟩

theorem isFinite_realColumn {x : Float} (h : x.isFinite = true) :
    (realColumn x).isFinite = true := by
  unfold realColumn
  split
  case isTrue => decide
  case isFalse => exact h

set_option maxRecDepth 20000 in
theorem isSentinel_zero : isSentinel 0.0 = false := by decide

theorem isSentinel_realColumn {x : Float} (h : isSentinel x = false) :
    isSentinel (realColumn x) = false := by
  unfold realColumn
  split
  case isTrue => exact isSentinel_zero
  case isFalse => exact h

theorem lower_statusValue (status : ChannelStatus) :
    lower (statusValue status) ≠ statusValue .ok ↔ status ≠ .ok := by
  cases status <;> decide

theorem decode_encode {r : Sample} (h : r.refused = false) :
    decode (realColumn (encode r.value r.status).1) (encode r.value r.status).2 = r.presented := by
  obtain ⟨timestamp, instrumentId, channel, value, unit, status⟩ := r
  cases value with
  | none => cases h
  | some v =>
      by_cases hok : status = .ok
      · subst hok
        have hrefused : (!v.isFinite || isSentinel v) = false := h
        rw [Bool.or_eq_false_iff, Bool.not_eq_false'] at hrefused
        have hfinite := isFinite_realColumn hrefused.1
        have hsentinel := isSentinel_realColumn hrefused.2
        have hlower := mt (lower_statusValue .ok).mp (not_not.mpr rfl)
        simp [encode, decode, Sample.presented, hrefused.1, hfinite, hsentinel, hlower]
      · have hlower := (lower_statusValue status).mpr hok
        simp [encode, decode, Sample.presented, hok, hlower]

theorem descriptorHashForReading_eq_ok {catalog : ChannelCatalog p} {texts : ReadingTexts}
    {hash : CodePoints} (h : descriptorHashForReading catalog texts = .ok hash) :
    ∃ d, catalog.byChannelId.get? texts.channel = some d ∧ d.instrumentId = texts.instrumentId ∧
      d.unit = texts.unit ∧ hash = codePoints d.descriptorHash := by
  unfold descriptorHashForReading at h
  split at h
  case h_1 => cases h
  case h_2 d hd =>
    simp only [bind_eq_ok, ensure_eq_ok, exists_unit, pure_eq_ok] at h
    exact ⟨d, hd, h.1, h.2.1, h.2.2.symm⟩

theorem storedInstrument_of_ne {instrumentId : CodePoints} (h : instrumentId ≠ []) :
    storedInstrument instrumentId = instrumentId := if_neg h

theorem instrumentId_ne_nil (d : ChannelDescriptorV1 p) : d.instrumentId ≠ [] := by
  intro hnil
  obtain ⟨_, _, n, hn, hne, _⟩ := d.valid.instrumentId.1
  rw [hnil] at hn
  cases hn
  exact hne rfl

structure Kept (localTimestamp : ℤ → Float) (catalog : Option (ChannelCatalog p)) (call : ℕ × ℕ)
    (r : Sample) (row : ReadingRow) : Prop where
  records : Records localTimestamp r row
  call_eq : row.call = call
  unbound : catalog = none → row.descriptorHash = none
  bound : ∀ c, catalog = some c → ∃ d ∈ c.descriptors, Bound d row

theorem storedRow_eq_ok {localTimestamp : ℤ → Float} {catalog : Option (ChannelCatalog p)}
    {call : ℕ × ℕ} {r : Sample} {o : Option ReadingRow}
    (hstands : ∀ c, catalog = some c → c.Stands c.descriptors)
    (h : storedRow localTimestamp catalog call r = .ok o) :
    (r.refused = true ∧ o = none) ∨
      (r.refused = false ∧ ∃ row, o = some row ∧ Kept localTimestamp catalog call r row) := by
  unfold storedRow at h
  by_cases hrefused : r.refused = true
  · rw [if_pos hrefused] at h
    exact .inl ⟨hrefused, (Except.ok.inj h).symm⟩
  · rw [if_neg hrefused] at h
    have hkept : r.refused = false := Bool.of_not_eq_true hrefused
    simp only [bind_eq_ok, pure_eq_ok] at h
    obtain ⟨hash, hhash, rfl⟩ := h
    have hrecords : Records localTimestamp r
        { timestamp := realColumn (posixTimestamp localTimestamp r.timestamp)
          instrumentId := storedInstrument r.instrumentId
          channel := r.channel
          value := realColumn (encode r.value r.status).1
          unit := r.unit
          status := (encode r.value r.status).2
          descriptorHash := hash
          call := call } := by
      refine ⟨rfl, rfl, rfl, rfl, ?_, decode_encode hkept⟩
      unfold encode
      split
      case h_1 => split <;> rfl
      case h_2 => rfl
    refine .inr ⟨hkept, _, rfl, hrecords, rfl, ?_, ?_⟩
    · rintro rfl
      exact (Except.ok.inj hhash).symm
    · rintro c rfl
      cases hlookup : descriptorHashForReading c r.texts with
      | error e =>
          rw [boundHash, hlookup] at hhash
          cases hhash
      | ok found =>
          rw [boundHash, hlookup] at hhash
          cases hhash
          obtain ⟨d, hget, hinstrument, hunit, rfl⟩ := descriptorHashForReading_eq_ok hlookup
          obtain ⟨hmem, hchannel⟩ := (hstands c rfl).get hget
          refine ⟨d, hmem, rfl, ?_⟩
          have hsame : storedInstrument r.instrumentId = d.instrumentId := by
            rw [hinstrument]
            refine storedInstrument_of_ne fun hnil => instrumentId_ne_nil d ?_
            rw [hinstrument]
            exact hnil
          rw [ReadingTexts.mk.injEq]
          exact ⟨hsame, hchannel.symm, hunit.symm⟩

theorem dayRows_eq_ok {localTimestamp : ℤ → Float} {catalog : Option (ChannelCatalog p)}
    {call : ℕ × ℕ} {batch : List Sample} {rows : List ReadingRow}
    (hstands : ∀ c, catalog = some c → c.Stands c.descriptors)
    (h : dayRows localTimestamp catalog call batch = .ok rows) :
    List.Forall₂ (Kept localTimestamp catalog call) (batch.filter fun r => !r.refused) rows := by
  simp only [dayRows, bind_eq_ok, pure_eq_ok, mapM_eq_ok] at h
  obtain ⟨options, hall, rfl⟩ := h
  induction hall with
  | nil => exact .nil
  | @cons r o batch options hrow _ ih =>
      rcases storedRow_eq_ok hstands hrow with ⟨hrefused, rfl⟩ | ⟨hkept, row, rfl, hrowKept⟩
      · rw [List.filter_cons_of_neg (by simp [hrefused])]
        exact ih
      · rw [List.filter_cons_of_pos (by simp [hkept])]
        exact .cons hrowKept ih

/-- The catalog of the file is a history, and its rows are bound to descriptors of it. -/
structure Sound (p : Platform) (f : DayFile) : Prop where
  history : ∃ ds : List (ChannelDescriptorV1 p), History ds ∧ f.descriptors = ds.map rowOf
  bound : ∀ row ∈ f.readings, row.descriptorHash = none ∨
    ∃ d : ChannelDescriptorV1 p, d.quantity ≠ .legacyUnknown ∧ rowOf d ∈ f.descriptors ∧
      Bound d row

theorem Sound.foreignKeys {f : DayFile} (h : Sound p f) :
    ForeignKeys f.descriptors f.readings := by
  intro row hrow hash hhash
  rcases h.bound row hrow with hnone | ⟨d, _, hd, hbound⟩
  · rw [hnone] at hhash
    cases hhash
  · rw [hbound.hash] at hhash
    cases hhash
    exact ⟨rowOf d, hd, rfl⟩

theorem Sound.mem {f : DayFile} (h : Sound p f) {d : ChannelDescriptorV1 p}
    (hquantity : d.quantity ≠ .legacyUnknown) (hd : rowOf d ∈ f.descriptors) :
    ∃ ds, History ds ∧ f.descriptors = ds.map rowOf ∧ d ∈ ds := by
  obtain ⟨ds, hds, hrows⟩ := h.history
  refine ⟨ds, hds, hrows, ?_⟩
  rw [hrows] at hd
  obtain ⟨e, he, hsame⟩ := List.mem_map.mp hd
  rw [← rowOf_injective (hds.authoritative e he) hquantity hsame]
  exact he

theorem Sound.resolve {f : DayFile} (h : Sound p f) {d : ChannelDescriptorV1 p}
    (hquantity : d.quantity ≠ .legacyUnknown) (hd : rowOf d ∈ f.descriptors) :
    resolveSqliteDescriptor p f (some (codePoints d.descriptorHash))
      ⟨d.instrumentId, d.channelId, d.unit⟩ = .ok d := by
  obtain ⟨ds, hds, hrows, hmem⟩ := h.mem hquantity hd
  obtain ⟨es, hload, _⟩ := hds.load
  have hfind : (f.descriptors.find? fun row =>
      row.descriptorHash = codePoints d.descriptorHash) = some (rowOf d) := by
    cases hfound : f.descriptors.find? fun row =>
        row.descriptorHash = codePoints d.descriptorHash with
    | none =>
        have hnot := List.find?_eq_none.mp hfound (rowOf d) hd
        exact absurd (decide_eq_true rfl) hnot
    | some row =>
        have hrow := List.mem_of_find?_eq_some hfound
        rw [hrows] at hrow
        obtain ⟨e, he, rfl⟩ := List.mem_map.mp hrow
        have hhash : codePoints e.descriptorHash = codePoints d.descriptorHash :=
          of_decide_eq_true (List.find?_some (p := fun row : DescriptorRow =>
            decide (row.descriptorHash = codePoints d.descriptorHash)) hfound)
        have hsame := (hds.agree e he d hmem).hash (codePoints_inj.mp hhash)
        rw [descriptor_eq_of_canonicalJson hsame]
  simp only [resolveSqliteDescriptor, hfind, bind_eq_ok, ensure_eq_ok, exists_unit, pure_eq_ok,
    rowEnvelope_eq_ok]
  refine ⟨_, hrows ▸ hload, h.foreignKeys, envelopeOf d, ⟨d, hquantity, rfl, rfl⟩, rfl, rfl⟩

theorem Sound.resolve_none {f : DayFile} (h : Sound p f) (legacy : ReadingTexts) :
    resolveSqliteDescriptor p f none legacy =
      .ok (.ofValid (legacyFields_valid p legacy.instrumentId legacy.channel legacy.unit)) := by
  obtain ⟨ds, hds, hrows⟩ := h.history
  obtain ⟨es, hload, _⟩ := hds.load
  simp only [resolveSqliteDescriptor, bind_eq_ok, ensure_eq_ok, exists_unit, mapError_eq_ok,
    resolvePersistedChannel, makeDescriptor_eq_ok]
  exact ⟨_, hrows ▸ hload, h.foreignKeys, rfl⟩

theorem Sound.read {f : DayFile} (h : Sound p f) {i : ℕ} {row : ReadingRow}
    (hrow : f.readings[i]? = some row) :
    ∃ d, readSqliteReading p f (i + 1) = .ok ⟨i + 1, row.timestamp, row.instrumentId, row.channel,
        row.value, row.unit, row.status, d⟩ ∧
      (row.descriptorHash = none → d.quantity = .legacyUnknown) ∧
      ∀ e : ChannelDescriptorV1 p, e.quantity ≠ .legacyUnknown → rowOf e ∈ f.descriptors →
        Bound e row → d = e := by
  have hindex : ((i : ℤ) + 1 - 1).toNat = i := by omega
  have hpos : (1 : ℤ) ≤ i + 1 := by omega
  have hread : ∀ d, resolveSqliteDescriptor p f row.descriptorHash
      ⟨row.instrumentId, row.channel, row.unit⟩ = .ok d →
      readSqliteReading p f (i + 1) = .ok ⟨i + 1, row.timestamp, row.instrumentId, row.channel,
        row.value, row.unit, row.status, d⟩ := by
    intro d hd
    simp only [readSqliteReading, hindex, hrow, hd, bind_eq_ok, ensure_eq_ok, exists_unit,
      pure_eq_ok]
    exact ⟨hpos, d, rfl, rfl⟩
  rcases h.bound row (List.mem_of_getElem? hrow) with hnone | ⟨d, hquantity, hd, hbound⟩
  · have hresolve := h.resolve_none ⟨row.instrumentId, row.channel, row.unit⟩
    refine ⟨_, hread _ (by rw [hnone]; exact hresolve), fun _ => rfl, fun e _ _ hbound => ?_⟩
    rw [hbound.hash] at hnone
    cases hnone
  · have hresolve := h.resolve hquantity hd
    rw [← hbound.hash, ← hbound.texts] at hresolve
    refine ⟨d, hread d hresolve, fun hnone => ?_, fun e he hmem hbound' => ?_⟩
    · rw [hbound.hash] at hnone
      cases hnone
    · have hsame := h.resolve he hmem
      rw [← hbound'.hash, ← hbound'.texts, hresolve] at hsame
      exact Except.ok.inj hsame

theorem resolve_eq_ok {f : DayFile} {hash : CodePoints} {legacy : ReadingTexts}
    {d : ChannelDescriptorV1 p} (h : resolveSqliteDescriptor p f (some hash) legacy = .ok d) :
    d.quantity ≠ .legacyUnknown ∧ rowOf d ∈ f.descriptors ∧ hash = codePoints d.descriptorHash ∧
      legacy = ⟨d.instrumentId, d.channelId, d.unit⟩ := by
  simp only [resolveSqliteDescriptor, bind_eq_ok, ensure_eq_ok, exists_unit] at h
  obtain ⟨_, _, _, h⟩ := h
  split at h
  case h_1 => cases h
  case h_2 row hfind =>
    simp only [bind_eq_ok, ensure_eq_ok, exists_unit, pure_eq_ok, rowEnvelope_eq_ok] at h
    obtain ⟨_, ⟨e, hquantity, rfl, rfl⟩, hlegacy, rfl⟩ := h
    have hhash : (rowOf e).descriptorHash = hash :=
      of_decide_eq_true (List.find?_some (p := fun row : DescriptorRow =>
        decide (row.descriptorHash = hash)) hfind)
    exact ⟨hquantity, List.mem_of_find?_eq_some hfind, hhash.symm, hlegacy⟩

theorem Sound.resolve_grows {f g : DayFile} (hg : Sound p g)
    (hgrown : f.descriptors <+: g.descriptors) (hf : Sound p f) {hash : Option CodePoints}
    {legacy : ReadingTexts} {d : ChannelDescriptorV1 p}
    (h : resolveSqliteDescriptor p f hash legacy = .ok d) :
    resolveSqliteDescriptor p g hash legacy = .ok d := by
  cases hash with
  | none =>
      rw [hf.resolve_none] at h
      rw [hg.resolve_none]
      exact h
  | some hash =>
      obtain ⟨hquantity, hmem, rfl, rfl⟩ := resolve_eq_ok h
      exact hg.resolve hquantity (hgrown.subset hmem)

theorem Sound.read_grows {f g : DayFile} (hg : Sound p g)
    (hdescriptors : f.descriptors <+: g.descriptors) (hreadings : f.readings <+: g.readings)
    (hf : Sound p f) {id : ℤ} {x : ResolvedReading p} (h : readSqliteReading p f id = .ok x) :
    readSqliteReading p g id = .ok x := by
  simp only [readSqliteReading, bind_eq_ok, ensure_eq_ok, exists_unit] at h ⊢
  refine ⟨h.1, ?_⟩
  cases hrow : f.readings[(id - 1).toNat]? with
  | none =>
      rw [hrow] at h
      cases h.2
  | some row =>
      have hlater : g.readings[(id - 1).toNat]? = some row := by
        obtain ⟨more, hmore⟩ := hreadings
        rw [← hmore, List.getElem?_append_left (List.getElem?_eq_some_iff.mp hrow).1, hrow]
      rw [hrow] at h
      rw [hlater]
      simp only [bind_eq_ok, pure_eq_ok] at h ⊢
      obtain ⟨d, hd, rfl⟩ := h.2
      exact ⟨d, hg.resolve_grows hdescriptors hf hd, rfl⟩

end DayFiles
end CryoDaq
