import CryoDaq.Channels.DescriptorStore
import CryoDaq.Python.DictTables
import Mathlib.Data.List.Pairwise

/-!
# Channel catalogs

A `ChannelCatalog` is the list of current descriptors of a system, checked against each other and
against a history.

**History.**  `_validate_history` keeps five tables, all filled by one loop; a descriptor must show
what an earlier one with the same key shows in each of them.  `Agree` is what this comes to for two
descriptors, and a history passes exactly when any two of its descriptors agree.

**Updates.**  A descriptor that is not in the history must have a revision above all revisions of
its channel there.
-/

namespace CryoDaq
namespace Channels

open ObjectGraph Storage

variable {p : Platform}

attribute [local instance] Entry.decidableEqBytes

def ChannelDescriptorV1.descriptorHash (d : ChannelDescriptorV1 p) : String :=
  "sha256:" ++ p.hexdigest d.canonicalJson.toList

/-- `(instrument_id, source_key)` -/
def DescriptorFields.source (d : DescriptorFields) : CodePoints × CodePoints :=
  (d.instrumentId, d.sourceKey)

/-- `(quantity, unit)` -/
def DescriptorFields.semantic (d : DescriptorFields) : ChannelQuantity × CodePoints :=
  (d.quantity, d.unit)

/-- `(channel_id, descriptor_revision)` -/
def DescriptorFields.revisionKey (d : DescriptorFields) : CodePoints × ℤ :=
  (d.channelId, d.descriptorRevision)

/-- `_descriptor_sequence`; a checked descriptor is the one that is made of its fields again. -/
def descriptorSequence (field : String) (value : List (ChannelDescriptorV1 p)) :
    Except Fault (List (ChannelDescriptorV1 p)) := do
  ensure (value.length ≤ maxCatalogDescriptors)
    (.descriptor (field ++ " exceeds " ++ maxCatalogDescriptors.repr ++ " descriptors"))
  return value

/-- The tables of `_validate_history`. -/
structure HistoryTables (p : Platform) where
  byChannel : Dict CodePoints (CodePoints × CodePoints)
  bySource : Dict (CodePoints × CodePoints) CodePoints
  measurement : Dict CodePoints (ChannelQuantity × CodePoints)
  byRevision : Dict (CodePoints × ℤ) (ChannelDescriptorV1 p)
  byHash : Dict String ByteArray

def HistoryTables.empty : HistoryTables p := ⟨.empty, .empty, .empty, .empty, .empty⟩

def HistoryTables.enter (h : HistoryTables p) (d : ChannelDescriptorV1 p) : HistoryTables p where
  byChannel := h.byChannel.set d.channelId d.source
  bySource := h.bySource.set d.source d.channelId
  measurement := h.measurement.set d.channelId d.semantic
  byRevision := h.byRevision.set d.revisionKey d
  byHash := h.byHash.set d.descriptorHash d.canonicalJson

/-- The body of the loop of `_validate_history`. -/
def HistoryTables.receive (h : HistoryTables p) (d : ChannelDescriptorV1 p) :
    Except Fault (HistoryTables p) := do
  ensure (∀ source ∈ h.byChannel.get? d.channelId, source = d.source)
    (.descriptor "channel_id identity anchor fork")
  ensure (∀ channel ∈ h.bySource.get? d.source, channel = d.channelId)
    (.descriptor "instrument/source identity anchor fork")
  ensure (∀ semantic ∈ h.measurement.get? d.channelId, semantic = d.semantic)
    (.descriptor "quantity/unit changes require a new channel and source identity")
  ensure (∀ previous ∈ h.byRevision.get? d.revisionKey, previous.canonicalJson = d.canonicalJson)
    (.descriptor "changed canonical descriptor reuses an existing revision")
  ensure (∀ previous ∈ h.byHash.get? d.descriptorHash, previous = d.canonicalJson)
    (.descriptor "descriptor hash collision")
  return h.enter d

def validateHistory (descriptors : List (ChannelDescriptorV1 p)) : Except Fault Unit := do
  let _ ← descriptors.foldlM HistoryTables.receive .empty
  return ()

structure Agree (d e : ChannelDescriptorV1 p) : Prop where
  source : d.channelId = e.channelId → d.source = e.source
  channel : d.source = e.source → d.channelId = e.channelId
  semantic : d.channelId = e.channelId → d.semantic = e.semantic
  content : d.revisionKey = e.revisionKey → d.canonicalJson = e.canonicalJson
  hash : d.descriptorHash = e.descriptorHash → d.canonicalJson = e.canonicalJson

theorem Agree.refl (d : ChannelDescriptorV1 p) : Agree d d :=
  ⟨fun _ => rfl, fun _ => rfl, fun _ => rfl, fun _ => rfl, fun _ => rfl⟩

theorem Agree.symm {d e : ChannelDescriptorV1 p} (h : Agree d e) : Agree e d :=
  ⟨fun heq => (h.source heq.symm).symm, fun heq => (h.channel heq.symm).symm,
    fun heq => (h.semantic heq.symm).symm, fun heq => (h.content heq.symm).symm,
    fun heq => (h.hash heq.symm).symm⟩

structure HistoryTables.Stands (h : HistoryTables p) (ds : List (ChannelDescriptorV1 p)) :
    Prop where
  byChannel : h.byChannel.Tabulates (fun d => d.channelId) (fun d => d.source) id ds
  bySource : h.bySource.Tabulates (fun d => d.source) (fun d => d.channelId) id ds
  measurement : h.measurement.Tabulates (fun d => d.channelId) (fun d => d.semantic) id ds
  byRevision : h.byRevision.Tabulates (fun d => d.revisionKey) (fun d => d.canonicalJson)
    (fun d => d.canonicalJson) ds
  byHash : h.byHash.Tabulates (fun d => d.descriptorHash) (fun d => d.canonicalJson) id ds

theorem HistoryTables.stands_empty : (HistoryTables.empty : HistoryTables p).Stands [] :=
  ⟨Dict.tabulates_empty, Dict.tabulates_empty, Dict.tabulates_empty, Dict.tabulates_empty,
    Dict.tabulates_empty⟩

theorem HistoryTables.receive_eq_ok {h h' : HistoryTables p} {ds : List (ChannelDescriptorV1 p)}
    (hstands : h.Stands ds) {d : ChannelDescriptorV1 p} :
    h.receive d = .ok h' ↔ (∀ e ∈ ds, Agree e d) ∧ h' = h.enter d := by
  simp only [receive, bind_eq_ok, ensure_eq_ok, exists_unit, pure_eq_ok]
  constructor
  · rintro ⟨hsource, hchannel, hsemantic, hcontent, hhash, rfl⟩
    exact ⟨fun e he =>
      ⟨(hstands.byChannel.found_iff d).mp hsource e he,
        (hstands.bySource.found_iff d).mp hchannel e he,
        (hstands.measurement.found_iff d).mp hsemantic e he,
        (hstands.byRevision.found_iff d).mp hcontent e he,
        (hstands.byHash.found_iff d).mp hhash e he⟩, rfl⟩
  · rintro ⟨hagree, rfl⟩
    exact ⟨(hstands.byChannel.found_iff d).mpr fun e he => (hagree e he).source,
      (hstands.bySource.found_iff d).mpr fun e he => (hagree e he).channel,
      (hstands.measurement.found_iff d).mpr fun e he => (hagree e he).semantic,
      (hstands.byRevision.found_iff d).mpr fun e he => (hagree e he).content,
      (hstands.byHash.found_iff d).mpr fun e he => (hagree e he).hash, rfl⟩

theorem HistoryTables.Stands.enter {h : HistoryTables p} {ds : List (ChannelDescriptorV1 p)}
    (hstands : h.Stands ds) {d : ChannelDescriptorV1 p} (hagree : ∀ e ∈ ds, Agree e d) :
    (h.enter d).Stands (ds ++ [d]) where
  byChannel := hstands.byChannel.enter (fun e he => (hagree e he).source) rfl
  bySource := hstands.bySource.enter (fun e he => (hagree e he).channel) rfl
  measurement := hstands.measurement.enter (fun e he => (hagree e he).semantic) rfl
  byRevision := hstands.byRevision.enter (fun e he => (hagree e he).content) rfl
  byHash := hstands.byHash.enter (fun e he => (hagree e he).hash) rfl

theorem foldlM_receive_eq_ok {h : HistoryTables p} {ds es : List (ChannelDescriptorV1 p)}
    (hstands : h.Stands ds) : (∃ h', es.foldlM HistoryTables.receive h = .ok h') ↔
      (∀ d ∈ ds, ∀ e ∈ es, Agree d e) ∧ es.Pairwise Agree := by
  induction es generalizing h ds with
  | nil => simp [pure, Except.pure]
  | cons e es ih =>
      simp only [List.foldlM_cons, bind_eq_ok, HistoryTables.receive_eq_ok hstands]
      constructor
      · rintro ⟨h', _, ⟨hagree, rfl⟩, hrest⟩
        obtain ⟨hbefore, hpairs⟩ := (ih (hstands.enter hagree)).mp ⟨h', hrest⟩
        refine ⟨fun d hd f hf => ?_, List.pairwise_cons.mpr ⟨fun f hf => ?_, hpairs⟩⟩
        · rcases List.mem_cons.mp hf with rfl | hf
          · exact hagree d hd
          · exact hbefore d (List.mem_append_left _ hd) f hf
        · exact hbefore e (List.mem_append_right _ (List.mem_singleton_self e)) f hf
      · rintro ⟨hagree, hpairs⟩
        obtain ⟨hfirst, hpairs⟩ := List.pairwise_cons.mp hpairs
        have hhead : ∀ d ∈ ds, Agree d e := fun d hd => hagree d hd e (List.mem_cons_self ..)
        obtain ⟨h', hrest⟩ := (ih (hstands.enter hhead)).mpr ⟨fun d hd f hf => by
          rcases List.mem_append.mp hd with hd | hd
          · exact hagree d hd f (List.mem_cons_of_mem _ hf)
          · rw [List.mem_singleton.mp hd]
            exact hfirst f hf, hpairs⟩
        exact ⟨h', h.enter e, ⟨hhead, rfl⟩, hrest⟩

theorem validateHistory_eq_ok {ds : List (ChannelDescriptorV1 p)} {u : Unit} :
    validateHistory ds = .ok u ↔ ∀ d ∈ ds, ∀ e ∈ ds, Agree d e := by
  simp only [validateHistory, bind_eq_ok, pure_eq_ok, and_true,
    foldlM_receive_eq_ok HistoryTables.stands_empty, List.not_mem_nil, false_imp_iff,
    implies_true, true_and]
  have : Std.Symm (Agree (p := p)) := ⟨fun _ _ => Agree.symm⟩
  exact ⟨fun h d hd e he => h.forall_of_forall (fun d _ => Agree.refl d) hd he,
    List.pairwise_of_forall_mem_list⟩

def maxima (historical : List (ChannelDescriptorV1 p)) : Dict CodePoints ℤ :=
  historical.foldl (fun m d => m.set d.channelId
    (max ((m.get? d.channelId).getD 0) d.descriptorRevision)) .empty

/-- `(channel_id, descriptor_revision, descriptor_hash, canonical_json)` -/
def ChannelDescriptorV1.identity (d : ChannelDescriptorV1 p) :
    CodePoints × ℤ × String × ByteArray :=
  (d.channelId, d.descriptorRevision, d.descriptorHash, d.canonicalJson)

def validateCatalogUpdate (existing proposed : List (ChannelDescriptorV1 p)) :
    Except Fault Unit := do
  let historical ← descriptorSequence "existing" existing
  let additions ← descriptorSequence "proposed" proposed
  validateHistory (historical ++ additions)
  ensure (∀ d ∈ additions, ∀ maximum ∈ (maxima historical).get? d.channelId,
      (∃ e ∈ historical, e.identity = d.identity) ∨ maximum < d.descriptorRevision)
    (.descriptor "changed descriptor revision is not strictly forward")

structure Maxima (m : Dict CodePoints ℤ) (ds : List (ChannelDescriptorV1 p)) : Prop where
  attained : ∀ c r, m.get? c = some r → ∃ d ∈ ds, d.channelId = c ∧ d.descriptorRevision = r
  bound : ∀ d ∈ ds, ∃ r, m.get? d.channelId = some r ∧ d.descriptorRevision ≤ r

theorem maxima_spec (ds : List (ChannelDescriptorV1 p)) : Maxima (maxima ds) ds := by
  induction ds using List.reverseRecOn with
  | nil =>
      refine ⟨fun c r h => ?_, fun d hd => absurd hd List.not_mem_nil⟩
      rw [maxima, List.foldl_nil, Dict.get?_empty] at h
      cases h
  | append_singleton ds d ih =>
      have hlast : maxima (ds ++ [d]) = (maxima ds).set d.channelId
          (max (((maxima ds).get? d.channelId).getD 0) d.descriptorRevision) := by
        rw [maxima, List.foldl_append]
        rfl
      have hmem : d ∈ ds ++ [d] := List.mem_append_right _ (List.mem_singleton_self d)
      rw [hlast]
      refine ⟨fun c r h => ?_, fun e he => ?_⟩
      · rw [Dict.get?_set] at h
        by_cases hc : c = d.channelId
        · rw [if_pos hc] at h
          cases h
          cases hget : (maxima ds).get? d.channelId with
          | none =>
              have hpos : 1 ≤ d.descriptorRevision := d.valid.descriptorRevision.1
              exact ⟨d, hmem, hc.symm, (max_eq_right (by simp only [Option.getD_none]; omega)).symm⟩
          | some r =>
              rw [Option.getD_some]
              rcases le_total r d.descriptorRevision with hle | hle
              · exact ⟨d, hmem, hc.symm, (max_eq_right hle).symm⟩
              · obtain ⟨e, he, hchannel, hrevision⟩ := ih.attained _ _ hget
                exact ⟨e, List.mem_append_left _ he, hchannel.trans hc.symm,
                  hrevision.trans (max_eq_left hle).symm⟩
        · rw [if_neg hc] at h
          obtain ⟨e, he, hchannel, hrevision⟩ := ih.attained _ _ h
          exact ⟨e, List.mem_append_left _ he, hchannel, hrevision⟩
      · by_cases hc : e.channelId = d.channelId
        · refine ⟨_, by rw [hc, Dict.get?_set_self], ?_⟩
          rcases List.mem_append.mp he with hold | hnew
          · obtain ⟨r, hget, hle⟩ := ih.bound e hold
            rw [← hc, hget]
            exact le_max_of_le_left hle
          · rw [List.mem_singleton.mp hnew]
            exact le_max_right _ _
        · rcases List.mem_append.mp he with hold | hnew
          · obtain ⟨r, hget, hle⟩ := ih.bound e hold
            exact ⟨r, by rw [Dict.get?_set_of_ne _ _ hc, hget], hle⟩
          · exact absurd (congrArg (fun d => d.channelId) (List.mem_singleton.mp hnew)) hc

/-- The descriptor has a revision above all those of its channel in the history. -/
def Forward (historical : List (ChannelDescriptorV1 p)) (d : ChannelDescriptorV1 p) : Prop :=
  ∀ e ∈ historical, e.channelId = d.channelId → e.descriptorRevision < d.descriptorRevision

theorem maxima_lt_iff (historical : List (ChannelDescriptorV1 p)) (d : ChannelDescriptorV1 p) :
    (∀ maximum ∈ (maxima historical).get? d.channelId, maximum < d.descriptorRevision) ↔
      Forward historical d := by
  have hspec := maxima_spec historical
  constructor
  · intro h e he hchannel
    obtain ⟨r, hget, hle⟩ := hspec.bound e he
    rw [hchannel] at hget
    exact lt_of_le_of_lt hle (h r hget)
  · intro h r hr
    obtain ⟨e, he, hchannel, rfl⟩ := hspec.attained _ _ hr
    exact h e he hchannel

/-- An update passes when it agrees with the history and repeats it or goes beyond it. -/
structure UpdateOk (existing proposed : List (ChannelDescriptorV1 p)) : Prop where
  existing_length : existing.length ≤ maxCatalogDescriptors
  proposed_length : proposed.length ≤ maxCatalogDescriptors
  agree : ∀ d ∈ existing ++ proposed, ∀ e ∈ existing ++ proposed, Agree d e
  forward : ∀ d ∈ proposed,
    (∃ e ∈ existing, e.identity = d.identity) ∨ Forward existing d

theorem descriptorSequence_eq_ok {field : String} {value ds : List (ChannelDescriptorV1 p)} :
    descriptorSequence field value = .ok ds ↔
      value.length ≤ maxCatalogDescriptors ∧ value = ds := by
  simp only [descriptorSequence, bind_eq_ok, ensure_eq_ok, exists_unit, pure_eq_ok]

theorem validateCatalogUpdate_eq_ok {existing proposed : List (ChannelDescriptorV1 p)} {u : Unit} :
    validateCatalogUpdate existing proposed = .ok u ↔ UpdateOk existing proposed := by
  have hforward : (∀ d ∈ proposed, ∀ maximum ∈ (maxima existing).get? d.channelId,
      (∃ e ∈ existing, e.identity = d.identity) ∨ maximum < d.descriptorRevision) ↔
      ∀ d ∈ proposed, (∃ e ∈ existing, e.identity = d.identity) ∨ Forward existing d := by
    refine forall₂_congr fun d _ => ?_
    rw [← maxima_lt_iff existing d]
    by_cases hmem : ∃ e ∈ existing, e.identity = d.identity
    · simp only [hmem, true_or, implies_true]
    · simp only [hmem, false_or]
  simp only [validateCatalogUpdate, bind_eq_ok, descriptorSequence_eq_ok, ensure_eq_ok,
    exists_unit, validateHistory_eq_ok]
  constructor
  · rintro ⟨_, ⟨hexisting, rfl⟩, _, ⟨hproposed, rfl⟩, hagree, h⟩
    exact ⟨hexisting, hproposed, hagree, hforward.mp h⟩
  · rintro ⟨hexisting, hproposed, hagree, h⟩
    exact ⟨_, ⟨hexisting, rfl⟩, _, ⟨hproposed, rfl⟩, hagree, hforward.mpr h⟩

structure ChannelCatalog (p : Platform) where
  descriptors : List (ChannelDescriptorV1 p)
  byChannelId : Dict CodePoints (ChannelDescriptorV1 p)
  bySource : Dict (CodePoints × CodePoints) (ChannelDescriptorV1 p)
  byHash : Dict String (ChannelDescriptorV1 p)

def ChannelCatalog.empty : ChannelCatalog p := ⟨[], .empty, .empty, .empty⟩

/-- The body of the loop over the current descriptors. -/
def ChannelCatalog.receive (c : ChannelCatalog p) (d : ChannelDescriptorV1 p) :
    Except Fault (ChannelCatalog p) := do
  ensure (c.byChannelId.get? d.channelId = none) (.descriptor "duplicate current channel_id")
  ensure (c.bySource.get? d.source = none) (.descriptor "duplicate current instrument/source")
  ensure (∀ previous ∈ c.byHash.get? d.descriptorHash, previous.canonicalJson = d.canonicalJson)
    (.descriptor "descriptor hash collision")
  return { descriptors := c.descriptors ++ [d]
           byChannelId := c.byChannelId.set d.channelId d
           bySource := c.bySource.set d.source d
           byHash := c.byHash.set d.descriptorHash d }

/-- `ChannelCatalog(descriptors, historical=…)` -/
def channelCatalog (descriptors historical : List (ChannelDescriptorV1 p)) :
    Except Fault (ChannelCatalog p) := do
  let current ← descriptorSequence "descriptors" descriptors
  let prior ← descriptorSequence "historical" historical
  ensure (∀ d ∈ current, d.quantity ≠ .legacyUnknown)
    (.descriptor "synthetic legacy descriptors cannot enter the authoritative catalog")
  validateCatalogUpdate prior current
  let catalog ← current.foldlM ChannelCatalog.receive .empty
  ensure (∀ d ∈ current, (maxima (prior ++ current)).get? d.channelId = some d.descriptorRevision)
    (.descriptor "current descriptor is older than known history")
  return catalog

def Apart (d e : ChannelDescriptorV1 p) : Prop :=
  d.channelId ≠ e.channelId ∧ d.source ≠ e.source

/-- What the constructor asks of the current descriptors. -/
structure CatalogOk (current prior : List (ChannelDescriptorV1 p)) : Prop where
  update : UpdateOk prior current
  authoritative : ∀ d ∈ current, d.quantity ≠ .legacyUnknown
  apart : current.Pairwise Apart
  newest : ∀ d ∈ current, ∀ e ∈ prior ++ current, e.channelId = d.channelId →
    e.descriptorRevision ≤ d.descriptorRevision

structure ChannelCatalog.Stands (c : ChannelCatalog p) (ds : List (ChannelDescriptorV1 p)) :
    Prop where
  byChannelId : c.byChannelId.Tabulates (fun d => d.channelId) id id ds
  bySource : c.bySource.Tabulates (fun d => d.source) (fun _ => ()) (fun _ => ()) ds
  byHash : c.byHash.Tabulates (fun d => d.descriptorHash) (fun d => d.canonicalJson)
    (fun d => d.canonicalJson) ds

theorem ChannelCatalog.stands_empty : (ChannelCatalog.empty : ChannelCatalog p).Stands [] :=
  ⟨Dict.tabulates_empty, Dict.tabulates_empty, Dict.tabulates_empty⟩

theorem ChannelCatalog.Stands.receive {c c' : ChannelCatalog p}
    {ds : List (ChannelDescriptorV1 p)} (hstands : c.Stands ds) {d : ChannelDescriptorV1 p}
    (h : c.receive d = .ok c') : c'.Stands (ds ++ [d]) ∧
      c'.descriptors = c.descriptors ++ [d] ∧ ∀ e ∈ ds, Apart e d := by
  simp only [ChannelCatalog.receive, bind_eq_ok, ensure_eq_ok, exists_unit, pure_eq_ok] at h
  obtain ⟨hchannel, hsource, hhash, rfl⟩ := h
  have hnew := (hstands.byChannelId.get?_eq_none_iff _).mp hchannel
  exact ⟨⟨hstands.byChannelId.enter (fun e he hsame => absurd hsame (hnew e he)) rfl,
      hstands.bySource.enter (fun _ _ _ => rfl) rfl,
      hstands.byHash.enter ((hstands.byHash.found_iff d).mp hhash) rfl⟩, rfl,
    fun e he => ⟨hnew e he, (hstands.bySource.get?_eq_none_iff _).mp hsource e he⟩⟩

theorem ChannelCatalog.Stands.receive_ok {c : ChannelCatalog p}
    {ds : List (ChannelDescriptorV1 p)} (hstands : c.Stands ds) {d : ChannelDescriptorV1 p}
    (happart : ∀ e ∈ ds, Apart e d) (hagree : ∀ e ∈ ds, Agree e d) :
    ∃ c', c.receive d = .ok c' := by
  simp only [ChannelCatalog.receive, bind_eq_ok, ensure_eq_ok, exists_unit, pure_eq_ok]
  exact ⟨_, (hstands.byChannelId.get?_eq_none_iff _).mpr fun e he => (happart e he).1,
    (hstands.bySource.get?_eq_none_iff _).mpr fun e he => (happart e he).2,
    (hstands.byHash.found_iff d).mpr fun e he => (hagree e he).hash, rfl⟩

theorem foldlM_catalog {c c' : ChannelCatalog p} {ds es : List (ChannelDescriptorV1 p)}
    (hstands : c.Stands ds) (h : es.foldlM ChannelCatalog.receive c = .ok c') :
    c'.descriptors = c.descriptors ++ es ∧ (∀ d ∈ ds, ∀ e ∈ es, Apart d e) ∧
      es.Pairwise Apart ∧ c'.Stands (ds ++ es) := by
  induction es generalizing c ds with
  | nil =>
      cases h
      exact ⟨(List.append_nil _).symm, fun _ _ _ he => absurd he List.not_mem_nil, .nil,
        (List.append_nil ds).symm ▸ hstands⟩
  | cons e es ih =>
      rw [List.foldlM_cons, bind_eq_ok] at h
      obtain ⟨c₁, hfirst, hrest⟩ := h
      obtain ⟨hstands₁, hdescriptors, happart⟩ := hstands.receive hfirst
      obtain ⟨hall, hbefore, hpairs, hlast⟩ := ih hstands₁ hrest
      rw [List.append_assoc, List.singleton_append] at hlast
      refine ⟨by rw [hall, hdescriptors, List.append_assoc, List.singleton_append], ?_, ?_, hlast⟩
      · intro d hd f hf
        rcases List.mem_cons.mp hf with rfl | hf
        · exact happart d hd
        · exact hbefore d (List.mem_append_left _ hd) f hf
      · exact List.pairwise_cons.mpr ⟨fun f hf =>
          hbefore e (List.mem_append_right _ (List.mem_singleton_self e)) f hf, hpairs⟩

theorem foldlM_catalog_ok {c : ChannelCatalog p} {ds es : List (ChannelDescriptorV1 p)}
    (hstands : c.Stands ds) (hbefore : ∀ d ∈ ds, ∀ e ∈ es, Apart d e) (hpairs : es.Pairwise Apart)
    (hagree : ∀ d ∈ ds ++ es, ∀ e ∈ ds ++ es, Agree d e) :
    ∃ c', es.foldlM ChannelCatalog.receive c = .ok c' := by
  induction es generalizing c ds with
  | nil => exact ⟨c, rfl⟩
  | cons e es ih =>
      obtain ⟨hhead, hpairs⟩ := List.pairwise_cons.mp hpairs
      have hmem : e ∈ ds ++ e :: es := List.mem_append_right _ (List.mem_cons_self ..)
      obtain ⟨c₁, hfirst⟩ := hstands.receive_ok
        (fun d hd => hbefore d hd e (List.mem_cons_self ..))
        fun d hd => hagree d (List.mem_append_left _ hd) e hmem
      obtain ⟨c', hrest⟩ := ih (hstands.receive hfirst).1 (fun d hd f hf => by
          rcases List.mem_append.mp hd with hd | hd
          · exact hbefore d hd f (List.mem_cons_of_mem _ hf)
          · rw [List.mem_singleton.mp hd]
            exact hhead f hf) hpairs (by
          rw [List.append_assoc, List.singleton_append]
          exact hagree)
      exact ⟨c', by rw [List.foldlM_cons, bind_eq_ok]; exact ⟨c₁, hfirst, hrest⟩⟩

theorem maxima_eq_iff {ds : List (ChannelDescriptorV1 p)} {d : ChannelDescriptorV1 p}
    (hd : d ∈ ds) : (maxima ds).get? d.channelId = some d.descriptorRevision ↔
      ∀ e ∈ ds, e.channelId = d.channelId → e.descriptorRevision ≤ d.descriptorRevision := by
  have hspec := maxima_spec ds
  constructor
  · intro h e he hchannel
    obtain ⟨r, hget, hle⟩ := hspec.bound e he
    rw [hchannel, h] at hget
    cases hget
    exact hle
  · intro h
    obtain ⟨r, hget, hle⟩ := hspec.bound d hd
    obtain ⟨e, he, hchannel, rfl⟩ := hspec.attained _ _ hget
    rw [hget, le_antisymm (h e he hchannel) hle]

theorem channelCatalog_eq_ok {current prior : List (ChannelDescriptorV1 p)} :
    (∃ c, channelCatalog current prior = .ok c) ↔ CatalogOk current prior := by
  simp only [channelCatalog, bind_eq_ok, descriptorSequence_eq_ok, ensure_eq_ok, exists_unit,
    validateCatalogUpdate_eq_ok, pure_eq_ok]
  have hright {d : ChannelDescriptorV1 p} (hd : d ∈ current) : d ∈ prior ++ current :=
    List.mem_append_right _ hd
  constructor
  · rintro ⟨c, _, ⟨_, rfl⟩, _, ⟨_, rfl⟩, hlegacy, hupdate, _, hfold, hnewest, rfl⟩
    exact ⟨hupdate, hlegacy, (foldlM_catalog ChannelCatalog.stands_empty hfold).2.2.1,
      fun d hd => (maxima_eq_iff (hright hd)).mp (hnewest d hd)⟩
  · intro h
    obtain ⟨c, hfold⟩ := foldlM_catalog_ok ChannelCatalog.stands_empty
      (fun d hd => absurd hd List.not_mem_nil) h.apart
      fun d hd e he => h.update.agree d (hright hd) e (hright he)
    exact ⟨c, _, ⟨h.update.proposed_length, rfl⟩, _, ⟨h.update.existing_length, rfl⟩,
      h.authoritative, h.update, c, hfold,
      fun d hd => (maxima_eq_iff (hright hd)).mpr (h.newest d hd), rfl⟩

theorem channelCatalog_stands {current prior : List (ChannelDescriptorV1 p)}
    {c : ChannelCatalog p} (h : channelCatalog current prior = .ok c) :
    c.descriptors = current ∧ c.Stands current := by
  simp only [channelCatalog, bind_eq_ok, descriptorSequence_eq_ok, ensure_eq_ok, exists_unit,
    pure_eq_ok] at h
  obtain ⟨_, ⟨_, rfl⟩, _, ⟨_, rfl⟩, _, _, _, hfold, _, rfl⟩ := h
  obtain ⟨hdescriptors, _, _, hstands⟩ := foldlM_catalog ChannelCatalog.stands_empty hfold
  exact ⟨hdescriptors, hstands⟩

theorem ChannelCatalog.Stands.get {c : ChannelCatalog p} {ds : List (ChannelDescriptorV1 p)}
    (hstands : c.Stands ds) {channel : CodePoints} {d : ChannelDescriptorV1 p}
    (h : c.byChannelId.get? channel = some d) : d ∈ ds ∧ d.channelId = channel := by
  obtain ⟨e, he, hchannel, rfl⟩ := hstands.byChannelId.sound _ _ h
  exact ⟨he, hchannel⟩

theorem catalogOk_singleton (d : ChannelDescriptorV1 p) :
    CatalogOk [d] [] ↔ d.quantity ≠ .legacyUnknown := by
  constructor
  · exact fun h => h.authoritative d (List.mem_singleton_self d)
  · intro hquantity
    have hself : ∀ e ∈ ([] : List (ChannelDescriptorV1 p)) ++ [d], e = d := fun e he =>
      List.mem_singleton.mp he
    refine ⟨⟨Nat.zero_le _, by rw [List.length_singleton]; decide, fun e he f hf => ?_,
      fun e _ => .inr fun f hf => absurd hf List.not_mem_nil⟩, fun e he => ?_,
      List.pairwise_singleton _ _, fun e he f hf _ => ?_⟩
    · rw [hself e he, hself f hf]
      exact Agree.refl d
    · rw [List.mem_singleton.mp he]
      exact hquantity
    · rw [List.mem_singleton.mp he, hself f hf]

end Channels
end CryoDaq
