import CryoDaq.DayFiles.Quiet

/-!
# Runs of the writers

Any number of writers serve any calls on the same daily files.  Their calls interleave in every
order, fail in every way, and a writer may end between any two of them.

**Batches.**  `batch_atomic`: what a call has stored of a day is all of it or nothing, at every
moment.  `batch_durable`: what it said to have stored is read back for ever, under the same ids.

**Catalogs.**  `catalog_append_only`: the catalog of a day is a history at every moment, it only
grows, and what was read with it is read again.
-/

namespace CryoDaq
namespace DayFiles

open Storage Channels Async Sqlite Policy

variable {p : Platform} {site : Site p} {w w' : Durable p} {d : ℤ} {call : ℕ × ℕ}

theorem exists_places {α : Type} (P : α → Prop) [DecidablePred P] (l : List α) :
    ∃ ids : List ℕ, ids.Pairwise (· < ·) ∧ (∀ i, i ∈ ids ↔ ∃ a, l[i]? = some a ∧ P a) ∧
      List.Forall₂ (fun a i => l[i]? = some a) (l.filter P) ids := by
  induction l with
  | nil => exact ⟨[], .nil, by simp, .nil⟩
  | cons a l ih =>
      obtain ⟨ids, hsorted, hexact, hall⟩ := ih
      have hshifted : (ids.map (· + 1)).Pairwise (· < ·) :=
        hsorted.map _ fun i j h => Nat.add_lt_add_right h 1
      have hlater : List.Forall₂ (fun b i => (a :: l)[i]? = some b) (l.filter P)
          (ids.map (· + 1)) := by
        rw [List.forall₂_map_right_iff]
        exact hall
      have hsucc : ∀ i, i + 1 ∈ ids.map (· + 1) ↔ ∃ b, l[i]? = some b ∧ P b := by
        intro i
        rw [← hexact i, List.mem_map_of_injective (Nat.succ_injective)]
      by_cases ha : P a
      · refine ⟨0 :: ids.map (· + 1), List.pairwise_cons.mpr ⟨fun i hi => ?_, hshifted⟩,
          fun i => ?_, ?_⟩
        · obtain ⟨j, _, rfl⟩ := List.mem_map.mp hi
          exact Nat.succ_pos j
        · cases i with
          | zero => exact iff_of_true (List.mem_cons_self ..) ⟨a, rfl, ha⟩
          | succ i => simpa using hsucc i
        · rw [List.filter_cons_of_pos (by simpa using ha)]
          exact .cons rfl hlater
      · refine ⟨ids.map (· + 1), hshifted, fun i => ?_, ?_⟩
        · cases i with
          | zero => simpa using ha
          | succ i => exact hsucc i
        · rw [List.filter_cons_of_neg (by simpa using ha)]
          exact hlater

theorem forall₂_comp {α β γ : Type} {R : α → β → Prop} {S : β → γ → Prop} {T : α → γ → Prop}
    {l : List α} {m : List β} {n : List γ} (hlm : List.Forall₂ R l m) (hmn : List.Forall₂ S m n)
    (h : ∀ a b c, R a b → S b c → T a c) : List.Forall₂ T l n := by
  induction hlm generalizing n with
  | nil =>
      cases hmn
      exact .nil
  | cons hab _ ih =>
      cases hmn with
      | cons hbc hrest => exact .cons (h _ _ _ hab hbc) (ih hrest)

structure ReadsBack (site : Site p) (t : ℕ) (r : Sample) (x : ResolvedReading p) : Prop where
  timestamp : x.timestamp = realColumn (posixTimestamp site.localTimestamp r.timestamp)
  instrumentId : x.instrumentId = storedInstrument r.instrumentId
  channel : x.channel = r.channel
  unit : x.unit = r.unit
  status : x.status = statusValue r.status
  value : decode x.value x.status = r.presented
  unbound : site.catalog t = none → x.descriptor.quantity = .legacyUnknown
  bound : ∀ c, site.catalog t = some c →
    x.descriptor ∈ c.catalog.descriptors ∧ x.descriptor.channelId = r.channel

/-- The rows that a call has written to a file are those at some places; each is read back. -/
structure Recorded (site : Site p) (call : ℕ × ℕ) (samples : List Sample) (f : DayFile)
    (places : List ℕ) : Prop where
  sorted : places.Pairwise (· < ·)
  exact : ∀ i, i ∈ places ↔ ∃ row, f.readings[i]? = some row ∧ row.call = call
  read : List.Forall₂ (fun r (i : ℕ) => ∃ x, readSqliteReading p f (i + 1) = .ok x ∧
    ReadsBack site call.1 r x) samples places

theorem reads_kept (hi : Inv site w) {r : Sample} {row : ReadingRow} {i : ℕ}
    (hrow : (w.files d).readings[i]? = some row)
    (hkept : Kept site.localTimestamp (site.bindings call.1) call r row) :
    ∃ x, readSqliteReading p (w.files d) (i + 1) = .ok x ∧ ReadsBack site call.1 r x := by
  obtain ⟨descriptor, hread, hlegacy, hbound⟩ := (hi.sound d).read hrow
  have hrecords := hkept.records
  refine ⟨_, hread, hrecords.timestamp, hrecords.instrumentId, hrecords.channel, hrecords.unit,
    hrecords.status, hrecords.value, fun hnone => ?_, fun c hc => ?_⟩
  · exact hlegacy (hkept.unbound (by rw [Site.bindings, hnone]; rfl))
  · obtain ⟨e, hmem, he⟩ := hkept.bound c.catalog (by rw [Site.bindings, hc]; rfl)
    have hcatalog : site.catalog row.call.1 = some c := by
      rw [hkept.call_eq]
      exact hc
    obtain ⟨hquantity, hpresent⟩ :=
      hi.carried d row (List.mem_of_getElem? hrow) c hcatalog e hmem
    have hsame := hbound e hquantity hpresent he
    refine ⟨hsame ▸ hmem, ?_⟩
    have htexts := congrArg ReadingTexts.channel he.texts
    rw [hsame, ← hrecords.channel]
    exact htexts.symm

theorem recorded_of_kept (hi : Inv site w) {samples : List Sample}
    (h : List.Forall₂ (Kept site.localTimestamp (site.bindings call.1) call) samples
      (rowsOf call (w.files d))) :
    ∃ places, Recorded site call samples (w.files d) places := by
  obtain ⟨places, hsorted, hexact, hall⟩ :=
    exists_places (fun row : ReadingRow => row.call = call) (w.files d).readings
  exact ⟨places, hsorted, hexact, forall₂_comp h hall fun r row i hkept hrow =>
    reads_kept hi hrow hkept⟩

theorem recorded_of_none (hi : Inv site w) (h : rowsOf call (w.files d) = []) :
    ∃ places, Recorded site call [] (w.files d) places := by
  refine recorded_of_kept hi ?_
  rw [h]
  exact .nil

/-- What no step undoes: the rows of the files stay, and those of a call that has answered are all
of its rows. -/
structure Grows (w w' : Durable p) : Prop where
  descriptors : ∀ d, (w.files d).descriptors <+: (w'.files d).descriptors
  readings : ∀ d, (w.files d).readings <+: (w'.files d).readings
  notes : ∀ n ∈ w.notes, n ∈ w'.notes
  closed : ∀ call answer, .answered call answer ∈ w.notes →
    ∀ d, rowsOf call (w'.files d) = rowsOf call (w.files d)

theorem grows_refl (w : Durable p) : Grows w w :=
  ⟨fun _ => List.prefix_rfl, fun _ => List.prefix_rfl, fun _ h => h, fun _ _ _ _ => rfl⟩

theorem Grows.trans {w'' : Durable p} (h : Grows w w') (h' : Grows w' w'') : Grows w w'' where
  descriptors := fun d => (h.descriptors d).trans (h'.descriptors d)
  readings := fun d => (h.readings d).trans (h'.readings d)
  notes := fun n hn => h'.notes n (h.notes n hn)
  closed := fun call answer hanswer d =>
    (h'.closed call answer (h.notes _ hanswer) d).trans (h.closed call answer hanswer d)

theorem Commits.grows {t : ℕ} {f : DayFile} (h : Commits site t w d f) :
    Grows w (w.put d f) where
  descriptors := descriptors_put h.descriptors
  readings := by
    intro d'
    by_cases hd : d' = d
    · subst hd
      rw [World.put_files_self]
      exact h.grown
    · rw [World.put_files_of_ne _ _ hd]
  notes := fun _ hn => hn
  closed := by
    intro call answer hanswer d'
    by_cases hd : d' = d
    · subst hd
      rw [World.put_files_self]
      rcases h.rows with ⟨_, hrows⟩ | ⟨k, _, _, hserving, _, _, _, _, hothers⟩
      · exact hrows call
      · refine hothers call fun hcall => hserving.unanswered answer ?_
        rw [← hcall]
        exact hanswer
    · rw [World.put_files_of_ne _ _ hd]

theorem getElem?_grows {f g : DayFile} (hgrown : f.readings <+: g.readings)
    (hclosed : rowsOf call g = rowsOf call f) (i : ℕ) :
    (∃ row, g.readings[i]? = some row ∧ row.call = call) ↔
      ∃ row, f.readings[i]? = some row ∧ row.call = call := by
  obtain ⟨more, hmore⟩ := hgrown
  have hnone : ∀ row ∈ more, row.call ≠ call := by
    rw [rowsOf, ← hmore, List.filter_append, rowsOf, List.append_right_eq_self,
      List.filter_eq_nil_iff] at hclosed
    intro row hrow hcall
    exact hclosed row hrow (decide_eq_true hcall)
  rw [← hmore]
  by_cases hi : i < f.readings.length
  · rw [List.getElem?_append_left hi]
  · have hle := not_lt.mp hi
    rw [List.getElem?_append_right hle, List.getElem?_eq_none hle]
    constructor
    · rintro ⟨row, hrow, hcall⟩
      exact absurd hcall (hnone row (List.mem_of_getElem? hrow))
    · rintro ⟨row, hrow, _⟩
      cases hrow

theorem Recorded.grows (hi : Inv site w) (hi' : Inv site w') (hgrows : Grows w w')
    (hclosed : rowsOf call (w'.files d) = rowsOf call (w.files d)) {samples : List Sample}
    {places : List ℕ} (h : Recorded site call samples (w.files d) places) :
    Recorded site call samples (w'.files d) places where
  sorted := h.sorted
  exact := fun i => (h.exact i).trans (getElem?_grows (hgrows.readings d) hclosed i).symm
  read := by
    refine h.read.imp fun r i hread => ?_
    obtain ⟨x, hx, hback⟩ := hread
    exact ⟨x, (hi'.sound d).read_grows (hgrows.descriptors d) (hgrows.readings d) (hi.sound d) hx,
      hback⟩

abbrev writers (site : Site p) (requests : ℕ → List (Request p)) :=
  tasks (δ := ℤ) fun t => serve site t (requests t)

abbrev Writers (p : Platform) :=
  Pool (Store ℤ DayFile (Note p) Fields) (Wait ℤ) (Answer Raised) Raised

/-- Nothing was written, and nobody was asked. -/
def blank (p : Platform) : Durable p := ⟨fun _ => ⟨[], []⟩, [], fun _ => {}⟩

theorem blank_inv (site : Site p) : Inv site (blank p) where
  sound := fun _ => ⟨⟨[], history_nil, rfl⟩, fun _ h => absurd h List.not_mem_nil⟩
  asked := fun _ _ h => absurd h List.not_mem_nil
  once := fun _ _ _ h => absurd h List.not_mem_nil
  atomic := fun _ _ _ h => absurd h List.not_mem_nil
  answered := fun _ h => absurd h List.not_mem_nil
  installed := fun _ _ _ h => by cases h
  carried := fun _ _ h => absurd h List.not_mem_nil
  numbered := fun _ h => absurd h List.not_mem_nil

variable {requests : ℕ → List (Request p)} {q r : Writers p}

theorem reachable_sites (h : (writers site requests).Reachable (.opening (blank p)) q) :
    Inv site q.state.world :=
  reachable_inv (serve_kept requests) (blank_inv site) h

theorem replay_grows (h : (writers site requests).Reachable (.opening (blank p)) q)
    {moves : List (Move (Answer Raised) Unit ℕ)}
    (hr : (writers site requests).replay q moves = some r) :
    Grows q.state.world r.state.world :=
  reachable_grows (R := Grows) grows_refl (fun _ _ _ => Grows.trans)
    (fun _ _ _ _ _ h => Commits.grows h)
    (fun _ _ _ _ _ => ⟨fun _ => List.prefix_rfl, fun _ => List.prefix_rfl,
      fun _ h => List.mem_cons_of_mem _ h, fun _ _ _ _ => rfl⟩)
    (fun _ _ _ _ _ => ⟨fun _ => List.prefix_rfl, fun _ => List.prefix_rfl, fun _ h => h,
      fun _ _ _ _ => rfl⟩)
    (serve_kept requests) (reachable_sound (serve_kept requests) (blank_inv site) h) moves hr

def benchDescriptor : ChannelDescriptorV1 default where
  schemaVersion := 1
  channelId := codePoints "T1"
  instrumentId := codePoints "ls218s"
  sourceKey := codePoints "ch1"
  quantity := .temperature
  unit := codePoints "K"
  role := .primaryMeasurement
  safetyClass := .observational
  displayGroup := codePoints "cold"
  displayName := codePoints "T1"
  visibleByDefault := true
  displayOrder := 0
  descriptorRevision := 1
  checked := by decide +kernel

theorem bench_authoritative : benchDescriptor.quantity ≠ .legacyUnknown := by decide

def benchCatalog : ChannelCatalog default :=
  (channelCatalog [benchDescriptor] []).toOption.getD .empty

theorem bench_catalog : channelCatalog [benchDescriptor] [] = .ok benchCatalog := by
  obtain ⟨c, hc⟩ := channelCatalog_eq_ok.mpr
    ((catalogOk_singleton benchDescriptor).mpr bench_authoritative)
  rw [benchCatalog, hc]
  rfl

/-- Writers with one catalog. -/
def benchSite : Site default where
  localTimestamp := fun _ => 0
  catalog := fun _ => some
    ⟨benchCatalog, benchCatalog, snapshot_singleton bench_authoritative bench_catalog⟩
  attempts := 1

/-- A reading of the first sensor, so many microseconds into 2 January 1970. -/
def benchSample (us : ℤ) (value : Float) (status : Acquisition.ChannelStatus) : Sample where
  timestamp := ⟨86400000000 + us, some 0⟩
  instrumentId := benchDescriptor.instrumentId
  channel := benchDescriptor.channelId
  value := some value
  unit := benchDescriptor.unit
  status := status

def benchBatch : List Sample :=
  [benchSample 0 4.2 .ok, benchSample 500000 4.3 .ok, benchSample 1000000 4.2 .sensorError]

def benchLater : List Sample := [benchSample 60000000 4.4 .ok, benchSample 60500000 4.5 .ok]

/-- The first writer installs the catalog, the others store readings. -/
def benchRequests : ℕ → List (Request default)
  | 0 => [.installCatalog 1 benchCatalog]
  | 1 => [.writeBatch benchBatch]
  | _ => [.writeBatch benchLater]

theorem bench_hash {r : Sample} (hr : r.texts =
      ⟨benchDescriptor.instrumentId, benchDescriptor.channelId, benchDescriptor.unit⟩) :
    descriptorHashForReading benchCatalog r.texts =
      .ok (codePoints benchDescriptor.descriptorHash) := by
  have hstands := (channelCatalog_stands bench_catalog).2
  have hget : benchCatalog.byChannelId.get? benchDescriptor.channelId = some benchDescriptor := by
    cases hfound : benchCatalog.byChannelId.get? benchDescriptor.channelId with
    | none =>
        exact absurd rfl ((hstands.byChannelId.get?_eq_none_iff _).mp hfound benchDescriptor
          (List.mem_singleton_self _))
    | some d => rw [List.mem_singleton.mp (hstands.get hfound).1]
  rw [hr, descriptorHashForReading, hget]
  simp only [bind_eq_ok, ensure_eq_ok, exists_unit, pure_eq_ok, and_self]

theorem bench_rows {batch : List Sample} (call : ℕ × ℕ) (hbatch : ∀ r ∈ batch, r.texts =
      ⟨benchDescriptor.instrumentId, benchDescriptor.channelId, benchDescriptor.unit⟩) :
    ∃ rows, dayRows (fun _ => 0) (some benchCatalog) call batch = .ok rows ∧
      rows.length = (kept batch).length ∧
      ∀ readings, ForeignKeys [rowOf benchDescriptor] readings →
        ForeignKeys [rowOf benchDescriptor] (readings ++ rows) := by
  have hall : ∃ options, batch.mapM (storedRow (fun _ => 0) (some benchCatalog) call) =
      .ok options := by
    induction batch with
    | nil => exact ⟨[], rfl⟩
    | cons r batch ih =>
        obtain ⟨options, hoptions⟩ := ih fun r hr => hbatch r (List.mem_cons_of_mem _ hr)
        obtain ⟨o, ho⟩ : ∃ o, storedRow (fun _ => 0) (some benchCatalog) call r = .ok o := by
          rw [storedRow, boundHash, bench_hash (hbatch r (List.mem_cons_self ..))]
          split
          case isTrue => exact ⟨_, rfl⟩
          case isFalse => exact ⟨_, rfl⟩
        exact ⟨o :: options, by simp only [List.mapM_cons, ho, hoptions, bind_eq_ok, pure_eq_ok,
          Except.ok.injEq, exists_eq_left']⟩
  obtain ⟨options, hoptions⟩ := hall
  have hrows : dayRows (fun _ => 0) (some benchCatalog) call batch = .ok options.reduceOption := by
    rw [dayRows, hoptions]
    rfl
  have hstands := (channelCatalog_stands bench_catalog).2
  have hdescriptors := (channelCatalog_stands bench_catalog).1
  have hkept := dayRows_eq_ok (fun c hc => by cases hc; rwa [hdescriptors]) hrows
  refine ⟨_, hrows, hkept.length_eq.symm, fun readings hkeys row hrow hash hhash => ?_⟩
  rcases List.mem_append.mp hrow with hrow | hrow
  · exact hkeys row hrow hash hhash
  · obtain ⟨i, rfl⟩ := List.mem_iff_get.mp hrow
    obtain ⟨hlength, hget⟩ := List.forall₂_iff_get.mp hkept
    obtain ⟨d, hd, hbound⟩ := (hget i.1 (hlength.symm ▸ i.2) i.2).bound _ rfl
    rw [hdescriptors, List.mem_singleton] at hd
    rw [hbound.hash, hd] at hhash
    exact ⟨_, List.mem_singleton_self _, Option.some.inj hhash⟩

/-- What the writers of the bench have done, when the last of them has ended. -/
structure BenchAt (q : Writers default) (count : ℕ) : Prop where
  quiet : Quiet q.state
  descriptors : (q.state.world.files 1).descriptors = [rowOf benchDescriptor]
  keys : ForeignKeys [rowOf benchDescriptor] (q.state.world.files 1).readings
  length : (q.state.world.files 1).readings.length = count
  memory : ∀ t, q.next ≤ t → q.state.world.memory t = {}

theorem bench_stores {q : Writers default} {count : ℕ} (h : BenchAt q count) (batch : List Sample)
    (hrequest : benchRequests q.next = [.writeBatch batch])
    (hbatch : ∀ r ∈ batch, r.texts =
      ⟨benchDescriptor.instrumentId, benchDescriptor.channelId, benchDescriptor.unit⟩)
    (hday : byDay faceDay batch = [(1, batch)]) {k : ℕ} (hkept : (kept batch).length = k + 1) :
    ∃ moves r, (writers benchSite benchRequests).replay q moves = some r ∧
      BenchAt r (count + (k + 1)) ∧ r.next = q.next + 1 ∧
      r.state.world.notes = .answered (q.next, 0) .persisted ::
        .asked (q.next, 0) (.writeBatch batch) :: q.state.world.notes := by
  obtain ⟨rows, hrows, hlength, hforeign⟩ := bench_rows (q.next, 0) hbatch
  have hmemory := h.memory q.next le_rfl
  let s₁ := (q.state.assigned q.next (q.state.world.memory q.next).asked).noted
    (.asked (q.next, 0) (.writeBatch batch))
  have hconnection : (s₁.world.memory q.next).connection = none := by
    show ((q.state.world.remember q.next _).memory q.next).connection = none
    rw [World.remember_memory_self, hmemory]
    rfl
  have hempty : batch.isEmpty = false := by
    cases batch with
    | nil => cases hkept
    | cons r batch => rfl
  have hne : rows.isEmpty = false := by
    cases rows with
    | nil =>
        rw [← hlength] at hkept
        cases hkept
    | cons r rows => rfl
  have hcatalog : benchSite.catalog q.next = _ := rfl
  obtain ⟨s₂, hwrite, hs₂, hfile, hnotes, hothers⟩ := ends_writeBatch (s := s₁) bench_authoritative bench_catalog hcatalog rfl ⟨h.quiet.writing, h.quiet.dead⟩
    h.descriptors hempty hday hrows hne (hforeign _ h.keys) hconnection
  have hserve : Ends enabled (serve benchSite q.next (benchRequests q.next)) q.state (.ok ())
      (s₂.noted (.answered (q.next, 0) .persisted)) := by
    rw [hrequest]
    exact ends_serve (by rw [hmemory]) hwrite
  obtain ⟨moves, r, hmoves, hstate, hnext⟩ :=
    ends_launched (fun t => serve benchSite t (benchRequests t)) hserve
  refine ⟨moves, r, hmoves, ⟨?_, ?_, ?_, ?_, fun t ht => ?_⟩, hnext, ?_⟩ <;> rw [hstate]
  · exact ⟨hs₂.writing, hs₂.dead⟩
  · exact congrArg DayFile.descriptors hfile
  · refine (congrArg (fun f : DayFile => ForeignKeys [rowOf benchDescriptor] f.readings) hfile).mpr ?_
    exact hforeign _ h.keys
  · refine (congrArg (fun f : DayFile => f.readings.length) hfile).trans ?_
    rw [List.length_append, hlength, hkept]
    exact congrArg (· + _) h.length
  · have hne : t ≠ q.next := by omega
    exact (hothers t hne).trans ((World.remember_memory_of_ne _ _ hne).trans
      (h.memory t (by omega)))
  · exact congrArg (_ :: ·) hnotes

/-- The catalog is installed and a batch of three readings is stored; then another of two. -/
theorem bench_run : ∃ q after r,
    (writers benchSite benchRequests).Reachable (.opening (blank default)) q ∧
    (writers benchSite benchRequests).replay q after = some r ∧
    (.asked (0, 0) (.installCatalog 1 benchCatalog) ∈ q.state.world.notes ∧
      .answered (0, 0) .persisted ∈ q.state.world.notes ∧
      .asked (1, 0) (.writeBatch benchBatch) ∈ q.state.world.notes ∧
      .answered (1, 0) .persisted ∈ q.state.world.notes) ∧
    BenchAt q 3 ∧ BenchAt r 5 := by
  let s₀ : Store ℤ DayFile (Note default) Fields := .opening (blank default)
  let s₁ := ((s₀.assigned 0 (Fields.asked {})).noted
    (.asked (0, 0) (.installCatalog 1 benchCatalog))).assigned 0 { calls := 1, connections := 1 }
  obtain ⟨s₂, hinstall, hs₂, hworld₂⟩ := ends_installCatalog (c := (0, 0)) (d := 1)
    bench_authoritative bench_catalog (s := s₁) ⟨fun _ => rfl, rfl⟩ (.inl ⟨rfl, rfl⟩)
  have hfirst : Ends enabled (serve benchSite 0 (benchRequests 0)) s₀ (.ok ())
      (s₂.noted (.answered (0, 0) .persisted)) :=
    ends_serve rfl (.bind (ends_fields 0 _) (.bind (ends_assign 0 _ _)
      (.bind hinstall (.ret true s₂))))
  obtain ⟨first, p, hfirst, hstate, hnext⟩ := ends_launched (p := Pool.initial s₀)
    (fun t => serve benchSite t (benchRequests t)) hfirst
  have hfile : p.state.world.files 1 = ⟨[rowOf benchDescriptor], []⟩ := by
    rw [hstate]
    show s₂.world.files 1 = _
    rw [hworld₂, World.put_files_self]
    rfl
  have hp : BenchAt p 0 := by
    refine ⟨?_, by rw [hfile], by rw [hfile]; exact fun r hr => absurd hr List.not_mem_nil,
      by rw [hfile]; rfl, fun t ht => ?_⟩ <;> rw [hstate]
    · exact ⟨hs₂.writing, hs₂.dead⟩
    · have hne : t ≠ 0 := by
        rw [hnext] at ht
        exact Nat.pos_iff_ne_zero.mp ht
      show s₂.world.memory t = {}
      rw [hworld₂, World.put_memory]
      exact (World.remember_memory_of_ne _ _ hne).trans (World.remember_memory_of_ne _ _ hne)
  have htexts (batch : List Sample) (hbatch : batch = benchBatch ∨ batch = benchLater) :
      ∀ r ∈ batch, r.texts =
        ⟨benchDescriptor.instrumentId, benchDescriptor.channelId, benchDescriptor.unit⟩ := by
    rcases hbatch with rfl | rfl <;> simp [benchBatch, benchLater, benchSample, Sample.texts]
  obtain ⟨second, q, hsecond, hq, hnext₂, hnotes⟩ := bench_stores hp benchBatch
    (by rw [hnext]; rfl) (htexts _ (.inl rfl)) rfl (k := 2) (by decide +kernel)
  obtain ⟨after, r, hafter, hr, _⟩ := bench_stores hq benchLater
    (by rw [hnext₂, hnext]; rfl) (htexts _ (.inr rfl)) rfl (k := 1) (by decide +kernel)
  have hp₁ : p.next = 1 := hnext
  have hbefore : p.state.world.notes = [.answered (0, 0) .persisted,
      .asked (0, 0) (.installCatalog 1 benchCatalog)] := by
    rw [hstate]
    refine congrArg (_ :: ·) ?_
    rw [hworld₂]
    rfl
  refine ⟨q, after, r, System.reachable_replay _ second
    (System.reachable_replay _ first .initial hfirst) hsecond, hafter, ?_, hq, hr⟩
  rw [hnotes, hbefore, hp₁]
  exact ⟨.tail _ (.tail _ (.tail _ (.head _))), .tail _ (.tail _ (.head _)), .tail _ (.head _),
    .head _⟩

/-- Every row was written for a call, and a call has all its readings of a day in the file of the
day or none. -/
theorem batch_atomic (h : (writers site requests).Reachable (.opening (blank p)) q) (d : ℤ) :
    (∀ row ∈ (q.state.world.files d).readings,
      ∃ request, .asked row.call request ∈ q.state.world.notes) ∧
    ∀ call request, .asked call request ∈ q.state.world.notes →
      ∃ places, Recorded site call [] (q.state.world.files d) places ∨
        Recorded site call (kept (request.readings d)) (q.state.world.files d) places := by
  have hi := reachable_sites h
  refine ⟨hi.asked d, fun call request hasked => ?_⟩
  rcases hi.atomic call request d hasked with hnone | ⟨batch, hday, hstored⟩
  · obtain ⟨places, hrecorded⟩ := recorded_of_none hi hnone
    exact ⟨places, .inl hrecorded⟩
  · rw [Request.mem_days] at hday
    obtain ⟨rfl, _⟩ := hday
    obtain ⟨places, hrecorded⟩ := recorded_of_kept hi hstored
    exact ⟨places, .inr hrecorded⟩

theorem batch_atomic_bench : ∃ q, BenchAt q 3 ∧
    (∀ row ∈ (q.state.world.files 1).readings,
      ∃ request, .asked row.call request ∈ q.state.world.notes) ∧
    ∀ call request, .asked call request ∈ q.state.world.notes →
      ∃ places, Recorded benchSite call [] (q.state.world.files 1) places ∨
        Recorded benchSite call (kept (request.readings 1)) (q.state.world.files 1) places := by
  obtain ⟨q, _, _, hq, _, _, hstored, _⟩ := bench_run
  exact ⟨q, hstored, batch_atomic hq 1⟩

/-- A batch that a call said to have persisted is read back for ever, each reading once. -/
theorem batch_durable (h : (writers site requests).Reachable (.opening (blank p)) q)
    {call : ℕ × ℕ} {request : Request p} (hasked : .asked call request ∈ q.state.world.notes)
    (hanswered : .answered call .persisted ∈ q.state.world.notes) (d : ℤ) :
    ∃ places, ∀ moves r, (writers site requests).replay q moves = some r →
      Recorded site call (kept (request.readings d)) (r.state.world.files d) places := by
  have hi := reachable_sites h
  have hnow : ∃ places,
      Recorded site call (kept (request.readings d)) (q.state.world.files d) places := by
    obtain ⟨request', hasked', hfulfilled⟩ := hi.answered call hanswered
    rw [hi.once call request request' hasked hasked']
    by_cases hnil : request'.readings d = []
    · have hnone : rowsOf call (q.state.world.files d) = [] := by
        refine (hi.atomic call request' d hasked').resolve_right ?_
        rintro ⟨batch, hday, _⟩
        rw [Request.mem_days] at hday
        exact hday.2 (hday.1.trans hnil)
      rw [hnil]
      exact recorded_of_none hi hnone
    · exact recorded_of_kept hi (hfulfilled.stored d _ (Request.mem_days.mpr ⟨rfl, hnil⟩))
  obtain ⟨places, hrecorded⟩ := hnow
  refine ⟨places, fun moves r hr => ?_⟩
  have hgrows := replay_grows h hr
  exact hrecorded.grows hi (reachable_sites (System.reachable_replay _ moves h hr)) hgrows
    (hgrows.closed call .persisted hanswered d)

theorem batch_durable_bench : ∃ q, BenchAt q 3 ∧
    ∃ places, ∀ moves r, (writers benchSite benchRequests).replay q moves = some r →
      Recorded benchSite (1, 0) (kept benchBatch) (r.state.world.files 1) places := by
  obtain ⟨q, _, _, hq, _, ⟨_, _, hasked, hanswered⟩, hstored, _⟩ := bench_run
  exact ⟨q, hstored, batch_durable hq hasked hanswered 1⟩

/-- The catalog of a day is a history that only grows, whatever the writers do, and what was read
from its file is read again. -/
theorem catalog_append_only (h : (writers site requests).Reachable (.opening (blank p)) q)
    {moves : List (Move (Answer Raised) Unit ℕ)}
    (hr : (writers site requests).replay q moves = some r) (d : ℤ) :
    (∃ ds : List (ChannelDescriptorV1 p), History ds ∧
      (r.state.world.files d).descriptors = ds.map rowOf) ∧
    (q.state.world.files d).descriptors <+: (r.state.world.files d).descriptors ∧
    (∀ hash legacy (descriptor : ChannelDescriptorV1 p),
      resolveSqliteDescriptor p (q.state.world.files d) hash legacy = .ok descriptor →
        resolveSqliteDescriptor p (r.state.world.files d) hash legacy = .ok descriptor) ∧
    (∀ i < (q.state.world.files d).readings.length, ∃ x : ResolvedReading p,
      readSqliteReading p (q.state.world.files d) (i + 1) = .ok x ∧
        readSqliteReading p (r.state.world.files d) (i + 1) = .ok x) ∧
    ∀ call catalog, .asked call (.installCatalog d catalog) ∈ q.state.world.notes →
      .answered call .persisted ∈ q.state.world.notes →
      ∀ descriptor ∈ catalog.descriptors,
        resolveSqliteDescriptor p (r.state.world.files d)
          (some (codePoints descriptor.descriptorHash))
          ⟨descriptor.instrumentId, descriptor.channelId, descriptor.unit⟩ = .ok descriptor := by
  have hi := reachable_sites h
  have hi' := reachable_sites (System.reachable_replay _ moves h hr)
  have hgrows := replay_grows h hr
  refine ⟨(hi'.sound d).history, hgrows.descriptors d, fun hash legacy descriptor hresolve => ?_,
    fun i hi₀ => ?_, fun call catalog hasked hanswered descriptor hmem => ?_⟩
  · exact (hi'.sound d).resolve_grows (hgrows.descriptors d) (hi.sound d) hresolve
  · obtain ⟨descriptor, hread, _⟩ := (hi.sound d).read (List.getElem?_eq_getElem hi₀)
    exact ⟨_, hread, (hi'.sound d).read_grows (hgrows.descriptors d) (hgrows.readings d)
      (hi.sound d) hread⟩
  · obtain ⟨request, hasked', hfulfilled⟩ := hi.answered call hanswered
    have hrequest := hi.once call _ request hasked hasked'
    obtain ⟨hquantity, hrow⟩ := hfulfilled.installed d catalog hrequest.symm descriptor hmem
    exact (hi'.sound d).resolve hquantity ((hgrows.descriptors d).subset hrow)

theorem catalog_append_only_bench : ∃ q r, BenchAt q 3 ∧ BenchAt r 5 ∧
    (.asked (0, 0) (.installCatalog 1 benchCatalog) ∈ q.state.world.notes ∧
      .answered (0, 0) .persisted ∈ q.state.world.notes) ∧
    (∃ ds : List (ChannelDescriptorV1 default), History ds ∧
      (r.state.world.files 1).descriptors = ds.map rowOf) ∧
    (q.state.world.files 1).descriptors <+: (r.state.world.files 1).descriptors ∧
    (∀ hash legacy (descriptor : ChannelDescriptorV1 default),
      resolveSqliteDescriptor default (q.state.world.files 1) hash legacy = .ok descriptor →
        resolveSqliteDescriptor default (r.state.world.files 1) hash legacy = .ok descriptor) ∧
    (∀ i < (q.state.world.files 1).readings.length, ∃ x : ResolvedReading default,
      readSqliteReading default (q.state.world.files 1) (i + 1) = .ok x ∧
        readSqliteReading default (r.state.world.files 1) (i + 1) = .ok x) ∧
    ∀ call catalog, .asked call (.installCatalog 1 catalog) ∈ q.state.world.notes →
      .answered call .persisted ∈ q.state.world.notes →
      ∀ descriptor ∈ catalog.descriptors,
        resolveSqliteDescriptor default (r.state.world.files 1)
          (some (codePoints descriptor.descriptorHash))
          ⟨descriptor.instrumentId, descriptor.channelId, descriptor.unit⟩ = .ok descriptor := by
  obtain ⟨q, _, r, hq, hr, ⟨hasked, hanswered, _⟩, hstored, hlater⟩ := bench_run
  exact ⟨q, r, hstored, hlater, ⟨hasked, hanswered⟩, catalog_append_only hq hr 1⟩

end DayFiles
end CryoDaq
