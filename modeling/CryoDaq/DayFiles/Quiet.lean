import CryoDaq.DayFiles.Calls
import CryoDaq.Sqlite.Quiet

/-!
# A writer that nothing disturbs

A writer with a catalog of one descriptor installs it and stores its batches when it works alone.
Whether the catalog is in the file already makes no difference.
-/

namespace CryoDaq
namespace DayFiles

open Storage Channels Async Sqlite Policy

variable {p : Platform} {site : Site p} {x : ChannelDescriptorV1 p} {catalog : ChannelCatalog p}
  {s : Store ℤ DayFile (Note p) Fields} {c : Connection} {d : ℤ} {f : DayFile}

/-! ## A catalog of one descriptor -/

theorem catalogued_singleton (hx : x.quantity ≠ .legacyUnknown) : Catalogued [x] where
  length := by
    rw [List.length_singleton]
    decide
  authoritative := fun d hd => List.mem_singleton.mp hd ▸ hx
  agree := by
    intro d hd e he
    rw [List.mem_singleton.mp hd, List.mem_singleton.mp he]
    exact .refl x

theorem load_singleton (hx : x.quantity ≠ .legacyUnknown) :
    loadEnvelopes [rowOf x] = .ok [envelopeOf x] :=
  loadEnvelopes_eq_ok.mpr ⟨[x], catalogued_singleton hx, rfl, rfl⟩

theorem snapshot_singleton (hx : x.quantity ≠ .legacyUnknown)
    (h : channelCatalog [x] [] = .ok catalog) : snapshotCatalog catalog = .ok catalog := by
  have hfrom : fromDescriptor x = .ok (envelopeOf x) := fromDescriptor_eq_ok.mpr ⟨hx, rfl⟩
  have hread := decode_envelopeOf hx
  simp only [snapshotCatalog, (channelCatalog_stands h).1, List.mapM_cons, List.mapM_nil,
    bind_eq_ok, pure_eq_ok, mapError_eq_ok, hfrom]
  refine ⟨[envelopeOf x], ⟨_, rfl, _, rfl, rfl⟩, [x], ?_, h⟩
  rw [mapM_eq_ok]
  refine .cons ?_ .nil
  rw [hread]
  rfl

theorem check_singleton (hx : x.quantity ≠ .legacyUnknown)
    (h : channelCatalog [x] [] = .ok catalog) {rows : List DescriptorRow}
    (hrows : rows = [] ∨ rows = [rowOf x]) : checkInstall catalog rows = .ok () := by
  obtain ⟨prior, hload, hlength, hprior⟩ : ∃ prior : List (ChannelDescriptorV1 p),
      loadEnvelopes rows = .ok (prior.map envelopeOf) ∧ prior.length ≤ 1 ∧ ∀ e ∈ prior, e = x := by
    rcases hrows with rfl | rfl
    · exact ⟨[], loadEnvelopes_eq_ok.mpr ⟨[], history_nil.toCatalogued, rfl, rfl⟩, by simp⟩
    · exact ⟨[x], load_singleton hx, by simp⟩
  have hall : ∀ e ∈ prior ++ [x], e = x := by
    intro e he
    rcases List.mem_append.mp he with he | he
    · exact hprior e he
    · exact List.mem_singleton.mp he
  have hupdate : UpdateOk prior [x] := by
    refine ⟨hlength.trans (by decide), (catalogued_singleton hx).length, fun d hd e he => ?_, fun d hd => ?_⟩
    · rw [hall d hd, hall e he]
      exact .refl x
    · rw [List.mem_singleton.mp hd]
      cases prior with
      | nil => exact .inr fun e he => absurd he List.not_mem_nil
      | cons e prior => exact .inl ⟨e, List.mem_cons_self .., by rw [hprior e (List.mem_cons_self ..)]⟩
  have hok : CatalogOk [x] prior := ⟨hupdate, (catalogued_singleton hx).authoritative,
    List.pairwise_singleton _ _, fun d hd e he _ => by
      rw [hall e he, List.mem_singleton.mp hd]⟩
  obtain ⟨c', hc'⟩ := channelCatalog_eq_ok.mpr hok
  have hmap : (prior.map envelopeOf).map (fun e => e.descriptor) = prior := by
    rw [List.map_map]
    exact List.map_id prior
  simp only [checkInstall, hload, bind_eq_ok, mapError_eq_ok, exists_unit, pure_eq_ok]
  refine ⟨_, rfl, ?_⟩
  rw [hmap, (channelCatalog_stands h).1]
  exact ⟨validateCatalogUpdate_eq_ok.mpr hupdate, c', hc', trivial⟩

/-- The rows of a file before or after the catalog went in. -/
def Installable (x : ChannelDescriptorV1 p) (f : DayFile) : Prop :=
  (f.descriptors = [] ∧ f.readings = []) ∨
    (f.descriptors = [rowOf x] ∧ ForeignKeys f.descriptors f.readings)

theorem ends_installBody (hx : x.quantity ≠ .legacyUnknown)
    (h : channelCatalog [x] [] = .ok catalog) (hs : Lone s c d f) (hf : Installable x f) :
    ∃ s', Ends enabled (installBody c d catalog : Db p Unit) s (.ok ()) s' ∧
      Lone s' c d { f with descriptors := [rowOf x] } ∧ s'.world = s.world ∧
      ForeignKeys [rowOf x] f.readings := by
  have hrows : f.descriptors = [] ∨ f.descriptors = [rowOf x] := hf.imp And.left And.left
  have hkeys : ForeignKeys [rowOf x] f.readings := by
    rcases hf with ⟨_, hnil⟩ | ⟨hrow, hkeys⟩
    · rw [hnil]
      exact fun r hr => absurd hr List.not_mem_nil
    · rwa [hrow] at hkeys
  have hfrom : fromDescriptor x = .ok (envelopeOf x) := fromDescriptor_eq_ok.mpr ⟨hx, rfl⟩
  obtain ⟨s₁, hinstall, hs₁, hworld⟩ : ∃ s₁,
      Ends enabled (installDescriptors c d [x] : Db p Unit) s (.ok ()) s₁ ∧
        Lone s₁ c d { f with descriptors := [rowOf x] } ∧ s₁.world = s.world := by
    rw [installDescriptors, hfrom]
    rcases hf with ⟨hnil, _⟩ | ⟨hrow, _⟩
    · have hnew : priorRow (rowOf x) f.descriptors = .ok false := by
        rw [hnil]
        rfl
      have hinsert : insertRow (rowOf x) f.descriptors = .ok [rowOf x] := by
        simp only [insertRow, hnil, bind_eq_ok, ensure_eq_ok, exists_unit, pure_eq_ok]
        exact ⟨x.valid.descriptorRevision.1, fun r hr => absurd hr List.not_mem_nil, rfl⟩
      refine ⟨_, .bind (.ret _ _) (.bind (hs.query hnew) (.bind (hs.execute ?_)
        (.ret () _))), hs.wrote _, Store.wrote_world⟩
      rw [bind_eq_ok]
      exact ⟨[rowOf x], hinsert, rfl⟩
    · have hold : priorRow (rowOf x) f.descriptors = .ok true := by
        rw [hrow]
        simp only [priorRow, List.find?_cons, decide_true, bind_eq_ok, ensure_eq_ok, exists_unit,
          pure_eq_ok, and_self]
      refine ⟨s, .bind (.ret _ _) (.bind (hs.query hold) (.ret () _)), ?_, rfl⟩
      rw [← hrow]
      exact hs
  refine ⟨s₁, ?_, hs₁, hworld, hkeys⟩
  rw [installBody, (channelCatalog_stands h).1]
  have hload : (loadEnvelopes (p := p) [rowOf x]).map (fun _ => ()) = .ok () := by
    rw [load_singleton hx]
    rfl
  have hforeign (e : Raised) : ensure (ForeignKeys [rowOf x] f.readings) e = .ok () :=
    ensure_eq_ok.mpr hkeys
  exact .bind (hs.query (check_singleton hx h hrows))
    (.bind hinstall (.bind (hs₁.query (hforeign _)) (hs₁.query hload)))

theorem ends_commitConnection (hdead : s.dead = []) :
    Ends enabled (commitConnection c d : Db p Unit) s (.ok ()) (s.committed c d) :=
  .attempt (ends_call hdead rfl) (.ret () _)

theorem ends_installCatalog (hx : x.quantity ≠ .legacyUnknown)
    (h : channelCatalog [x] [] = .ok catalog) (hs : Quiet s)
    (hf : Installable x (s.world.files d)) :
    ∃ s', Ends enabled (installCatalog c d catalog false : Db p Unit) s (.ok ()) s' ∧ Quiet s' ∧
      s'.world = s.world.put d { s.world.files d with descriptors := [rowOf x] } := by
  obtain ⟨s₁, hbody, hs₁, hworld, _⟩ := ends_installBody hx h (hs.begun c d) hf
  have hload : (loadEnvelopes (p := p) [rowOf x]).map (fun _ => ()) = .ok () := by
    rw [load_singleton hx]
    rfl
  have hput := hs₁.holds.committed_world
  rw [hworld] at hput
  refine ⟨_, ?_, hs₁.committed, hput⟩
  have hidle : s.inTransaction c d = false := by
    rw [Store.inTransaction, hs.writing d]
  rw [installCatalog, snapshot_singleton hx h]
  refine .bind (ends_call hs.dead rfl) (.bind (.ret _ _) (.get ?_))
  show Ends enabled (if false ≠ s.inTransaction c d then _ else _) s _ _
  rw [hidle, if_neg (not_not.mpr rfl), if_neg Bool.false_ne_true]
  refine .attempt (.bind (hs.begin c d) (.bind hbody (ends_commitConnection hs₁.dead)))
    (hs₁.committed.query ?_)
  rw [hput, World.put_files_self]
  exact hload

theorem ends_installWithin (hx : x.quantity ≠ .legacyUnknown)
    (h : channelCatalog [x] [] = .ok catalog) (hs : Lone s c d f) (hf : Installable x f) :
    ∃ s', Ends enabled (installCatalog c d catalog true : Db p Unit) s (.ok ()) s' ∧
      Lone s' c d { f with descriptors := [rowOf x] } ∧ s'.world = s.world ∧
      ForeignKeys [rowOf x] f.readings := by
  obtain ⟨s₁, hbody, hs₁⟩ := ends_installBody hx h hs hf
  refine ⟨s₁, ?_, hs₁⟩
  rw [installCatalog, snapshot_singleton hx h]
  refine .bind (ends_call hs.dead rfl) (.bind (.ret _ _) (.get ?_))
  show Ends enabled (if true ≠ s.inTransaction c d then _ else _) s _ _
  rw [hs.holds.inTransaction, if_neg (not_not.mpr rfl), if_pos rfl]
  exact hbody

/-! ## Storing a batch -/

theorem ends_fields (t : ℕ) (s : Store ℤ DayFile (Note p) Fields) :
    Ends enabled (fields t : Db p Fields) s (.ok (s.world.memory t)) s :=
  .get (.ret _ s)

theorem ends_assign (t : ℕ) (g : Fields → Fields) (s : Store ℤ DayFile (Note p) Fields) :
    Ends enabled (assign t g : Db p Unit) s (.ok ()) (s.assigned t (g (s.world.memory t))) :=
  .get (.put (.ret () _))

theorem ends_descriptorGuardState (hdead : s.dead = []) :
    Ends enabled (descriptorGuardState c d : Db p ℕ) s (.ok (s.dataVersion c d)) s :=
  .bind (ends_call hdead rfl) (.get (.ret _ s))

theorem ends_openConnection {t : ℕ} (hs : Quiet s)
    (hverified : ∀ message, verifyStorage p message (s.world.files d) = .ok ()) :
    ∃ n s', Ends enabled (openConnection t d : Db p ℕ) s (.ok n) s' ∧ Quiet s' ∧
      s'.world = s.world.remember t { s.world.memory t with
        connections := (s.world.memory t).connections + 1
        connection := some (d, n)
        descriptorCatalogInstalled := false
        descriptorConnectionGuard := none } := by
  let n := (s.world.memory t).connections
  let s₁ := s.assigned t { s.world.memory t with connections := n + 1 }
  have hs₁ : Quiet s₁ := hs.assigned ..
  have hs₂ := hs₁.begun (t, n) d
  have hworld : ((s₁.begun (t, n) d).committed (t, n) d).world = s₁.world :=
    hs₂.holds.committed_world.trans (put_self _ d)
  have hopened : Ends enabled (do
      Sqlite.begin (t, n) d
      commitConnection (t, n) d
      query (t, n) d (verifyStorage p "descriptor storage foreign-key check failed") : Db p Unit)
      s₁ (.ok ()) ((s₁.begun (t, n) d).committed (t, n) d) := by
    refine .bind (hs₁.begin _ d) (.bind (ends_commitConnection hs₂.dead) (hs₂.committed.query ?_))
    rw [hworld]
    exact hverified _
  refine ⟨n, _, .bind (ends_fields t s) (.bind (ends_assign t _ s) (.attempt hopened
    (.bind (ends_assign t _ _) (.ret n _)))), hs₂.committed.assigned .., ?_⟩
  refine (congrArg (fun w : Durable p => w.remember t { w.memory t with
    connection := some (d, n)
    descriptorCatalogInstalled := false
    descriptorConnectionGuard := none }) hworld).trans ?_
  simp only [Store.assigned, s₁, n, World.remember, Function.update_self, Function.update_idem]

theorem ForeignKeys.append {descriptors : List DescriptorRow} {a b : List ReadingRow}
    (h : ForeignKeys descriptors (a ++ b)) : ForeignKeys descriptors a ∧ ForeignKeys descriptors b :=
  ⟨fun r hr => h r (List.mem_append_left _ hr), fun r hr => h r (List.mem_append_right _ hr)⟩

theorem ends_dayTransaction {t n : ℕ} {w : WriterCatalog p} (rows : List ReadingRow)
    (hx : x.quantity ≠ .legacyUnknown) (h : channelCatalog [x] [] = .ok w.catalog) (hs : Quiet s)
    (hrow : (s.world.files d).descriptors = [rowOf x])
    (hkeys : ForeignKeys [rowOf x] ((s.world.files d).readings ++ rows))
    (hguard : (s.world.memory t).descriptorConnectionGuard = none) :
    ∃ s', Ends enabled (dayTransaction t n d (some w) false rows : Db p Unit) s (.ok ()) s' ∧
      Quiet s' ∧
      s'.world.files d = ⟨[rowOf x], (s.world.files d).readings ++ rows⟩ ∧
      s'.world.notes = s.world.notes ∧ (∀ u, u ≠ t → s'.world.memory u = s.world.memory u) := by
  have hverified (message : String) : verifyStorage p message (s.world.files d) = .ok () := by
    rw [verifyStorage, hrow, load_singleton hx]
    exact ensure_eq_ok.mpr hkeys.append.1
  have hs₁ := hs.begun (t, n) d
  let s₁ := s.begun (t, n) d
  let s₂ := s₁.assigned t { s.world.memory t with
    descriptorConnectionGuard := some (s₁.dataVersion (t, n) d) }
  have hs₂ : Lone s₂ (t, n) d (s.world.files d) := hs₁.assigned ..
  have hboundary : Ends enabled (verifyDescriptorWriteBoundary t n d (some w) : Db p Unit) s₁
      (.ok ()) s₂ := by
    refine .bind (ends_descriptorGuardState hs₁.dead) (.bind (ends_fields t _) ?_)
    rw [Store.begun_world, hguard, if_neg (Option.some_ne_none _).symm]
    exact .bind (hs₁.query (hverified _)) (.bind (ends_descriptorGuardState hs₁.dead)
      (ends_assign t _ _))
  obtain ⟨s₃, hinstall, hs₃, hworld₃, _⟩ :=
    ends_installWithin hx h hs₂ (.inr ⟨hrow, hrow ▸ hkeys.append.1⟩)
  have hinsert : insertReadings rows ⟨[rowOf x], (s.world.files d).readings⟩ =
      .ok ⟨[rowOf x], (s.world.files d).readings ++ rows⟩ := by
    simp only [insertReadings, bind_eq_ok, ensure_eq_ok, exists_unit, pure_eq_ok, and_true]
    exact hkeys.append.2
  have hs₄ := hs₃.wrote ⟨[rowOf x], (s.world.files d).readings ++ rows⟩
  have hworld₅ := hs₄.holds.committed_world
  rw [Store.wrote_world, hworld₃] at hworld₅
  refine ⟨_, .bind (hs.begin _ d) (.bind hboundary (.bind hinstall (.bind (hs₃.execute hinsert)
    (.bind (.bind (ends_descriptorGuardState hs₄.dead) (.bind (ends_commitConnection hs₄.dead)
      (ends_assign t _ _))) (ends_assign t _ _))))), (hs₄.committed.assigned ..).assigned .., ?_, ?_,
      fun u hu => ?_⟩
  · show (Store.committed _ _ _).world.files d = _
    rw [hworld₅, World.put_files_self]
  · show (Store.committed _ _ _).world.notes = _
    rw [hworld₅]
    rfl
  · refine (World.remember_memory_of_ne _ _ hu).trans ?_
    refine (World.remember_memory_of_ne _ _ hu).trans ?_
    rw [hworld₅]
    exact World.remember_memory_of_ne _ _ hu

theorem ends_passiveCheckpoint {t n : ℕ} (hs : Quiet s) :
    ∃ s' m, Ends enabled (passiveCheckpoint t n d : Db p Unit) s (.ok ()) s' ∧ Quiet s' ∧
      s'.world = s.world.remember t m := by
  let s₁ := s.assigned t { s.world.memory t with
    checkpointCounter := (s.world.memory t).checkpointCounter + 1 }
  have hs₁ : Quiet s₁ := hs.assigned ..
  by_cases hdue : 60 ≤ (s₁.world.memory t).checkpointCounter
  · let m : Fields := { s₁.world.memory t with checkpointCounter := 0 }
    refine ⟨s₁.assigned t m, m, .bind (ends_assign t _ s) (.bind (ends_fields t s₁) ?_),
      hs₁.assigned .., ?_⟩
    · rw [if_pos hdue]
      exact .bind (.attempt (ends_call hs₁.dead rfl) (.ret () _)) (ends_assign t _ s₁)
    · simp only [Store.assigned, s₁, World.remember, Function.update_idem]
  · refine ⟨s₁, _, .bind (ends_assign t _ s) (.bind (ends_fields t s₁) ?_), hs₁, rfl⟩
    rw [if_neg hdue]
    exact .ret () s₁

theorem ends_writeBatch {t : ℕ} {w : WriterCatalog p} {call : ℕ × ℕ} {batch : List Sample}
    {rows : List ReadingRow} (hx : x.quantity ≠ .legacyUnknown)
    (h : channelCatalog [x] [] = .ok w.catalog) (hcatalog : site.catalog t = some w)
    (hattempts : site.attempts = 1) (hs : Quiet s)
    (hrow : (s.world.files d).descriptors = [rowOf x]) (hbatch : batch.isEmpty = false)
    (hday : byDay faceDay batch = [(d, batch)])
    (hrows : dayRows site.localTimestamp (some w.catalog) call batch = .ok rows)
    (hne : rows.isEmpty = false)
    (hkeys : ForeignKeys [rowOf x] ((s.world.files d).readings ++ rows))
    (hmemory : (s.world.memory t).connection = none) :
    ∃ s', Ends enabled (writeBatch site t call batch : Db p Bool) s (.ok true) s' ∧ Quiet s' ∧
      s'.world.files d = ⟨[rowOf x], (s.world.files d).readings ++ rows⟩ ∧
      s'.world.notes = s.world.notes ∧ (∀ u, u ≠ t → s'.world.memory u = s.world.memory u) := by
  have hverified (message : String) : verifyStorage p message (s.world.files d) = .ok () := by
    rw [verifyStorage, hrow, load_singleton hx]
    exact ensure_eq_ok.mpr hkeys.append.1
  obtain ⟨n, s₁, hopen, hs₁, hworld₁⟩ := ends_openConnection (t := t) hs hverified
  have hfields : (s₁.world.memory t).descriptorConnectionGuard = none ∧
      (s₁.world.memory t).descriptorCatalogInstalled = false := by
    rw [hworld₁, World.remember_memory_self]
    exact ⟨rfl, rfl⟩
  have hfile : s₁.world.files d = s.world.files d := by rw [hworld₁]; rfl
  obtain ⟨s₂, hday₂, hs₂, hfile₂, hnotes₂, hothers₂⟩ := ends_dayTransaction (n := n) rows hx h
    hs₁ (hfile ▸ hrow) (hfile ▸ hkeys) hfields.1
  obtain ⟨s₃, m, hcheckpoint, hs₃, hworld₃⟩ := ends_passiveCheckpoint (t := t) (n := n) (d := d) hs₂
  refine ⟨s₃, ?_, hs₃, ?_, ?_, fun u hu => ?_⟩
  · rw [writeBatch, if_neg (by rw [hbatch]; exact Bool.false_ne_true), hday]
    have hattempt : Ends enabled (dayAttempts t n d (some w) false rows 1 : Db p Bool) s₁
        (.ok true) s₂ := .attempt hday₂ (.ret true s₂)
    have hbatch₂ : Ends enabled (writeDayBatch site t n d call batch : Db p Bool) s₁
        (.ok true) s₃ := by
      rw [writeDayBatch, Site.bindings, hcatalog, Option.map_some, hrows, hattempts]
      refine .bind (.ret _ _) ?_
      show Ends enabled (if rows.isEmpty = true then _ else _) s₁ _ s₃
      rw [hne, if_neg Bool.false_ne_true]
      refine .bind (ends_fields t s₁) ?_
      rw [hfields.2]
      exact .bind hattempt (.bind hcheckpoint (.ret true s₃))
    have hensure : Ends enabled (ensureConnection t d : Db p ℕ) s (.ok n) s₁ := by
      refine .bind (ends_fields t s) ?_
      rw [hmemory]
      exact hopen
    exact .bind hensure (.bind hbatch₂ (.bind (.ret true s₃) (.ret true s₃)))
  · rw [hworld₃, ← hfile]
    exact hfile₂
  · rw [hworld₃]
    refine hnotes₂.trans ?_
    rw [hworld₁]
    rfl
  · rw [hworld₃, World.remember_memory_of_ne _ _ hu, hothers₂ u hu, hworld₁]
    exact World.remember_memory_of_ne _ _ hu

theorem ends_serve {t : ℕ} {request : Request p} {s' : Store ℤ DayFile (Note p) Fields}
    (hcalls : (s.world.memory t).calls = 0)
    (h : Ends enabled (perform site t (t, 0) request)
      ((s.assigned t (s.world.memory t).asked).noted (.asked (t, 0) request)) (.ok true) s') :
    Ends enabled (serve site t [request]) s (.ok ())
      (s'.noted (.answered (t, 0) .persisted)) := by
  refine .bind (ends_fields t s) (.bind (ends_assign t _ s) ?_)
  rw [hcalls]
  exact .get (.put (.attempt h (.get (.put (.ret () _)))))

end DayFiles
end CryoDaq
