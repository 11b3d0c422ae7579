import CryoDaq.DayFiles.Policy
import CryoDaq.Sqlite.Transactions

/-!
# The transaction of a day

Between its beginning and its commit a transaction turns the committed file into one that has the
catalog of its writer and the rows of one day.

**Catalog.**  `installBody` adds the rows of new descriptors behind the history.  What it leaves is
a history again, or it raises.

**Commit.**  A transaction that raises an operational error has not committed.  After any other
error it may have.
-/

namespace CryoDaq
namespace DayFiles

open Storage Channels Async Sqlite Policy

variable {p : Platform} {site : Site p} {t n : ℕ} {d : ℤ} {A B : Durable p → Prop}
  {s : Store ℤ DayFile (Note p) Fields} {cx : Bool} {w w' : Durable p} {call : ℕ × ℕ}
  {request : Request p} {done todo : List (ℤ × List Sample)}

/-! ## Catalogs of writers -/

theorem snapshot_descriptors {catalog configured : ChannelCatalog p}
    (h : snapshotCatalog catalog = .ok configured) :
    configured.descriptors = catalog.descriptors :=
  (channelCatalog_stands (snapshotCatalog_eq_ok h)).1

theorem WriterCatalog.stands (c : WriterCatalog p) : c.catalog.Stands c.catalog.descriptors := by
  obtain ⟨source, hsource⟩ := c.snapshot
  obtain ⟨hdescriptors, hstands⟩ := channelCatalog_stands (snapshotCatalog_eq_ok hsource)
  rw [hdescriptors]
  exact hstands

theorem Site.bindings_stands (c : ChannelCatalog p) (h : site.bindings t = some c) :
    c.Stands c.descriptors := by
  obtain ⟨writer, _, rfl⟩ := Option.map_eq_some_iff.mp h
  exact writer.stands

/-! ## What a writer knows -/

/-- What a writer knows of the call that it serves: the days that it has stored, and those that it
has not touched. -/
structure Progress (site : Site p) (call : ℕ × ℕ) (request : Request p)
    (done todo : List (ℤ × List Sample)) (w : Durable p) : Prop where
  serving : Serving call request w
  days : ∀ x ∈ done ++ todo, x ∈ request.days
  apart : ((done ++ todo).map Prod.fst).Nodup
  stored : ∀ x ∈ done, Stored site call x.2 (w.files x.1)
  untouched : ∀ x ∈ todo, rowsOf call (w.files x.1) = []

/-- When the catalog of the writer is said to be installed, the file of the day has it. -/
def Ready (site : Site p) (t : ℕ) (d : ℤ) (installed : Bool) (w : Durable p) : Prop :=
  installed = true → ∀ c, site.catalog t = some c → Carries c.catalog (w.files d)

/-- What a writer knows while it writes a day. -/
def Day (site : Site p) (call : ℕ × ℕ) (request : Request p) (done todo : List (ℤ × List Sample))
    (d : ℤ) (installed : Bool) (w : Durable p) : Prop :=
  Progress site call request done todo w ∧ Ready site call.1 d installed w

/-- What a writer knows whatever its fields are, and the others leave alone. -/
structure Lasting (site : Site p) (t : ℕ) (A : Durable p → Prop) : Prop where
  steady : (policy site).Steady t A
  remember : ∀ w m, A w → A (w.remember t m)

/-- The writer is connected to the file of the day. -/
structure Connected (t n : ℕ) (d : ℤ) (A : Durable p → Prop) (w : Durable p) : Prop where
  connection : (w.memory t).connection = some (d, n)
  known : A w

/-- What a writer knows on its connection until it has written a day. -/
abbrev Writing (site : Site p) (t n k : ℕ) (request : Request p) (done : List (ℤ × List Sample))
    (day : ℤ × List Sample) (rest : List (ℤ × List Sample)) (installed : Bool) :
    Durable p → Prop :=
  Connected t n day.1 (Day site (t, k) request done (day :: rest) day.1 installed)

/-- What it knows afterwards. -/
abbrev Wrote (site : Site p) (t n k : ℕ) (request : Request p) (done : List (ℤ × List Sample))
    (day : ℤ × List Sample) (rest : List (ℤ × List Sample)) : Durable p → Prop :=
  Connected t n day.1 (Day site (t, k) request (day :: done) rest day.1 true)

theorem Serving.leaves (h : Serving call request w) (hleaves : Leaves call.1 w w') :
    Serving call request w' where
  asked := hleaves.notes _ h.asked
  unanswered := fun answer hanswer => h.unanswered answer (hleaves.own _ hanswer rfl)

theorem serving_lasting (hcall : call.1 = t) : Lasting site t (Serving call request) where
  steady := fun _ _ hleaves _ h => h.leaves (hcall ▸ hleaves)
  remember := fun _ _ h => ⟨h.asked, h.unanswered⟩

theorem progress_lasting (hcall : call.1 = t) :
    Lasting site t (Progress site call request done todo) where
  steady := by
    intro w w' hleaves _ h
    have hrows := fun day => hleaves.rows day call hcall
    refine ⟨h.serving.leaves (hcall ▸ hleaves), h.days, h.apart, fun x hx => ?_, fun x hx => ?_⟩
    · rw [Stored, hrows]
      exact h.stored x hx
    · rw [hrows]
      exact h.untouched x hx
  remember := fun _ _ h =>
    ⟨⟨h.serving.asked, h.serving.unanswered⟩, h.days, h.apart, h.stored, h.untouched⟩

theorem Lasting.and (hA : Lasting site t A) (hB : Lasting site t B) :
    Lasting site t fun w => A w ∧ B w where
  steady := fun w w' hw hi h => ⟨hA.steady w w' hw hi h.1, hB.steady w w' hw hi h.2⟩
  remember := fun w m h => ⟨hA.remember w m h.1, hB.remember w m h.2⟩

theorem ready_lasting {installed : Bool} : Lasting site t (Ready site t d installed) where
  steady := fun _ _ hleaves _ h hinstalled c hc => (h hinstalled c hc).mono (hleaves.descriptors d)
  remember := fun _ _ h => h

theorem day_lasting {k : ℕ} {installed : Bool} :
    Lasting site t (Day site (t, k) request done todo d installed) :=
  (progress_lasting (t := t) rfl).and (ready_lasting (t := t))

theorem connected_steady (hA : Lasting site t A) :
    (policy site).Steady t (Connected t n d A) := by
  intro w w' hleaves hi h
  refine ⟨?_, hA.steady w w' hleaves hi h.known⟩
  rw [hleaves.memory]
  exact h.connection

theorem writing_steady (site : Site p) (t n k : ℕ) (request : Request p)
    (done : List (ℤ × List Sample)) (day : ℤ × List Sample) (rest : List (ℤ × List Sample))
    (installed : Bool) :
    (policy site).Steady t (Writing site t n k request done day rest installed) :=
  connected_steady day_lasting

theorem Remembers.same (hi : Inv site w) {m : Fields} (hcalls : (w.memory t).calls ≤ m.calls)
    (hconnection : m.connection = (w.memory t).connection)
    (hinstalled : m.descriptorCatalogInstalled = (w.memory t).descriptorCatalogInstalled) :
    Remembers site t w m where
  calls := hcalls
  installed := by
    intro d n hd hflag
    rw [hconnection] at hd
    rw [hinstalled] at hflag
    exact hi.installed t d n hd hflag

/-- Fields that a writer may have at any time with the same connection. -/
structure Keeps (f : Fields → Fields) : Prop where
  calls : ∀ m, (f m).calls = m.calls
  connection : ∀ m, (f m).connection = m.connection
  installed : ∀ m, (f m).descriptorCatalogInstalled = m.descriptorCatalogInstalled

theorem Connected.remember (hA : Lasting site t A) (h : Connected t n d A w) {m : Fields}
    (hconnection : m.connection = (w.memory t).connection) :
    Connected t n d A (w.remember t m) where
  connection := by
    rw [World.remember_memory_self, hconnection]
    exact h.connection
  known := hA.remember w m h.known

theorem wp_assign {f : Fields → Fields} (hf : Keeps f) (hA : Lasting site t A)
    (hs : (policy site).Outside (Connected t n d A) s) :
    wp ((policy site).contract t) cx (assign t f : Db p Unit)
      (fun r s' => (policy site).Outside (Connected t n d A) s' ∧ r = .ok ()) s :=
  hs.assign (.same hs.inv (hf.calls _).ge (hf.connection _) (hf.installed _))
    (hs.known.remember hA (hf.connection _))

/-! ## Installing a catalog -/

/-- A catalog is being installed into the committed file `b`. -/
def Midway (configured done : List (ChannelDescriptorV1 p)) (b f : DayFile) : Prop :=
  ∃ ds prior new : List (ChannelDescriptorV1 p), History ds ∧ b.descriptors = ds.map rowOf ∧
    (∀ descriptor, descriptor ∈ prior ↔ descriptor ∈ ds) ∧ CatalogOk configured prior ∧
      Installing ds done f.descriptors new ∧ f.readings = b.readings

/-- The file goes beyond the committed one in its catalog only. -/
structure Extended (p : Platform) (b f : DayFile) : Prop where
  sound : Sound p f
  descriptors : b.descriptors <+: f.descriptors
  readings : f.readings = b.readings

theorem extended_refl {f : DayFile} (h : Sound p f) : Extended p f f :=
  ⟨h, List.prefix_rfl, rfl⟩

theorem Sound.extend {b f : DayFile} {ds : List (ChannelDescriptorV1 p)} (h : Sound p b)
    (hds : History ds) (hrows : f.descriptors = ds.map rowOf)
    (hgrown : b.descriptors <+: f.descriptors) (hreadings : f.readings = b.readings) :
    Sound p f where
  history := ⟨ds, hds, hrows⟩
  bound := by
    intro row hrow
    rw [hreadings] at hrow
    refine (h.bound row hrow).imp_right ?_
    rintro ⟨descriptor, hquantity, hmem, hbound⟩
    exact ⟨descriptor, hquantity, hgrown.subset hmem, hbound⟩

theorem midway_nil {configured : ChannelCatalog p} {f : DayFile} (h : Sound p f)
    (hcheck : checkInstall configured f.descriptors = .ok ()) :
    Midway configured.descriptors [] f f := by
  obtain ⟨ds, hds, hrows⟩ := h.history
  rw [hrows] at hcheck
  obtain ⟨prior, hprior, hok⟩ := checkInstall_eq_ok hds hcheck
  refine ⟨ds, prior, [], hds, hrows, hprior, hok, ?_, rfl⟩
  rw [hrows]
  exact installing_nil ds

theorem Midway.skip {configured done : List (ChannelDescriptorV1 p)} {b f : DayFile}
    (h : Midway configured done b f) {descriptor : ChannelDescriptorV1 p}
    (hmem : rowOf descriptor ∈ f.descriptors) :
    Midway configured (done ++ [descriptor]) b f := by
  obtain ⟨ds, prior, new, hds, hrows, hprior, hok, hinstalling, hreadings⟩ := h
  exact ⟨ds, prior, new, hds, hrows, hprior, hok, hinstalling.skip hmem, hreadings⟩

theorem Midway.insert {configured done : List (ChannelDescriptorV1 p)} {b f : DayFile}
    (h : Midway configured done b f) {descriptor : ChannelDescriptorV1 p}
    (hconfigured : descriptor ∈ configured)
    (hnew : ∀ r ∈ f.descriptors, r.descriptorHash ≠ (rowOf descriptor).descriptorHash) :
    Midway configured (done ++ [descriptor]) b
      { f with descriptors := f.descriptors ++ [rowOf descriptor] } := by
  obtain ⟨ds, prior, new, hds, hrows, hprior, hok, hinstalling, hreadings⟩ := h
  refine ⟨ds, prior, _, hds, hrows, hprior, hok, hinstalling.insert hnew ?_, hreadings⟩
  rcases hok.update.forward descriptor hconfigured with ⟨e, he, hidentity⟩ | hforward
  · exact .inl ⟨e, (hprior e).mp he, hidentity⟩
  · exact .inr fun e he => hforward e ((hprior e).mpr he)

theorem Midway.extended {configured : List (ChannelDescriptorV1 p)} {b f : DayFile}
    (h : Midway configured configured b f) (hsound : Sound p b)
    {es : List (PersistedChannelEnvelopeV1 p)} (hload : loadEnvelopes f.descriptors = .ok es) :
    Extended p b f ∧ ∀ descriptor ∈ configured,
      descriptor.quantity ≠ .legacyUnknown ∧ rowOf descriptor ∈ f.descriptors := by
  obtain ⟨ds, prior, new, hds, hrows, _, hok, hinstalling, hreadings⟩ := h
  have hgrown : b.descriptors <+: f.descriptors := by
    rw [hrows, hinstalling.rows_eq, List.map_append]
    exact List.prefix_append _ _
  have hhistory := hinstalling.history hds rfl hok hload
  exact ⟨⟨hsound.extend hhistory hinstalling.rows_eq hgrown hreadings, hgrown, hreadings⟩,
    fun descriptor hmem =>
      ⟨hok.authoritative descriptor hmem, hinstalling.present descriptor hmem⟩⟩

theorem insertRow_eq_ok {row : DescriptorRow} {rows rows' : List DescriptorRow}
    (h : insertRow row rows = .ok rows') : rows' = rows ++ [row] := by
  simp only [insertRow, bind_eq_ok, ensure_eq_ok, exists_unit, pure_eq_ok] at h
  exact h.2.2.symm

theorem installDescriptors_within (hA : (policy site).Steady t A)
    {configured done rest : List (ChannelDescriptorV1 p)} (hall : configured = done ++ rest) :
    (policy site).Within t n d A (fun b f => Sound p b ∧ Midway configured done b f)
      (installDescriptors (t, n) d rest)
      fun _ b f => Sound p b ∧ Midway configured configured b f := by
  induction rest generalizing done with
  | nil =>
      rw [List.append_nil] at hall
      subst hall
      exact .pure fun _ _ h => h
  | cons descriptor rest ih =>
      have hconfigured : descriptor ∈ configured :=
        hall ▸ List.mem_append_right _ (List.mem_cons_self ..)
      have hnext : configured = (done ++ [descriptor]) ++ rest := by
        rw [List.append_assoc]
        exact hall
      refine .ofExceptThen fun envelope henvelope => ?_
      rw [mapError_eq_ok, fromDescriptor_eq_ok] at henvelope
      obtain ⟨_, rfl⟩ := henvelope
      refine .bind (G := fun prior b f => (Sound p b ∧ Midway configured done b f) ∧
          priorRow (rowOf descriptor) f.descriptors = .ok prior)
        (.query hA fun b f prior h hprior => ⟨h, hprior⟩) fun prior => ?_
      cases prior with
      | true =>
          intro cx s hs
          exact ih hnext cx s (hs.mono fun b f h =>
            ⟨h.1.1, h.1.2.skip (priorRow_eq_true h.2)⟩)
      | false =>
          refine .bind (G := fun _ b f => Sound p b ∧ Midway configured (done ++ [descriptor]) b f)
            (.execute hA fun b f g h hwrite => ?_) fun _ => ih hnext
          simp only [bind_eq_ok, pure_eq_ok] at hwrite
          obtain ⟨rows, hinsert, rfl⟩ := hwrite
          rw [insertRow_eq_ok hinsert]
          exact ⟨h.1.1, h.1.2.insert hconfigured (priorRow_eq_false h.2)⟩

theorem installBody_within (hA : (policy site).Steady t A) (configured : ChannelCatalog p) :
    (policy site).Within t n d A (fun b f => f = b ∧ Sound p b)
      (installBody (t, n) d configured)
      fun _ b f => Extended p b f ∧ Carries configured f := by
  refine .bind (G := fun _ b f => Sound p b ∧ Midway configured.descriptors [] b f)
    (.query hA fun b f _ h hcheck => ?_) fun _ => ?_
  · obtain ⟨rfl, hsound⟩ := h
    exact ⟨hsound, midway_nil hsound hcheck⟩
  refine .bind (installDescriptors_within hA (List.nil_append _).symm) fun _ => ?_
  refine .bind (.query hA fun b f _ h _ => h) fun _ => ?_
  refine .query hA fun b f _ h hload => ?_
  cases hes : loadEnvelopes (p := p) f.descriptors with
  | error e =>
      rw [hes] at hload
      cases hload
  | ok es => exact h.2.extended h.1 hes

theorem installCatalog_within (hA : (policy site).Steady t A) (catalog : ChannelCatalog p) :
    (policy site).Within t n d A (fun b f => f = b ∧ Sound p b)
      (installCatalog (t, n) d catalog true)
      fun _ b f => Extended p b f ∧ Carries catalog f := by
  refine .bind (.touch hA) fun _ => .ofExceptThen fun configured hconfigured => ?_
  rw [mapError_eq_ok] at hconfigured
  refine .readThen fun s => ?_
  by_cases hin : (true : Bool) ≠ s.inTransaction (t, n) d
  · rw [if_pos hin]
    exact .raise
  · rw [if_neg hin, if_pos rfl]
    have hsame := snapshot_descriptors hconfigured
    have hcarries : ∀ f, Carries configured f → Carries catalog f := by
      intro f h
      rw [Carries, hsame] at h
      exact h
    exact (installBody_within hA configured).mono fun _ b f h => h.imp_right (hcarries f)

variable {k : ℕ} {batch : List Sample} {rows : List ReadingRow} {rest : List (ℤ × List Sample)}
  {installed : Bool}

/-- The committed file with the catalog of its writer and more readings. -/
structure Written (site : Site p) (t : ℕ) (rows : List ReadingRow) (b f : DayFile) : Prop where
  sound : Sound p f
  descriptors : b.descriptors <+: f.descriptors
  readings : f.readings = b.readings ++ rows
  carries : ∀ c, site.catalog t = some c → Carries c.catalog f

theorem guardState_within (hA : (policy site).Steady t A) {F : DayFile → DayFile → Prop} :
    (policy site).Within t n d A F (descriptorGuardState (t, n) d) fun _ => F :=
  .bind (.touch hA) fun _ => .readThen fun _ => .pure fun _ _ h => h

theorem verify_within (hA : Lasting site t A) {F : DayFile → DayFile → Prop}
    (catalog : Option (WriterCatalog p)) :
    (policy site).Within t n d (Connected t n d A) F
      (verifyDescriptorWriteBoundary t n d catalog) fun _ => F := by
  have hsteady := connected_steady (n := n) (d := d) hA
  cases catalog with
  | none => exact .pure fun _ _ h => h
  | some c =>
      refine .bind (guardState_within hsteady) fun current => ?_
      refine .bind (G := fun _ => F) (.readThen fun s => .pure fun _ _ h => h) fun self => ?_
      split
      case isTrue => exact .pure fun _ _ h => h
      case isFalse =>
        refine .bind (.query hsteady fun _ _ _ h _ => h) fun _ => ?_
        refine .bind (guardState_within hsteady) fun guard => .assign fun s hs => ?_
        exact ⟨.same hs.inv le_rfl rfl rfl, hs.known.remember hA rfl⟩

theorem insert_written {b f g : DayFile}
    (hrows : List.Forall₂ (Kept site.localTimestamp (site.bindings t) call) batch rows)
    (hextended : Extended p b f) (hcarries : ∀ c, site.catalog t = some c → Carries c.catalog f)
    (h : insertReadings rows f = .ok g) : Written site t rows b g := by
  simp only [insertReadings, bind_eq_ok, ensure_eq_ok, exists_unit, pure_eq_ok] at h
  obtain ⟨_, rfl⟩ := h
  refine ⟨⟨hextended.sound.history, fun row hrow => ?_⟩, hextended.descriptors,
    congrArg (· ++ rows) hextended.readings, hcarries⟩
  rcases List.mem_append.mp hrow with hold | hnew
  · exact hextended.sound.bound row hold
  · obtain ⟨r, _, hkept⟩ := exists_kept hrows row hnew
    cases hcatalog : site.catalog t with
    | none => exact .inl (hkept.unbound (by rw [Site.bindings, hcatalog]; rfl))
    | some c =>
        obtain ⟨descriptor, hmem, hbound⟩ :=
          hkept.bound c.catalog (by rw [Site.bindings, hcatalog]; rfl)
        obtain ⟨hquantity, hrow⟩ := hcarries c hcatalog descriptor hmem
        exact .inr ⟨descriptor, hquantity, hrow, hbound⟩

/-- How a transaction of a day ends.  After an operational error it has not committed. -/
def DayEnded (site : Site p) (A B : Durable p → Prop) :
    Except Raised Unit → Store ℤ DayFile (Note p) Fields → Prop
  | .ok _, s => (policy site).Outside B s
  | .error e, s => (policy site).Outside A s ∨
      (e.isOperational = false ∧ (policy site).Outside B s)

theorem commitConnection_ends (hA : (policy site).Steady t A) {F : DayFile → DayFile → Prop}
    (hs : (policy site).Inside (t, n) d A F s)
    (hcommit : ∀ w f, Inv site w → A w → F (w.files d) f →
      Commits site t w d f ∧ B (w.put d f)) :
    wp ((policy site).contract t) cx (commitConnection (t, n) d : Db p Unit)
      (DayEnded site A B) s := by
  refine wp_attemptThen (wp_mono (hs.commit hA hcommit) fun r s' hr => ?_)
  cases r with
  | ok a => exact hr
  | error e =>
      rcases hr.known with hbefore | hafter
      · exact .inl ⟨hr.inv, hbefore⟩
      · exact .inr ⟨rfl, hr.inv, hafter⟩

theorem commits_written {f : DayFile}
    (hrows : List.Forall₂ (Kept site.localTimestamp (site.bindings t) (t, k)) (kept batch) rows)
    (h : Writing site t n k request done (d, batch) rest installed w)
    (hf : Written site t rows (w.files d) f) :
    Commits site t w d f ∧
      Wrote site t n k request done (d, batch) rest (w.put d f) := by
  obtain ⟨hconnection, hprogress, hready⟩ := h
  have hhere : (d, batch) ∈ done ++ (d, batch) :: rest :=
    List.mem_append_right _ (List.mem_cons_self ..)
  have hnone := hprogress.untouched (d, batch) (List.mem_cons_self ..)
  have hperm : (done ++ (d, batch) :: rest).Perm (((d, batch) :: done) ++ rest) :=
    List.perm_middle
  have hnodup : (((d, batch) :: (done ++ rest)).map Prod.fst).Nodup :=
    (hperm.map Prod.fst).nodup_iff.mp hprogress.apart
  have hother : ∀ x ∈ done ++ rest, (w.put d f).files x.1 = w.files x.1 := by
    intro x hx
    rw [List.map_cons, List.nodup_cons] at hnodup
    exact World.put_files_of_ne _ _ fun hd =>
      hnodup.1 (List.mem_map.mpr ⟨x, hx, hd⟩)
  have hstored : Stored site (t, k) batch f := by
    rw [Stored, rowsOf_append hf.readings (kept_call hrows), hnone, if_pos rfl, List.nil_append]
    exact hrows
  refine ⟨⟨hf.sound, hf.descriptors, .inr ⟨k, request, batch, rows, hprogress.serving,
    hprogress.days _ hhere, hnone, hf.readings, hrows⟩, fun _ => hf.carries⟩,
    hconnection, ⟨?_, ?_, hnodup, ?_, ?_⟩, ?_⟩
  · exact ⟨hprogress.serving.asked, hprogress.serving.unanswered⟩
  · exact fun x hx => hprogress.days x (hperm.mem_iff.mpr hx)
  · intro x hx
    rcases List.mem_cons.mp hx with rfl | hx
    · rw [World.put_files_self]
      exact hstored
    · rw [hother x (List.mem_append_left _ hx)]
      exact hprogress.stored x hx
  · intro x hx
    rw [hother x (List.mem_append_right _ hx)]
    exact hprogress.untouched x (List.mem_cons_of_mem _ hx)
  · intro _ c hc
    rw [World.put_files_self]
    exact hf.carries c hc

theorem installFirst_within (hA : (policy site).Steady t A) :
    (policy site).Within t n d A (fun b f => (f = b ∧ Sound p b) ∧
        (installed = true → ∀ c, site.catalog t = some c → Carries c.catalog b))
      (installFirst (t, n) d installed (site.catalog t))
      fun _ b f => Extended p b f ∧ ∀ c, site.catalog t = some c → Carries c.catalog f := by
  cases hcatalog : site.catalog t with
  | none =>
      refine .pure fun b f h => ?_
      obtain ⟨⟨rfl, hsound⟩, _⟩ := h
      exact ⟨extended_refl hsound, fun c hc => absurd hc (by simp)⟩
  | some catalog =>
      cases installed with
      | true =>
          refine .pure fun b f h => ?_
          obtain ⟨⟨rfl, hsound⟩, hcarries⟩ := h
          exact ⟨extended_refl hsound, hcarries rfl⟩
      | false =>
          intro cx s hs
          refine wp_mono (installCatalog_within hA catalog.catalog cx s (hs.mono fun _ _ h => h.1))
            fun r s' hr => ?_
          cases r with
          | error e => exact hr
          | ok a =>
              refine hr.mono fun b f h => ⟨h.1, fun c hc => ?_⟩
              cases hc
              exact h.2

theorem commitConnection_written
    (hrows : List.Forall₂ (Kept site.localTimestamp (site.bindings t) (t, k)) (kept batch) rows)
    (hs : (policy site).Inside (t, n) d
      (Writing site t n k request done (d, batch) rest installed)
      (Written site t rows) s) :
    wp ((policy site).contract t) cx (commitConnection (t, n) d : Db p Unit)
      (DayEnded site
        (Writing site t n k request done (d, batch) rest installed)
        (Wrote site t n k request done (d, batch) rest)) s :=
  commitConnection_ends (writing_steady site t n k request done (d, batch) rest installed) hs
    fun _ _ _ hA hf => commits_written hrows hA hf

theorem commitDay_ends
    (hrows : List.Forall₂ (Kept site.localTimestamp (site.bindings t) (t, k)) (kept batch) rows)
    (hs : (policy site).Inside (t, n) d
      (Writing site t n k request done (d, batch) rest installed)
      (Written site t rows) s) :
    wp ((policy site).contract t) cx (commitDay t n d (site.catalog t) : Db p Unit)
      (DayEnded site
        (Writing site t n k request done (d, batch) rest installed)
        (Wrote site t n k request done (d, batch) rest)) s := by
  have hsteady := writing_steady site t n k request done (d, batch) rest installed
  cases hcatalog : site.catalog t with
  | none => exact commitConnection_written hrows hs
  | some catalog =>
      refine wp_seq (guardState_within hsteady cx s hs) (fun guard s₁ h₁ => ?_) fun _ _ h => .inl h
      refine wp_seq (commitConnection_written hrows h₁) (fun _ s₂ h₂ => ?_) fun _ _ h => h
      obtain ⟨hi, hwrote⟩ := h₂
      refine wp_mono (Outside.assign ⟨hi, hwrote⟩ ⟨le_rfl, fun d' n' hd _ => ?_⟩
        (hwrote.remember day_lasting rfl)) fun r s₃ hr => ?_
      · cases hwrote.connection.symm.trans hd
        exact hwrote.known.2 rfl
      · obtain ⟨hout, rfl⟩ := hr
        exact hout

theorem dayTransaction_ends
    (hrows : List.Forall₂ (Kept site.localTimestamp (site.bindings t) (t, k)) (kept batch) rows)
    (hs : (policy site).Outside
      (Writing site t n k request done (d, batch) rest installed) s) :
    wp ((policy site).contract t) cx
      (dayTransaction t n d (site.catalog t) installed rows : Db p Unit)
      (DayEnded site
        (Writing site t n k request done (d, batch) rest installed)
        (Wrote site t n k request done (d, batch) rest)) s := by
  have hsteady := writing_steady site t n k request done (d, batch) rest installed
  refine wp_seq (hs.begin hsteady) (fun _ s₁ h₁ => ?_) fun _ _ h => .inl h
  have hbegun := h₁.learn (fun b f => (f = b ∧ Sound p b) ∧
      (installed = true → ∀ c, site.catalog t = some c → Carries c.catalog b))
    fun w f hi hA hf => ⟨⟨hf, hi.sound d⟩, hA.known.2⟩
  refine wp_seq (verify_within day_lasting _ cx s₁ hbegun) (fun _ s₂ h₂ => ?_) fun _ _ h => .inl h
  refine wp_seq (installFirst_within hsteady cx s₂ h₂) (fun _ s₃ h₃ => ?_) fun _ _ h => .inl h
  have hinsert : (policy site).Within t n d
      (Writing site t n k request done (d, batch) rest installed)
      (fun b f => Extended p b f ∧ ∀ c, site.catalog t = some c → Carries c.catalog f)
      (execute (t, n) d (insertReadings rows)) fun _ => Written site t rows :=
    .execute hsteady fun b f g hf hg => insert_written hrows hf.1 hf.2 hg
  refine wp_seq (hinsert cx s₃ h₃) (fun _ s₄ h₄ => ?_) fun _ _ h => .inl h
  refine wp_seq (commitDay_ends hrows h₄) (fun _ s₅ h₅ => ?_) fun _ _ h => h
  exact wp_mono (wp_assign ⟨fun _ => rfl, fun _ => rfl, fun _ => rfl⟩ day_lasting h₅)
    fun _ _ h => by
      obtain ⟨hout, rfl⟩ := h
      exact hout

end DayFiles
end CryoDaq
