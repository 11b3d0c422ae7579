import CryoDaq.DayFiles.Transaction

/-!
# The calls of a writer

Every call keeps the policy, whatever its connections answer.  A call that answers that it has
persisted has stored every day of its batch.

**Attempts.**  An attempt that is repeated has raised an operational error, and so it has not
committed: no day is stored twice.

**Days.**  The days of a batch are stored one after another, each in its own file.  What one day
does leaves the rows of the other days alone.
-/

namespace CryoDaq
namespace DayFiles

open Storage Channels Async Sqlite Policy

variable {p : Platform} {site : Site p} {t n : ℕ} {d : ℤ} {A B : Durable p → Prop}
  {s : Store ℤ DayFile (Note p) Fields} {cx : Bool} {w w' : Durable p} {call : ℕ × ℕ} {k : ℕ}
  {request : Request p} {done rest days : List (ℤ × List Sample)} {batch : List Sample}
  {rows : List ReadingRow} {installed : Bool}

/-! ## Groups by days -/

def Request.readings : Request p → ℤ → List Sample
  | .writeBatch batch, d => batch.filter fun r => faceDay r = d
  | .writeLiveBatch batch, d => (batch.map BoundSample.stable).filter fun r => utcDay r = d
  | .installCatalog _ _, _ => []

theorem mem_byDay {day : Sample → ℤ} {batch group : List Sample} :
    (d, group) ∈ byDay day batch ↔ group = batch.filter (fun r => day r = d) ∧ group ≠ [] := by
  rw [byDay, (List.perm_insertionSort _ _).mem_iff, Dict.mem_grouped]

theorem byDay_nodup (day : Sample → ℤ) (batch : List Sample) :
    ((byDay day batch).map Prod.fst).Nodup :=
  (((List.perm_insertionSort _ _).map Prod.fst).nodup_iff).mpr (Dict.grouped day batch).nodup

theorem Request.mem_days {request : Request p} {group : List Sample} :
    (d, group) ∈ request.days ↔ group = request.readings d ∧ group ≠ [] := by
  cases request with
  | writeBatch batch => exact mem_byDay
  | writeLiveBatch batch => exact mem_byDay
  | installCatalog day catalog =>
      constructor
      · exact fun h => absurd h List.not_mem_nil
      · exact fun h => absurd h.1 h.2

theorem Request.days_nodup (request : Request p) : (request.days.map Prod.fst).Nodup := by
  cases request with
  | writeBatch batch => exact byDay_nodup _ _
  | writeLiveBatch batch => exact byDay_nodup _ _
  | installCatalog day catalog => exact List.nodup_nil

def Attempted (site : Site p) (A B : Durable p → Prop) :
    Except Raised Bool → Store ℤ DayFile (Note p) Fields → Prop
  | .ok true, s => (policy site).Outside B s
  | _, s => (policy site).Outside A s ∨ (policy site).Outside B s

theorem rollback_failed (hA : (policy site).Steady t A) (hB : (policy site).Steady t B)
    {e : Raised} (hs : DayEnded site A B (.error e) s) :
    wp ((policy site).contract t) cx (rollback (t, n) d : Db p Unit)
      (fun _ s' => ((policy site).Outside A s' ∨ (policy site).Outside B s') ∧
        (e.isOperational = true → (policy site).Outside A s')) s := by
  rcases hs with hbefore | ⟨hoperational, hafter⟩
  · exact wp_mono (hbefore.rollback hA) fun _ _ h => ⟨.inl h, fun _ => h⟩
  · refine wp_mono (hafter.rollback hB) fun _ _ h => ⟨.inr h, fun habsurd => ?_⟩
    rw [hoperational] at habsurd
    cases habsurd

theorem dayAttempts_ends
    (hrows : List.Forall₂ (Kept site.localTimestamp (site.bindings t) (t, k)) (kept batch) rows)
    (attempts : ℕ)
    (hs : (policy site).Outside (Writing site t n k request done (d, batch) rest installed) s) :
    wp ((policy site).contract t) cx
      (dayAttempts t n d (site.catalog t) installed rows attempts : Db p Bool)
      (Attempted site (Writing site t n k request done (d, batch) rest installed)
        (Wrote site t n k request done (d, batch) rest)) s := by
  induction attempts generalizing s with
  | zero => exact wp_hang
  | succ attempts ih =>
      refine wp_attemptThen (wp_mono (dayTransaction_ends hrows hs) fun r s₁ hr => ?_)
      cases r with
      | ok a => exact hr
      | error e =>
          have hbefore := writing_steady site t n k request done (d, batch) rest installed
          have hafter : (policy site).Steady t (Wrote site t n k request done (d, batch) rest) :=
            connected_steady day_lasting
          refine wp_seq (rollback_failed hbefore hafter hr) (fun _ s₂ h₂ => ?_)
            fun _ _ h => h.1
          obtain ⟨heither, honly⟩ := h₂
          cases e with
          | diskFull =>
              refine wp_seq (wp_assign ⟨fun _ => rfl, fun _ => rfl, fun _ => rfl⟩ day_lasting
                (honly rfl)) (fun _ s₃ h₃ => .inl h₃.1) fun _ _ h => ?_
              cases h.2
          | locked now =>
              refine wp_seq (wp_assign ⟨fun _ => rfl, fun _ => rfl, fun _ => rfl⟩ day_lasting
                (honly rfl)) (fun _ s₃ h₃ => ?_) fun _ _ h => ?_
              · refine wp_readThen ?_
                show wp _ _ (if _ then _ else _) _ _
                split
                case isTrue => exact .inl h₃.1
                case isFalse => exact ih h₃.1
              · cases h.2
          | operational => exact heither
          | integrity => exact heither
          | type message => exact heither
          | value message => exact heither
          | overflow => exact heither
          | runtime message => exact heither
          | envelope cause => exact heither
          | storage message cause => exact heither

theorem wp_logged {m : Db p Unit} {Q : Store ℤ DayFile (Note p) Fields → Prop}
    (h : wp ((policy site).contract t) cx m (fun _ s' => Q s') s) :
    wp ((policy site).contract t) cx (logged m) (fun _ s' => Q s') s := by
  refine wp_attemptThen (wp_mono h fun r s' hr => ?_)
  cases r with
  | ok a => exact hr
  | error e =>
      show wp _ _ (if _ then _ else _) _ _
      split
      case isTrue => exact hr
      case isFalse => exact hr

theorem passiveCheckpoint_keeps (hA : Lasting site t A)
    (hs : (policy site).Outside (Connected t n d A) s) :
    wp ((policy site).contract t) cx (passiveCheckpoint t n d : Db p Unit)
      (fun _ s' => (policy site).Outside (Connected t n d A) s') s := by
  have hkeeps : Keeps fun self => { self with checkpointCounter := self.checkpointCounter + 1 } :=
    ⟨fun _ => rfl, fun _ => rfl, fun _ => rfl⟩
  have hreset : Keeps fun self => { self with checkpointCounter := 0 } :=
    ⟨fun _ => rfl, fun _ => rfl, fun _ => rfl⟩
  refine wp_seq (wp_assign hkeeps hA hs) (fun _ s₁ h₁ => wp_readThen ?_) fun _ _ h => h.1
  show wp _ _ (if _ then _ else _) _ _
  split
  case isFalse => exact h₁.1
  case isTrue =>
    refine wp_seq (wp_logged (h₁.1.touch (connected_steady hA))) (fun _ s₂ h₂ => ?_)
      fun _ _ h => h
    exact wp_mono (wp_assign hreset hA h₂) fun _ _ h => h.1

def DayDone (site : Site p) (call : ℕ × ℕ) (request : Request p) (done : List (ℤ × List Sample))
    (day : ℤ × List Sample) (rest : List (ℤ × List Sample)) :
    Except Raised Bool → Store ℤ DayFile (Note p) Fields → Prop
  | .ok true, s => (policy site).Outside (Progress site call request (day :: done) rest) s
  | _, s => (policy site).Outside (Progress site call request done rest) s

theorem Progress.skip {day : ℤ × List Sample}
    (h : Progress site call request done (day :: rest) w) :
    Progress site call request done rest w where
  serving := h.serving
  days := fun x hx => h.days x (by simp only [List.mem_append, List.mem_cons] at hx ⊢; tauto)
  apart := h.apart.sublist ((List.Sublist.append_left (List.sublist_cons_self _ _) _).map _)
  stored := h.stored
  untouched := fun x hx => h.untouched x (List.mem_cons_of_mem _ hx)

theorem Progress.forget {day : ℤ × List Sample}
    (h : Progress site call request (day :: done) rest w) :
    Progress site call request done rest w where
  serving := h.serving
  days := fun x hx => h.days x (List.mem_cons_of_mem _ hx)
  apart := h.apart.sublist ((List.sublist_cons_self _ _).map _)
  stored := fun x hx => h.stored x (List.mem_cons_of_mem _ hx)
  untouched := h.untouched

theorem Progress.empty (hrows : List.Forall₂
      (Kept site.localTimestamp (site.bindings call.1) call) (kept batch) [])
    (h : Progress site call request done ((d, batch) :: rest) w) :
    Progress site call request ((d, batch) :: done) rest w where
  serving := h.serving
  days := fun x hx => h.days x (List.perm_middle.mem_iff.mpr hx)
  apart := (List.perm_middle.map Prod.fst).nodup_iff.mp h.apart
  stored := by
    intro x hx
    rcases List.mem_cons.mp hx with rfl | hx
    · rw [Stored, h.untouched (d, batch) (List.mem_cons_self ..)]
      exact hrows
    · exact h.stored x hx
  untouched := fun x hx => h.untouched x (List.mem_cons_of_mem _ hx)

theorem writeDayBatch_ends (hs : (policy site).Outside
      (Connected t n d (Progress site (t, k) request done ((d, batch) :: rest))) s) :
    wp ((policy site).contract t) cx (writeDayBatch site t n d (t, k) batch : Db p Bool)
      (DayDone site (t, k) request done (d, batch) rest) s := by
  have hskip := hs.mono fun w h => h.known.skip
  cases hrows : dayRows site.localTimestamp (site.bindings t) (t, k) batch with
  | error e =>
      rw [writeDayBatch, hrows]
      exact hskip
  | ok rows =>
      have hkept := dayRows_eq_ok (fun c hc => Site.bindings_stands c hc) hrows
      rw [writeDayBatch, hrows]
      show wp _ _ (if rows.isEmpty = true then _ else _) _ _
      split
      case isTrue hempty =>
        rw [List.isEmpty_iff.mp hempty] at hkept
        exact hs.mono fun w h => h.known.empty hkept
      case isFalse =>
        have hready : (policy site).Outside (Writing site t n k request done (d, batch) rest
            (s.world.memory t).descriptorCatalogInstalled) s :=
          ⟨hs.inv, hs.known.connection, hs.known.known,
            hs.inv.installed t d n hs.known.connection⟩
        refine wp_readThen (wp_seq (dayAttempts_ends hkept site.attempts hready)
          (fun persisted s₁ h₁ => ?_) fun e s₁ h₁ => ?_)
        · cases persisted with
          | true =>
              refine wp_seq (passiveCheckpoint_keeps day_lasting h₁)
                (fun _ s₂ h₂ => h₂.mono fun w h => h.known.1) fun _ s₂ h₂ => ?_
              exact h₂.mono fun w h => h.known.1.forget
          | false =>
              rcases h₁ with h | h
              · exact h.mono fun w h => h.known.1.skip
              · exact h.mono fun w h => h.known.1.forget
        · rcases h₁ with h | h
          · exact h.mono fun w h => h.known.1.skip
          · exact h.mono fun w h => h.known.1.forget

theorem put_self (w : Durable p) (d : ℤ) : w.put d (w.files d) = w := by
  rw [World.put, Function.update_eq_self]

theorem commits_same (hi : Inv site w) (d : ℤ) : Commits site t w d (w.files d) :=
  ⟨hi.sound d, List.prefix_rfl, .inl rfl, fun hne => absurd rfl hne⟩

theorem wp_assign_to {f : Fields → Fields}
    (hallowed : Remembers site t s.world (f (s.world.memory t)))
    (hB : B (s.world.remember t (f (s.world.memory t)))) (hs : (policy site).Outside A s) :
    wp ((policy site).contract t) cx (assign t f : Db p Unit)
      (fun r s' => (policy site).Outside B s' ∧ r = .ok ()) s :=
  hs.assign hallowed hB

theorem wp_assign_lasting {f : Fields → Fields} (hA : Lasting site t A)
    (hallowed : ∀ w, Inv site w → Remembers site t w (f (w.memory t)))
    (hs : (policy site).Outside A s) :
    wp ((policy site).contract t) cx (assign t f : Db p Unit)
      (fun r s' => (policy site).Outside A s' ∧ r = .ok ()) s :=
  wp_assign_to (hallowed _ hs.inv) (hA.remember _ _ hs.known) hs

theorem closeConnection_keeps (hA : Lasting site t A) (hs : (policy site).Outside A s) :
    wp ((policy site).contract t) cx (closeConnection t n d : Db p Unit)
      (fun _ s' => (policy site).Outside A s') s := by
  have hcheckpoint : wp ((policy site).contract t) cx
      (logged do touch (t, n) d .idle; commitConnection (t, n) d : Db p Unit)
      (fun _ s' => (policy site).Outside A s') s := by
    refine wp_logged (wp_seq (hs.idle hA.steady) (fun _ s₁ h₁ => ?_) fun _ _ h => h)
    refine wp_attemptThen (wp_mono (h₁.1.commit_idle hA.steady h₁.2) fun r s₂ h₂ => ?_)
    cases r with
    | ok a => exact h₂
    | error e => exact h₂
  refine wp_seq hcheckpoint (fun _ s₁ h₁ => ?_) fun _ _ h => h
  refine wp_attemptThen (wp_mono (h₁.rollback hA.steady) fun _ s₂ h₂ => ?_)
  refine wp_mono (wp_assign_lasting hA (fun w _ => ⟨le_rfl, fun d n hd => ?_⟩) h₂) fun _ _ h => h.1
  cases hd

def Opened (site : Site p) (t : ℕ) (d : ℤ) (A : Durable p → Prop) :
    Except Raised ℕ → Store ℤ DayFile (Note p) Fields → Prop
  | .ok n, s => (policy site).Outside (Connected t n d A) s
  | .error _, s => (policy site).Outside A s

theorem openConnection_ends (hA : Lasting site t A) (hs : (policy site).Outside A s) :
    wp ((policy site).contract t) cx (openConnection t d : Db p ℕ) (Opened site t d A) s := by
  refine wp_readThen (wp_seq (wp_assign_lasting hA
    (fun w hi => .same hi le_rfl rfl rfl) hs) (fun _ s₁ h₁ => ?_) fun _ _ h => h.1)
  have hopen : wp ((policy site).contract t) cx
      (do
        Sqlite.begin (t, (s.world.memory t).connections) d
        commitConnection (t, (s.world.memory t).connections) d
        query (t, (s.world.memory t).connections) d
          (verifyStorage p "descriptor storage foreign-key check failed") : Db p Unit)
      (fun _ s' => (policy site).Outside A s') s₁ := by
    refine wp_seq (h₁.1.begin hA.steady) (fun _ s₂ h₂ => ?_) fun _ _ h => h
    refine wp_seq (commitConnection_ends (B := A) hA.steady h₂ fun w f hi hw hf => ?_)
      (fun _ s₃ h₃ => ?_) fun _ _ h => ?_
    · subst hf
      rw [put_self]
      exact ⟨commits_same hi d, hw⟩
    · exact Outside.query hA.steady h₃
    · rcases h with h | ⟨_, h⟩
      · exact h
      · exact h
  refine wp_attemptThen (wp_mono hopen fun r s₂ h₂ => ?_)
  cases r with
  | error e => exact wp_attemptThen (wp_mono (h₂.rollback hA.steady) fun _ _ h => h)
  | ok a =>
      refine wp_seq (wp_assign_to (B := Connected t (s.world.memory t).connections d A)
        ⟨le_rfl, fun _ _ _ hinstalled => ?_⟩ ⟨?_, hA.remember _ _ h₂.known⟩ h₂)
        (fun _ s₃ h₃ => h₃.1) fun _ _ h => ?_
      · cases hinstalled
      · rw [World.remember_memory_self]
      · cases h.2

theorem ensureConnection_ends (hA : Lasting site t A) (hs : (policy site).Outside A s) :
    wp ((policy site).contract t) cx (ensureConnection t d : Db p ℕ) (Opened site t d A) s := by
  refine wp_readThen ?_
  cases hconnection : (s.world.memory t).connection with
  | none =>
      simp only [hconnection]
      exact openConnection_ends hA hs
  | some c =>
      obtain ⟨current, n⟩ := c
      simp only [hconnection]
      by_cases hcurrent : current = d
      · subst hcurrent
        rw [if_pos rfl]
        exact ⟨hs.inv, hconnection, hs.known⟩
      · rw [if_neg hcurrent]
        exact wp_seq (closeConnection_keeps hA hs) (fun _ _ h => openConnection_ends hA h)
          fun _ _ h => h

structure BatchStored (site : Site p) (call : ℕ × ℕ) (request : Request p)
    (days : List (ℤ × List Sample)) (w : Durable p) : Prop where
  serving : Serving call request w
  stored : ∀ x ∈ days, Stored site call x.2 (w.files x.1)

def BatchDone (site : Site p) (call : ℕ × ℕ) (request : Request p)
    (days : List (ℤ × List Sample)) :
    Except Raised Bool → Store ℤ DayFile (Note p) Fields → Prop
  | .ok true, s => (policy site).Outside (BatchStored site call request days) s
  | _, s => (policy site).Outside (Serving call request) s

theorem BatchDone.mono {days' : List (ℤ × List Sample)} {r : Except Raised Bool}
    (h : BatchDone site call request days r s) (hdays : ∀ x ∈ days', x ∈ days) :
    BatchDone site call request days' r s := by
  rcases r with e | b
  · exact h
  · cases b with
    | false => exact h
    | true => exact Outside.mono h fun w hw => ⟨hw.serving, fun x hx => hw.stored x (hdays x hx)⟩

theorem BatchDone.serving {r : Except Raised Bool} (h : BatchDone site call request days r s) :
    (policy site).Outside (Serving call request) s := by
  rcases r with e | b
  · exact h
  · cases b with
    | false => exact h
    | true => exact Outside.mono h fun w hw => hw.serving

theorem DayDone.progress {day : ℤ × List Sample} {written : Bool}
    (h : DayDone site call request done day rest (.ok written) s) :
    (policy site).Outside
      (Progress site call request (if written then day :: done else done) rest) s := by
  cases written with
  | true => exact h
  | false => exact h

theorem nextDay_ends (hs : (policy site).Outside
      (Progress site (t, k) request done ((d, batch) :: rest)) s) {m : Bool → Db p Bool}
    {Q : Except Raised Bool → Store ℤ DayFile (Note p) Fields → Prop}
    (hnext : ∀ written s', (policy site).Outside (Progress site (t, k) request
        (if written then (d, batch) :: done else done) rest) s' →
      wp ((policy site).contract t) cx (m written) Q s')
    (herror : ∀ e s', (policy site).Outside (Serving (t, k) request) s' → Q (.error e) s') :
    wp ((policy site).contract t) cx
      (do
        let n ← ensureConnection t d
        let written ← writeDayBatch site t n d (t, k) batch
        m written) Q s := by
  refine wp_seq (ensureConnection_ends (progress_lasting rfl) hs) (fun n s₁ h₁ => ?_)
    fun e s₁ h₁ => herror e s₁ (h₁.mono fun w h => h.serving)
  refine wp_seq (writeDayBatch_ends h₁) (fun written s₂ h₂ => hnext written s₂ h₂.progress)
    fun e s₂ h₂ => herror e s₂ (h₂.mono fun w h => h.serving)

theorem writeDays_ends
    (hs : (policy site).Outside (Progress site (t, k) request done days) s) :
    wp ((policy site).contract t) cx (writeDays site t (t, k) days : Db p Bool)
      (BatchDone site (t, k) request (done ++ days)) s := by
  induction days generalizing done s with
  | nil =>
      rw [List.append_nil]
      exact hs.mono fun w h => ⟨h.serving, h.stored⟩
  | cons day rest ih =>
      obtain ⟨d, batch⟩ := day
      refine nextDay_ends hs (fun written s₁ h₁ => ?_) fun _ _ h => h
      refine wp_seq (ih h₁) (fun persisted s₂ h₂ => ?_) fun _ _ h => h
      cases written with
      | false => exact h₂.serving
      | true =>
          rw [Bool.true_and]
          exact BatchDone.mono h₂ fun x hx => List.perm_middle.mem_iff.mp hx

theorem writeLiveDays_ends
    (hs : (policy site).Outside (Progress site (t, k) request done days) s) :
    wp ((policy site).contract t) cx (writeLiveDays site t (t, k) days : Db p Bool)
      (BatchDone site (t, k) request (done ++ days)) s := by
  induction days generalizing done s with
  | nil =>
      rw [List.append_nil]
      exact hs.mono fun w h => ⟨h.serving, h.stored⟩
  | cons day rest ih =>
      obtain ⟨d, batch⟩ := day
      refine nextDay_ends hs (fun written s₁ h₁ => ?_) fun _ _ h => h
      cases written with
      | false => exact h₁.mono fun w h => h.serving
      | true => exact wp_mono (ih h₁) fun _ _ h => h.mono fun x hx => List.perm_middle.mem_iff.mp hx

/-- What a writer knows when it begins with a call. -/
structure Begun (call : ℕ × ℕ) (request : Request p) (w : Durable p) : Prop where
  serving : Serving call request w
  fresh : ∀ d, rowsOf call (w.files d) = []

theorem Begun.progress (h : Begun call request w) :
    Progress site call request [] request.days w where
  serving := h.serving
  days := fun _ hx => hx
  apart := request.days_nodup
  stored := fun _ hx => absurd hx List.not_mem_nil
  untouched := fun x _ => h.fresh x.1

def Performed (site : Site p) (call : ℕ × ℕ) (request : Request p) :
    Except Raised Bool → Store ℤ DayFile (Note p) Fields → Prop
  | .ok true, s => (policy site).Outside
      (fun w => Serving call request w ∧ Fulfilled site call request w) s
  | _, s => (policy site).Outside (Serving call request) s

theorem BatchDone.performed (hinstall : ∀ d catalog, request ≠ .installCatalog d catalog)
    {r : Except Raised Bool} (h : BatchDone site call request request.days r s) :
    Performed site call request r s := by
  rcases r with e | b
  · exact h
  · cases b with
    | false => exact h
    | true =>
        exact Outside.mono h fun w hw => ⟨hw.serving,
          fun d batch hday => hw.stored (d, batch) hday,
          fun d catalog hrequest => absurd hrequest (hinstall d catalog)⟩

theorem installTransaction_ends {catalog configured : ChannelCatalog p}
    (hconfigured : snapshotCatalog catalog = .ok configured)
    (hs : (policy site).Outside (Serving (t, k) request) s) :
    wp ((policy site).contract t) cx
      (do
        Sqlite.begin (t, n) d
        installBody (t, n) d configured
        commitConnection (t, n) d : Db p Unit)
      (Ended (fun _ => (policy site).Outside fun w =>
          Serving (t, k) request w ∧ Carries catalog (w.files d))
        ((policy site).Outside (Serving (t, k) request))) s := by
  have hA : Lasting site t (Serving (t, k) request) := serving_lasting rfl
  have hsteady := hA.steady
  refine wp_seq (hs.begin hsteady) (fun _ s₁ h₁ => ?_) fun _ _ h => h
  have hbegun := h₁.learn (fun b f => f = b ∧ Sound p b) fun w f hi _ hf => ⟨hf, hi.sound d⟩
  refine wp_seq (installBody_within hsteady configured cx s₁ hbegun) (fun _ s₂ h₂ => ?_)
    fun _ _ h => h
  refine wp_mono (commitConnection_ends (B := fun w =>
    Serving (t, k) request w ∧ Carries catalog (w.files d)) hsteady h₂ ?_) fun r s₃ h₃ => ?_
  · intro w f _ hserving hf
    obtain ⟨hextended, hcarries⟩ := hf
    rw [Carries, snapshot_descriptors hconfigured] at hcarries
    refine ⟨⟨hextended.sound, hextended.descriptors, .inl hextended.readings,
      fun hne => absurd hextended.readings hne⟩, ⟨hserving.asked, hserving.unanswered⟩, ?_⟩
    rw [World.put_files_self]
    exact hcarries
  · cases r with
    | ok a => exact h₃
    | error e =>
        rcases h₃ with h | ⟨_, h⟩
        · exact h
        · exact h.mono fun w hw => hw.1

theorem installCatalog_ends {catalog : ChannelCatalog p}
    (hs : (policy site).Outside (Serving (t, k) request) s) :
    wp ((policy site).contract t) cx (installCatalog (t, n) d catalog false : Db p Unit)
      (Ended ((fun _ => (policy site).Outside fun w =>
          Serving (t, k) request w ∧ Carries catalog (w.files d)))
        ((policy site).Outside (Serving (t, k) request))) s := by
  have hA : Lasting site t (Serving (t, k) request) := serving_lasting rfl
  have hB : Lasting site t fun w => Serving (t, k) request w ∧ Carries catalog (w.files d) :=
    hA.and ⟨fun _ _ hleaves _ h => h.mono (hleaves.descriptors d), fun _ _ h => h⟩
  refine wp_seq (hs.touch hA.steady) (fun _ s₁ h₁ => ?_) fun _ _ h => h
  cases hconfigured : (snapshotCatalog catalog).mapError Raised.envelope with
  | error e => exact h₁
  | ok configured =>
      rw [mapError_eq_ok] at hconfigured
      refine wp_readThen ?_
      by_cases hin : (false : Bool) ≠ s₁.inTransaction (t, n) d
      · rw [if_pos hin]
        exact h₁
      · rw [if_neg hin, if_neg Bool.false_ne_true]
        refine wp_attemptThen (wp_mono (installTransaction_ends hconfigured h₁) fun r s₂ h₂ => ?_)
        cases r with
        | error e =>
            exact wp_seq (h₂.rollback hA.steady) (fun _ _ h => h) fun _ _ h => h
        | ok a =>
            refine wp_mono (Outside.query hB.steady h₂) fun r s₃ h₃ => ?_
            cases r with
            | ok a => exact h₃
            | error e => exact h₃.mono fun w h => h.1

theorem perform_ends (hs : (policy site).Outside (Begun (t, k) request) s) :
    wp ((policy site).contract t) cx (perform site t (t, k) request : Db p Bool)
      (Performed site (t, k) request) s := by
  have hprogress : (policy site).Outside (Progress site (t, k) request [] request.days) s :=
    hs.mono fun w h => h.progress
  cases request with
  | writeBatch batch =>
      show wp _ _ (if batch.isEmpty = true then _ else _) _ _
      split
      case isTrue hempty =>
        rw [List.isEmpty_iff.mp hempty] at hs ⊢
        refine hs.mono fun w h => ⟨h.serving, fun d group hday => ?_, fun d catalog hrequest => ?_⟩
        · cases hday
        · cases hrequest
      case isFalse =>
        exact wp_mono (writeDays_ends hprogress) fun _ _ h => h.performed fun _ _ h => by cases h
  | writeLiveBatch batch =>
      cases hcheck : checkLiveBatch (site.catalog t) batch with
      | error e =>
          rw [perform, writeLiveBatch, hcheck]
          exact hs.mono fun w h => h.serving
      | ok a =>
          rw [perform, writeLiveBatch, hcheck]
          exact wp_mono (writeLiveDays_ends hprogress) fun _ _ h =>
            h.performed fun _ _ h => by cases h
  | installCatalog day catalog =>
      have hserving := hs.mono fun w h => h.serving
      refine wp_readThen (wp_seq (wp_assign_lasting (serving_lasting rfl)
        (fun w hi => .same hi le_rfl rfl rfl) hserving) (fun _ s₁ h₁ => ?_) fun _ _ h => h.1)
      refine wp_seq (installCatalog_ends h₁.1) (fun _ s₂ h₂ => ?_) fun _ _ h => h
      refine Outside.mono h₂ fun w h => ⟨h.1, fun d batch hday => ?_, fun d c hrequest => ?_⟩
      · cases hday
      · cases hrequest
        exact h.2

theorem Inv.fresh (hi : Inv site w) : ∀ n ∈ w.notes, n.call ≠ (t, (w.memory t).calls) := by
  intro n hn hcall
  have hlt := hi.numbered n hn
  rw [hcall] at hlt
  exact lt_irrefl _ hlt

theorem notes_asked (hi : Inv site w) : Notes site t (w.remember t (w.memory t).asked)
    (.asked (t, (w.memory t).calls) request) where
  own := rfl
  numbered := by
    rw [World.remember_memory_self]
    exact Nat.lt_succ_self _
  asked := by
    intro call request' hnote request'' hasked
    cases hnote
    exact hi.fresh _ hasked rfl
  answered := fun _ hnote => by cases hnote

theorem begun_noted (hi : Inv site w) {m : Fields} : Begun (t, (w.memory t).calls) request
    ((w.remember t m).record (.asked (t, (w.memory t).calls) request)) where
  serving := by
    refine ⟨List.mem_cons_self .., fun answer hanswer => ?_⟩
    rcases List.mem_cons.mp hanswer with h | h
    · cases h
    · exact hi.fresh _ h rfl
  fresh := by
    intro d
    refine List.filter_eq_nil_iff.mpr fun row hrow hcall => ?_
    obtain ⟨request', hasked⟩ := hi.asked d row hrow
    rw [of_decide_eq_true hcall] at hasked
    exact hi.fresh _ hasked rfl

theorem Performed.serving {r : Except Raised Bool} (h : Performed site call request r s) :
    (policy site).Outside (Serving call request) s := by
  rcases r with e | b
  · exact h
  · cases b with
    | false => exact h
    | true => exact Outside.mono h fun w hw => hw.1

theorem notes_answered {r : Except Raised Bool} (h : Performed site (t, k) request r s) :
    Notes site t s.world (.answered (t, k) (answerOf r)) where
  own := rfl
  numbered := by
    have hlt := h.serving.inv.numbered _ h.serving.known.asked
    exact hlt
  asked := fun _ _ hnote => by cases hnote
  answered := by
    intro call hnote
    rcases r with e | b
    · cases hnote
    · cases b with
      | false => cases hnote
      | true =>
          cases hnote
          exact ⟨request, h.known.1.asked, h.known.2⟩

theorem serve_kept (requests : ℕ → List (Request p)) :
    (policy site).Kept fun t => serve site t (requests t) := by
  intro t s hi
  have hserve : ∀ requests s, Inv site s.world →
      wp ((policy site).contract t) true (serve site t requests : Db p Unit)
        (fun _ _ => True) s := by
    intro requests
    induction requests with
    | nil => exact fun _ _ => trivial
    | cons request rest ih =>
        intro s hi
        have hcalls : Remembers site t s.world (s.world.memory t).asked :=
          .same hi (Nat.le_succ _) rfl rfl
        have hasked : Notes site t (s.world.remember t (s.world.memory t).asked)
            (.asked (t, (s.world.memory t).calls) request) := notes_asked hi
        refine ⟨.assign s _ hcalls, .note _ _ hasked, ?_⟩
        have hbegun : (policy site).Outside (Begun (t, (s.world.memory t).calls) request)
            ((s.assigned t (s.world.memory t).asked).noted
              (.asked (t, (s.world.memory t).calls) request)) :=
          ⟨hasked.inv (hcalls.inv hi), begun_noted hi⟩
        refine wp_attemptThen (wp_mono (perform_ends hbegun) fun r s₁ h₁ => ?_)
        have hanswered := notes_answered h₁
        exact ⟨.note _ _ hanswered, ih _ (hanswered.inv h₁.serving.inv)⟩
  exact hserve (requests t) s hi

end DayFiles
end CryoDaq
