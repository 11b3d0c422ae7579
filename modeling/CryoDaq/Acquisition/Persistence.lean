import CryoDaq.Acquisition.Polling

/-!
# Persistence first

What a poll discloses is what reaches a broker, the calibration service or the
recovery handler.  A poll whose batch the writer does not accept discloses
nothing; what it publishes with authority is what the writer accepted.

**Writers without receipts.**  A writer without a descriptor catalogue answers
with a truth value.  What is published after it has no receipt entry and no
descriptor envelopes.
-/

namespace CryoDaq
namespace Acquisition

def Effect.discloses : Effect → Bool
  | .srdgPersisted _ _ => true
  | .published _ _ _ => true
  | .safetyPublished _ => true
  | .recovered _ => true
  | _ => false

def Effect.observes : Effect → Bool
  | .observedCommit _ => true
  | .observedRejection _ _ => true
  | .observedAmbiguity => true
  | _ => false

/-- The awaited call of a commit ends with this receipt. -/
inductive CommitApi.Answers : CommitApi → CommitReceipt → Prop
  | direct (receipt : CommitReceipt) : Answers (.direct (.returns (some receipt))) receipt
  | ticket (receipt : CommitReceipt) (release : Option Bool)
      (settle : Option (Answer (Option CommitReceipt))) (hrelease : release ≠ some false) :
      Answers (.ticket true (.returns (some receipt)) release settle) receipt

/-- The writer accepts a batch: with a receipt whose entries are those of the
batch, or, when it gives no receipts, with `True`. -/
inductive Accepted (w : Writer) (batch : List Reading) : Persisting → Prop
  | committed (api : CommitApi) (receipt : CommitReceipt)
      (hapi : w.api = .descriptorAuthoritative api) (hanswer : api.Answers receipt)
      (howned : receipt.owned = true) (hlength : receipt.entries.length = batch.length)
      (hmatch : matchesBatch receipt.entries batch = true) (hdisk : w.diskFullAfter = false) :
      Accepted w batch (.committed receipt.entries)
  | immediate (hapi : w.api = .immediate (.returns true)) (hdisk : w.diskFullAfter = false) :
      Accepted w batch .accepted

/-- What an accepted batch allows to be published with authority: the first
entries of the receipt, each reading with its own envelope, or, without
receipts, the first readings of the batch. -/
inductive Backed (w : Writer) (batch : List Reading) :
    List Reading → Option (List Bytes) → Prop
  | receipt (entries : List CommittedEntry) (n : ℕ)
      (haccepted : Accepted w batch (.committed entries)) :
      Backed w batch ((entries.take n).map CommittedEntry.reading)
        (some ((entries.take n).map CommittedEntry.descriptorEnvelope))
  | immediate (n : ℕ) (haccepted : Accepted w batch .accepted) :
      Backed w batch (batch.take n) none

theorem observes_onAmbiguity (o : Observers) :
    ∀ e ∈ o.onAmbiguity, e.observes = true := by
  intro e he
  unfold Observers.onAmbiguity at he
  split at he
  · cases List.mem_singleton.mp he
    rfl
  · cases he

theorem observes_notify (o : Observers) (observer : Option Bool) {e : Effect}
    (he : e.observes = true) : ∀ f ∈ o.notify observer e, f.observes = true := by
  intro f hf
  cases observer with
  | none => cases hf
  | some b =>
      cases b with
      | true =>
          cases List.mem_singleton.mp hf
          exact he
      | false =>
          rcases List.mem_cons.mp hf with rfl | hf
          · exact he
          · exact observes_onAmbiguity o f hf

theorem observes_append {l l' : List Effect} (h : ∀ e ∈ l, e.observes = true)
    (h' : ∀ e ∈ l', e.observes = true) : ∀ e ∈ l ++ l', e.observes = true := by
  intro e he
  rcases List.mem_append.mp he with he | he
  · exact h e he
  · exact h' e he

theorem observes_awaitReceipt (o : Observers) (api : CommitApi) :
    ∀ e ∈ (awaitReceipt o api).1, e.observes = true := by
  fun_cases awaitReceipt o api
  all_goals first
    | exact fun e he => absurd he (List.not_mem_nil)
    | exact observes_onAmbiguity o
    | exact observes_notify o _ rfl

theorem answers_of_awaitReceipt {o : Observers} {api : CommitApi} {receipt : CommitReceipt}
    (h : (awaitReceipt o api).2 = .returns (some receipt)) : api.Answers receipt := by
  revert h
  fun_cases awaitReceipt o api
  all_goals intro h
  all_goals cases h
  · exact .direct receipt
  · rename_i release settle hrelease
    exact .ticket receipt release settle hrelease

/-- The ends of a write that was not accepted. -/
def Persisting.Unaccepted (p : Persisting) : Prop :=
  p = .refused ∨ p = .failed ∨ p = .cancelled

theorem persistCommitted_cases (o : Observers) (api : CommitApi) (batch : List Reading) :
    (persistCommitted o api batch).2.Unaccepted ∨
    ∃ receipt, (persistCommitted o api batch).2 = .committed receipt.entries ∧
      api.Answers receipt ∧ receipt.owned = true ∧
      receipt.entries.length = batch.length ∧
      matchesBatch receipt.entries batch = true := by
  have hanswer (receipt : CommitReceipt)
      (h : (awaitReceipt o api).2 = .returns (some receipt)) : api.Answers receipt :=
    answers_of_awaitReceipt h
  unfold persistCommitted
  generalize awaitReceipt o api = awaited at hanswer
  obtain ⟨effects, answer⟩ := awaited
  cases answer with
  | cancelled => exact .inl (.inr (.inr rfl))
  | raises => exact .inl (.inr (.inl rfl))
  | returns answer =>
      cases answer with
      | none => exact .inl (.inl rfl)
      | some receipt =>
          simp only
          split
          · exact .inl (.inr (.inl rfl))
          · rename_i howned
            split
            · exact .inl (.inr (.inl rfl))
            · rename_i hlength
              split
              · exact .inl (.inr (.inl rfl))
              · rename_i hmatch
                exact .inr ⟨receipt, rfl, hanswer receipt rfl, by simpa using howned,
                  not_not.mp hlength, by simpa using hmatch⟩

theorem observes_persistCommitted (o : Observers) (api : CommitApi)
    (batch : List Reading) :
    ∀ e ∈ (persistCommitted o api batch).1, e.observes = true := by
  have hawait := observes_awaitReceipt o api
  unfold persistCommitted
  generalize awaitReceipt o api = awaited at hawait
  obtain ⟨effects, answer⟩ := awaited
  cases answer with
  | cancelled => exact hawait
  | raises => exact hawait
  | returns answer =>
      cases answer with
      | none => exact observes_append hawait (observes_notify o _ rfl)
      | some receipt =>
          simp only
          split
          · exact hawait
          · split
            · exact observes_append hawait (observes_onAmbiguity o)
            · split
              · exact observes_append hawait (observes_onAmbiguity o)
              · exact observes_append hawait (observes_notify o _ rfl)

theorem persist_cases (o : Observers) (w : Writer) (batch : List Reading) :
    (persist o w batch).2.Unaccepted ∨ Accepted w batch (persist o w batch).2 := by
  unfold persist
  cases hapi : w.api with
  | immediate answer =>
      cases answer with
      | cancelled => exact .inl (.inr (.inr rfl))
      | raises => exact .inl (.inr (.inl rfl))
      | returns stored =>
          cases stored with
          | false => exact .inl (.inl rfl)
          | true =>
              simp only [persistImmediate]
              cases hdisk : w.diskFullAfter with
              | true => exact .inl (.inl rfl)
              | false => exact .inr (.immediate hapi hdisk)
  | descriptorAuthoritative api =>
      simp only
      rcases persistCommitted_cases o api batch with hend | hend
      · rcases hend with hend | hend | hend
        · rw [hend]
          exact .inl (.inl rfl)
        · rw [hend]
          exact .inl (.inr (.inl rfl))
        · rw [hend]
          exact .inl (.inr (.inr rfl))
      · obtain ⟨receipt, hend, hanswer, howned, hlength, hmatch⟩ := hend
        rw [hend]
        cases hdisk : w.diskFullAfter with
        | true => exact .inl (.inl rfl)
        | false =>
            exact .inr (.committed api receipt hapi hanswer howned hlength hmatch hdisk)

theorem persist_effects (o : Observers) (w : Writer) (batch : List Reading) :
    ∃ observed, (persist o w batch).1 = .wrote batch :: observed ∧
      ∀ e ∈ observed, e.observes = true := by
  unfold persist
  cases w.api with
  | immediate answer =>
      refine ⟨[], ?_, fun e he => absurd he List.not_mem_nil⟩
      cases answer with
      | cancelled => rfl
      | raises => rfl
      | returns stored => cases stored <;> rfl
  | descriptorAuthoritative api =>
      refine ⟨(persistCommitted o api batch).1, ?_, observes_persistCommitted o api batch⟩
      simp only
      cases (persistCommitted o api batch).2 <;> rfl

theorem awaitReceipt_of_answers (o : Observers) {api : CommitApi} {receipt : CommitReceipt}
    (h : api.Answers receipt) : awaitReceipt o api = ([], .returns (some receipt)) := by
  cases h with
  | direct receipt => rfl
  | ticket receipt release settle hrelease => exact if_neg hrelease

theorem persist_of_accepted (o : Observers) {w : Writer} {batch : List Reading}
    {p : Persisting} (h : Accepted w batch p) : (persist o w batch).2 = p := by
  cases h with
  | immediate hapi hdisk => simp [persist, hapi, persistImmediate, hdisk]
  | committed api receipt hapi hanswer howned hlength hmatch hdisk =>
      simp [persist, hapi, persistCommitted, awaitReceipt_of_answers o hanswer, howned,
        hlength, hmatch, hdisk]

theorem not_accepted_of_unaccepted {o : Observers} {w : Writer} {batch : List Reading}
    (h : (persist o w batch).2.Unaccepted) (p : Persisting) : ¬ Accepted w batch p := by
  intro haccepted
  rw [persist_of_accepted o haccepted] at h
  cases haccepted with
  | immediate hapi hdisk => rcases h with h | h | h <;> cases h
  | committed api receipt hapi hanswer howned hlength hmatch hdisk =>
      rcases h with h | h | h <;> cases h

inductive Delivers (p : Publication) : Effect → Prop
  | published (h : p.readings ≠ []) :
      Delivers p (.published p.readings p.authoritative p.envelopes)
  | safety (readings : List Reading) : Delivers p (.safetyPublished readings)
  | recovered (name : String) (h : p.readings ≠ []) (hauthoritative : p.authoritative = true) :
      Delivers p (.recovered name)

theorem mem_andThen {d next : Delivery} {e : Effect} (h : e ∈ (d.andThen next).effects) :
    e ∈ d.effects ∨ e ∈ next.effects := by
  unfold Delivery.andThen at h
  cases hends : d.ends with
  | none =>
      rw [hends] at h
      exact List.mem_append.mp h
  | some o =>
      rw [hends] at h
      exact .inl h

theorem mem_awaitBroker {e f : Effect} {answer : Answer Unit}
    (h : f ∈ (awaitBroker e answer).effects) : f = e := by
  cases answer <;> exact List.mem_singleton.mp h

theorem delivers_of_mem {s : Surroundings} {name : String} {p : Publication}
    {readings : List Reading} {e : Effect} (h : e ∈ (deliver s name p readings).effects) :
    Delivers p e := by
  unfold deliver at h
  rcases mem_andThen h with hbroker | hrest
  · split at hbroker
    · cases hbroker
    · rename_i hne
      rw [mem_awaitBroker hbroker]
      exact .published (by simpa using hne)
  · rcases mem_andThen hrest with hsafety | hlift
    · split at hsafety
      · cases hsafety
      · rw [mem_awaitBroker hsafety]
        exact .safety readings
    · split at hlift
      · cases hlift
      · rename_i hne
        have hne' : p.readings ≠ [] ∧ p.authoritative = true := by simpa using hne
        cases hhandler : s.recoveryHandler with
        | none =>
            rw [hhandler] at hlift
            cases hlift
        | some returns =>
            rw [hhandler] at hlift
            cases returns with
            | true =>
                cases List.mem_singleton.mp hlift
                exact .recovered name hne'.1 hne'.2
            | false =>
                cases List.mem_singleton.mp hlift
                exact .recovered name hne'.1 hne'.2

/-- What a poll does, as a whole. -/
inductive Course (s : Surroundings) : List Effect → Prop
  | silent : Course s []
  | unwritten (p : Publication) (effects : List Effect) (hp : p.authoritative = false)
      (h : ∀ e ∈ effects, Delivers p e ∨ ∃ count pending, e = .srdgPersisted count pending) :
      Course s effects
  | unaccepted (w : Writer) (batch : List Reading) (observed : List Effect)
      (hw : s.writer = some w) (h : ∀ p, ¬ Accepted w batch p)
      (hobserved : ∀ e ∈ observed, e.observes = true) :
      Course s (.wrote batch :: observed)
  | accepted (w : Writer) (persisted srdg : List Reading) (p : Persisting)
      (observed effects : List Effect) (hw : s.writer = some w)
      (haccepted : Accepted w (persisted ++ srdg) p)
      (hobserved : ∀ e ∈ observed, e.observes = true)
      (h : ∀ e ∈ effects, Delivers (publicationOf persisted p) e ∨
        ∃ count pending, e = .srdgPersisted count pending) :
      Course s (.wrote (persisted ++ srdg) :: observed ++ effects)

theorem conclude_effects (s : Surroundings) (sch : Scheduler) (i : InstrumentState)
    (srdg : List Reading × Option PendingRange) (p : Publication) (readings : List Reading)
    (before : List Effect) :
    ∃ after, (conclude s sch i srdg p readings before).effects = before ++ after ∧
      ∀ e ∈ after, Delivers p e ∨ ∃ count pending, e = .srdgPersisted count pending := by
  refine ⟨_, List.append_assoc _ _ _, ?_⟩
  intro e he
  rcases List.mem_append.mp he with htold | hdelivered
  · split at htold
    · cases htold
    · exact .inr ⟨_, _, List.mem_singleton.mp htold⟩
  · exact .inl (delivers_of_mem hdelivered)

theorem persistAndPublish_course (s : Surroundings) (sch : Scheduler) (i : InstrumentState)
    (persisted : List Reading) (srdg : List Reading × Option PendingRange)
    (readings : List Reading) :
    Course s (persistAndPublish s sch i persisted srdg readings).effects := by
  have hunwritten (p : Publication) (hp : p.authoritative = false) :
      Course s (conclude s sch i srdg p readings []).effects := by
    obtain ⟨after, heffects, hafter⟩ := conclude_effects s sch i srdg p readings []
    rw [heffects]
    exact .unwritten p after hp hafter
  unfold persistAndPublish
  cases hw : s.writer with
  | none => exact hunwritten _ rfl
  | some w =>
      simp only
      split
      · exact hunwritten _ rfl
      · obtain ⟨observed, hwrote, hobserved⟩ :=
          persist_effects s.observers w (persisted ++ srdg.1)
        have hcases := persist_cases s.observers w (persisted ++ srdg.1)
        have hnot (h : (persist s.observers w (persisted ++ srdg.1)).2.Unaccepted) :
            ∀ p, ¬ Accepted w (persisted ++ srdg.1) p := not_accepted_of_unaccepted h
        generalize persist s.observers w (persisted ++ srdg.1) = written at hwrote hcases hnot
        obtain ⟨effects, p⟩ := written
        simp only at hwrote hcases hnot
        subst hwrote
        rcases hcases with hend | hend
        · have hcourse := Course.unaccepted w _ observed hw (hnot hend) hobserved
          rcases hend with hend | hend | hend
          · subst hend
            exact hcourse
          · subst hend
            exact hcourse
          · subst hend
            exact hcourse
        · obtain ⟨after, heffects, hafter⟩ := conclude_effects s sch i srdg
            (publicationOf persisted p) readings (.wrote (persisted ++ srdg.1) :: observed)
          have hcourse := Course.accepted w persisted srdg.1 p observed after hw hend hobserved
            hafter
          rw [← heffects] at hcourse
          cases hend with
          | immediate hapi hdisk => exact hcourse
          | committed api receipt hapi hanswer howned hlength hmatch hdisk => exact hcourse

theorem processReadings_course (s : Surroundings) (sch : Scheduler) (i : InstrumentState)
    (readings : List Reading) (successfulPoll : Bool) :
    Course s (processReadings s sch i readings successfulPoll).effects := by
  unfold processReadings
  split
  · exact .silent
  · simp only
    split
    · exact .silent
    · cases readSrdg s.calibration readings with
      | none => exact .silent
      | some srdg => exact persistAndPublish_course s _ _ _ srdg readings

theorem publishFailedPollReadings_effects (s : Surroundings) (sch : Scheduler)
    (i : InstrumentState) (failureReadings : List Reading) (exceptionName : String) :
    ∃ effects reports,
      (effects = [] ∨ effects = (processReadings s sch i failureReadings false).effects) ∧
      (publishFailedPollReadings s sch i failureReadings exceptionName).effects =
        effects ++ reports ∧
      ∀ e ∈ reports, ∃ name reason, e = .reported name reason := by
  have hreport (name reason : String) :
      ∀ e ∈ (reportFailedPollPersistence s name reason).1, ∃ name reason, e = .reported name reason := by
    intro e he
    unfold reportFailedPollPersistence at he
    cases hhandler : s.failureHandler with
    | none =>
        rw [hhandler] at he
        cases he
    | some answer =>
        rw [hhandler] at he
        cases answer <;> exact ⟨_, _, List.mem_singleton.mp he⟩
  unfold publishFailedPollReadings
  split
  · exact ⟨[], [], .inl rfl, rfl, fun e he => absurd he List.not_mem_nil⟩
  · simp only
    generalize processReadings s sch i failureReadings false = poll
    have hplain : ∃ effects reports, (effects = [] ∨ effects = poll.effects) ∧
        poll.effects = effects ++ reports ∧
        ∀ e ∈ reports, ∃ name reason, e = .reported name reason :=
      ⟨_, [], .inr rfl, (List.append_nil _).symm, fun e he => absurd he List.not_mem_nil⟩
    cases hend : poll.outcome with
    | cancelled => exact hplain
    | raised => exact ⟨_, _, .inr rfl, rfl, hreport _ _⟩
    | delivered b =>
        cases b with
        | true => exact hplain
        | false => exact ⟨_, _, .inr rfl, rfl, hreport _ _⟩

/-- The effects of a poll in these surroundings, successful or failed. -/
inductive Polls (s : Surroundings) : List Effect → Prop
  | poll (sch : Scheduler) (i : InstrumentState) (readings : List Reading)
      (successfulPoll : Bool) :
      Polls s (processReadings s sch i readings successfulPoll).effects
  | failedPoll (sch : Scheduler) (i : InstrumentState) (failureReadings : List Reading)
      (exceptionName : String) :
      Polls s (publishFailedPollReadings s sch i failureReadings exceptionName).effects

theorem Polls.course {s : Surroundings} {effects : List Effect} (h : Polls s effects) :
    ∃ course reports, Course s course ∧ effects = course ++ reports ∧
      ∀ e ∈ reports, ∃ name reason, e = .reported name reason := by
  cases h with
  | poll sch i readings successfulPoll =>
      exact ⟨_, [], processReadings_course s sch i readings successfulPoll,
        (List.append_nil _).symm, fun e he => absurd he List.not_mem_nil⟩
  | failedPoll sch i failureReadings exceptionName =>
      obtain ⟨effects, reports, hbase, heffects, hreports⟩ :=
        publishFailedPollReadings_effects s sch i failureReadings exceptionName
      refine ⟨effects, reports, ?_, heffects, hreports⟩
      rcases hbase with rfl | rfl
      · exact .silent
      · exact processReadings_course s sch i failureReadings false

theorem not_discloses_of_observes {e : Effect} (h : e.observes = true) :
    e.discloses = false := by
  cases e <;> first | rfl | cases h

theorem backed_publicationOf {w : Writer} {persisted srdg : List Reading} {p : Persisting}
    (h : Accepted w (persisted ++ srdg) p) :
    Backed w (persisted ++ srdg) (publicationOf persisted p).readings
      (publicationOf persisted p).envelopes := by
  cases h with
  | immediate hapi hdisk =>
      have haccepted : Accepted w (persisted ++ srdg) .accepted := .immediate hapi hdisk
      have hbacked := Backed.immediate persisted.length haccepted
      rw [List.take_left] at hbacked
      exact hbacked
  | committed api receipt hapi hanswer howned hlength hmatch hdisk =>
      exact .receipt receipt.entries persisted.length
        (.committed api receipt hapi hanswer howned hlength hmatch hdisk)

theorem Course.backed {s : Surroundings} {effects : List Effect} (h : Course s effects)
    {readings : List Reading} {envelopes : Option (List Bytes)}
    (hmem : Effect.published readings true envelopes ∈ effects) :
    ∃ w batch, s.writer = some w ∧ Effect.wrote batch ∈ effects ∧
      Backed w batch readings envelopes := by
  cases h with
  | silent => cases hmem
  | unwritten p effects hp h =>
      rcases h _ hmem with hdelivers | ⟨count, pending, heq⟩
      · generalize he : Effect.published readings true envelopes = e at hdelivers
        cases hdelivers with
        | published hne =>
            injection he with _ hauthoritative _
            rw [hp] at hauthoritative
            cases hauthoritative
        | safety readings => cases he
        | recovered name hne hauthoritative => cases he
      · cases heq
  | unaccepted w batch observed hw hnot hobserved =>
      rcases List.mem_cons.mp hmem with heq | hmem
      · cases heq
      · cases hobserved _ hmem
  | accepted w persisted srdg p observed effects hw haccepted hobserved h =>
      refine ⟨w, persisted ++ srdg, hw, List.mem_cons_self, ?_⟩
      rcases List.mem_append.mp hmem with hmem | hmem
      · rcases List.mem_cons.mp hmem with heq | hmem
        · cases heq
        · cases hobserved _ hmem
      · rcases h _ hmem with hdelivers | ⟨count, pending, heq⟩
        · have hbacked := backed_publicationOf haccepted
          generalize he : Effect.published readings true envelopes = e at hdelivers
          cases hdelivers with
          | published hne =>
              injection he with hreadings _ henvelopes
              rw [hreadings, henvelopes]
              exact hbacked
          | safety readings => cases he
          | recovered name hne hauthoritative => cases he
        · cases heq

theorem Course.undisclosed {s : Surroundings} {effects : List Effect} (h : Course s effects)
    {w : Writer} {batch : List Reading} (hw : s.writer = some w)
    (hmem : Effect.wrote batch ∈ effects) (hnot : ∀ p, ¬ Accepted w batch p) :
    ∀ e ∈ effects, e.discloses = false := by
  cases h with
  | silent => cases hmem
  | unwritten p effects hp h =>
      rcases h _ hmem with hdelivers | ⟨count, pending, heq⟩
      · cases hdelivers
      · cases heq
  | unaccepted w' batch' observed hw' hnot' hobserved =>
      intro e he
      rcases List.mem_cons.mp he with rfl | he
      · rfl
      · exact not_discloses_of_observes (hobserved e he)
  | accepted w' persisted srdg p observed effects hw' haccepted hobserved h =>
      exfalso
      rcases List.mem_append.mp hmem with hmem | hmem
      · rcases List.mem_cons.mp hmem with heq | hmem
        · cases heq
          cases hw.symm.trans hw'
          exact hnot p haccepted
        · cases hobserved _ hmem
      · rcases h _ hmem with hdelivers | ⟨count, pending, heq⟩
        · cases hdelivers
        · cases heq

theorem Course.recovered {s : Surroundings} {effects : List Effect} (h : Course s effects)
    {name : String} (hmem : Effect.recovered name ∈ effects) :
    ∃ w batch p, s.writer = some w ∧ Effect.wrote batch ∈ effects ∧ Accepted w batch p := by
  cases h with
  | silent => cases hmem
  | unwritten p effects hp h =>
      rcases h _ hmem with hdelivers | ⟨count, pending, heq⟩
      · cases hdelivers with
        | recovered name hne hauthoritative =>
            rw [hp] at hauthoritative
            cases hauthoritative
      · cases heq
  | unaccepted w batch observed hw hnot hobserved =>
      rcases List.mem_cons.mp hmem with heq | hmem
      · cases heq
      · cases hobserved _ hmem
  | accepted w persisted srdg p observed effects hw haccepted hobserved h =>
      exact ⟨w, persisted ++ srdg, p, hw, List.mem_cons_self, haccepted⟩

theorem Polls.diskFull {s : Surroundings} {effects : List Effect} (h : Polls s effects)
    {w : Writer} (hw : s.writer = some w) (hfull : w.diskFullBefore = true) :
    ∀ e ∈ effects, e.discloses = false := by
  have hsilent (sch : Scheduler) (i : InstrumentState) (readings : List Reading)
      (successfulPoll : Bool) :
      processReadings s sch i readings successfulPoll = ⟨.delivered false, sch, i, []⟩ := by
    unfold processReadings
    rw [if_pos]
    rw [hw]
    exact hfull
  cases h with
  | poll sch i readings successfulPoll =>
      rw [hsilent]
      exact fun e he => absurd he List.not_mem_nil
  | failedPoll sch i failureReadings exceptionName =>
      obtain ⟨effects, reports, hbase, heffects, hreports⟩ :=
        publishFailedPollReadings_effects s sch i failureReadings exceptionName
      have hnil : effects = [] := by
        rcases hbase with hbase | hbase
        · exact hbase
        · rw [hbase, hsilent]
      rw [heffects, hnil]
      intro e he
      obtain ⟨name, reason, rfl⟩ := hreports e he
      rfl

/-- What a poll publishes with authority is backed by the batch that the writer
accepted; a poll whose batch is not accepted, or that finds the disk full,
discloses nothing; the recovery handler is called only after an accepted batch. -/
theorem persistence_first (s : Surroundings) (effects : List Effect) (h : Polls s effects) :
    (∀ readings envelopes, Effect.published readings true envelopes ∈ effects →
      ∃ w batch, s.writer = some w ∧ Effect.wrote batch ∈ effects ∧
        Backed w batch readings envelopes) ∧
    (∀ w, s.writer = some w →
      (w.diskFullBefore = true ∨
        ∃ batch, Effect.wrote batch ∈ effects ∧ ∀ p, ¬ Accepted w batch p) →
      ∀ e ∈ effects, e.discloses = false) ∧
    (∀ name, Effect.recovered name ∈ effects →
      ∃ w batch p, s.writer = some w ∧ Effect.wrote batch ∈ effects ∧ Accepted w batch p) := by
  obtain ⟨course, reports, hcourse, heffects, hreports⟩ := h.course
  have hwithin {e : Effect} (he : e ∈ effects) (hreported : ∀ name reason, e ≠ .reported name reason) :
      e ∈ course := by
    rw [heffects] at he
    rcases List.mem_append.mp he with he | he
    · exact he
    · obtain ⟨name, reason, heq⟩ := hreports e he
      exact absurd heq (hreported name reason)
  have hinto {e : Effect} (he : e ∈ course) : e ∈ effects := by
    rw [heffects]
    exact List.mem_append_left reports he
  refine ⟨?_, ?_, ?_⟩
  · intro readings envelopes hmem
    obtain ⟨w, batch, hw, hwrote, hbacked⟩ :=
      hcourse.backed (hwithin hmem fun name reason heq => by cases heq)
    exact ⟨w, batch, hw, hinto hwrote, hbacked⟩
  · intro w hw hrefused
    rcases hrefused with hfull | ⟨batch, hwrote, hnot⟩
    · exact h.diskFull hw hfull
    · have hundisclosed := hcourse.undisclosed hw
        (hwithin hwrote fun name reason heq => by cases heq) hnot
      intro e he
      rw [heffects] at he
      rcases List.mem_append.mp he with he | he
      · exact hundisclosed e he
      · obtain ⟨name, reason, rfl⟩ := hreports e he
        rfl
  · intro name hmem
    obtain ⟨w, batch, p, hw, hwrote, haccepted⟩ :=
      hcourse.recovered (hwithin hmem fun name reason heq => by cases heq)
    exact ⟨w, batch, p, hw, hinto hwrote, haccepted⟩

def sampleReading : Reading where
  timestamp := 0
  instrumentId := "LS218"
  channel := "T1"
  value := 4.2
  unit := "K"

/-- A writer without a catalogue that stores what it is given. -/
def plainWriter : Writer where
  api := .immediate (.returns true)
  stored := true

def sampleReadings : List Reading :=
  [sampleReading, { sampleReading with channel := "T2", value := 77.3 },
    { sampleReading with channel := "T3", value := 0, status := .sensorError }]

/-- A poll of three readings in front of that writer. -/
def plainPoll : Poll :=
  processReadings { writer := some plainWriter } {} { name := "LS218" } sampleReadings true

/-- A receipt for some readings, each with an envelope of its own. -/
def sampleReceipt (readings : List Reading) : CommitReceipt :=
  ⟨true, readings.mapIdx fun i r => ⟨r, [i.toUInt8]⟩⟩

/-- A writer with a catalogue that answers with a receipt, and a handler that lifts the pause. -/
def receipted (readings : List Reading) : Surroundings where
  writer := some
    { api := .descriptorAuthoritative (.direct (.returns (some (sampleReceipt readings))))
      stored := true }
  recoveryHandler := some true

/-- A poll of the three readings in front of a writer that answers with a receipt for some. -/
def receiptedPoll (readings : List Reading) : Poll :=
  processReadings (receipted readings) {} { name := "LS218" } sampleReadings true

theorem receiptedPoll_effects :
    (receiptedPoll sampleReadings).effects =
        [.wrote sampleReadings, .published sampleReadings true (some [[0], [1], [2]]),
          .recovered "LS218"] ∧
      (receiptedPoll sampleReadings.reverse).effects = [.wrote sampleReadings] := by
  constructor <;> rfl

/-- Three readings, written without receipts, with their receipt, and with one for the readings in
another order. -/
theorem persistence_first_plain :
    (∃ w batch, some plainWriter = some w ∧ Effect.wrote batch ∈ plainPoll.effects ∧
      Backed w batch sampleReadings none) ∧
    (∃ w batch, (receipted sampleReadings).writer = some w ∧
      Effect.wrote batch ∈ (receiptedPoll sampleReadings).effects ∧
        Backed w batch sampleReadings (some [[0], [1], [2]])) ∧
    ∀ e ∈ (receiptedPoll sampleReadings.reverse).effects, e.discloses = false := by
  have hplain := persistence_first { writer := some plainWriter } plainPoll.effects
    (.poll {} { name := "LS218" } sampleReadings true)
  have hreceipted := persistence_first (receipted sampleReadings) _
    (.poll {} { name := "LS218" } sampleReadings true)
  have hother := persistence_first (receipted sampleReadings.reverse) _
    (.poll {} { name := "LS218" } sampleReadings true)
  obtain ⟨hthree, hnone⟩ := receiptedPoll_effects
  refine ⟨hplain.1 sampleReadings none (List.mem_cons_of_mem _ List.mem_cons_self),
    hreceipted.1 sampleReadings _ ?_, hother.2.1 _ rfl (.inr ⟨sampleReadings, ?_, ?_⟩)⟩
  · change _ ∈ (receiptedPoll sampleReadings).effects
    rw [hthree]
    exact List.mem_cons_of_mem _ List.mem_cons_self
  · change _ ∈ (receiptedPoll sampleReadings.reverse).effects
    rw [hnone]
    exact List.mem_cons_self
  · rintro p haccepted
    cases haccepted with
    | committed api receipt hapi hanswer _ _ hmatch =>
        cases hapi
        cases hanswer
        have hdiffers : matchesBatch (sampleReceipt sampleReadings.reverse).entries
            sampleReadings = false := rfl
        rw [hdiffers] at hmatch
        cases hmatch
    | immediate hapi _ => cases hapi

/-- Readings are published with authority although their write gave no receipt. -/
theorem published_without_receipt :
    Effect.published sampleReadings true none ∈ plainPoll.effects ∧
    ∀ api receipt, plainWriter.api = .descriptorAuthoritative api →
      ¬ api.Answers receipt :=
  ⟨List.mem_cons_of_mem _ List.mem_cons_self, fun api receipt h => by cases h⟩

end Acquisition
end CryoDaq
