import CryoDaq.Experiments.Records

/-!
# The state file and the transition journal

The two authority documents of the experiment manager, with their fingerprints.

**Fingerprints.**  `δ` is the type of fingerprints and `Setting.digest` is
`_canonical_digest`: the fingerprint of a document that was sorted by its keys.
A document whose keys do not compare has no fingerprint.

**The cut.**  `Cut` is what a transition remembers of the state it was made on:
the revision, the mode, the active experiment and the fingerprint of the last
receipt.

**The journal.**  A `Journal` is the request with its fingerprint and the
receipt that the transition will leave in the state file.
`validateTransitionAuthority` decides whether a journal is still to be applied,
has been committed already, or is refused.
-/

namespace CryoDaq
namespace Experiments

variable {δ κ : Type}

inductive Operation
  | create
  | update
  | finalize
deriving DecidableEq, Repr

/-- `_state_cut` -/
structure Cut (δ : Type) where
  managerIncarnation : String
  revision : ℕ
  appMode : AppMode
  activeExperimentId : Option String
  stateFingerprint : δ
  lastReceiptFingerprint : Option δ
deriving DecidableEq

structure Receipt (δ : Type) where
  managerIncarnation : String
  requestId : String
  requestFingerprint : δ
  operation : Operation
  experimentId : String
  experimentFingerprint : δ
  predecessorRevision : ℕ
  predecessorStateFingerprint : δ
  resultRevision : ℕ
  resultActiveExperimentId : Option String
  resultStateFingerprint : δ
deriving DecidableEq

structure Request (δ κ : Type) where
  managerIncarnation : String
  requestId : String
  operation : Operation
  experiment : ExperimentInfo
  predecessor : Cut δ
  extras : Extras κ

/-- `experiment_transition.json` -/
structure Journal (δ κ : Type) where
  request : Request δ κ
  requestFingerprint : δ
  terminalReceipt : Receipt δ

/-- `experiment_state.json` -/
structure StateFile (δ : Type) where
  appMode : AppMode
  activeExperimentId : Option String
  revision : ℕ
  stateFingerprint : δ
  lastTransitionReceipt : Option (Receipt δ)
  lastTransitionReceiptFingerprint : Option δ
  managerIncarnation : String
deriving DecidableEq

inductive Document (δ κ : Type)
  | state (managerIncarnation : String) (revision : ℕ) (appMode : AppMode)
      (activeExperimentId : Option String)
  | receipt (r : Receipt δ)
  | experiment (i : ExperimentInfo)
  | request (q : Request δ κ)

structure Setting (δ κ : Type) where
  /-- `_canonical_digest` -/
  digest : Document δ κ → δ
  /-- The templates of the templates directory. -/
  templates : List ExperimentTemplate
  /-- The size of the journal's text in bytes. -/
  journalBytes : Journal δ κ → ℕ

def journalBound : ℕ := 16 * 1024 * 1024

namespace Request

def reload (q : Request δ κ) : Request δ κ := { q with experiment := q.experiment.reload }

def canonical (q : Request δ κ) : Option (Request δ κ) :=
  q.experiment.canonical.map fun i => { q with experiment := i }

end Request

def Journal.reload (j : Journal δ κ) : Journal δ κ := { j with request := j.request.reload }

structure ExperimentState where
  appMode : AppMode
  activeExperimentId : Option String
deriving DecidableEq

/-- The attributes of the manager that its files decide. -/
structure Memory (δ : Type) where
  active : Option ExperimentInfo
  state : ExperimentState
  managerIncarnation : String
  stateRevision : ℕ
  lastTransitionReceipt : Option (Receipt δ)

variable (S : Setting δ κ)

namespace Setting

def getTemplate (templateId : String) : Except Failure ExperimentTemplate :=
  match S.templates.find? fun t => t.templateId = templateId with
  | some t => .ok t
  | none => .error (.key s!"Unknown experiment template '{templateId}'.")

/-- `_canonical_digest(info.to_payload())` -/
def experimentFingerprint (i : ExperimentInfo) : Except Failure δ :=
  match i.canonical with
  | some c => .ok (S.digest (.experiment c))
  | none => .error .type

/-- `_canonical_digest(request_material)` -/
def requestFingerprint (q : Request δ κ) : Except Failure δ :=
  match q.canonical with
  | some c => .ok (S.digest (.request c))
  | none => .error .type

end Setting

namespace Memory

variable (m : Memory δ)

def stateFingerprint (revision : ℕ) (appMode : AppMode) (activeExperimentId : Option String) :
    δ :=
  S.digest (.state m.managerIncarnation revision appMode activeExperimentId)

def stateCut : Cut δ where
  managerIncarnation := m.managerIncarnation
  revision := m.stateRevision
  appMode := m.state.appMode
  activeExperimentId := m.state.activeExperimentId
  stateFingerprint :=
    m.stateFingerprint S m.stateRevision m.state.appMode m.state.activeExperimentId
  lastReceiptFingerprint := m.lastTransitionReceipt.map fun r => S.digest (.receipt r)

/-- The file that `_write_state` writes. -/
def stateFile (revision : ℕ) (receipt : Option (Receipt δ)) : StateFile δ where
  appMode := m.state.appMode
  activeExperimentId := m.state.activeExperimentId
  revision := revision
  stateFingerprint := m.stateFingerprint S revision m.state.appMode m.state.activeExperimentId
  lastTransitionReceipt := receipt
  lastTransitionReceiptFingerprint := receipt.map fun r => S.digest (.receipt r)
  managerIncarnation := m.managerIncarnation

end Memory

/-- The active experiment that a transition leaves. -/
def resultActiveId (operation : Operation) (experimentId : String) : Option String :=
  if operation = .finalize then none else some experimentId

def terminalReceipt (m : Memory δ) (q : Request δ κ) (requestFingerprint : δ)
    (experimentId : String) (experimentFingerprint : δ) : Receipt δ where
  managerIncarnation := q.managerIncarnation
  requestId := q.requestId
  requestFingerprint := requestFingerprint
  operation := q.operation
  experimentId := experimentId
  experimentFingerprint := experimentFingerprint
  predecessorRevision := q.predecessor.revision
  predecessorStateFingerprint := q.predecessor.stateFingerprint
  resultRevision := q.predecessor.revision + 1
  resultActiveExperimentId := resultActiveId q.operation experimentId
  resultStateFingerprint :=
    m.stateFingerprint S (q.predecessor.revision + 1) q.predecessor.appMode
      (resultActiveId q.operation experimentId)

/-- The journal of `_commit_transition`. -/
def buildJournal (m : Memory δ) (requestId : String) (operation : Operation)
    (info : ExperimentInfo) (x : Extras κ) : Except Failure (Journal δ κ) :=
  let q : Request δ κ :=
    { managerIncarnation := m.managerIncarnation
      requestId := requestId
      operation := operation
      experiment := info
      predecessor := m.stateCut S
      extras := x }
  match S.requestFingerprint q, S.experimentFingerprint info with
  | .ok requestFingerprint, .ok experimentFingerprint =>
      .ok
        { request := q
          requestFingerprint := requestFingerprint
          terminalReceipt :=
            terminalReceipt S m q requestFingerprint info.experimentId experimentFingerprint }
  | .error e, _ => .error e
  | _, .error e => .error e

def predecessorRefusal (operation : Operation) (predecessor : Cut δ) (experimentId : String) :
    Option String :=
  if predecessor.appMode ≠ .experiment then
    some "Experiment transition predecessor mode is not authoritative."
  else if operation = .create then
    if predecessor.activeExperimentId ≠ none then
      some "Create transition predecessor already has an active experiment."
    else none
  else if predecessor.activeExperimentId ≠ some experimentId then
    some "Experiment transition predecessor identity does not match its target."
  else none

theorem predecessorRefusal_eq_none {operation : Operation} {predecessor : Cut δ}
    {experimentId : String}
    (h : predecessorRefusal operation predecessor experimentId = none) :
    predecessor.appMode = .experiment ∧ predecessor.activeExperimentId =
      if operation = .create then none else some experimentId := by
  unfold predecessorRefusal at h
  by_cases hmode : predecessor.appMode = .experiment
  · refine ⟨hmode, ?_⟩
    rw [if_neg (fun hne => hne hmode)] at h
    by_cases hc : operation = .create
    · rw [if_pos hc] at h ⊢
      by_contra hne
      rw [if_pos hne] at h
      cases h
    · rw [if_neg hc] at h ⊢
      by_contra hne
      rw [if_pos hne] at h
      cases h
  · rw [if_pos hmode] at h
    cases h

variable [DecidableEq δ]

def requestRefusal (m : Memory δ) (j : Journal δ κ) (info : ExperimentInfo)
    (requestFingerprint : δ) : Option String :=
  if requestFingerprint ≠ j.requestFingerprint then
    some "Experiment transition request fingerprint does not match its payload."
  else if j.request.predecessor.managerIncarnation ≠ j.request.managerIncarnation then
    some "Experiment transition predecessor incarnation is inconsistent."
  else if j.request.predecessor.stateFingerprint ≠
      m.stateFingerprint S j.request.predecessor.revision j.request.predecessor.appMode
        j.request.predecessor.activeExperimentId then
    some "Experiment transition predecessor fingerprint is invalid."
  else predecessorRefusal j.request.operation j.request.predecessor info.experimentId

/-- Whether the state in memory is the result of the journal. -/
def exactResult (m : Memory δ) (j : Journal δ κ) (expected : Receipt δ) : Bool :=
  m.managerIncarnation = j.request.managerIncarnation &&
    m.stateRevision = expected.resultRevision &&
    m.state.appMode = j.request.predecessor.appMode &&
    m.state.activeExperimentId = expected.resultActiveExperimentId &&
    m.stateFingerprint S m.stateRevision m.state.appMode m.state.activeExperimentId =
      expected.resultStateFingerprint &&
    m.lastTransitionReceipt = some expected

/-- The last comparison: the journal is pending, committed or stale. -/
def compareCut (m : Memory δ) (j : Journal δ κ) (expected : Receipt δ) :
    Except Failure (Receipt δ × Bool) :=
  if j.terminalReceipt ≠ expected then
    .error (.runtime "Experiment transition terminal receipt is invalid.")
  else if m.stateCut S = j.request.predecessor then .ok (expected, false)
  else if exactResult S m j expected then .ok (expected, true)
  else
    .error (.runtime
      "Experiment transition predecessor is stale or its durable receipt is equivocal.")

/-- `_validate_transition_authority`: the receipt, and whether the transition
has been committed already. -/
def validateTransitionAuthority (m : Memory δ) (j : Journal δ κ) (info : ExperimentInfo) :
    Except Failure (Receipt δ × Bool) :=
  if j.request.managerIncarnation ≠ m.managerIncarnation then
    .error (.runtime "Experiment transition belongs to a different manager incarnation.")
  else
    match S.requestFingerprint j.request with
    | .error e => .error e
    | .ok requestFingerprint =>
        match requestRefusal S m j info requestFingerprint with
        | some message => .error (.runtime message)
        | none =>
            match S.experimentFingerprint info with
            | .error e => .error e
            | .ok experimentFingerprint =>
                compareCut S m j
                  (terminalReceipt S m j.request requestFingerprint info.experimentId
                    experimentFingerprint)

/-- What `_apply_transition` refuses after the journal has been validated. -/
def statusRefusal (operation : Operation) (info : ExperimentInfo) : Option String :=
  if operation = .finalize then
    if info.status = .running || info.endTime.isNone then
      some "Finalize transition must carry exact terminal state."
    else none
  else if info.status ≠ .running || info.endTime.isSome then
    some "Active transition must carry exact RUNNING state."
  else none

/-- Whether a receipt belongs to the state file that holds it. -/
def receiptConsistent (f : StateFile δ) (r : Receipt δ) : Bool :=
  r.managerIncarnation = f.managerIncarnation &&
    r.experimentId ≠ "" &&
    r.resultRevision = r.predecessorRevision + 1 &&
    r.resultRevision = f.revision &&
    r.resultActiveExperimentId = f.activeExperimentId &&
    r.resultStateFingerprint = f.stateFingerprint &&
    r.resultActiveExperimentId = resultActiveId r.operation r.experimentId

/-- What `_load_state_authority` refuses a state file for. -/
def stateFileRefusal (f : StateFile δ) : Option String :=
  if f.stateFingerprint ≠
      S.digest (.state f.managerIncarnation f.revision f.appMode f.activeExperimentId) then
    some "Experiment state fingerprint is invalid."
  else if f.lastTransitionReceiptFingerprint ≠
      f.lastTransitionReceipt.map fun r => S.digest (.receipt r) then
    some "Experiment state terminal receipt fingerprint is invalid."
  else if f.lastTransitionReceipt.all (receiptConsistent f) then none
  else some "Experiment state terminal receipt is invalid."

end Experiments
end CryoDaq
