import CryoDaq.Safety.Children

/-!
# Cuts through the driver's own account

What the manager concludes from the activity that the driver reports about
itself: an output that nobody manages, a list of active channels that disagrees
with the tracked sources, and the revocation of a Start after its publication.

An inspection may raise, since the driver's attributes are properties; only
`_hazardous_success_conflict` turns that into a conflict.
-/

namespace CryoDaq
namespace Safety

structure RunAuthorityRevocation where
  reason : String
  fullShutdown : Bool
  faultRequired : Bool

/-- The channel and kind of an observation whose provenance is current and
well formed. -/
def OutputObservation.accepted (generation : Option Int)
    (seen : List SmuChannel) (o : OutputObservation) :
    Option (SmuChannel × String) :=
  match o.channel, o.connectionGeneration, generation, o.commandEpoch, o.kind,
      o.sequence with
  | some channel, some observed, some current, some epoch, some kind,
      some sequence =>
      if channel ∉ seen ∧ observed = current ∧ 0 ≤ epoch ∧
          o.operationIsIdleOutputQuery ∧
          (kind = "output_on" ∨ kind = "invalid_readback") ∧ 0 < sequence then
        some (channel, kind)
      else none
  | _, _, _, _, _, _ => none

/-- The loop of `_current_unmanaged_output_hazard`. -/
def scanObservations (generation : Option Int) (active : Finset SmuChannel) :
    List (Option OutputObservation) → List SmuChannel →
      Option (Option SmuChannel × String)
  | [], _ => none
  | none :: _, _ =>
      some (none,
        "reviewed source exposed malformed unsafe-output observation provenance")
  | some o :: rest, seen =>
      match o.accepted generation seen with
      | none =>
          some (none,
            "reviewed source exposed stale or malformed unsafe-output observation provenance")
      | some (channel, kind) =>
          if channel ∉ active then
            some (some channel,
              "positively observed unmanaged " ++ kind ++ " on " ++ channel.text)
          else scanObservations generation active rest (channel :: seen)

/-- A list of channel names without a bad element or a duplicate. -/
def exactChannels (names : List (Option SmuChannel)) :
    Option (Finset SmuChannel) :=
  if names.all Option.isSome ∧ names.Nodup then
    some (names.filterMap id).toFinset
  else none

namespace State

def currentUnmanagedOutputHazard (s : State) :
    Except Exc (Option (Option SmuChannel × String)) :=
  match s.env.driver with
  | none => .ok none
  | some driver =>
      match driver.unsafeOutputObservations with
      | none => .ok none
      | some (.error e) => .error e
      | some (.ok none) =>
          .ok (some (none,
            "reviewed source exposed malformed unsafe-output observations"))
      | some (.ok (some observations)) =>
          .ok (scanObservations driver.sourceConnectionGeneration
            s.control.activeSources observations [])

/-- `_exact_driver_active_source_cut`: no cut, a malformed one, or the set of
active channels. -/
def exactDriverActiveSourceCut (s : State) :
    Except Exc (Option (Option (Finset SmuChannel))) :=
  match s.env.driver with
  | none => .ok none
  | some driver =>
      match driver.activeChannels with
      | none => .ok none
      | some (.error e) => .error e
      | some (.ok none) => .ok (some none)
      | some (.ok (some names)) => .ok (some (exactChannels names))

/-- The cut of the driver against the tracked sources. -/
def activeCutConflict (s : State) :
    Option (Option (Finset SmuChannel)) → Option (Option SmuChannel × String)
  | none => none
  | some none =>
      some (none, "reviewed source exposed a malformed active-channel cut")
  | some (some active) =>
      match sortedChannels (active \ s.control.activeSources) with
      | channel :: _ =>
          some (some channel,
            "reviewed source exact active cut contains unmanaged " ++
              channel.text)
      | [] =>
          match sortedChannels (s.control.activeSources \ active) with
          | channel :: _ =>
              some (some channel,
                "SafetyManager ownership is absent from the reviewed source exact cut for " ++
                  channel.text)
          | [] => none

def hazardousSuccessConflict (s : State) :
    Option (Option SmuChannel × String) :=
  match s.currentUnmanagedOutputHazard with
  | .error e =>
      some (none,
        "reviewed source unsafe-output observation inspection failed: " ++
          e.text)
  | .ok (some hazard) => some hazard
  | .ok none =>
      match s.exactDriverActiveSourceCut with
      | .error e =>
          some (none,
            "reviewed source active-channel cut inspection failed: " ++ e.text)
      | .ok cut => s.activeCutConflict cut

/-- Why the state and the children revoke a Start. -/
def authorityRevocations (s : State) : List String :=
  (if s.control.state = .faultLatched then
      ["fault latched: " ++ s.fault.reason]
    else if s.control.state ≠ .running then
      ["state changed to " ++ s.control.state.value]
    else []) ++
  (if s.safetyChildrenAuthoritative then []
    else ["safety child authority changed"]) ++
  (if s.lifecycle.pendingChildFaultSettlements.isEmpty then []
    else ["safety child fault settlement is still in progress"])

/-- Why abort intents revoke a Start. -/
def abortRevocations (generation fullGeneration : Nat) (s : State) :
    List String :=
  if s.control.abortGeneration ≠ generation then
    [if s.control.fullAbortGeneration ≠ fullGeneration then
        "global abort generation changed"
      else "channel abort generation changed"]
  else []

/-- Why the ownership of the sources revokes a Start. -/
def ownershipRevocations (expected : Finset SmuChannel)
    (cut : Option (Option (Finset SmuChannel)))
    (hazard : Option (Option SmuChannel × String)) (s : State) : List String :=
  (if s.control.activeSources = expected then []
    else ["SafetyManager active-source ownership changed"]) ++
  (if cut.isNone ∨ cut = some (some expected) then []
    else
      ["reviewed source active-channel cut disagrees with SafetyManager ownership"]) ++
  (hazard.map Prod.snd).toList

/-- `_post_publication_run_revocation`, after the terminal children were
observed. -/
def postPublicationRunRevocation (channel : SmuChannel)
    (expected : Finset SmuChannel) (generation fullGeneration : Nat)
    (s : State) : Except Exc (Option RunAuthorityRevocation) :=
  match s.exactDriverActiveSourceCut, s.currentUnmanagedOutputHazard with
  | .error e, _ => .error e
  | .ok _, .error e => .error e
  | .ok cut, .ok hazard =>
      let authority := s.authorityRevocations
      let abort := s.abortRevocations generation fullGeneration
      let ownership := s.ownershipRevocations expected cut hazard
      let reasons := authority ++ abort ++ ownership
      if reasons.isEmpty then .ok none
      else
        .ok (some {
          reason :=
            "RUN authority revoked after publication for " ++ channel.text ++
              ": " ++ "; ".intercalate reasons
          fullShutdown :=
            !authority.isEmpty || !ownership.isEmpty ||
              (!abort.isEmpty &&
                s.control.fullAbortGeneration != fullGeneration)
          -- Every revocation but an abort intent is fault-worthy.
          faultRequired :=
            (!authority.isEmpty || !ownership.isEmpty) &&
              s.control.state != .faultLatched })

end State

end Safety
end CryoDaq
