import CryoDaq.Safety.Snapshot

/-!
# Transitions, abort intents and the fault latch

The synchronous functions that change the FSM, the latch and the tracked
sources.  Each is stated on `Control` first, where the journal is kept, and
then on `State`, where `_refresh_operator_safety_snapshot` follows it.

**Stop owners.**  An operation that announces its abort intent before it can
settle it is a stop owner until it ends.  `Control.giveUp` writes down the
moments at which sources are given up without a transition.
-/

namespace CryoDaq
namespace Safety

namespace Control

def note (n : Note) (c : Control) : Control :=
  { c with journal := n :: c.journal }

def registerAbortIntent (full : Bool) (c : Control) : Control :=
  { c with
    abortGeneration := c.abortGeneration + 1
    fullAbortGeneration :=
      if full then c.abortGeneration + 1 else c.fullAbortGeneration
    journal := .abortIntent full :: c.journal }

/-- `_transition`, its effect on the FSM. -/
def transition (after : SafetyState) (reason : TransitionReason)
    (c : Control) : Control :=
  { c with
    state := after
    journal := .transition c.state after reason :: c.journal }

/-- `_begin_fault_latch` on a manager that is latched already: only the origin
is kept. -/
def joinLatch (source : FaultSource) (c : Control) : Control :=
  { c with
    faultSources := insert source c.faultSources
    journal := .faultRequested source :: c.journal }

/-- `_begin_fault_latch` on a manager that is not latched. -/
def enterLatch (reason : String) (source : FaultSource) (c : Control) :
    Control :=
  let c' := (c.note (.faultRequested source)).registerAbortIntent true
  ({ c' with
      latchedFaultAbortGeneration := some c'.abortGeneration
      pendingInterlockStartWarning := none
      faultSources := {source} }).transition .faultLatched
        (.faultLatched reason)

def beginFaultLatch (reason : String) (source : FaultSource) (c : Control) :
    Control :=
  if c.state = .faultLatched then c.joinLatch source
  else c.enterLatch reason source

def giveUp (site : GiveUpSite) (c : Control) : Control :=
  c.note (.gaveUp site c.state c.activeSources c.stopOwners)

/-- Track only `keep` from now on. -/
def keepSources (site : GiveUpSite) (keep : Finset SmuChannel)
    (c : Control) : Control :=
  ({ c with activeSources := keep }).giveUp site

def announce (t : Nat) (c : Control) : Control :=
  { c with stopOwners := insert t c.stopOwners }

def settleStop (t : Nat) (c : Control) : Control :=
  { c with stopOwners := c.stopOwners.erase t }

/-- Cease to be a stop owner without having made a transition. -/
def leaveStop (t : Nat) (site : GiveUpSite) (c : Control) : Control :=
  if t ∈ c.stopOwners then (c.settleStop t).giveUp site else c

/-- Drop the sources just turned off, and owe the FSM its transition. -/
def dropStopped (t : Nat) (channels : Finset SmuChannel) (c : Control) :
    Control :=
  { c.announce t with activeSources := c.activeSources \ channels }

/-- A stop that does not hold `_cmd_lock` owes nothing while it is suspended:
whoever takes the lock meanwhile cannot count on it. -/
def parkStop (t : Nat) (c : Control) : Control :=
  if c.cmdLock = some t then c else c.leaveStop t .managerStop

/-- Track only `keep` and make the transition that follows it. -/
def keepAndMove (keep : Finset SmuChannel) (after : SafetyState)
    (reason : TransitionReason) (c : Control) : Control :=
  ({ c with activeSources := keep }).transition after reason

/-- Take `_cmd_lock`. -/
def takeCmdLock (t : Nat) (c : Control) : Control :=
  { c with cmdLock := some t }

/-- Release `_cmd_lock`. -/
def releaseCmdLock (c : Control) : Control :=
  { c with cmdLock := none }

/-- Take `_run_request_lock`. -/
def takeRunRequestLock (t : Nat) (c : Control) : Control :=
  { c with runRequestLock := some t }

/-- Release `_run_request_lock`. -/
def releaseRunRequestLock (c : Control) : Control :=
  { c with runRequestLock := none }

end Control

namespace State

def onControl (f : Control → Control) (s : State) : State :=
  { s with control := f s.control }

def note (n : Note) (s : State) : State :=
  s.onControl (Control.note n)

def transition (after : SafetyState) (reason : TransitionReason)
    (s : State) : State × Option Exc :=
  (s.onControl (Control.transition after reason)
    ).refreshOperatorSafetySnapshot

def beginFaultLatch (reason : String) (source : FaultSource) (s : State) :
    State × Option Exc :=
  if s.control.state = .faultLatched then
    (s.onControl (Control.beginFaultLatch reason source), none)
  else
    ({ s with
        control := s.control.beginFaultLatch reason source
        fault :=
          { s.fault with
            revision := s.fault.revision + 1
            reason := reason
            time := s.env.now } }).refreshOperatorSafetySnapshot

/-- Track only `keep` from now on. -/
def keepSources (site : GiveUpSite) (keep : Finset SmuChannel) (s : State) :
    State :=
  s.onControl (Control.keepSources site keep)

/-- Track only `keep` and make the transition that follows it. -/
def keepAndMove (keep : Finset SmuChannel) (after : SafetyState)
    (reason : TransitionReason) (s : State) : State × Option Exc :=
  (s.onControl (Control.keepAndMove keep after reason)
    ).refreshOperatorSafetySnapshot

/-- `_resolve_channels`, of an argument that was normalised. -/
def resolveChannels : Option SmuChannel → Finset SmuChannel
  | some channel => {channel}
  | none => {.smua, .smub}

end State

end Safety
end CryoDaq
