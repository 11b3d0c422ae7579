import CryoDaq.Alarms.Threshold
import CryoDaq.Python.Tristate

/-!
# The evaluator of composite alarms

A composite alarm joins conditions by `AND` or `OR`.  A condition answers
`True`, `False` or `None`: a channel without a usable value and a rate that is
not finite are unknown.

**Completions.**  `Completes i j` says that `j` is what could really hold when
`i` was read: every channel that is there has a usable value, every rate is
finite, and what `i` knew is unchanged.  What `i` decides holds in `j`.
-/

namespace CryoDaq
namespace Alarms

/-- What the evaluator of a composite alarm reads. -/
structure Inputs where
  state : String → Option ChannelState
  rate : String → Scalar → Except PyError (Option Float)
  elapsed : Option Float
  now : Float

/-- A condition of a composite alarm; an absent key is `none`. -/
structure Condition where
  check : String := "above"
  channel : Option String := none
  channels : Option (List String) := none
  threshold : Option Scalar := none
  rateWindowS : Option Scalar := none
  rateThreshold : Option Scalar := none

structure CompositeConfig where
  operator : String := "AND"
  conditions : List Condition := []
  level : String := "WARNING"
  message : Option String := none

def resolveChannels (cond : Condition) : List String :=
  match cond.channels, cond.channel with
  | some channels, _ => channels
  | none, some channel => if channel ≠ "phase_elapsed_s" then [channel] else []
  | none, none => []

section

variable (i : Inputs)

def against (test : Number → Number → Bool) (value : Number) (threshold : Option Scalar) :
    Except PyError (Option Bool) := do
  let threshold ← (← required threshold).asNumber
  .ok (some (test value threshold))

/-- The loop of `any_below` and `any_above`; `unknown` remembers a channel
without a usable value. -/
def anyChannel (test : Number → Number → Bool) (threshold : Scalar) (unknown : Bool) :
    List String → Except PyError (Option Bool)
  | [] => .ok (if unknown then none else some false)
  | channel :: rest =>
      match i.state channel with
      | none => anyChannel test threshold unknown rest
      | some state =>
          if !state.isUsable then anyChannel test threshold true rest
          else
            match threshold.asNumber with
            | .error e => .error e
            | .ok bound =>
                if test (.float state.value) bound then .ok (some true)
                else anyChannel test threshold unknown rest

/-- The conditions `any_below` and `any_above`. -/
def evalAny (test : Number → Number → Bool) (cond : Condition) :
    Except PyError (Option Bool) := do
  let threshold ← required cond.threshold
  anyChannel i test threshold false (resolveChannels cond)

/-- The conditions `above` and `below` on a channel. -/
def evalValue (test : Number → Number → Bool) (cond : Condition) (channel : String) :
    Except PyError (Option Bool) :=
  match i.state channel with
  | none => .ok (some false)
  | some state =>
      if !state.isUsable then .ok none
      else against test (.float state.value) cond.threshold

/-- The condition `above` on the time since the phase began. -/
def evalElapsed (cond : Condition) : Except PyError (Option Bool) :=
  match i.elapsed with
  | none => .ok none
  | some elapsed =>
      if elapsed.isFinite then against Number.gt (.float elapsed) cond.threshold
      else .ok none

/-- The conditions on a rate; `test` compares a finite rate. -/
def evalRate (test : Float → Except PyError (Option Bool)) (cond : Condition)
    (channel : String) : Except PyError (Option Bool) :=
  if (i.state channel).any fun state => !state.isUsable then .ok none
  else
    match i.rate channel (cond.rateWindowS.getD (.number (.float 120.0))) with
    | .error e => .error e
    | .ok none => .ok none
    | .ok (some rate) => if rate.isFinite then test rate else .ok none

/-- `if not ch: return False` -/
def onChannel (cond : Condition) (eval : String → Except PyError (Option Bool)) :
    Except PyError (Option Bool) :=
  match cond.channel with
  | none => .ok (some false)
  | some channel => if channel = "" then .ok (some false) else eval channel

def evalCondition (cond : Condition) : Except PyError (Option Bool) :=
  if cond.check = "any_below" then evalAny i Number.lt cond
  else if cond.check = "any_above" then evalAny i Number.gt cond
  else if cond.check = "above" then
    onChannel cond fun channel =>
      if channel = "phase_elapsed_s" then evalElapsed i cond
      else evalValue i Number.gt cond channel
  else if cond.check = "below" then
    onChannel cond fun channel => evalValue i Number.lt cond channel
  else if cond.check = "rate_above" then
    onChannel cond fun channel =>
      evalRate i (fun rate => against Number.gt (.float rate) cond.threshold) cond channel
  else if cond.check = "rate_below" then
    onChannel cond fun channel =>
      evalRate i (fun rate => against Number.lt (.float rate) cond.threshold) cond channel
  else if cond.check = "rate_near_zero" then
    onChannel cond fun channel =>
      evalRate i (fun rate => against Number.lt (.float rate.abs)
        (some (cond.rateThreshold.getD (.number (.float 0.1))))) cond channel
  else .error .valueError

/-- The conditions in their order; the first one that raises ends it. -/
def evalConditions : List Condition → Except PyError (List (Option Bool))
  | [] => .ok []
  | cond :: rest => do
      let result ← evalCondition i cond
      let results ← evalConditions rest
      .ok (result :: results)

def andConditions (results : List (Option Bool)) : Option Bool := decidedBy false results

def orConditions (results : List (Option Bool)) : Option Bool := decidedBy true results

/-- `fired`: the conditions joined by the operator. -/
def fired (cfg : CompositeConfig) : Except PyError (Option Bool) := do
  let results ← evalConditions i cfg.conditions
  if cfg.operator = "AND" then .ok (andConditions results)
  else if cfg.operator = "OR" then .ok (orConditions results)
  else .error .valueError

/-- The usable values of the channels, each once, in the order they come. -/
def collectValues (values : Dict String Float) : List String → Dict String Float
  | [] => values
  | channel :: rest =>
      match i.state channel with
      | none => collectValues values rest
      | some state =>
          if state.isUsable ∧ (values.get? channel).isNone then
            collectValues (values.set channel state.value) rest
          else collectValues values rest

def compositeEvent (alarmId : String) (cfg : CompositeConfig) : Event :=
  let values := collectValues i Dict.empty (cfg.conditions.flatMap resolveChannels)
  { alarmId := alarmId
    level := cfg.level
    message := cfg.message.getD ("Alarm " ++ alarmId)
    triggeredAt := i.now
    channels := values.keys
    values := values }

def evalComposite (alarmId : String) (cfg : CompositeConfig) (isActive : Bool) :
    Except PyError (Option Event) :=
  match fired i cfg with
  | .error e => .error e
  | .ok (some true) => .ok (some (compositeEvent i alarmId cfg))
  | .ok none => if isActive then .ok (some (compositeEvent i alarmId cfg)) else .ok none
  | .ok (some false) => .ok none

end

end Alarms
end CryoDaq
