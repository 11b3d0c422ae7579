import CryoDaq.Alarms.Composite
import CryoDaq.Python.Raising

/-!
# Unknown inputs of a composite alarm

`Completes i j` says that `j` is what could really hold when `i` was read:
every channel that is there has a usable value, every rate is finite, and what
`i` knew is unchanged.

**Decisions.**  What a condition answers on `i` it answers on every completion
that it can be evaluated on, so an alarm neither fires nor clears because of an
unknown input.

**Errors.**  The loader asks for a number as `threshold` and nothing of
`rate_threshold` and `rate_window_s`.  A setting that is no number stays
unnoticed while its channel is unknown and raises on a completion.
-/

namespace CryoDaq
namespace Alarms

/-- `j` has a usable value and a finite rate wherever `i` had any, and agrees
with what `i` knew. -/
structure Completes (i j : Inputs) : Prop where
  absent : ∀ channel, i.state channel = none → j.state channel = none
  known : ∀ channel state, i.state channel = some state → state.isUsable = true →
    j.state channel = some state
  usable : ∀ channel state, i.state channel = some state →
    ∃ usable, j.state channel = some usable ∧ usable.isUsable = true
  knownRate : ∀ channel window rate, i.rate channel window = .ok (some rate) →
    rate.isFinite = true → j.rate channel window = .ok (some rate)
  finiteRate : ∀ channel window rate, i.rate channel window = .ok rate →
    ∃ finite, j.rate channel window = .ok (some finite) ∧ finite.isFinite = true
  elapsed : ∀ elapsed, i.elapsed = some elapsed → elapsed.isFinite = true →
    j.elapsed = some elapsed

/-- Where both evaluations return, the second answers what the first answers. -/
def Answers (x y : Except PyError (Option Bool)) : Prop :=
  ∀ a b, x = .ok a → y = .ok b → Refines a b

theorem Answers.self (x : Except PyError (Option Bool)) : Answers x x := by
  intro a b ha hb
  rw [ha] at hb
  cases hb
  exact fun _ h => h

theorem Answers.unknown (y : Except PyError (Option Bool)) : Answers (.ok none) y := by
  intro a b ha _
  cases ha
  intro v hv
  cases hv

theorem anyChannel_unknown (i : Inputs) (test : Number → Number → Bool) (threshold : Scalar) :
    ∀ channels, anyChannel i test threshold true channels ≠ .ok (some false)
  | [] => by
      intro heq
      cases heq
  | channel :: rest => by
      intro heq
      unfold anyChannel at heq
      split at heq
      · exact anyChannel_unknown i test threshold rest heq
      · split at heq
        · exact anyChannel_unknown i test threshold rest heq
        · split at heq
          · cases heq
          · split at heq
            · cases heq
            · exact anyChannel_unknown i test threshold rest heq

section Decisions

variable {i j : Inputs} (h : Completes i j)
include h

theorem anyChannel_refines (test : Number → Number → Bool) (threshold : Scalar)
    (channels : List String) :
    ∀ unknown unknown' a b, (unknown' = true → unknown = true) →
      anyChannel i test threshold unknown channels = .ok a →
      anyChannel j test threshold unknown' channels = .ok b → Refines a b := by
  induction channels with
  | nil =>
      intro unknown unknown' a b hle ha hb v hv
      cases ha
      cases hb
      cases unknown with
      | true => cases hv
      | false =>
          cases unknown' with
          | true => cases hle rfl
          | false => exact hv
  | cons channel rest ih =>
      intro unknown unknown' a b hle ha hb
      unfold anyChannel at ha hb
      cases hi : i.state channel with
      | none =>
          rw [hi] at ha
          rw [h.absent channel hi] at hb
          exact ih unknown unknown' a b hle ha hb
      | some state =>
          rw [hi] at ha
          by_cases hs : state.isUsable = true
          · rw [h.known channel state hi hs] at hb
            simp only [hs, Bool.not_true, Bool.false_eq_true, if_false] at ha hb
            cases ht : threshold.asNumber with
            | error e =>
                rw [ht] at ha
                cases ha
            | ok bound =>
                rw [ht] at ha hb
                simp only at ha hb
                split at ha
                · rename_i hpass
                  rw [if_pos hpass] at hb
                  cases ha
                  cases hb
                  exact fun _ hv => hv
                · rename_i hpass
                  rw [if_neg hpass] at hb
                  exact ih unknown unknown' a b hle ha hb
          · -- unknown before: only a later channel can have answered, with `True`
            obtain ⟨usable, hj, hu⟩ := h.usable channel state hi
            rw [hj] at hb
            simp only [hs, hu, Bool.not_true, Bool.false_eq_true, if_false] at ha hb
            simp only [Bool.not_false, if_true] at ha
            cases ht : threshold.asNumber with
            | error e =>
                rw [ht] at hb
                cases hb
            | ok bound =>
                rw [ht] at hb
                simp only at hb
                split at hb
                · cases hb
                  intro v hv
                  cases v with
                  | true => rfl
                  | false =>
                      rw [hv] at ha
                      exact absurd ha (anyChannel_unknown i test threshold rest)
                · exact ih true unknown' a b (fun _ => rfl) ha hb

theorem evalAny_answers (test : Number → Number → Bool) (cond : Condition) :
    Answers (evalAny i test cond) (evalAny j test cond) := by
  intro a b ha hb
  unfold evalAny at ha hb
  obtain ⟨threshold, ht, ha⟩ := bind_eq_ok.mp ha
  obtain ⟨threshold', ht', hb⟩ := bind_eq_ok.mp hb
  rw [ht] at ht'
  cases ht'
  exact anyChannel_refines h test threshold _ false false a b (fun hf => hf) ha hb

theorem evalValue_answers (test : Number → Number → Bool) (cond : Condition)
    (channel : String) :
    Answers (evalValue i test cond channel) (evalValue j test cond channel) := by
  unfold evalValue
  cases hi : i.state channel with
  | none =>
      rw [h.absent channel hi]
      exact Answers.self _
  | some state =>
      by_cases hs : state.isUsable = true
      · rw [h.known channel state hi hs]
        exact Answers.self _
      · simp only [hs, Bool.not_false, if_true]
        exact Answers.unknown _

theorem evalElapsed_answers (cond : Condition) :
    Answers (evalElapsed i cond) (evalElapsed j cond) := by
  unfold evalElapsed
  cases hi : i.elapsed with
  | none => exact Answers.unknown _
  | some elapsed =>
      by_cases hf : elapsed.isFinite = true
      · rw [h.elapsed elapsed hi hf]
        exact Answers.self _
      · simp only [hf, Bool.false_eq_true, if_false]
        exact Answers.unknown _

theorem evalRate_answers (test : Float → Except PyError (Option Bool)) (cond : Condition)
    (channel : String) :
    Answers (evalRate i test cond channel) (evalRate j test cond channel) := by
  unfold evalRate
  by_cases hs : (i.state channel).any (fun state => !state.isUsable) = true
  · rw [if_pos hs]
    exact Answers.unknown _
  · have hs' : ¬ (j.state channel).any (fun state => !state.isUsable) = true := by
      cases hi : i.state channel with
      | none => simp [h.absent channel hi]
      | some state =>
          obtain ⟨usable, hj, hu⟩ := h.usable channel state hi
          simp [hj, hu]
    rw [if_neg hs, if_neg hs']
    cases hr : i.rate channel (cond.rateWindowS.getD (.number (.float 120.0))) with
    | error e =>
        intro a b ha _
        cases ha
    | ok rate =>
        cases rate with
        | none => exact Answers.unknown _
        | some rate =>
            by_cases hf : rate.isFinite = true
            · rw [h.knownRate channel _ rate hr hf]
              exact Answers.self _
            · simp only [hf, Bool.false_eq_true, if_false]
              exact Answers.unknown _

omit h in
theorem onChannel_answers {cond : Condition}
    {eval eval' : String → Except PyError (Option Bool)}
    (heval : ∀ channel, Answers (eval channel) (eval' channel)) :
    Answers (onChannel cond eval) (onChannel cond eval') := by
  unfold onChannel
  cases cond.channel with
  | none => exact Answers.self _
  | some channel =>
      by_cases hc : channel = ""
      · simp only [hc, if_true]
        exact Answers.self _
      · simp only [hc, if_false]
        exact heval channel

theorem evalCondition_answers (cond : Condition) :
    Answers (evalCondition i cond) (evalCondition j cond) := by
  unfold evalCondition
  split
  · exact evalAny_answers h _ cond
  split
  · exact evalAny_answers h _ cond
  split
  · refine onChannel_answers fun channel => ?_
    split
    · exact evalElapsed_answers h cond
    · exact evalValue_answers h _ cond channel
  split
  · exact onChannel_answers fun channel => evalValue_answers h _ cond channel
  split
  · exact onChannel_answers fun channel => evalRate_answers h _ cond channel
  split
  · exact onChannel_answers fun channel => evalRate_answers h _ cond channel
  split
  · exact onChannel_answers fun channel => evalRate_answers h _ cond channel
  · exact Answers.self _

theorem evalConditions_answers (conditions : List Condition) :
    ∀ a b, evalConditions i conditions = .ok a → evalConditions j conditions = .ok b →
      List.Forall₂ Refines a b := by
  induction conditions with
  | nil =>
      intro a b ha hb
      cases ha
      cases hb
      exact .nil
  | cons cond rest ih =>
      intro a b ha hb
      obtain ⟨x, hx, ha⟩ := bind_eq_ok.mp ha
      obtain ⟨xs, hxs, ha⟩ := bind_eq_ok.mp ha
      obtain ⟨y, hy, hb⟩ := bind_eq_ok.mp hb
      obtain ⟨ys, hys, hb⟩ := bind_eq_ok.mp hb
      cases ha
      cases hb
      exact .cons (evalCondition_answers h cond x y hx hy) (ih xs ys hxs hys)

theorem fired_answers (cfg : CompositeConfig) : Answers (fired i cfg) (fired j cfg) := by
  intro a b ha hb
  obtain ⟨xs, hxs, ha⟩ := bind_eq_ok.mp ha
  obtain ⟨ys, hys, hb⟩ := bind_eq_ok.mp hb
  have hparts := evalConditions_answers h cfg.conditions xs ys hxs hys
  by_cases hand : cfg.operator = "AND"
  · simp only [hand, if_true] at ha hb
    cases ha
    cases hb
    exact decidedBy_refines false hparts
  · by_cases hor : cfg.operator = "OR"
    · rw [if_neg hand, if_pos hor] at ha hb
      cases ha
      cases hb
      exact decidedBy_refines true hparts
    · rw [if_neg hand, if_neg hor] at ha
      cases ha

end Decisions

section Returns

def conditionChecks : List String :=
  ["any_below", "any_above", "above", "below", "rate_above", "rate_below", "rate_near_zero"]

/-- What the loader asks of a condition's check and its threshold. -/
structure Condition.Loaded (cond : Condition) : Prop where
  check : cond.check ∈ conditionChecks
  threshold : cond.check ≠ "rate_near_zero" → ∃ n, cond.threshold = some (.number n)

/-- A loaded condition whose other settings are the numbers they are used as. -/
structure Condition.Accepted (i : Inputs) (cond : Condition) : Prop extends cond.Loaded where
  rateThreshold : ∀ setting, cond.rateThreshold = some setting → ∃ n, setting = .number n
  rate : ∀ channel, ∃ rate,
    i.rate channel (cond.rateWindowS.getD (.number (.float 120.0))) = .ok rate

theorem against_returns {threshold : Option Scalar} {n : Number}
    (h : threshold = some (.number n)) (test : Number → Number → Bool) (value : Number) :
    ∃ a, against test value threshold = .ok a := by
  subst h
  exact ⟨_, rfl⟩

theorem anyChannel_returns (i : Inputs) (test : Number → Number → Bool) (n : Number)
    (channels : List String) :
    ∀ unknown, ∃ a, anyChannel i test (.number n) unknown channels = .ok a := by
  induction channels with
  | nil => exact fun unknown => ⟨_, rfl⟩
  | cons channel rest ih =>
      intro unknown
      unfold anyChannel
      split
      · exact ih unknown
      · split
        · exact ih true
        · simp only [Scalar.asNumber]
          split
          · exact ⟨_, rfl⟩
          · exact ih unknown

theorem onChannel_returns {cond : Condition}
    {eval : String → Except PyError (Option Bool)} (h : ∀ channel, ∃ a, eval channel = .ok a) :
    ∃ a, onChannel cond eval = .ok a := by
  unfold onChannel
  split
  · exact ⟨_, rfl⟩
  · split
    · exact ⟨_, rfl⟩
    · exact h _

variable {i : Inputs} {cond : Condition}

theorem evalValue_returns {n : Number} (h : cond.threshold = some (.number n))
    (test : Number → Number → Bool) (channel : String) :
    ∃ a, evalValue i test cond channel = .ok a := by
  unfold evalValue
  split
  · exact ⟨_, rfl⟩
  · split
    · exact ⟨_, rfl⟩
    · exact against_returns h _ _

theorem evalElapsed_returns {n : Number} (h : cond.threshold = some (.number n)) :
    ∃ a, evalElapsed i cond = .ok a := by
  unfold evalElapsed
  split
  · exact ⟨_, rfl⟩
  · split
    · exact against_returns h _ _
    · exact ⟨_, rfl⟩

theorem evalRate_returns {test : Float → Except PyError (Option Bool)} {channel : String}
    (hrate : ∃ rate, i.rate channel (cond.rateWindowS.getD (.number (.float 120.0))) = .ok rate)
    (htest : ∀ rate, ∃ a, test rate = .ok a) :
    ∃ a, evalRate i test cond channel = .ok a := by
  unfold evalRate
  split
  · exact ⟨_, rfl⟩
  · obtain ⟨rate, hrate⟩ := hrate
    rw [hrate]
    cases rate with
    | none => exact ⟨_, rfl⟩
    | some rate =>
        by_cases hf : rate.isFinite = true
        · simp only [hf, if_true]
          exact htest rate
        · simp only [hf, Bool.false_eq_true, if_false]
          exact ⟨_, rfl⟩

theorem Condition.Accepted.nearZero (h : cond.Accepted i) :
    ∃ n, some (cond.rateThreshold.getD (.number (.float 0.1))) = some (Scalar.number n) := by
  cases hr : cond.rateThreshold with
  | none => exact ⟨_, rfl⟩
  | some setting =>
      obtain ⟨n, hn⟩ := h.rateThreshold setting hr
      exact ⟨n, congrArg some hn⟩

theorem evalCondition_returns (h : cond.Accepted i) : ∃ a, evalCondition i cond = .ok a := by
  by_cases hz : cond.check = "rate_near_zero"
  · obtain ⟨n, hn⟩ := h.nearZero
    have heval : evalCondition i cond = onChannel cond fun channel =>
        evalRate i (fun rate => against Number.lt (.float rate.abs)
          (some (cond.rateThreshold.getD (.number (.float 0.1))))) cond channel := by
      unfold evalCondition
      rw [hz]
      rfl
    rw [heval]
    exact onChannel_returns fun channel => evalRate_returns (h.rate channel) fun rate =>
      against_returns hn _ _
  · obtain ⟨n, hn⟩ := h.threshold hz
    have hany (test : Number → Number → Bool) : ∃ a, evalAny i test cond = .ok a := by
      unfold evalAny
      rw [hn]
      exact anyChannel_returns i test n _ false
    unfold evalCondition
    split
    · exact hany _
    split
    · exact hany _
    split
    · refine onChannel_returns fun channel => ?_
      split
      · exact evalElapsed_returns hn
      · exact evalValue_returns hn _ channel
    split
    · exact onChannel_returns fun channel => evalValue_returns hn _ channel
    split
    · exact onChannel_returns fun channel => evalRate_returns (h.rate channel) fun rate =>
        against_returns hn _ _
    split
    · exact onChannel_returns fun channel => evalRate_returns (h.rate channel) fun rate =>
        against_returns hn _ _
    · have hcheck := h.check
      simp only [conditionChecks, List.mem_cons, List.not_mem_nil, or_false] at hcheck
      simp_all

theorem fired_returns {cfg : CompositeConfig} (hop : cfg.operator = "AND" ∨ cfg.operator = "OR")
    (h : ∀ cond ∈ cfg.conditions, cond.Accepted i) : ∃ a, fired i cfg = .ok a := by
  have hall : ∀ conditions : List Condition, (∀ cond ∈ conditions, cond.Accepted i) →
      ∃ results, evalConditions i conditions = .ok results := by
    intro conditions
    induction conditions with
    | nil => exact fun _ => ⟨_, rfl⟩
    | cons cond rest ih =>
        intro hall
        obtain ⟨a, ha⟩ := evalCondition_returns (hall cond List.mem_cons_self)
        obtain ⟨as, has⟩ := ih fun c hc => hall c (List.mem_cons_of_mem _ hc)
        exact ⟨a :: as, bind_eq_ok.mpr ⟨a, ha, bind_eq_ok.mpr ⟨as, has, rfl⟩⟩⟩
  obtain ⟨results, hresults⟩ := hall cfg.conditions h
  unfold fired
  rw [hresults]
  rcases hop with hop | hop
  · exact ⟨andConditions results, by rw [hop]; rfl⟩
  · exact ⟨orConditions results, by rw [hop]; rfl⟩

theorem Condition.Accepted.completed {j : Inputs} (h : cond.Accepted i) (hij : Completes i j) :
    cond.Accepted j where
  toLoaded := h.toLoaded
  rateThreshold := h.rateThreshold
  rate := fun channel => by
    obtain ⟨rate, hrate⟩ := h.rate channel
    obtain ⟨finite, hfinite, _⟩ := hij.finiteRate channel _ rate hrate
    exact ⟨some finite, hfinite⟩

end Returns

section Events

variable {i : Inputs} {alarmId : String} {cfg : CompositeConfig}

theorem evalComposite_fires {e : Event}
    (h : evalComposite i alarmId cfg false = .ok (some e)) : fired i cfg = .ok (some true) := by
  unfold evalComposite at h
  cases hf : fired i cfg with
  | error err =>
      rw [hf] at h
      cases h
  | ok a =>
      rw [hf] at h
      cases a with
      | none => cases h
      | some v =>
          cases v with
          | true => rfl
          | false => cases h

theorem evalComposite_clears (h : evalComposite i alarmId cfg true = .ok none) :
    fired i cfg = .ok (some false) := by
  unfold evalComposite at h
  cases hf : fired i cfg with
  | error err =>
      rw [hf] at h
      cases h
  | ok a =>
      rw [hf] at h
      cases a with
      | none => cases h
      | some v =>
          cases v with
          | true => cases h
          | false => rfl

theorem fired_of_evalComposite {active : Bool} {answer : Option Event}
    (h : evalComposite i alarmId cfg active = .ok answer) : ∃ a, fired i cfg = .ok a := by
  unfold evalComposite at h
  cases hf : fired i cfg with
  | error err =>
      rw [hf] at h
      cases h
  | ok a => exact ⟨a, rfl⟩

end Events

/-- **Unknown inputs never decide.**  On every completion that can be
evaluated, an alarm that fired fires and an alarm that cleared does not; where
the settings are the numbers they are used as, every completion can be. -/
theorem unknown_never_decides {i j : Inputs} (h : Completes i j) (alarmId : String)
    (cfg : CompositeConfig) :
    ((∃ e, evalComposite i alarmId cfg false = .ok (some e)) →
      ∀ active answer, evalComposite j alarmId cfg active = .ok answer →
        answer.isSome = true) ∧
    (evalComposite i alarmId cfg true = .ok none →
      ∀ active answer, evalComposite j alarmId cfg active = .ok answer → answer = none) ∧
    ((cfg.operator = "AND" ∨ cfg.operator = "OR") →
      (∀ cond ∈ cfg.conditions, cond.Accepted i) →
      ∀ active, ∃ answer, evalComposite j alarmId cfg active = .ok answer) := by
  refine ⟨?_, ?_, ?_⟩
  · rintro ⟨e, he⟩ active answer hj
    obtain ⟨b, hb⟩ := fired_of_evalComposite hj
    have htrue := fired_answers h cfg _ b (evalComposite_fires he) hb true rfl
    subst htrue
    unfold evalComposite at hj
    rw [hb] at hj
    cases hj
    rfl
  · intro hi active answer hj
    obtain ⟨b, hb⟩ := fired_of_evalComposite hj
    have hfalse := fired_answers h cfg _ b (evalComposite_clears hi) hb false rfl
    subst hfalse
    unfold evalComposite at hj
    rw [hb] at hj
    cases hj
    rfl
  · intro hop hall active
    obtain ⟨a, ha⟩ := fired_returns hop fun cond hc => (hall cond hc).completed h
    unfold evalComposite
    rw [ha]
    cases a with
    | none => cases active <;> exact ⟨_, rfl⟩
    | some v => cases v <;> exact ⟨_, rfl⟩

section Example

/-- An alarm that fires on the first condition alone. -/
def pressureOrPlateau (rateThreshold : Scalar) : CompositeConfig where
  operator := "OR"
  conditions :=
    [{ check := "above", channel := some "P", threshold := some (.number (.int 5)) },
     { check := "rate_near_zero", channel := some "T", rateThreshold := some rateThreshold }]

/-- A pressure of 7 beside a temperature that is `temperature`. -/
def plateauInputs (temperature : ChannelState) : Inputs where
  state := fun channel =>
    if channel = "P" then some { value := 7.0 }
    else if channel = "T" then some temperature
    else none
  rate := fun _ _ => .ok (some 0.0)
  elapsed := none
  now := 0.0

theorem plateau_completes :
    Completes (plateauInputs { value := 4.0, isStale := true })
      (plateauInputs { value := 4.0 }) where
  absent := by
    intro channel h
    unfold plateauInputs at h ⊢
    simp only at h ⊢
    split at h
    · cases h
    · split at h
      · cases h
      · rw [if_neg ‹_›, if_neg ‹_›]
  known := by
    intro channel state h hu
    unfold plateauInputs at h ⊢
    simp only at h ⊢
    split at h
    · rw [if_pos ‹_›]
      exact h
    · split at h
      · cases h
        cases hu
      · cases h
  usable := by
    intro channel state h
    unfold plateauInputs at h ⊢
    simp only at h ⊢
    split at h
    · exact ⟨_, if_pos ‹_›, by decide⟩
    · split at h
      · exact ⟨_, (if_neg ‹_›).trans (if_pos ‹_›), by decide⟩
      · cases h
  knownRate := fun _ _ _ h _ => h
  finiteRate := fun _ _ _ _ => ⟨0.0, rfl, by decide⟩
  elapsed := fun _ h _ => h

theorem unknown_never_decides_plateau :
    (evalComposite (plateauInputs { value := 4.0, isStale := true }) "plateau"
      (pressureOrPlateau (.number (.float 0.1))) false).toOption.join.isSome = true ∧
    ∃ answer, evalComposite (plateauInputs { value := 4.0 }) "plateau"
      (pressureOrPlateau (.number (.float 0.1))) false = .ok answer ∧ answer.isSome = true := by
  refine ⟨rfl, ?_⟩
  obtain ⟨hfires, _, hreturns⟩ := unknown_never_decides plateau_completes "plateau"
    (pressureOrPlateau (.number (.float 0.1)))
  have haccepted : ∀ cond ∈ (pressureOrPlateau (.number (.float 0.1))).conditions,
      cond.Accepted (plateauInputs { value := 4.0, isStale := true }) := by
    intro cond hc
    simp only [pressureOrPlateau, List.mem_cons, List.not_mem_nil, or_false] at hc
    rcases hc with rfl | rfl
    · exact ⟨⟨by decide, fun _ => ⟨_, rfl⟩⟩, by simp, fun _ => ⟨_, rfl⟩⟩
    · exact ⟨⟨by decide, fun hz => absurd rfl hz⟩, by simp, fun _ => ⟨_, rfl⟩⟩
  obtain ⟨answer, hanswer⟩ := hreturns (.inr rfl) haccepted false
  exact ⟨answer, hanswer, hfires ⟨_, rfl⟩ false answer hanswer⟩

/-- A completion of a loaded alarm that fired need not fire: a text as
`rate_threshold` is met only where the rate is compared. -/
theorem text_setting_unnoticed :
    ¬ ∀ (i j : Inputs) (alarmId : String) (cfg : CompositeConfig),
      (∀ cond ∈ cfg.conditions, cond.Loaded) → Completes i j →
      (∃ e, evalComposite i alarmId cfg false = .ok (some e)) →
      ∃ e, evalComposite j alarmId cfg false = .ok (some e) := by
  intro h
  have hloaded : ∀ cond ∈ (pressureOrPlateau .other).conditions, cond.Loaded := by
    intro cond hc
    simp only [pressureOrPlateau, List.mem_cons, List.not_mem_nil, or_false] at hc
    rcases hc with rfl | rfl
    · exact ⟨by decide, fun _ => ⟨_, rfl⟩⟩
    · exact ⟨by decide, fun hz => absurd rfl hz⟩
  obtain ⟨e, he⟩ := h _ _ "plateau" (pressureOrPlateau .other) hloaded plateau_completes
    ⟨_, rfl⟩
  have herror : evalComposite (plateauInputs { value := 4.0 }) "plateau"
      (pressureOrPlateau .other) false = .error .typeError := rfl
  rw [herror] at he
  cases he

end Example

end Alarms
end CryoDaq
