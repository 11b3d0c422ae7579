import CryoDaq.Python.Json
import CryoDaq.Python.Number

/-!
# Periodic records

The values of the periodic PNG contract: the slot, the artifact, the receipt of
a delivery, the enabled configuration and the payload of the durable state.

**Times.**  The state machine compares timestamps and never computes with them,
so a finite timestamp is counted in ticks; a negative one is refused.

**Library.**  The digest, the search for secrets in a text and the length of the
JSON text of a payload are parameters.
-/

namespace CryoDaq
namespace Periodic

structure PeriodicContractError where
  text : String
deriving DecidableEq

inductive PeriodicError
  | contract (e : PeriodicContractError)
  | typeError
  | assertionError
  | overflowError
deriving DecidableEq

/-- A computation that raises nothing but contract errors. -/
abbrev Checked (α : Type) : Type := Except PeriodicContractError α

/-- A checked computation among computations that raise other errors. -/
def raised {α : Type} (x : Checked α) : Except PeriodicError α := x.mapError .contract

def isHex (c : Char) : Bool := c.isDigit || ('a' ≤ c && c ≤ 'f')

def isCodeChar (c : Char) : Bool :=
  c.isDigit || c.isLower || c = '_' || c = '.' || c = '-'

/-- `_HASH` -/
def hashText (s : String) : Bool :=
  s.toList.take 7 = "sha256:".toList && (s.toList.drop 7).length = 64 &&
    (s.toList.drop 7).all isHex

/-- `_TOKEN` -/
def tokenText (s : String) : Bool := s.toList.length = 32 && s.toList.all isHex

/-- A lowercase letter and at most `more` further characters. -/
def codeShape (more : ℕ) (s : String) : Bool :=
  s.toList.head?.any Char.isLower && s.toList.tail.length ≤ more && s.toList.tail.all isCodeChar

/-- `_CODE` -/
def codeText (s : String) : Bool := codeShape 127 s

/-- `_HEALTH` -/
def healthText (s : String) : Bool := codeShape 63 s

/-- The number that the characters `start`, …, `stop - 1` spell. -/
def numberAt (cs : List Char) (start stop : ℕ) : ℕ :=
  Nat.ofDigitChars 10 ((cs.take stop).drop start) 0

/-- `_DISPLAY_TIME` -/
def displayShape (cs : List Char) : Bool :=
  cs.length = 16 &&
    ([0, 1, 3, 4, 6, 7, 8, 9, 11, 12, 14, 15].all fun i => (cs.getD i ' ').isDigit) &&
    cs.getD 2 ' ' = '.' && cs.getD 5 ' ' = '.' && cs.getD 10 '.' = ' ' && cs.getD 13 ' ' = ':'

def isLeap (year : ℕ) : Bool := year % 4 = 0 && (year % 100 ≠ 0 || year % 400 = 0)

def daysInMonth (year month : ℕ) : ℕ :=
  if month = 2 then (if isLeap year then 29 else 28)
  else if month ∈ [4, 6, 9, 11] then 30 else 31

/-- The arguments that `datetime` accepts. -/
def calendarTime (cs : List Char) : Bool :=
  let year := numberAt cs 6 10
  let month := numberAt cs 3 5
  let day := numberAt cs 0 2
  1 ≤ year && 1 ≤ month && month ≤ 12 && 1 ≤ day && day ≤ daysInMonth year month &&
    numberAt cs 11 13 ≤ 23 && numberAt cs 14 16 ≤ 59

def maxReceiptInteger : ℕ := 9223372036854775807

/-- `[1-9][0-9]{0,18}` with a value in range -/
def receiptNumber (cs : List Char) : Bool :=
  cs.head?.any (fun c => c.isDigit && c ≠ '0') && cs.length ≤ 19 && cs.all Char.isDigit &&
    Nat.ofDigitChars 10 cs 0 ≤ maxReceiptInteger

inductive ReceiptKind
  | telegram
  | soakLocal
deriving DecidableEq

/-- The two numbers of `_SOAK_RECEIPT`. -/
def soakReceipt (cs : List Char) : Bool :=
  let first := cs.tail.takeWhile Char.isDigit
  let rest := cs.tail.dropWhile Char.isDigit
  cs.head? = some 'g' && receiptNumber first && rest.take 2 = [':', 's'] &&
    receiptNumber (rest.drop 2)

/-- What `PeriodicDeliveryReceipt` checks when it is constructed. -/
def receiptConsistent (kind : ReceiptKind) (receiptId : String)
    (acknowledgementSha256 : Option String) : Bool :=
  match kind with
  | .telegram => receiptNumber receiptId.toList && acknowledgementSha256 = none
  | .soakLocal => soakReceipt receiptId.toList && acknowledgementSha256.any hashText

structure PeriodicDeliveryReceipt where
  kind : ReceiptKind
  receiptId : String
  acknowledgementSha256 : Option String
  consistent : receiptConsistent kind receiptId acknowledgementSha256 = true
deriving DecidableEq

example : receiptConsistent .telegram "9223372036854775808" none = false := by decide

/-! ## The configuration and the slot -/

/-- A Telegram destination. -/
inductive ChatId
  | number (n : ℤ)
  | text (s : String)
deriving DecidableEq

/-- `PeriodicPngConfig`, which is enabled when it is constructed. -/
structure PeriodicPngConfig where
  intervalS : ℤ
  chartWindowS : ℤ
  maxRenderAttempts : ℤ
  maxDeliveryAttempts : ℤ
  telegramChatId : ChatId
  configFingerprint : String
  fingerprinted : hashText configFingerprint = true

structure PeriodicSlot where
  slotId : String
  slotStart : ℤ
  slotEnd : ℤ
  intervalS : ℤ
deriving DecidableEq

structure PeriodicArtifact where
  path : String
  sha256 : String
  size : ℤ
  width : ℤ
  height : ℤ
  mime : String
deriving DecidableEq

inductive PeriodicStatus
  | pending
  | rendering
  | ready
  | delivering
  | succeeded
  | failed
  | deliveryUnknown
deriving DecidableEq

def PeriodicStatus.text : PeriodicStatus → String
  | .pending => "PENDING"
  | .rendering => "RENDERING"
  | .ready => "READY"
  | .delivering => "DELIVERING"
  | .succeeded => "SUCCEEDED"
  | .failed => "FAILED"
  | .deliveryUnknown => "DELIVERY_UNKNOWN"

/-- `_FAILURE_PHASES` -/
inductive FailurePhase
  | render
  | delivery
  | scheduler
  | config
deriving DecidableEq

def FailurePhase.text : FailurePhase → String
  | .render => "render"
  | .delivery => "delivery"
  | .scheduler => "scheduler"
  | .config => "config"

def FailurePhase.ofText (s : String) : Option FailurePhase :=
  [render, delivery, scheduler, config].find? fun p => p.text = s

/-- `_CERTAINTIES` -/
inductive Certainty
  | notApplicable
  | notSent
  | rejected
  | unknown
deriving DecidableEq

def Certainty.text : Certainty → String
  | .notApplicable => "not_applicable"
  | .notSent => "not_sent"
  | .rejected => "rejected"
  | .unknown => "unknown"

def Certainty.ofText (s : String) : Option Certainty :=
  [notApplicable, notSent, rejected, unknown].find? fun c => c.text = s

structure Active where
  slotId : String
  slotStart : ℤ
  slotEnd : ℤ
  intervalS : ℤ
  windowStart : ℤ
  windowEnd : ℤ
  displayTime : String
  configFingerprint : String
  destinationFingerprint : String
  generationId : String
  ownerToken : String
  status : PeriodicStatus
  renderAttemptCount : ℤ
  deliveryAttemptCount : ℤ
  maxRenderAttempts : ℤ
  maxDeliveryAttempts : ℤ
  notBefore : ℤ
  artifact : Option PeriodicArtifact
  caption : String
  receipt : Option PeriodicDeliveryReceipt
  failurePhase : Option FailurePhase
  retryable : Option Bool
  certainty : Option Certainty
  errorCode : Option String
  errorText : String
  createdAt : ℤ
  updatedAt : ℤ
  finishedAt : Option ℤ
deriving DecidableEq

structure Terminal where
  slotId : String
  slotEnd : ℤ
  generationId : String
  status : PeriodicStatus
  destinationFingerprint : String
  artifactSha256 : Option String
  receipt : Option PeriodicDeliveryReceipt
  failurePhase : Option FailurePhase
  certainty : Option Certainty
  errorCode : Option String
  errorText : String
  finishedAt : ℤ
deriving DecidableEq

/-- The evidence of a delivery whose outcome is unknown. -/
structure Unresolved where
  slotId : String
  slotEnd : ℤ
  generationId : String
  destinationFingerprint : String
  artifactSha256 : String
  ambiguityAt : ℤ
  errorCode : String
  errorText : String
deriving DecidableEq

structure Health where
  status : String
  errorCode : Option String
  errorText : String
  updatedAt : ℤ
deriving DecidableEq

structure Payload where
  highWaterSlotEnd : Option ℤ
  active : Option Active
  lastTerminal : Option Terminal
  unresolvedDelivery : List Unresolved
  health : Health
  updatedAt : ℤ
deriving DecidableEq

/-- What the contract takes from outside. -/
structure Library where
  /-- `hashlib.sha256(text.encode()).hexdigest()` -/
  sha256 : String → String
  /-- `_BOT_URL.search(text) or _BOT_TOKEN_SHAPE.search(text)` -/
  sensitive : String → Bool
  /-- `len(_json_text(payload).encode("utf-8"))` -/
  encodedSize : Payload → ℕ

/-- The identity of the slot that ends at `slotEnd`. -/
def Library.slotId (L : Library) (slotEnd : ℤ) : String :=
  "sha256:" ++ L.sha256 s!"periodic-png/v1:{slotEnd}"

@[simp] theorem FailurePhase.ofText_text (p : FailurePhase) : ofText p.text = some p := by
  cases p <;> decide

theorem FailurePhase.text_of_ofText {s : String} {p : FailurePhase} (h : ofText s = some p) :
    s = p.text := by
  have hfound := List.find?_some h
  exact (of_decide_eq_true hfound).symm

theorem Certainty.text_of_ofText {s : String} {c : Certainty} (h : ofText s = some c) :
    s = c.text := by
  have hfound := List.find?_some h
  exact (of_decide_eq_true hfound).symm

end Periodic
end CryoDaq
