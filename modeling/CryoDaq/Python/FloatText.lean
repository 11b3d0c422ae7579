import Mathlib.Algebra.Ring.Nat
import Mathlib.Data.Nat.Log

/-!
# The text of a float

`reprFloat` writes a finite float as `float.__repr__` does: the shortest digits
that read back as the same float, in positional notation for exponents from
`-4` to `15` and in scientific notation elsewhere.  `readFloat` is `float(text)`
for the texts of this form.

**Search.**  For `n = 1, …, 17` digits the two neighbours of the exact value are
tried, the nearer one first.  Seventeen digits always suffice; the exact value
as an integer with an exponent stands behind them, so that reading back needs no
argument about precision.
-/

namespace CryoDaq
namespace FloatText

/-- The float nearest to `d * 10 ^ k`. -/
def ofDecimal (d : ℕ) (k : ℤ) : Float := .ofModel (.ofScientific d k)

def digits (n : ℕ) : List Char := Nat.toDigits 10 n

/-- A nonempty run of digits and the rest. -/
def readDigits (s : List Char) : List Char × List Char := s.span Char.isDigit

/-- The natural number of a run of digits. -/
def natOf (ds : List Char) : ℕ := Nat.ofDigitChars 10 ds 0

def readDecimal (ds : List Char) : Option ℕ :=
  if ds ≠ [] ∧ ds.all Char.isDigit then some (natOf ds) else none

def readSigned : List Char → Option ℤ
  | '-' :: ds => (readDecimal ds).map fun n => -(n : ℤ)
  | '+' :: ds => (readDecimal ds).map fun n => (n : ℤ)
  | ds => (readDecimal ds).map fun n => (n : ℤ)

/-- The exponent after its letter; no letter is the exponent zero. -/
def readExponent : List Char → Option ℤ
  | [] => some 0
  | c :: s => if c = 'e' ∨ c = 'E' then readSigned s else none

/-- A magnitude: digits, an optional fraction, an optional exponent. -/
def readMagnitude (s : List Char) : Option Float :=
  let whole := readDigits s
  if whole.1 = [] then none
  else
    match whole.2 with
    | '.' :: rest =>
        let fraction := readDigits rest
        if fraction.1 = [] then none
        else (readExponent fraction.2).map fun e =>
          ofDecimal (natOf (whole.1 ++ fraction.1)) (e - fraction.1.length)
    | rest => (readExponent rest).map fun e => ofDecimal (natOf whole.1) e

/-- `float(text)` -/
def readFloat : List Char → Option Float
  | '-' :: s => (readMagnitude s).map Float.neg
  | s => readMagnitude s

/-- Digits without trailing zeros. -/
def strip : ℕ → ℕ → ℤ → ℕ × ℤ
  | 0, d, k => (d, k)
  | fuel + 1, d, k => if d ≠ 0 ∧ d % 10 = 0 then strip fuel (d / 10) (k + 1) else (d, k)

/-- An exponent with its sign and at least two digits. -/
def exponentText (e : ℤ) : List Char :=
  let ds := digits e.natAbs
  let ds := if ds.length < 2 then '0' :: ds else ds
  (if e < 0 then '-' else '+') :: ds

/-- `d * 10 ^ k` as `repr` lays it out. -/
def layout (d : ℕ) (k : ℤ) : List Char :=
  let ds := digits d
  let point := ds.length + k
  if -4 < point ∧ point ≤ 16 then
    if point ≤ 0 then '0' :: '.' :: (List.replicate (-point).toNat '0' ++ ds)
    else if (ds.length : ℤ) ≤ point then
      ds ++ List.replicate (point - ds.length).toNat '0' ++ ['.', '0']
    else ds.take point.toNat ++ '.' :: ds.drop point.toNat
  else
    match ds with
    | [c] => c :: 'e' :: exponentText (point - 1)
    | c :: rest => c :: '.' :: rest ++ 'e' :: exponentText (point - 1)
    | [] => []

/-- The decimal exponent of a positive fraction. -/
def decimalExponent (num den : ℕ) : ℤ :=
  if den ≤ num then (Nat.log 10 (num / den) : ℤ)
  else -(Nat.clog 10 ((den + num - 1) / num) : ℤ)

/-- The neighbours with `n` digits, the nearer one first. -/
def neighbours (num den n : ℕ) : List (ℕ × ℤ) :=
  let k := decimalExponent num den - (n - 1)
  let num := num * 10 ^ (-k).toNat
  let den := den * 10 ^ k.toNat
  let q := num / den
  let r := num % den
  if r = 0 then [strip 400 q k]
  else if 2 * r < den ∨ (2 * r = den ∧ q % 2 = 0) then
    [strip 400 q k, strip 400 (q + 1) k]
  else [strip 400 (q + 1) k, strip 400 q k]

/-- The exact value of `m * 2 ^ e` as an integer with a decimal exponent. -/
def exactText (m : ℕ) (e : ℤ) : List Char :=
  if 0 ≤ e then digits (m * 2 ^ e.toNat) ++ ['e', '0']
  else digits (m * 5 ^ (-e).toNat) ++ 'e' :: '-' :: digits (-e).toNat

/-- The text of `m * 2 ^ e`: the first candidate that reads back. -/
def magnitudeText (m : ℕ) (e : ℤ) (x : Float) : List Char :=
  let num := m * 2 ^ e.toNat
  let den := 2 ^ (-e).toNat
  let candidates := (List.range 17).flatMap fun i => neighbours num den (i + 1)
  let texts := candidates.map fun c => layout c.1 c.2
  (texts.find? fun t => readMagnitude t = some x).getD (exactText m e)

/-- `float.__repr__` -/
def reprFloat (x : Float) : List Char :=
  match x.toModel.unpack with
  | .notANumber => ['n', 'a', 'n']
  | .infinity .positive => ['i', 'n', 'f']
  | .infinity .negative => ['-', 'i', 'n', 'f']
  | .zero .positive => ['0', '.', '0']
  | .zero .negative => ['-', '0', '.', '0']
  | .finite .positive m e _ => magnitudeText m e x
  | .finite .negative m e _ => '-' :: magnitudeText m e x.neg

end FloatText
end CryoDaq
