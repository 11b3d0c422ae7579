import CryoDaq.Python.FloatText
import Mathlib.Data.List.Sort
import Mathlib.Data.String.Basic

/-!
# JSON as Python writes and reads it

`dumps` is `json.dumps` with `sort_keys=True`, `separators=(",", ":")` and
`allow_nan=False`; its first argument is `ensure_ascii`.  `loads` is
`json.loads`, with the hooks that it is given.  Texts are Unicode texts: an
escape that stands for half of a surrogate pair alone is refused.
-/

namespace CryoDaq

/-- A JSON value; the fields of an object keep their order. -/
inductive Json
  | null
  | bool (b : Bool)
  | int (n : ℤ)
  | float (x : Float)
  | str (s : String)
  | arr (items : List Json)
  | obj (fields : List (String × Json))

namespace Json

open FloatText

def hexDigit (n : ℕ) : Char := Nat.digitChar n

/-- `\uXXXX` -/
def unicodeEscape (n : ℕ) : List Char :=
  ['\\', 'u', hexDigit (n / 4096 % 16), hexDigit (n / 256 % 16),
    hexDigit (n / 16 % 16), hexDigit (n % 16)]

/-- One character inside a string. -/
def escapeChar (ascii : Bool) (c : Char) : List Char :=
  if c = '"' then ['\\', '"']
  else if c = '\\' then ['\\', '\\']
  else if c = '\n' then ['\\', 'n']
  else if c = '\r' then ['\\', 'r']
  else if c = '\t' then ['\\', 't']
  else if c = '\x0c' then ['\\', 'f']
  else if c = '\x08' then ['\\', 'b']
  else if c.toNat < 32 then unicodeEscape c.toNat
  else if ascii ∧ 126 < c.toNat then
    if c.toNat < 65536 then unicodeEscape c.toNat
    else
      unicodeEscape (55296 + (c.toNat - 65536) / 1024) ++
        unicodeEscape (56320 + (c.toNat - 65536) % 1024)
  else [c]

def stringText (ascii : Bool) (s : String) : List Char :=
  '"' :: s.toList.flatMap (escapeChar ascii) ++ ['"']

def commas : List (List Char) → List Char
  | [] => []
  | [t] => t
  | t :: rest => t ++ ',' :: commas rest

def fieldText (ascii : Bool) (p : String × List Char) : List Char :=
  stringText ascii p.1 ++ ':' :: p.2

def sortFields {α : Type} (fields : List (String × α)) : List (String × α) :=
  fields.insertionSort fun p q => p.1 ≤ q.1

mutual
def dumps (ascii : Bool) : Json → Option (List Char)
  | null => some ['n', 'u', 'l', 'l']
  | bool true => some ['t', 'r', 'u', 'e']
  | bool false => some ['f', 'a', 'l', 's', 'e']
  | int n => some n.repr.toList
  | float x => if x.isFinite then some (reprFloat x) else none
  | str s => some (stringText ascii s)
  | arr items =>
      (dumpsItems ascii items).map fun texts => '[' :: commas texts ++ [']']
  | obj fields =>
      (dumpsFields ascii fields).map fun texts =>
        '\x7b' :: commas ((sortFields texts).map (fieldText ascii)) ++ ['\x7d']

def dumpsItems (ascii : Bool) : List Json → Option (List (List Char))
  | [] => some []
  | v :: rest =>
      (dumps ascii v).bind fun t => (dumpsItems ascii rest).map (t :: ·)

def dumpsFields (ascii : Bool) : List (String × Json) →
    Option (List (String × List Char))
  | [] => some []
  | p :: rest =>
      (dumps ascii p.2).bind fun t => (dumpsFields ascii rest).map ((p.1, t) :: ·)
end

def skipSpace (s : List Char) : List Char :=
  s.dropWhile fun c => c = ' ' || c = '\t' || c = '\n' || c = '\r'

def hexValue (c : Char) : Option ℕ :=
  if '0' ≤ c ∧ c ≤ '9' then some (c.toNat - 48)
  else if 'a' ≤ c ∧ c ≤ 'f' then some (c.toNat - 87)
  else if 'A' ≤ c ∧ c ≤ 'F' then some (c.toNat - 55)
  else none

/-- Four hexadecimal digits. -/
def readHex : List Char → Option (ℕ × List Char)
  | a :: b :: c :: d :: rest => do
      let a ← hexValue a
      let b ← hexValue b
      let c ← hexValue c
      let d ← hexValue d
      some (a * 4096 + b * 256 + c * 16 + d, rest)
  | _ => none

/-- The character of a `\u` escape, a surrogate pair included. -/
def readUnicode (s : List Char) : Option (Char × List Char) :=
  (readHex s).bind fun high =>
    if 55296 ≤ high.1 ∧ high.1 < 56320 then
      match high.2 with
      | '\\' :: 'u' :: rest => (readHex rest).bind fun low =>
          if 56320 ≤ low.1 ∧ low.1 < 57344 then
            some (Char.ofNat (65536 + (high.1 - 55296) * 1024 + (low.1 - 56320)), low.2)
          else none
      | _ => none
    else if 56320 ≤ high.1 ∧ high.1 < 57344 then none
    else some (Char.ofNat high.1, high.2)

/-- The character after a backslash. -/
def readEscape : List Char → Option (Char × List Char)
  | '"' :: s => some ('"', s)
  | '\\' :: s => some ('\\', s)
  | '/' :: s => some ('/', s)
  | 'n' :: s => some ('\n', s)
  | 'r' :: s => some ('\r', s)
  | 't' :: s => some ('\t', s)
  | 'f' :: s => some ('\x0c', s)
  | 'b' :: s => some ('\x08', s)
  | 'u' :: s => readUnicode s
  | _ => none

/-- One character of a string; `none` inside is its closing quote. -/
def readChar : List Char → Option (Option Char × List Char)
  | [] => none
  | c :: s =>
      if c = '"' then some (none, s)
      else if c = '\\' then (readEscape s).map fun p => (some p.1, p.2)
      else if c.toNat < 32 then none
      else some (some c, s)

def readString : ℕ → List Char → Option (List Char × List Char)
  | 0, _ => none
  | fuel + 1, s => (readChar s).bind fun p =>
      match p.1 with
      | none => some ([], p.2)
      | some c => (readString fuel p.2).map fun q => (c :: q.1, q.2)

def isNumberChar (c : Char) : Bool :=
  c.isDigit || c = '-' || c = '+' || c = '.' || c = 'e' || c = 'E'

/-- Whether a text starts with a zero and one more digit. -/
def leadingZero : List Char → Bool
  | '0' :: c :: _ => c.isDigit
  | _ => false

/-- Digits with an optional minus sign. -/
def readInt : List Char → Option ℤ
  | '-' :: ds => (readDecimal ds).map fun n => -(n : ℤ)
  | ds => (readDecimal ds).map fun n => (n : ℤ)

/-- `dict(pairs)`: a later pair replaces an earlier one in its place. -/
def insertField (k : String) (v : Json) : List (String × Json) → List (String × Json)
  | [] => [(k, v)]
  | p :: rest => if p.1 = k then (k, v) :: rest else p :: insertField k v rest

def ofPairs (pairs : List (String × Json)) : List (String × Json) :=
  pairs.foldl (fun fields p => insertField p.1 p.2 fields) []

/-- `object_pairs_hook`, `parse_constant` and `parse_float`; `none` where the hook raises. -/
structure Hooks where
  pairs : List (String × Json) → Option (List (String × Json))
  constant : Float → Option Json
  float : Float → Option Json

def Hooks.plain : Hooks where
  pairs := fun pairs => some (ofPairs pairs)
  constant := fun x => some (.float x)
  float := fun x => some (.float x)

/-- A number: a float when its text has a fraction or an exponent. -/
def readNumber (hooks : Hooks) (t : List Char) : Option Json :=
  if leadingZero t || leadingZero t.tail && t.head? = some '-' then none
  else if t.any fun c => c = '.' || c = 'e' || c = 'E' then
    (readFloat t).bind hooks.float
  else (readInt t).map Json.int

def words (hooks : Hooks) : List (List Char × Option Json) :=
  [(['n', 'u', 'l', 'l'], some null), (['t', 'r', 'u', 'e'], some (bool true)),
    (['f', 'a', 'l', 's', 'e'], some (bool false)),
    (['N', 'a', 'N'], hooks.constant (0.0 / 0.0)),
    (['I', 'n', 'f', 'i', 'n', 'i', 't', 'y'], hooks.constant (1.0 / 0.0)),
    (['-', 'I', 'n', 'f', 'i', 'n', 'i', 't', 'y'], hooks.constant (-1.0 / 0.0))]

/-- A word or a number at the start of a text. -/
def readScalar (hooks : Hooks) (s : List Char) : Option (Json × List Char) :=
  match (words hooks).find? fun w => w.1.isPrefixOf s with
  | some w => w.2.map fun v => (v, s.drop w.1.length)
  | none => (readNumber hooks (s.takeWhile isNumberChar)).map fun v =>
      (v, s.dropWhile isNumberChar)

mutual
def readValue (hooks : Hooks) : ℕ → List Char → Option (Json × List Char)
  | 0, _ => none
  | fuel + 1, s =>
      match s with
      | '"' :: r => (readString (r.length + 1) r).map fun p => (str (String.ofList p.1), p.2)
      | '[' :: r =>
          match skipSpace r with
          | ']' :: r => some (arr [], r)
          | r => (readItems hooks fuel r).map fun p => (arr p.1, p.2)
      | '\x7b' :: r =>
          match skipSpace r with
          | '\x7d' :: r => (hooks.pairs []).map fun fields => (obj fields, r)
          | r => (readFields hooks fuel r).bind fun p =>
              (hooks.pairs p.1).map fun fields => (obj fields, p.2)
      | s => readScalar hooks s

def readItems (hooks : Hooks) : ℕ → List Char → Option (List Json × List Char)
  | 0, _ => none
  | fuel + 1, s => (readValue hooks fuel s).bind fun p =>
      match skipSpace p.2 with
      | ',' :: r => (readItems hooks fuel (skipSpace r)).map fun q => (p.1 :: q.1, q.2)
      | ']' :: r => some ([p.1], r)
      | _ => none

def readFields (hooks : Hooks) : ℕ → List Char → Option (List (String × Json) × List Char)
  | 0, _ => none
  | fuel + 1, s =>
      match s with
      | '"' :: r => (readString (r.length + 1) r).bind fun key =>
          match skipSpace key.2 with
          | ':' :: r => (readValue hooks fuel (skipSpace r)).bind fun p =>
              match skipSpace p.2 with
              | ',' :: r => (readFields hooks fuel (skipSpace r)).map fun q =>
                  ((String.ofList key.1, p.1) :: q.1, q.2)
              | '\x7d' :: r => some ([(String.ofList key.1, p.1)], r)
              | _ => none
          | _ => none
      | _ => none
end

def loads (hooks : Hooks) (s : List Char) : Option Json :=
  (readValue hooks (2 * s.length + 1) (skipSpace s)).bind fun p =>
    if skipSpace p.2 = [] then some p.1 else none

end Json
end CryoDaq
