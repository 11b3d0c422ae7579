import CryoDaq.Acquisition.Reading
import CryoDaq.Storage.MetadataCopies

/-!
# Fingerprints of owned readings

A receipt is checked by the fingerprint of its payload: nested tuples that name
the type of every value and hold floats as their eight bytes.  Tuples are
compared with `==`, for which `True` and `1` are equal, so the types have to be
named.

**Injective.**  Two copies with equal fingerprints are the same copy
(`eq_of_fingerprint`), and so are two payloads.
-/

namespace CryoDaq
namespace Storage

open ObjectGraph
open Acquisition (ChannelStatus)

inductive Token
  | none
  | bool (b : Bool)
  | int (i : ℤ)
  | text (s : CodePoints)
  | bytes (b : List (BitVec 8))
  | tuple (items : List Token)

/-- The number a truth value is. -/
def boolInt (b : Bool) : ℤ := if b then 1 else 0

mutual
/-- `==` -/
def Token.eq : Token → Token → Bool
  | .tuple xs, .tuple ys => Token.eqAll xs ys
  | .none, .none => true
  | .bool a, .bool b => a == b
  | .bool a, .int j => decide (boolInt a = j)
  | .int i, .bool b => decide (i = boolInt b)
  | .int i, .int j => decide (i = j)
  | .text s, .text t => decide (s = t)
  | .bytes s, .bytes t => decide (s = t)
  | _, _ => false

def Token.eqAll : List Token → List Token → Bool
  | [], [] => true
  | x :: xs, y :: ys => Token.eq x y && Token.eqAll xs ys
  | _, _ => false
end

def codePoint (c : Char) : CodePoint :=
  ⟨c.toNat, by
    have hvalid : c.toNat < 0xd800 ∨ 0xdfff < c.toNat ∧ c.toNat < 0x110000 := c.valid
    omega⟩

def codePoints (s : String) : CodePoints := s.toList.map codePoint

/-- `struct.pack(">d", value)` -/
def packDouble (bits : BitVec 64) : List (BitVec 8) :=
  [bits.extractLsb' 56 8, bits.extractLsb' 48 8, bits.extractLsb' 40 8, bits.extractLsb' 32 8,
    bits.extractLsb' 24 8, bits.extractLsb' 16 8, bits.extractLsb' 8 8, bits.extractLsb' 0 8]

mutual
/-- `_frozen_value_fingerprint` -/
def fingerprint : Frozen → Token
  | .none => .tuple [.text (codePoints "none")]
  | .bool b => .tuple [.text (codePoints "bool"), .bool b]
  | .int i => .tuple [.text (codePoints "int"), .int i]
  | .float bits => .tuple [.text (codePoints "float64"), .bytes (packDouble bits)]
  | .text s => .tuple [.text (codePoints "text"), .text s]
  | .sequence .list items => .tuple [.text (codePoints "list"), .tuple (fingerprintItems items)]
  | .sequence .tuple items => .tuple [.text (codePoints "tuple"), .tuple (fingerprintItems items)]
  | .dict items => .tuple [.text (codePoints "dict"), .tuple (fingerprintFields items)]

def fingerprintItems : List Frozen → List Token
  | [] => []
  | f :: rest => fingerprint f :: fingerprintItems rest

def fingerprintFields : List (CodePoints × Frozen) → List Token
  | [] => []
  | p :: rest => .tuple [.text p.1, fingerprint p.2] :: fingerprintFields rest
end

theorem div_pow_eq_of_byte {x y k : ℕ} (hrest : x / 2 ^ (k + 8) = y / 2 ^ (k + 8))
    (hbyte : x / 2 ^ k % 2 ^ 8 = y / 2 ^ k % 2 ^ 8) : x / 2 ^ k = y / 2 ^ k := by
  rw [Nat.pow_add, ← Nat.div_div_eq_div_mul, ← Nat.div_div_eq_div_mul] at hrest
  rw [← Nat.div_add_mod (x / 2 ^ k) (2 ^ 8), ← Nat.div_add_mod (y / 2 ^ k) (2 ^ 8), hrest, hbyte]

theorem packDouble_injective {x y : BitVec 64} (h : packDouble x = packDouble y) : x = y := by
  have hbyte : ∀ k : ℕ, x.extractLsb' k 8 = y.extractLsb' k 8 →
      x.toNat / 2 ^ k % 2 ^ 8 = y.toNat / 2 ^ k % 2 ^ 8 := by
    intro k hk
    have hnat := congrArg BitVec.toNat hk
    rwa [BitVec.extractLsb'_toNat, BitVec.extractLsb'_toNat, Nat.shiftRight_eq_div_pow,
      Nat.shiftRight_eq_div_pow] at hnat
  have htop : x.toNat / 2 ^ 64 = y.toNat / 2 ^ 64 := by
    rw [Nat.div_eq_of_lt x.isLt, Nat.div_eq_of_lt y.isLt]
  simp only [packDouble, List.cons.injEq, and_true] at h
  obtain ⟨h7, h6, h5, h4, h3, h2, h1, h0⟩ := h
  have h56 := div_pow_eq_of_byte htop (hbyte 56 h7)
  have h48 := div_pow_eq_of_byte h56 (hbyte 48 h6)
  have h40 := div_pow_eq_of_byte h48 (hbyte 40 h5)
  have h32 := div_pow_eq_of_byte h40 (hbyte 32 h4)
  have h24 := div_pow_eq_of_byte h32 (hbyte 24 h3)
  have h16 := div_pow_eq_of_byte h24 (hbyte 16 h2)
  have h8 := div_pow_eq_of_byte h16 (hbyte 8 h1)
  have hall := div_pow_eq_of_byte h8 (hbyte 0 h0)
  rw [Nat.pow_zero, Nat.div_one, Nat.div_one] at hall
  exact BitVec.eq_of_toNat_eq hall

theorem codePoint_injective {c d : Char} (h : codePoint c = codePoint d) : c = d :=
  Char.ext (UInt32.toNat_inj.mp (Fin.mk.inj h))

@[simp] theorem codePoints_inj {s t : String} : codePoints s = codePoints t ↔ s = t := by
  constructor
  · intro h
    exact String.toList_injective (List.map_injective_iff.mpr (fun _ _ => codePoint_injective) h)
  · exact congrArg codePoints

theorem Frozen.induction {motive : Frozen → Prop} (none : motive .none)
    (bool : ∀ b, motive (.bool b)) (int : ∀ i, motive (.int i))
    (float : ∀ bits, motive (.float bits)) (text : ∀ s, motive (.text s))
    (sequence : ∀ kind items, (∀ f ∈ items, motive f) → motive (.sequence kind items))
    (dict : ∀ items, (∀ p ∈ items, motive p.2) → motive (.dict items)) (f : Frozen) :
    motive f := by
  refine @Frozen.rec motive (fun items => ∀ f ∈ items, motive f)
    (fun items => ∀ p ∈ items, motive p.2) (fun p => motive p.2) none bool int float text
    sequence dict ?_ ?_ ?_ ?_ (fun _ _ h => h) f
  · exact fun _ h => absurd h List.not_mem_nil
  · intro f rest hf hrest x hx
    rcases List.mem_cons.mp hx with rfl | hx
    · exact hf
    · exact hrest x hx
  · exact fun _ h => absurd h List.not_mem_nil
  · intro p rest hp hrest x hx
    rcases List.mem_cons.mp hx with rfl | hx
    · exact hp
    · exact hrest x hx

theorem fingerprintItems_eq {fs gs : List Frozen}
    (ih : ∀ f ∈ fs, ∀ g, Token.eq (fingerprint f) (fingerprint g) = true → f = g)
    (h : Token.eqAll (fingerprintItems fs) (fingerprintItems gs) = true) : fs = gs := by
  induction fs generalizing gs with
  | nil =>
      cases gs with
      | nil => rfl
      | cons g gs => exact absurd h (by simp [fingerprintItems, Token.eqAll])
  | cons f fs hfs =>
      cases gs with
      | nil => exact absurd h (by simp [fingerprintItems, Token.eqAll])
      | cons g gs =>
          rw [fingerprintItems, fingerprintItems, Token.eqAll, Bool.and_eq_true] at h
          rw [ih f List.mem_cons_self g h.1,
            hfs (fun x hx => ih x (List.mem_cons_of_mem _ hx)) h.2]

theorem fingerprintFields_eq {fs gs : List (CodePoints × Frozen)}
    (ih : ∀ p ∈ fs, ∀ g, Token.eq (fingerprint p.2) (fingerprint g) = true → p.2 = g)
    (h : Token.eqAll (fingerprintFields fs) (fingerprintFields gs) = true) : fs = gs := by
  induction fs generalizing gs with
  | nil =>
      cases gs with
      | nil => rfl
      | cons q gs => exact absurd h (by simp [fingerprintFields, Token.eqAll])
  | cons p fs hfs =>
      cases gs with
      | nil => exact absurd h (by simp [fingerprintFields, Token.eqAll])
      | cons q gs =>
          simp only [fingerprintFields, Token.eqAll, Token.eq, Bool.and_eq_true,
            decide_eq_true_eq, and_true] at h
          obtain ⟨⟨hkey, hvalue⟩, hrest⟩ := h
          rw [Prod.ext hkey (ih p List.mem_cons_self q.2 hvalue),
            hfs (fun x hx => ih x (List.mem_cons_of_mem _ hx)) hrest]

theorem Token.eq_tagged {s t : String} {xs ys : List Token} :
    Token.eq (.tuple (.text (codePoints s) :: xs)) (.tuple (.text (codePoints t) :: ys)) = true ↔
      s = t ∧ Token.eqAll xs ys = true := by
  rw [Token.eq, Token.eqAll, Bool.and_eq_true, Token.eq, decide_eq_true_eq, codePoints_inj]

theorem Token.eqAll_singleton {x y : Token} : Token.eqAll [x] [y] = Token.eq x y := by
  rw [Token.eqAll, Token.eqAll, Bool.and_true]

theorem eq_of_fingerprint {f g : Frozen}
    (h : Token.eq (fingerprint f) (fingerprint g) = true) : f = g := by
  induction f using Frozen.induction generalizing g with
  | none =>
      rcases g with _ | _ | _ | _ | _ | ⟨_ | _, _⟩ | _ <;>
        simp [fingerprint, Token.eq_tagged] at h ⊢
  | bool b =>
      rcases g with _ | _ | _ | _ | _ | ⟨_ | _, _⟩ | _ <;>
        simp [fingerprint, Token.eq_tagged] at h ⊢
      rw [Token.eqAll_singleton, Token.eq, beq_iff_eq] at h
      exact h
  | int i =>
      rcases g with _ | _ | _ | _ | _ | ⟨_ | _, _⟩ | _ <;>
        simp [fingerprint, Token.eq_tagged] at h ⊢
      rw [Token.eqAll_singleton, Token.eq, decide_eq_true_eq] at h
      exact h
  | float bits =>
      rcases g with _ | _ | _ | _ | _ | ⟨_ | _, _⟩ | _ <;>
        simp [fingerprint, Token.eq_tagged] at h ⊢
      rw [Token.eqAll_singleton, Token.eq, decide_eq_true_eq] at h
      exact packDouble_injective h
  | text s =>
      rcases g with _ | _ | _ | _ | _ | ⟨_ | _, _⟩ | _ <;>
        simp [fingerprint, Token.eq_tagged] at h ⊢
      rw [Token.eqAll_singleton, Token.eq, decide_eq_true_eq] at h
      exact h
  | sequence kind items ih =>
      cases kind <;> rcases g with _ | _ | _ | _ | _ | ⟨_ | _, _⟩ | _ <;>
        simp [fingerprint, Token.eq_tagged] at h ⊢
      · rw [Token.eqAll_singleton, Token.eq] at h
        exact fingerprintItems_eq (fun f hf g => ih f hf) h
      · rw [Token.eqAll_singleton, Token.eq] at h
        exact fingerprintItems_eq (fun f hf g => ih f hf) h
  | dict items ih =>
      rcases g with _ | _ | _ | _ | _ | ⟨_ | _, _⟩ | _ <;>
        simp [fingerprint, Token.eq_tagged] at h ⊢
      rw [Token.eqAll_singleton, Token.eq] at h
      exact fingerprintFields_eq (fun p hp g => ih p hp) h

structure OwnedLiveReading where
  timestampIso : CodePoints
  instrumentId : CodePoints
  channel : CodePoints
  value : BitVec 64
  unit : CodePoints
  status : ChannelStatus
  raw : Option (BitVec 64)
  metadata : Frozen

/-- `status.value` -/
def statusValue : ChannelStatus → String
  | .ok => "ok"
  | .overrange => "overrange"
  | .underrange => "underrange"
  | .sensorError => "sensor_error"
  | .timeout => "timeout"

/-- The copy is a `_FrozenDict`. -/
def Frozen.isDict : Frozen → Bool
  | .dict _ => true
  | _ => false

def packRaw : Option (BitVec 64) → Token
  | none => .none
  | some bits => .bytes (packDouble bits)

def ownedLiveReadingFingerprint (p : OwnedLiveReading) : Except String Token := do
  ensure (p.metadata.isDict = true) "receipt status or metadata fingerprint is malformed"
  return .tuple [.text p.timestampIso, .text p.instrumentId, .text p.channel,
    .bytes (packDouble p.value), .text p.unit, .text (codePoints (statusValue p.status)),
    packRaw p.raw, fingerprint p.metadata]

theorem statusValue_injective {s t : ChannelStatus} (h : statusValue s = statusValue t) :
    s = t := by
  cases s <;> cases t <;> first | rfl | exact absurd h (by decide)

theorem packRaw_eq {x y : Option (BitVec 64)} (h : Token.eq (packRaw x) (packRaw y) = true) :
    x = y := by
  cases x with
  | none =>
      cases y with
      | none => rfl
      | some b => exact absurd h (by simp [packRaw, Token.eq])
  | some a =>
      cases y with
      | none => exact absurd h (by simp [packRaw, Token.eq])
      | some b =>
          rw [packRaw, packRaw, Token.eq, decide_eq_true_eq] at h
          rw [packDouble_injective h]

theorem eq_of_ownedFingerprint {p q : OwnedLiveReading} {s t : Token}
    (hp : ownedLiveReadingFingerprint p = .ok s) (hq : ownedLiveReadingFingerprint q = .ok t)
    (h : Token.eq s t = true) : p = q := by
  simp only [ownedLiveReadingFingerprint, bind_eq_ok, ensure_eq_ok, exists_unit,
    pure_eq_ok] at hp hq
  obtain ⟨_, rfl⟩ := hp
  obtain ⟨_, rfl⟩ := hq
  simp only [Token.eq, Token.eqAll, Bool.and_eq_true, decide_eq_true_eq, and_true,
    codePoints_inj] at h
  obtain ⟨htime, hid, hchannel, hvalue, hunit, hstatus, hraw, hmetadata⟩ := h
  cases p
  cases q
  cases htime
  cases hid
  cases hchannel
  cases packDouble_injective hvalue
  cases hunit
  cases statusValue_injective hstatus
  cases packRaw_eq hraw
  cases eq_of_fingerprint hmetadata
  rfl

/-! ### The whole cycle -/

/-- Metadata is frozen exactly when it is an acyclic dict of data within the limits,
its copy thaws to it, and copies and payloads with equal fingerprints are the same. -/
theorem live_metadata_faithful {n : ℕ} (u : Unicode) (m : Memory n) (value : Ref n) :
    ((∃ f, freezeLiveMetadata u m value = .ok f) ↔
      isDict m value = true ∧ ¬ Cyclic m value ∧ ¬ HasForeign m value ∧
        ∀ d, Denotes m d value → WithinLimits u d) ∧
    (∀ f, freezeLiveMetadata u m value = .ok f →
      Denotes m (thaw f) value ∧ ∀ d, Denotes m d value → thaw f = d) ∧
    (∀ f g, Token.eq (fingerprint f) (fingerprint g) = true → f = g ∧ thaw f = thaw g) ∧
    (∀ p q s t, ownedLiveReadingFingerprint p = .ok s → ownedLiveReadingFingerprint q = .ok t →
      Token.eq s t = true → p = q) := by
  refine ⟨freezes_iff, fun f hf => ?_, fun f g h => ?_, fun p q s t hp hq h => ?_⟩
  · exact ⟨denotes_thaw hf, fun d hd => denotes_unique (denotes_thaw hf) hd⟩
  · have heq := eq_of_fingerprint h
    exact ⟨heq, congrArg thaw heq⟩
  · exact eq_of_ownedFingerprint hp hq h

section Example

/-- A table of characters: control characters below 32, and every text normal. -/
def asciiOnly : Unicode where
  normalize := id
  category := fun c => if c.val < 32 then "Cc" else "Ll"

/-- `{"a": value}` -/
def oneItem (value : Ref 1) : Memory 1 where
  containers := fun _ => .dict [(.text (codePoints "a"), value)]
  keys_nodup := fun _ _ h => by
    cases h
    exact List.nodup_singleton _

/-- An empty text and an integer of more than 64 bits are rejected, though they are
acyclic data within the depth, the item, the text and the byte limit. -/
theorem rejects_small_data :
    (∃ e, freezeLiveMetadata asciiOnly (oneItem (.text [])) (.container 0) = .error e) ∧
    Denotes (oneItem (.text [])) (.dict [(codePoints "a", .text [])]) (.container 0) ∧
    (∃ e, freezeLiveMetadata asciiOnly (oneItem (.int 9223372036854775808)) (.container 0) =
      .error e) ∧
    Denotes (oneItem (.int 9223372036854775808))
      (.dict [(codePoints "a", .int 9223372036854775808)]) (.container 0) ∧
    (Data.dict [(codePoints "a", .text [])]).height ≤ maxLiveMetadataDepth ∧
    (Data.dict [(codePoints "a", .text [])]).size ≤ maxLiveMetadataItems ∧
    aggregateBytes (.dict [(codePoints "a", .text [])]) ≤ maxLiveMetadataAggregateBytes := by
  refine ⟨⟨_, rfl⟩, ⟨_, rfl, rfl, rfl, rfl⟩, ⟨_, rfl⟩, ⟨_, rfl, rfl, rfl, rfl⟩, ?_, ?_, ?_⟩
  · decide
  · decide
  · decide

end Example

end Storage
end CryoDaq
