import Mathlib.Logic.Function.Basic
import Mathlib.Data.Nat.Basic

/-!
# Mutable objects and who can reach them

A `Heap` holds the mutable objects of one type by address.  Some addresses are
`owned`: only the modelled component holds a reference to them.  Every other
object, allocated or not yet, may be in the hands of code outside, which can
change it at any moment (`Outside`).

**Handing out.**  An object whose reference a component returns is allocated
as shared (`allocShared`); an object that is allocated as owned and never handed
out is never changed from outside.
-/

namespace CryoDaq

abbrev Address := ℕ

structure Heap (α : Type) where
  content : Address → α
  next : Address
  owned : List Address

namespace Heap

variable {α : Type}

/-- A new object that nobody else holds. -/
def alloc (h : Heap α) (v : α) : Heap α where
  content := Function.update h.content h.next v
  next := h.next + 1
  owned := h.next :: h.owned

/-- An object changed in place. -/
def write (h : Heap α) (a : Address) (v : α) : Heap α :=
  { h with content := Function.update h.content a v }

/-- A new object whose reference goes to code outside. -/
def allocShared (h : Heap α) (v : α) : Heap α where
  content := Function.update h.content h.next v
  next := h.next + 1
  owned := h.owned

def Sound (h : Heap α) : Prop := ∀ a ∈ h.owned, a < h.next

/-- What code outside can do: allocate, and change what it can reach. -/
structure Outside (h h' : Heap α) : Prop where
  content : ∀ a ∈ h.owned, h'.content a = h.content a
  owned : h'.owned = h.owned
  next : h.next ≤ h'.next

theorem Outside.refl (h : Heap α) : Outside h h := ⟨fun _ _ => rfl, rfl, le_rfl⟩

theorem Outside.trans {h h' h'' : Heap α} (ho : Outside h h')
    (ho' : Outside h' h'') : Outside h h'' where
  content a ha := (ho'.content a (ho.owned ▸ ha)).trans (ho.content a ha)
  owned := ho'.owned.trans ho.owned
  next := Nat.le_trans ho.next ho'.next

theorem Outside.sound {h h' : Heap α} (ho : Outside h h') (hs : h.Sound) :
    h'.Sound := by
  intro a ha
  rw [ho.owned] at ha
  exact lt_of_lt_of_le (hs a ha) ho.next

@[simp] theorem content_alloc_self (h : Heap α) (v : α) :
    (h.alloc v).content h.next = v := by simp [alloc]

theorem content_alloc_of_owned {h : Heap α} (hs : h.Sound) (v : α)
    {a : Address} (ha : a ∈ h.owned) : (h.alloc v).content a = h.content a := by
  have hne : a ≠ h.next := Nat.ne_of_lt (hs a ha)
  simp [alloc, hne]

@[simp] theorem owned_alloc (h : Heap α) (v : α) :
    (h.alloc v).owned = h.next :: h.owned := rfl

@[simp] theorem next_alloc (h : Heap α) (v : α) :
    (h.alloc v).next = h.next + 1 := rfl

theorem Sound.alloc {h : Heap α} (hs : h.Sound) (v : α) : (h.alloc v).Sound := by
  intro a ha
  rcases List.mem_cons.mp ha with rfl | ha
  · exact Nat.lt_succ_self _
  · exact Nat.lt_succ_of_lt (hs a ha)

@[simp] theorem content_write_self (h : Heap α) (a : Address) (v : α) :
    (h.write a v).content a = v := by simp [write]

theorem content_write_of_ne (h : Heap α) {a b : Address} (v : α) (hne : b ≠ a) :
    (h.write a v).content b = h.content b := by simp [write, hne]

theorem Sound.write {h : Heap α} (hs : h.Sound) (a : Address) (v : α) :
    (h.write a v).Sound := hs

@[simp] theorem owned_allocShared (h : Heap α) (v : α) :
    (h.allocShared v).owned = h.owned := rfl

@[simp] theorem next_allocShared (h : Heap α) (v : α) :
    (h.allocShared v).next = h.next + 1 := rfl

theorem Sound.next_not_owned {h : Heap α} (hs : h.Sound) : h.next ∉ h.owned :=
  fun ha => Nat.lt_irrefl _ (hs _ ha)

theorem Sound.outside_allocShared {h : Heap α} (hs : h.Sound) (v : α) :
    Outside h (h.allocShared v) where
  content a ha := by
    have hne : a ≠ h.next := Nat.ne_of_lt (hs a ha)
    simp [allocShared, hne]
  owned := rfl
  next := Nat.le_succ _

end Heap

end CryoDaq
