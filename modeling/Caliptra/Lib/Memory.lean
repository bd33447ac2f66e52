import Mathlib

/-!
# Byte-addressed memory

A memory maps each address to a byte. `write mem addr bs` stores `bs` from `addr` on and
`read mem addr n` reads `n` bytes from `addr`. The lemmas are the rules of such a memory: a read
depends only on the bytes it covers (`read_congr`), a write changes nothing outside the bytes it
covers (`write_apply_of_not_mem`, `read_write_of_disjoint`), it keeps two memories equal where
they were (`write_apply_congr`), and what was written is read back (`read_write_self`).
-/

/-- A byte-addressed memory. -/
abbrev Memory := Nat → UInt8

namespace Memory

/-- The `n` bytes from `addr` on. -/
def read (mem : Memory) (addr n : Nat) : List UInt8 := List.ofFn fun i : Fin n => mem (addr + i)

/-- `bs` stored from `addr` on. -/
def write (mem : Memory) (addr : Nat) (bs : List UInt8) : Memory := fun a =>
  if h : addr ≤ a ∧ a - addr < bs.length then bs[a - addr] else mem a

@[simp] theorem length_read (mem : Memory) (addr n : Nat) : (mem.read addr n).length = n := by
  simp [read]

@[simp] theorem getElem_read (mem : Memory) (addr n i : Nat) (hi : i < (mem.read addr n).length) :
    (mem.read addr n)[i] = mem (addr + i) := by
  simp [read]

theorem read_congr {mem mem' : Memory} {addr n : Nat}
    (h : ∀ i < n, mem (addr + i) = mem' (addr + i)) : mem.read addr n = mem'.read addr n := by
  apply List.ext_getElem (by simp)
  intro i hi _
  simp only [getElem_read]
  exact h i (by simpa using hi)

theorem write_apply_of_lt (mem : Memory) (addr : Nat) (bs : List UInt8) {i : Nat}
    (hi : i < bs.length) : mem.write addr bs (addr + i) = bs[i] := by
  simp [write, hi]

theorem write_apply_of_not_mem {mem : Memory} {addr a : Nat} {bs : List UInt8}
    (h : a < addr ∨ addr + bs.length ≤ a) : mem.write addr bs a = mem a := by
  have : ¬(addr ≤ a ∧ a - addr < bs.length) := by omega
  simp [write, this]

/-- A write keeps two memories equal at every byte where they were equal: it moves no byte. -/
theorem write_apply_congr {mem mem' : Memory} {a : Nat} (h : mem a = mem' a) (addr : Nat)
    (bs : List UInt8) : mem.write addr bs a = mem'.write addr bs a := by
  unfold write
  split
  · rfl
  · exact h

/-- The first `k` bytes of a read are the shorter read. -/
theorem take_read (mem : Memory) (addr : Nat) {k n : Nat} (h : k ≤ n) :
    (mem.read addr n).take k = mem.read addr k := by
  apply List.ext_getElem (by simp [h])
  intro i hi _
  rw [List.getElem_take, getElem_read, getElem_read]

/-- What was written is read back. -/
theorem read_write_self (mem : Memory) (addr : Nat) (bs : List UInt8) :
    (mem.write addr bs).read addr bs.length = bs := by
  apply List.ext_getElem (by simp)
  intro i hi _
  rw [getElem_read, write_apply_of_lt mem addr bs (by simpa using hi)]

/-- A write leaves a read of bytes it does not cover unchanged. -/
theorem read_write_of_disjoint {mem : Memory} {addr b n : Nat} {bs : List UInt8}
    (h : b + n ≤ addr ∨ addr + bs.length ≤ b) : (mem.write addr bs).read b n = mem.read b n :=
  read_congr fun _ _ => write_apply_of_not_mem (by omega)

end Memory
