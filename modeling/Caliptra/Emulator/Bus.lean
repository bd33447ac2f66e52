import Mathlib

/-!
# Bus accesses of the emulator (`sw-emulator/lib/types`, `sw-emulator/lib/bus`)

`RvSize` and `BusError` as the emulated bus carries them, and the bus behaviour of the two
register kinds the peripherals here are built from: a `ReadWriteRegister<u32>`, which takes
only word accesses, and a `ReadWriteRegisterArray<u32, N>`, which takes aligned word writes to
one of its items. `RvSize::Invalid` is left out: its conversion to a byte count panics, and no
access carries it.

A peripheral that derives `Bus` (`sw-emulator/lib/derive`) sends an aligned access inside a
`#[register_array(offset = ..)]` field to the item the address falls on
(`register_array_index`).
-/

namespace Caliptra.Emulator

/-- `RvSize`. -/
inductive RvSize
  | Byte
  | HalfWord
  | Word
  deriving DecidableEq, Repr

/-- `BusError`. -/
inductive BusError
  | InstrAccessFault
  | LoadAddrMisaligned
  | LoadAccessFault
  | StoreAddrMisaligned
  | StoreAccessFault
  deriving DecidableEq, Repr

namespace ReadWriteRegister

/-- `Register::read` of a `ReadWriteRegister<u32>`. -/
def read (reg : UInt32) (size : RvSize) : Except BusError UInt32 :=
  if size ≠ .Word then .error .LoadAccessFault else .ok reg

/-- `Register::write` of a `ReadWriteRegister<u32>`: the new value of the register. -/
def write (size : RvSize) (val : UInt32) : Except BusError UInt32 :=
  if size ≠ .Word then .error .StoreAccessFault else .ok val

theorem write_eq_ok {size : RvSize} {val v : UInt32} :
    write size val = .ok v ↔ size = .Word ∧ v = val := by
  unfold write
  split_ifs with hs <;> simp_all [eq_comm]

end ReadWriteRegister

namespace ReadWriteRegisterArray

/-- `Bus::read` of a `ReadWriteRegisterArray<u32, N>` at an offset; the size is not checked. -/
def read {n : Nat} (regs : Vector UInt32 n) (addr : UInt32) : Except BusError UInt32 :=
  if addr.toNat % 4 ≠ 0 then .error .LoadAddrMisaligned
  else if h : addr.toNat / 4 < n then .ok (getElem regs (addr.toNat / 4) h)
  else .error .LoadAccessFault

/-- `Bus::write` of a `ReadWriteRegisterArray<u32, N>` at an offset: the new items. -/
def write {n : Nat} (regs : Vector UInt32 n) (size : RvSize) (addr val : UInt32) :
    Except BusError (Vector UInt32 n) :=
  if size ≠ .Word then .error .StoreAccessFault
  else if addr.toNat % 4 ≠ 0 then .error .StoreAddrMisaligned
  else if h : addr.toNat / 4 < n then .ok (regs.set (addr.toNat / 4) val h)
  else .error .StoreAccessFault

theorem write_eq_ok {n : Nat} {regs regs' : Vector UInt32 n} {size : RvSize} {addr val : UInt32} :
    write regs size addr val = .ok regs' ↔
      ∃ h : addr.toNat / 4 < n, size = .Word ∧ addr.toNat % 4 = 0 ∧
        regs' = regs.set (addr.toNat / 4) val h := by
  unfold write
  split_ifs with hs ha hi <;> simp_all [eq_comm]

end ReadWriteRegisterArray

/-! ## `#[derive(Bus)]` -/

theorem register_array_index_lt {offset len a : Nat}
    (h : offset ≤ a ∧ a ≤ offset + (len - 1) * 4 ∧ a % 4 = 0 ∧ 0 < len) : (a - offset) / 4 < len := by
  omega

/-- The item of a `#[register_array(offset = ..)]` field of `len` words (there is at least one) that
an access at `addr` goes to: the arm `offset..=offset + (len - 1) * 4 if addr % 4 == 0` of the
derived `read` and `write`, at item `(addr - offset) / 4`. -/
def register_array_index (offset len : Nat) (addr : UInt32) : Option (Fin len) :=
  if h : offset ≤ addr.toNat ∧ addr.toNat ≤ offset + (len - 1) * 4 ∧ addr.toNat % 4 = 0 ∧ 0 < len
  then some ⟨(addr.toNat - offset) / 4, register_array_index_lt h⟩
  else none

/-- On an aligned field, item `i` takes the accesses at `offset + 4 * i` and no others. -/
theorem register_array_index_eq_some {offset len : Nat} (ho : offset % 4 = 0) {addr : UInt32}
    {i : Fin len} : register_array_index offset len addr = some i ↔ addr.toNat = offset + 4 * i.val := by
  unfold register_array_index
  split_ifs with h
  · simp only [Option.some.injEq, Fin.ext_iff]
    omega
  · simp only [false_iff]
    intro ha
    have := i.isLt
    exact h (by omega)

end Caliptra.Emulator
