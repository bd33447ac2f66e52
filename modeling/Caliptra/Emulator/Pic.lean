import Mathlib
import Caliptra.Lib.RustCore
import Caliptra.Lib.Bits
import Caliptra.Emulator.Bus

/-!
# The emulated interrupt controller (`sw-emulator/lib/cpu/src/pic.rs`)

`PicImpl` holds the registers of the PIC (`meipl`, `meip`, `meie`, `mpiccfg`, `meigwctrl`), the
level last driven on each interrupt line, the pending flops of the gateways, and a cache from
which `highest_priority_irq` answers:

* `priority_order`, the entries (priority, id) sorted with the highest priority first, where the
  priority is xored with `priority_xor` so that the highest priority is always 0;
* `id_to_order`, the rank of each id in `priority_order`;
* `ordered_irq_pending`, one flag per rank for "enabled and pending".

`refresh_order` rebuilds the cache from the registers; the other write paths refresh the flags
they touch. Bus writes reach the PIC through `PicMmioRegisters`, and peripherals drive their lines
through `Irq::set_level`.

Interrupt ids and ranks index arrays of 32 items, so they are `Fin 32` here: an `Irq` registered
with an id past 31 panics on its first `set_level`. The timer on which `poll` schedules the
interrupt it takes is left out; `poll` returns that interrupt.
-/

namespace Caliptra.Emulator

/-- `MAX_PRIORITY`. -/
def MAX_PRIORITY : UInt8 := 15

/-! ## `Bits32` -/

/-- `Bits32`: 32 flags in a word. -/
structure Bits32 where
  bits : UInt32
  deriving DecidableEq, Repr

namespace Bits32

/-- `Bits32::new`. -/
def new : Bits32 := ⟨0⟩

/-- `all_bits_cleared`. -/
def all_bits_cleared (b : Bits32) : Bool := b.bits = 0

theorem trailing_zeros_lt {b : Bits32} (h : ¬b.all_bits_cleared = true) :
    Bits.trailing_zeros b.bits < 32 :=
  (Bits.trailing_zeros_spec (by simpa [all_bits_cleared] using h)).2.1

/-- `first_set_index`: the index of the lowest flag that is set. -/
def first_set_index (b : Bits32) : Option (Fin 32) :=
  if h : b.all_bits_cleared then none else some ⟨Bits.trailing_zeros b.bits, trailing_zeros_lt h⟩

/-- `get`. -/
def get (b : Bits32) (idx : Fin 32) : Bool := b.bits &&& (1 <<< idx.val.toUInt32) ≠ 0

/-- `set`. -/
def set (b : Bits32) (idx : Fin 32) (val : Bool) : Bits32 :=
  let mask : UInt32 := 1 <<< idx.val.toUInt32
  if val then ⟨b.bits ||| mask⟩ else ⟨b.bits &&& ~~~mask⟩

/-- `Register::read`, which takes any size. -/
def read (b : Bits32) (_size : RvSize) : Except BusError UInt32 := .ok b.bits

/-- `Register::write`: only a word replaces the flags. -/
def write (_b : Bits32) (size : RvSize) (val : UInt32) : Except BusError Bits32 :=
  if size ≠ .Word then .error .StoreAccessFault else .ok ⟨val⟩

theorem toNat_toUInt32 (i : Fin 32) : i.val.toUInt32.toNat = i.val := by
  rw [Nat.toUInt32_eq, UInt32.toNat_ofNat']
  omega

theorem get_eq_testBit (b : Bits32) (i : Fin 32) : b.get i = b.bits.toNat.testBit i := by
  have hk : i.val.toUInt32.toNat < 32 := by rw [toNat_toUInt32]; exact i.isLt
  have h := Bits.and_one_shl_ne_zero_iff (x := b.bits) hk
  rw [toNat_toUInt32] at h
  rw [get, Bool.eq_iff_iff, decide_eq_true_iff, h]

@[simp] theorem get_set (b : Bits32) (i : Fin 32) (v : Bool) (j : Fin 32) :
    (b.set i v).get j = if j = i then v else b.get j := by
  have hk : i.val.toUInt32.toNat < 32 := by rw [toNat_toUInt32]; exact i.isLt
  rw [get_eq_testBit, get_eq_testBit]
  cases v with
  | true =>
    simp only [set, if_true, Bits.testBit_or_one_shl hk, toNat_toUInt32]
    by_cases hj : j = i <;> simp [hj, Fin.val_inj]
  | false =>
    simp only [set, Bool.false_eq_true, if_false, Bits.testBit_and_not_one_shl hk, toNat_toUInt32]
    by_cases hj : j = i <;> simp [hj, Fin.val_inj]

@[simp] theorem new_get (i : Fin 32) : Bits32.new.get i = false := by
  rw [get_eq_testBit]
  exact Nat.zero_testBit _

theorem first_set_index_eq_some {b : Bits32} {k : Fin 32} (h : b.first_set_index = some k) :
    b.get k = true ∧ ∀ j < k, b.get j = false := by
  unfold first_set_index at h
  split_ifs at h with hc
  cases h
  obtain ⟨hbit, -, hbelow⟩ := Bits.trailing_zeros_spec (by simpa [all_bits_cleared] using hc)
  exact ⟨by rw [get_eq_testBit]; exact hbit, fun j hj => by rw [get_eq_testBit]; exact hbelow j hj⟩

theorem first_set_index_eq_none {b : Bits32} (h : b.first_set_index = none) (k : Fin 32) :
    b.get k = false := by
  unfold first_set_index at h
  split_ifs at h with hc
  have hz : b.bits = 0 := by simpa [all_bits_cleared] using hc
  rw [get_eq_testBit, hz]
  exact Nat.zero_testBit _

end Bits32

/-! ## The registers -/

/-- `PicImplRegs`. Item 0 of each array is reserved. -/
structure PicImplRegs where
  meipl : Vector UInt32 32
  meip : Bits32
  meie : Vector UInt32 32
  mpiccfg : UInt32
  meigwctrl : Vector UInt32 32

namespace PicImplRegs

/-- `PicImplRegs::new`. -/
def new : PicImplRegs := ⟨.replicate 32 0, .new, .replicate 32 0, 0, .replicate 32 0⟩

/-- `Bus::read` as `#[derive(Bus)]` dispatches it: the registers `meip` and `mpiccfg` at their
offsets, then each array in its 4 KiB window. -/
def read (regs : PicImplRegs) (size : RvSize) (addr : UInt32) : Except BusError UInt32 :=
  if addr = 0x1000 then regs.meip.read size
  else if addr = 0x3000 then ReadWriteRegister.read regs.mpiccfg size
  else if addr &&& 0xFFFF_F000 = 0x0000 then
    ReadWriteRegisterArray.read regs.meipl (addr &&& 0x0fff)
  else if addr &&& 0xFFFF_F000 = 0x2000 then
    ReadWriteRegisterArray.read regs.meie (addr &&& 0x0fff)
  else if addr &&& 0xFFFF_F000 = 0x4000 then
    ReadWriteRegisterArray.read regs.meigwctrl (addr &&& 0x0fff)
  else .error .LoadAccessFault

/-- `Bus::write` as `#[derive(Bus)]` dispatches it. -/
def write (regs : PicImplRegs) (size : RvSize) (addr val : UInt32) :
    Except BusError PicImplRegs :=
  if addr = 0x1000 then (regs.meip.write size val).map fun meip => { regs with meip }
  else if addr = 0x3000 then
    (ReadWriteRegister.write size val).map fun mpiccfg => { regs with mpiccfg }
  else if addr &&& 0xFFFF_F000 = 0x0000 then
    (ReadWriteRegisterArray.write regs.meipl size (addr &&& 0x0fff) val).map
      fun meipl => { regs with meipl }
  else if addr &&& 0xFFFF_F000 = 0x2000 then
    (ReadWriteRegisterArray.write regs.meie size (addr &&& 0x0fff) val).map
      fun meie => { regs with meie }
  else if addr &&& 0xFFFF_F000 = 0x4000 then
    (ReadWriteRegisterArray.write regs.meigwctrl size (addr &&& 0x0fff) val).map
      fun meigwctrl => { regs with meigwctrl }
  else .error .StoreAccessFault

end PicImplRegs

/-! ## The arbitration cache -/

/-- `IrqPriority`: the priority, xored such that the highest priority is always 0, and the id. -/
structure IrqPriority where
  priority_xored : UInt8
  id : Fin 32
  deriving DecidableEq, Repr

namespace IrqPriority

/-- `IrqPriority::default()`. -/
def default : IrqPriority := ⟨0, 0⟩

/-- The derived `Ord` as `sort` uses it: by `priority_xored`, then by `id`. -/
def le (a b : IrqPriority) : Bool :=
  a.priority_xored < b.priority_xored || (a.priority_xored == b.priority_xored && a.id ≤ b.id)

/-- `sort` on a slice of `IrqPriority`. The sort is stable, and a stable sort has one result,
which `insertionSort` computes. -/
def sort (priorities : List IrqPriority) : List IrqPriority :=
  priorities.insertionSort fun a b => a.le b = true

theorem length_sort (priorities : List IrqPriority) : (sort priorities).length = priorities.length :=
  List.length_insertionSort _ _

end IrqPriority

namespace PicImplRegs

/-- The `priority_xor` that `refresh_order` picks: 0 when `mpiccfg` selects the reverse order, in
which 0 is the highest priority, and `0x0f` in the standard order. -/
def priority_xor (regs : PicImplRegs) : UInt8 := if regs.mpiccfg &&& 1 = 1 then 0x00 else 0x0f

/-- Item `i` of the array that `refresh_order` sorts. -/
def priority (regs : PicImplRegs) (i : Fin 32) : IrqPriority :=
  if i = 0 then IrqPriority.default
  else ⟨(regs.meipl.get i &&& 0xF).toUInt8 ^^^ regs.priority_xor, i⟩

/-- The array that `refresh_order` sorts. -/
def priorities (regs : PicImplRegs) : List IrqPriority := (List.finRange 32).map regs.priority

theorem size_sort_priorities (regs : PicImplRegs) :
    (IrqPriority.sort regs.priorities).toArray.size = 32 := by
  simp [IrqPriority.length_sort, priorities]

/-- The array after `priorities.sort()`. -/
def sorted (regs : PicImplRegs) : Vector IrqPriority 32 :=
  ⟨(IrqPriority.sort regs.priorities).toArray, regs.size_sort_priorities⟩

end PicImplRegs

/-- `PicImpl`. -/
structure PicImpl where
  regs : PicImplRegs
  irq_levels : Bits32
  gw_pending_ff : Bits32
  priority_order : Vector IrqPriority 32
  id_to_order : Vector (Fin 32) 32
  ordered_irq_pending : Bits32
  priority_xor : UInt8

namespace PicImpl

/-- `highest_priority_irq`; the assertion on the threshold is a panic. -/
def highest_priority_irq (p : PicImpl) (prithresh : UInt8) : Checked Empty (Option (Fin 32)) :=
  if prithresh ≤ MAX_PRIORITY then
    pure <| match p.ordered_irq_pending.first_set_index with
      | some idx =>
        let firing_irq := p.priority_order.get idx
        if firing_irq.priority_xored < prithresh ^^^ p.priority_xor then some firing_irq.id
        else none
      | none => none
  else Checked.panic

/-- `set_ordered_irq_pending`. -/
def set_ordered_irq_pending (p : PicImpl) (id : Fin 32) (is_pending : Bool) : PicImpl :=
  let enabled := p.regs.meie.get id &&& 1 ≠ 0
  { p with
    ordered_irq_pending :=
      p.ordered_irq_pending.set (p.id_to_order.get id) (enabled && is_pending) }

/-- `irq_set_level`. -/
def irq_set_level (p : PicImpl) (id : Fin 32) (is_high : Bool) : PicImpl :=
  let irq_levels := p.irq_levels.set id is_high
  let ctrl := p.regs.meigwctrl.get id
  -- `POLARITY` is bit 0, and `TYPE::EdgeTriggered` is bit 1
  let is_high := is_high ^^ (ctrl &&& 1 ≠ 0)
  let gw_pending_ff := if is_high then p.gw_pending_ff.set id true else p.gw_pending_ff
  let is_high := if ctrl &&& 2 = 2 then gw_pending_ff.get id else is_high
  let regs := { p.regs with meip := p.regs.meip.set id is_high }
  { p with irq_levels, gw_pending_ff, regs }.set_ordered_irq_pending id is_high

/-- `refresh_gateway`. -/
def refresh_gateway (p : PicImpl) (id : Fin 32) : PicImpl :=
  p.irq_set_level id (p.irq_levels.get id)

/-- `refresh_enabled`. -/
def refresh_enabled (p : PicImpl) (id : Fin 32) : PicImpl :=
  p.set_ordered_irq_pending id (p.regs.meip.get id)

/-- The loop of `refresh_order` that records the rank of each id of the sorted array. -/
def id_to_order_of (priorities : Vector IrqPriority 32) : Vector (Fin 32) 32 :=
  (List.finRange 32).foldl
    (fun id_to_order index =>
      id_to_order.set (priorities.get index).id.val index (priorities.get index).id.isLt)
    (Vector.replicate 32 0)

/-- `refresh_order`. -/
def refresh_order (p : PicImpl) : PicImpl :=
  (List.finRange 32).foldl refresh_enabled
    { p with
      priority_xor := p.regs.priority_xor
      priority_order := p.regs.sorted
      id_to_order := id_to_order_of p.regs.sorted }

/-- `PicImpl::new`. -/
def new : PicImpl :=
  refresh_order ⟨.new, .new, .new, .replicate 32 .default, .replicate 32 0, .new, 0⟩

end PicImpl

/-! ## The bus and the interrupt lines -/

theorem irq_id_from_addr_lt (addr : UInt32) : ((addr &&& 0x7f) / 4).toNat < 32 := by
  rw [UInt32.toNat_div, Bits.toNat_and_low 7 rfl]
  simp only [UInt32.reduceToNat]
  omega

/-- `irq_id_from_addr`. -/
def irq_id_from_addr (addr : UInt32) : Fin 32 :=
  ⟨((addr &&& 0x7f) / 4).toNat, irq_id_from_addr_lt addr⟩

namespace PicMmioRegisters

/-- `Bus::read`. -/
def read (p : PicImpl) (size : RvSize) (addr : UInt32) : Except BusError UInt32 :=
  if addr = 0x0000 ∨ addr = 0x2000 ∨ addr = 0x4000 ∨ addr = 0x5000 then .error .LoadAccessFault
  else if 0x5004 ≤ addr ∧ addr ≤ 0x507C then .ok 0
  else p.regs.read size addr

/-- `Bus::write`: the PIC after the write; a failed write changes nothing. -/
def write (p : PicImpl) (size : RvSize) (addr val : UInt32) : Except BusError PicImpl :=
  if addr = 0x0000 ∨ addr = 0x2000 ∨ addr = 0x4000 ∨ addr = 0x5000 then .error .StoreAccessFault
  else if 0x4004 ≤ addr ∧ addr ≤ 0x407C then
    (p.regs.write size addr val).map fun regs =>
      { p with regs }.refresh_gateway (irq_id_from_addr addr)
  else if 0x5004 ≤ addr ∧ addr ≤ 0x507C then
    let id := irq_id_from_addr addr
    .ok ({ p with gw_pending_ff := p.gw_pending_ff.set id false }.refresh_gateway id)
  else if (0x0004 ≤ addr ∧ addr ≤ 0x007C) ∨ addr = 0x3000 then
    (p.regs.write size addr val).map fun regs => { p with regs }.refresh_order
  else if 0x2004 ≤ addr ∧ addr ≤ 0x207C then
    (p.regs.write size addr val).map fun regs =>
      { p with regs }.refresh_enabled (irq_id_from_addr addr)
  else (p.regs.write size addr val).map fun regs => { p with regs }

/-- `poll`: the interrupt it schedules, if any, whose line it first drives low. -/
def poll (p : PicImpl) : Checked Empty (PicImpl × Option (Fin 32)) := do
  match ← p.highest_priority_irq (MAX_PRIORITY - 1) with
  | some irq => pure (p.irq_set_level irq false, some irq)
  | none =>
    match ← p.highest_priority_irq 0 with
    | some irq => pure (p.irq_set_level irq false, some irq)
    | none => pure (p, none)

end PicMmioRegisters

/-- `Irq`: an interrupt line registered with the PIC. -/
structure Irq where
  id : Fin 32

/-- `Irq::set_level`. -/
def Irq.set_level (irq : Irq) (p : PicImpl) (is_high : Bool) : PicImpl :=
  p.irq_set_level irq.id is_high

/-- What drives the PIC: a bus write, a line driven by its peripheral, or the bus polling it. -/
inductive PicInput
  | write (size : RvSize) (addr val : UInt32)
  | set_level (irq : Irq) (is_high : Bool)
  | poll

/-- The PIC after one input; a failed write leaves it as it was. -/
def PicInput.apply (p : PicImpl) : PicInput → PicImpl
  | .write size addr val =>
    match PicMmioRegisters.write p size addr val with
    | .ok p' => p'
    | .error _ => p
  | .set_level irq is_high => irq.set_level p is_high
  | .poll =>
    match PicMmioRegisters.poll p with
    | .ok (p', _) => p'
    | .error _ => p

/-- The PIC after a sequence of inputs. -/
def PicImpl.run (p : PicImpl) (inputs : List PicInput) : PicImpl := inputs.foldl PicInput.apply p

end Caliptra.Emulator
