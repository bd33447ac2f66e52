import Mathlib
import Caliptra.Lib.Register
import Caliptra.Lib.Memory
import Caliptra.Lib.Bytes
import Caliptra.Lib.RustCore
import Caliptra.Lib.Simulation
import Caliptra.Emulator.Bus

/-!
# The key vault (`sw-emulator/lib/periph/src/key_vault.rs`)

`KeyVaultRegs` holds the 32 key slots with their control registers, the 32 PCRs with theirs, and
the data vault: 10 sticky entries of 12 words, 10 non-sticky ones, and three banks of scratch
words, two of them behind lock registers. Firmware reaches the registers over the bus; the
crypto peripherals that share the vault read and write keys and PCRs through its internal
interface.

Every lock is or-ed in by its control register and never cleared by a write: the data-vault and
scratch locks refuse writes to the words they guard, a key's write lock refuses `write_key` and
the `CLEAR` bit, its use lock refuses `read_key` and `write_key`, and a PCR's lock refuses only the
`CLEAR` bit. A warm or update reset clears the key, PCR, non-sticky data-vault and lockable
scratch locks, and leaves the sticky ones set.

The key memory (`ReadWriteMemory<0x600>`, not on the bus) is a `Memory`; key `i` is its bytes
`48 * i` to `48 * i + 47`. `KeyVault` shares one `KeyVaultRegs` between the bus and the
peripherals and forwards every call to it, so the calls are written on `KeyVaultRegs`.
-/

namespace Caliptra.Emulator

open Register

namespace KeyVault

/-- `KeyVault::KEY_COUNT`. -/
def KEY_COUNT : Nat := 32

/-- `KeyVault::KEY_SIZE`. -/
def KEY_SIZE : Nat := 48

end KeyVault

/-- `PCR_SIZE_WORDS`. -/
def PCR_SIZE_WORDS : Nat := 12

/-- `PCR_REG_SIZE_WORDS`: the words of the 32 PCRs. -/
def PCR_REG_SIZE_WORDS : Nat := 0x600 >>> 2

/-- `KEY_REG_SIZE`: the bytes of the 32 keys. -/
def KEY_REG_SIZE : Nat := 0x600

/-- `STICKY_DATAVAULT_ENTRY_SIZE_WORDS` and `NONSTICKY_DATAVAULT_ENTRY_SIZE_WORDS`. -/
def DATAVAULT_ENTRY_SIZE_WORDS : Nat := 48 >>> 2

/-! ## Control register fields -/

namespace KV_CONTROL

/-- `WRITE_LOCK OFFSET(0) NUMBITS(1)`. -/
def WRITE_LOCK : Field := ⟨0x1, 0⟩

/-- `USE_LOCK OFFSET(1) NUMBITS(1)`. -/
def USE_LOCK : Field := ⟨0x1, 1⟩

/-- `CLEAR OFFSET(2) NUMBITS(1)`. -/
def CLEAR : Field := ⟨0x1, 2⟩

/-- `USAGE OFFSET(9) NUMBITS(6)`. -/
def USAGE : Field := ⟨0x3F, 9⟩

/-- `LAST_DWORD OFFSET(15) NUMBITS(4)`. -/
def LAST_DWORD : Field := ⟨0xF, 15⟩

theorem WRITE_LOCK_wf : WRITE_LOCK.Wf 1 := ⟨rfl, by decide, by decide⟩
theorem USE_LOCK_wf : USE_LOCK.Wf 1 := ⟨rfl, by decide, by decide⟩
theorem USAGE_wf : USAGE.Wf 6 := ⟨rfl, by decide, by decide⟩
theorem LAST_DWORD_wf : LAST_DWORD.Wf 4 := ⟨rfl, by decide, by decide⟩

end KV_CONTROL

namespace PV_CONTROL

/-- `LOCK OFFSET(0) NUMBITS(1)`. -/
def LOCK : Field := ⟨0x1, 0⟩

/-- `CLEAR OFFSET(1) NUMBITS(1)`. -/
def CLEAR : Field := ⟨0x1, 1⟩

theorem LOCK_wf : LOCK.Wf 1 := ⟨rfl, by decide, by decide⟩

end PV_CONTROL

namespace DV_CONTROL

/-- `LOCK_ENTRY OFFSET(0) NUMBITS(1)`. -/
def LOCK_ENTRY : Field := ⟨0x1, 0⟩

theorem LOCK_ENTRY_wf : LOCK_ENTRY.Wf 1 := ⟨rfl, by decide, by decide⟩

end DV_CONTROL

/-- `KeyUsage`: the uses a key may be put to, as flags (`hmac_key`, `hmac_data`, `sha_data`,
`ecc_private_key`, `ecc_key_gen_seed`). -/
structure KeyUsage where
  bits : UInt32
  deriving DecidableEq

/-! ## Lock registers and the words they guard

The four data-vault and scratch banks differ only in their registers and in which lock guards
which word, so their write paths are two functions of the bank. -/

/-- The write path of a `DV_CONTROL` register: the written lock is or-ed into the old one. -/
def write_lock_ctrl {n : Nat} (ctrl : Vector UInt32 n) (index : Fin n) (val : UInt32) :
    Vector UInt32 n :=
  let ctrl_reg := ctrl.get index
  ctrl.set index (DV_CONTROL.LOCK_ENTRY.val
    (DV_CONTROL.LOCK_ENTRY.read ctrl_reg ||| DV_CONTROL.LOCK_ENTRY.read val) |>.modify ctrl_reg)
    index.isLt

/-- The write path of a guarded word: refused while the lock register `ctrl_index` is set. -/
def write_locked_word {m n : Nat} (ctrl : Vector UInt32 m) (words : Vector UInt32 n)
    (ctrl_index : Fin m) (word_index : Fin n) (val : UInt32) : Except BusError (Vector UInt32 n) :=
  if DV_CONTROL.LOCK_ENTRY.read (ctrl.get ctrl_index) ≠ 0 then .error .StoreAccessFault
  else .ok (words.set word_index val word_index.isLt)

theorem datavault_entry_lt (word_index : Fin 120) : word_index.val / DATAVAULT_ENTRY_SIZE_WORDS < 10 := by
  have := word_index.isLt
  simp only [DATAVAULT_ENTRY_SIZE_WORDS, Nat.reduceShiftRight]
  omega

/-- The data-vault entry a word belongs to. -/
def datavault_entry_of (word_index : Fin 120) : Fin 10 :=
  ⟨word_index.val / DATAVAULT_ENTRY_SIZE_WORDS, datavault_entry_lt word_index⟩

/-! ## The registers -/

/-- `KeyVaultRegs`. -/
structure KeyVaultRegs where
  /-- `KEY_COUNT` control registers (`KV_CONTROL`). -/
  key_control : Vector UInt32 32
  /-- The key memory, `KEY_REG_SIZE` bytes. -/
  keys : Memory
  /-- `PCR_COUNT` control registers (`PV_CONTROL`). -/
  pcr_control : Vector UInt32 32
  /-- `PCR_REG_SIZE_WORDS` words, `PCR_SIZE_WORDS` for each PCR. -/
  pcrs : Vector UInt32 384
  sticky_datavault_control : Vector UInt32 10
  /-- `STICKY_DATAVAULT_SIZE_WORDS` words, 12 for each entry. -/
  sticky_datavault_entry : Vector UInt32 120
  datavault_control : Vector UInt32 10
  datavault_entry : Vector UInt32 120
  lockable_scratch_control : Vector UInt32 10
  lockable_scratch : Vector UInt32 10
  nonsticky_generic_scratch : Vector UInt32 8
  sticky_lockable_scratch_control : Vector UInt32 8
  sticky_lockable_scratch : Vector UInt32 8

namespace KeyVaultRegs

/-- `KeyVaultRegs::new`: every register and byte zero. -/
def new : KeyVaultRegs where
  key_control := Vector.replicate 32 0
  keys := fun _ => 0
  pcr_control := Vector.replicate 32 0
  pcrs := Vector.replicate 384 0
  sticky_datavault_control := Vector.replicate 10 0
  sticky_datavault_entry := Vector.replicate 120 0
  datavault_control := Vector.replicate 10 0
  datavault_entry := Vector.replicate 120 0
  lockable_scratch_control := Vector.replicate 10 0
  lockable_scratch := Vector.replicate 10 0
  nonsticky_generic_scratch := Vector.replicate 8 0
  sticky_lockable_scratch_control := Vector.replicate 8 0
  sticky_lockable_scratch := Vector.replicate 8 0

/-- `unlock_vault_registers`: the PCR, key, data-vault and lockable scratch locks cleared. -/
def unlock_vault_registers (regs : KeyVaultRegs) : KeyVaultRegs :=
  { regs with
    pcr_control := regs.pcr_control.map PV_CONTROL.LOCK.CLEAR.modify
    key_control := regs.key_control.map (KV_CONTROL.WRITE_LOCK.CLEAR + KV_CONTROL.USE_LOCK.CLEAR).modify
    datavault_control := regs.datavault_control.map DV_CONTROL.LOCK_ENTRY.CLEAR.modify
    lockable_scratch_control := regs.lockable_scratch_control.map DV_CONTROL.LOCK_ENTRY.CLEAR.modify }

/-- `warm_reset`. -/
def warm_reset (regs : KeyVaultRegs) : KeyVaultRegs := regs.unlock_vault_registers

/-- `update_reset`. -/
def update_reset (regs : KeyVaultRegs) : KeyVaultRegs := regs.unlock_vault_registers

/-- `write_pcr_ctrl`: the lock is or-ed in; `CLEAR` zeroes the PCR unless it is locked. -/
def write_pcr_ctrl (regs : KeyVaultRegs) (index : Fin 32) (val : UInt32) : KeyVaultRegs :=
  let pcr_ctrl_reg := regs.pcr_control.get index
  let pcr_ctrl_reg := PV_CONTROL.LOCK.val
    (PV_CONTROL.LOCK.read pcr_ctrl_reg ||| PV_CONTROL.LOCK.read val) |>.modify pcr_ctrl_reg
  let pcr_start := index.val * PCR_SIZE_WORDS
  { regs with
    pcr_control := regs.pcr_control.set index pcr_ctrl_reg index.isLt
    pcrs :=
      if PV_CONTROL.LOCK.read pcr_ctrl_reg = 0 ∧ PV_CONTROL.CLEAR.is_set val then
        Vector.ofFn fun k => if pcr_start ≤ k.val ∧ k.val < pcr_start + PCR_SIZE_WORDS then 0
          else regs.pcrs.get k
      else regs.pcrs }

/-- `write_key_ctrl`: both locks are or-ed in; `CLEAR` zeroes the key unless it is write-locked.
The usage bits are not written. -/
def write_key_ctrl (regs : KeyVaultRegs) (index : Fin 32) (val : UInt32) : KeyVaultRegs :=
  let key_ctrl_reg := regs.key_control.get index
  let key_ctrl_reg := KV_CONTROL.WRITE_LOCK.val
    (KV_CONTROL.WRITE_LOCK.read key_ctrl_reg ||| KV_CONTROL.WRITE_LOCK.read val) |>.modify key_ctrl_reg
  let key_ctrl_reg := KV_CONTROL.USE_LOCK.val
    (KV_CONTROL.USE_LOCK.read key_ctrl_reg ||| KV_CONTROL.USE_LOCK.read val) |>.modify key_ctrl_reg
  let key_min := index.val * KeyVault.KEY_SIZE
  { regs with
    key_control := regs.key_control.set index key_ctrl_reg index.isLt
    keys :=
      if KV_CONTROL.WRITE_LOCK.read key_ctrl_reg = 0 ∧ KV_CONTROL.CLEAR.is_set val then
        Memory.write regs.keys key_min (List.replicate KeyVault.KEY_SIZE 0)
      else regs.keys }

/-- `read_key`: refused when the key is use-locked or has none of the desired uses. -/
def read_key (regs : KeyVaultRegs) (key_id : UInt32) (desired_usage : KeyUsage) :
    Checked BusError (List UInt8) := do
  let key_ctrl_reg ← Checked.index regs.key_control key_id.toNat
  Checked.failIf (KV_CONTROL.USE_LOCK.read key_ctrl_reg ≠ 0 ∨
    KV_CONTROL.USAGE.read key_ctrl_reg &&& desired_usage.bits = 0) .LoadAccessFault
  let key_start := key_id.toNat * KeyVault.KEY_SIZE
  pure (Memory.read regs.keys key_start KeyVault.KEY_SIZE)

/-- `read_key_locked`: as `read_key`, but a use-locked key is read too. -/
def read_key_locked (regs : KeyVaultRegs) (key_id : UInt32) (desired_usage : KeyUsage) :
    Checked BusError (List UInt8) := do
  let key_ctrl_reg ← Checked.index regs.key_control key_id.toNat
  Checked.failIf (KV_CONTROL.USAGE.read key_ctrl_reg &&& desired_usage.bits = 0) .LoadAccessFault
  let key_start := key_id.toNat * KeyVault.KEY_SIZE
  pure (Memory.read regs.keys key_start KeyVault.KEY_SIZE)

/-- `read_key_as_data`: the key cut or padded with zeros to its `LAST_DWORD + 1` words. -/
def read_key_as_data (regs : KeyVaultRegs) (key_id : UInt32) (desired_usage : KeyUsage) :
    Checked BusError (List UInt8) := do
  let result ← regs.read_key key_id desired_usage
  let key_ctrl_reg ← Checked.index regs.key_control key_id.toNat
  let last_dword := KV_CONTROL.LAST_DWORD.read key_ctrl_reg
  -- `Vec::resize`
  let len := (last_dword + 1).toNat * 4
  pure (result.take len ++ List.replicate (len - result.length) 0)

/-- `write_key`: a key of at most 48 bytes in whole words, refused when the slot is write- or
use-locked; it sets the usage and the last word. An empty key passes the checks and then panics
on `key_wordlen as u32 - 1`. -/
def write_key (regs : KeyVaultRegs) (key_id : UInt32) (key : List UInt8) (key_usage : UInt32) :
    Checked BusError KeyVaultRegs := do
  Checked.failIf (key.length > KeyVault.KEY_SIZE ∨ key.length % 4 ≠ 0) .StoreAccessFault
  let key_wordlen := key.length / 4
  if h : key_id.toNat < KeyVault.KEY_COUNT then
    let key_ctrl_reg := regs.key_control.get ⟨key_id.toNat, h⟩
    Checked.failIf (KV_CONTROL.WRITE_LOCK.read key_ctrl_reg ≠ 0 ∨
      KV_CONTROL.USE_LOCK.read key_ctrl_reg ≠ 0) .StoreAccessFault
    let key_start := key_id.toNat * KeyVault.KEY_SIZE
    let key_ctrl_reg := (KV_CONTROL.USAGE.val key_usage).modify key_ctrl_reg
    let last_dword ← Checked.sub (UInt32.ofNat key_wordlen) 1
    let key_ctrl_reg := (KV_CONTROL.LAST_DWORD.val last_dword).modify key_ctrl_reg
    pure { regs with
      keys := Memory.write regs.keys key_start key
      key_control := regs.key_control.set key_id.toNat key_ctrl_reg h }
  else Checked.panic

/-- `clear_with_debug_values`: every key byte set to a debug value, locks or not. -/
def clear_with_debug_values (regs : KeyVaultRegs) (sel_debug_value : Bool) : KeyVaultRegs :=
  let fill_byte : UInt8 := if sel_debug_value then 0x55 else 0xaa
  { regs with keys := Memory.write regs.keys 0 (List.replicate KEY_REG_SIZE fill_byte) }

/-- `read_pcr`: the PCR's words as little-endian bytes; past the last PCR the slice panics. -/
def read_pcr (regs : KeyVaultRegs) (pcr_id : UInt32) : Checked BusError (List UInt8) :=
  let pcr_start := pcr_id.toNat * PCR_SIZE_WORDS
  if pcr_start + PCR_SIZE_WORDS ≤ PCR_REG_SIZE_WORDS then
    pure (((List.range PCR_SIZE_WORDS).map fun k => regs.pcrs.toList.getD (pcr_start + k) 0).flatMap
      Bytes.le32)
  else Checked.panic

/-- `write_pcr`: the 48 bytes as little-endian words over the PCR; its lock is not looked at. -/
def write_pcr (regs : KeyVaultRegs) (pcr_id : UInt32) (pcr : Vector UInt8 48) :
    Checked BusError KeyVaultRegs :=
  let pcr_start := pcr_id.toNat * PCR_SIZE_WORDS
  if pcr_start + PCR_SIZE_WORDS ≤ PCR_REG_SIZE_WORDS then
    pure { regs with
      pcrs := Vector.ofFn fun k =>
        if pcr_start ≤ k.val ∧ k.val < pcr_start + PCR_SIZE_WORDS then
          let b := 4 * (k.val - pcr_start)
          Bytes.ofLe32 (pcr.toList.getD b 0) (pcr.toList.getD (b + 1) 0)
            (pcr.toList.getD (b + 2) 0) (pcr.toList.getD (b + 3) 0)
        else regs.pcrs.get k }
  else Checked.panic

/-- `write_sticky_datavault_ctrl`. -/
def write_sticky_datavault_ctrl (regs : KeyVaultRegs) (index : Fin 10) (val : UInt32) :
    KeyVaultRegs :=
  { regs with sticky_datavault_control := write_lock_ctrl regs.sticky_datavault_control index val }

/-- `write_sticky_datavault_entry`: guarded by the lock of the word's entry. -/
def write_sticky_datavault_entry (regs : KeyVaultRegs) (word_index : Fin 120) (val : UInt32) :
    Except BusError KeyVaultRegs :=
  (write_locked_word regs.sticky_datavault_control regs.sticky_datavault_entry
    (datavault_entry_of word_index) word_index val).map
    fun words => { regs with sticky_datavault_entry := words }

/-- `write_nonsticky_datavault_ctrl`. -/
def write_nonsticky_datavault_ctrl (regs : KeyVaultRegs) (index : Fin 10) (val : UInt32) :
    KeyVaultRegs :=
  { regs with datavault_control := write_lock_ctrl regs.datavault_control index val }

/-- `write_nonsticky_datavault_entry`: guarded by the lock of the word's entry. -/
def write_nonsticky_datavault_entry (regs : KeyVaultRegs) (word_index : Fin 120) (val : UInt32) :
    Except BusError KeyVaultRegs :=
  (write_locked_word regs.datavault_control regs.datavault_entry
    (datavault_entry_of word_index) word_index val).map
    fun words => { regs with datavault_entry := words }

/-- `write_nonsticky_lockable_scratch_ctrl`. -/
def write_nonsticky_lockable_scratch_ctrl (regs : KeyVaultRegs) (index : Fin 10) (val : UInt32) :
    KeyVaultRegs :=
  { regs with lockable_scratch_control := write_lock_ctrl regs.lockable_scratch_control index val }

/-- `write_nonsticky_lockable_scratch`: guarded by the lock of the same index. -/
def write_nonsticky_lockable_scratch (regs : KeyVaultRegs) (word_index : Fin 10) (val : UInt32) :
    Except BusError KeyVaultRegs :=
  (write_locked_word regs.lockable_scratch_control regs.lockable_scratch word_index word_index
    val).map fun words => { regs with lockable_scratch := words }

/-- `write_sticky_lockable_scratch_ctrl`. -/
def write_sticky_lockable_scratch_ctrl (regs : KeyVaultRegs) (index : Fin 8) (val : UInt32) :
    KeyVaultRegs :=
  { regs with
    sticky_lockable_scratch_control := write_lock_ctrl regs.sticky_lockable_scratch_control index val }

/-- `write_sticky_lockable_scratch`: guarded by the lock of the same index. -/
def write_sticky_lockable_scratch (regs : KeyVaultRegs) (word_index : Fin 8) (val : UInt32) :
    Except BusError KeyVaultRegs :=
  (write_locked_word regs.sticky_lockable_scratch_control regs.sticky_lockable_scratch word_index
    word_index val).map fun words => { regs with sticky_lockable_scratch := words }

/-! ## The bus -/

/-- `Bus::read`, as `#[derive(Bus)]` dispatches it; the key memory is not on the bus. Every item
is a `u32` register, read as a word. -/
def read (regs : KeyVaultRegs) (size : RvSize) (addr : UInt32) : Except BusError UInt32 :=
  match register_array_index 0x0000 32 addr with
  | some i => ReadWriteRegister.read (regs.key_control.get i) size
  | none =>
  match register_array_index 0x2000 32 addr with
  | some i => ReadWriteRegister.read (regs.pcr_control.get i) size
  | none =>
  match register_array_index 0x2600 384 addr with
  | some i => ReadWriteRegister.read (regs.pcrs.get i) size
  | none =>
  match register_array_index 0x4000 10 addr with
  | some i => ReadWriteRegister.read (regs.sticky_datavault_control.get i) size
  | none =>
  match register_array_index 0x4028 120 addr with
  | some i => ReadWriteRegister.read (regs.sticky_datavault_entry.get i) size
  | none =>
  match register_array_index 0x4208 10 addr with
  | some i => ReadWriteRegister.read (regs.datavault_control.get i) size
  | none =>
  match register_array_index 0x4230 120 addr with
  | some i => ReadWriteRegister.read (regs.datavault_entry.get i) size
  | none =>
  match register_array_index 0x4410 10 addr with
  | some i => ReadWriteRegister.read (regs.lockable_scratch_control.get i) size
  | none =>
  match register_array_index 0x4438 10 addr with
  | some i => ReadWriteRegister.read (regs.lockable_scratch.get i) size
  | none =>
  match register_array_index 0x4460 8 addr with
  | some i => ReadWriteRegister.read (regs.nonsticky_generic_scratch.get i) size
  | none =>
  match register_array_index 0x4480 8 addr with
  | some i => ReadWriteRegister.read (regs.sticky_lockable_scratch_control.get i) size
  | none =>
  match register_array_index 0x44a0 8 addr with
  | some i => ReadWriteRegister.read (regs.sticky_lockable_scratch.get i) size
  | none => .error .LoadAccessFault

/-- `Bus::write`, as `#[derive(Bus)]` dispatches it: the registers after the write. A field with
a `write_fn` takes any size; the PCR words and the generic scratch words are plain `u32`
registers and take word writes. -/
def write (regs : KeyVaultRegs) (size : RvSize) (addr val : UInt32) : Except BusError KeyVaultRegs :=
  match register_array_index 0x0000 32 addr with
  | some i => .ok (regs.write_key_ctrl i val)
  | none =>
  match register_array_index 0x2000 32 addr with
  | some i => .ok (regs.write_pcr_ctrl i val)
  | none =>
  match register_array_index 0x2600 384 addr with
  | some i => (ReadWriteRegister.write size val).map fun v =>
      { regs with pcrs := regs.pcrs.set i v i.isLt }
  | none =>
  match register_array_index 0x4000 10 addr with
  | some i => .ok (regs.write_sticky_datavault_ctrl i val)
  | none =>
  match register_array_index 0x4028 120 addr with
  | some i => regs.write_sticky_datavault_entry i val
  | none =>
  match register_array_index 0x4208 10 addr with
  | some i => .ok (regs.write_nonsticky_datavault_ctrl i val)
  | none =>
  match register_array_index 0x4230 120 addr with
  | some i => regs.write_nonsticky_datavault_entry i val
  | none =>
  match register_array_index 0x4410 10 addr with
  | some i => .ok (regs.write_nonsticky_lockable_scratch_ctrl i val)
  | none =>
  match register_array_index 0x4438 10 addr with
  | some i => regs.write_nonsticky_lockable_scratch i val
  | none =>
  match register_array_index 0x4460 8 addr with
  | some i => (ReadWriteRegister.write size val).map fun v =>
      { regs with nonsticky_generic_scratch := regs.nonsticky_generic_scratch.set i v i.isLt }
  | none =>
  match register_array_index 0x4480 8 addr with
  | some i => .ok (regs.write_sticky_lockable_scratch_ctrl i val)
  | none =>
  match register_array_index 0x44a0 8 addr with
  | some i => regs.write_sticky_lockable_scratch i val
  | none => .error .StoreAccessFault

end KeyVaultRegs

/-! ## Runs -/

/-- What reaches the key vault: the bus, the crypto peripherals through `KeyVault`, the root
bus's debug-value fill, and the resets. -/
inductive KvInput
  | read (size : RvSize) (addr : UInt32)
  | write (size : RvSize) (addr val : UInt32)
  | read_key (key_id : UInt32) (desired_usage : KeyUsage)
  | read_key_locked (key_id : UInt32) (desired_usage : KeyUsage)
  | read_key_as_data (key_id : UInt32) (desired_usage : KeyUsage)
  | write_key (key_id : UInt32) (key : List UInt8) (key_usage : UInt32)
  | read_pcr (pcr_id : UInt32)
  | write_pcr (pcr_id : UInt32) (pcr : Vector UInt8 48)
  | clear_keys_with_debug_values (sel_debug_value : Bool)
  | warm_reset
  | update_reset
  deriving DecidableEq

/-- What a call returns: a word, bytes, or nothing. -/
inductive KvData
  | word (v : UInt32)
  | bytes (bs : List UInt8)
  | unit

namespace KeyVaultRegs

/-- A call that reads: the caller gets the result, and the registers stay as they are. -/
def reply (regs : KeyVaultRegs) (x : Checked BusError KvData) :
    Checked Empty (KeyVaultRegs × Except BusError KvData) :=
  match x with
  | .ok d => .ok (regs, .ok d)
  | .error (.error e) => .ok (regs, .error e)
  | .error .panic => Checked.panic

/-- A call that writes: a refused one leaves the registers as they are. -/
def commit (regs : KeyVaultRegs) (x : Checked BusError KeyVaultRegs) :
    Checked Empty (KeyVaultRegs × Except BusError KvData) :=
  match x with
  | .ok regs' => .ok (regs', .ok .unit)
  | .error (.error e) => .ok (regs, .error e)
  | .error .panic => Checked.panic

/-- One call: the registers after it and what the caller gets, or a panic. -/
def step (regs : KeyVaultRegs) : KvInput → Checked Empty (KeyVaultRegs × Except BusError KvData)
  | .read size addr => regs.reply (Checked.ofExcept ((regs.read size addr).map .word))
  | .write size addr val => regs.commit (Checked.ofExcept (regs.write size addr val))
  | .read_key key_id u => regs.reply ((regs.read_key key_id u).map .bytes)
  | .read_key_locked key_id u => regs.reply ((regs.read_key_locked key_id u).map .bytes)
  | .read_key_as_data key_id u => regs.reply ((regs.read_key_as_data key_id u).map .bytes)
  | .write_key key_id key key_usage => regs.commit (regs.write_key key_id key key_usage)
  | .read_pcr pcr_id => regs.reply ((regs.read_pcr pcr_id).map .bytes)
  | .write_pcr pcr_id pcr => regs.commit (regs.write_pcr pcr_id pcr)
  | .clear_keys_with_debug_values sel => .ok (regs.clear_with_debug_values sel, .ok .unit)
  | .warm_reset => .ok (regs.warm_reset, .ok .unit)
  | .update_reset => .ok (regs.update_reset, .ok .unit)

/-- A sequence of calls: the registers after them and what each returned, or a panic. -/
def run (regs : KeyVaultRegs) (inputs : List KvInput) :
    Checked Empty (KeyVaultRegs × List (Except BusError KvData)) :=
  Simulation.runSteps step regs inputs

end KeyVaultRegs

end Caliptra.Emulator
