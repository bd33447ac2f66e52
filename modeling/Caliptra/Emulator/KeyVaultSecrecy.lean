import Caliptra.Emulator.KeyVaultLocks

/-!
# Key bytes reach only the key reads

The key vault keeps keys that firmware must never see: its bus map has no window on the key
memory, and only the peripherals' key reads return key bytes. Two vaults that agree on every
register and on the key bytes at a set of addresses `A` (`KeysAgree A`) are what an observer of
the calls is not meant to tell apart. Every call but a key read gives the same answer from two
such vaults and leads to two such vaults again (`step_keys_agree`): the bus, the key writes, the
PCRs, the debug fill and the resets move no key byte into an answer or into another byte. By the
unwinding argument (`Simulation.runSteps_rel`) no run of such calls reveals a key byte
(`run_keys_agree`).

A use-locked key is guarded further: its bytes reach no answer even in a run of key reads, as long
as none is a `read_key_locked` of it (the path by which the crypto engines use a locked key) and
there is no reset, which lifts the lock and leaves the bytes in place (`use_locked_key_secret`).
-/

namespace Caliptra.Emulator

open Simulation

/-- The call is one of the peripherals' key reads, which return key bytes. -/
def KvInput.reads_key : KvInput → Bool
  | .read_key .. | .read_key_locked .. | .read_key_as_data .. => true
  | _ => false

/-- The call is a `read_key_locked` of slot `i`, which returns its bytes past the use lock. -/
def KvInput.reads_locked_key (i : Fin 32) : KvInput → Bool
  | .read_key_locked key_id _ => key_id.toNat == i.val
  | _ => false

namespace KeyVaultRegs

/-- The registers with the key memory blanked. -/
def without_keys (regs : KeyVaultRegs) : KeyVaultRegs := { regs with keys := fun _ => 0 }

/-- Two vaults that agree on every register and on the key bytes at the addresses `A`. -/
structure KeysAgree (A : Set Nat) (s t : KeyVaultRegs) : Prop where
  regs_eq : s.without_keys = t.without_keys
  keys_eq : ∀ a ∈ A, s.keys a = t.keys a

/-- The key bytes of every slot but `i`. -/
def other_key_bytes (i : Fin 32) : Set Nat := {a | a / KeyVault.KEY_SIZE ≠ i.val}

variable {A : Set Nat} {s t : KeyVaultRegs} {k : Memory}

/-- A vault that agrees with `s` on every register is `s` with other key bytes. -/
theorem KeysAgree.eq_with_keys (h : KeysAgree A s t) : t = { s with keys := t.keys } := by
  have hr := h.regs_eq
  cases s
  cases t
  simp only [without_keys, mk.injEq, true_and] at hr
  obtain ⟨rfl, rfl, rfl, rfl, rfl, rfl, rfl, rfl, rfl, rfl, rfl, rfl⟩ := hr
  rfl

/-! ## Writes move no key byte

Each state change is compared on `s` and on `s` with other key bytes `k`: the writes look at the
registers alone, so both sides take the same branch, and each key write puts the same bytes at the
same addresses on both sides. -/

section Writes

variable (hk : ∀ a ∈ A, s.keys a = k a)
include hk

theorem keys_agree_with_keys : KeysAgree A s { s with keys := k } := ⟨rfl, hk⟩

theorem keys_agree_write_key_ctrl (index : Fin 32) (val : UInt32) :
    KeysAgree A (s.write_key_ctrl index val) ({ s with keys := k }.write_key_ctrl index val) := by
  refine ⟨rfl, fun a ha => ?_⟩
  unfold write_key_ctrl
  dsimp only
  split_ifs
  · exact Memory.write_apply_congr (hk a ha) _ _
  · exact hk a ha

theorem keys_agree_write (size : RvSize) (addr val : UInt32) :
    ResultRel (KeysAgree A) (s.write size addr val) ({ s with keys := k }.write size addr val) := by
  unfold write
  -- the dispatch looks at the address alone: the same register on both sides
  repeat' split
  all_goals try simp only [write_sticky_datavault_entry, write_nonsticky_datavault_entry,
    write_nonsticky_lockable_scratch, write_sticky_lockable_scratch]
  all_goals first
    | exact keys_agree_write_key_ctrl hk _ _
    | exact ResultRel.map _ fun _ => keys_agree_with_keys hk
    | exact keys_agree_with_keys hk
    | exact rfl

theorem keys_agree_write_key (key_id : UInt32) (key : List UInt8) (key_usage : UInt32) :
    ResultRel (KeysAgree A) (s.write_key key_id key key_usage)
      ({ s with keys := k }.write_key key_id key key_usage) := by
  unfold write_key
  dsimp only
  split_ifs
  · refine ResultRel.bind _ fun _ => ResultRel.bind _ fun _ => ResultRel.bind _ fun _ => ?_
    exact ⟨rfl, fun a ha => Memory.write_apply_congr (hk a ha) _ _⟩
  · exact ResultRel.bind _ fun _ => rfl

theorem keys_agree_write_pcr (pcr_id : UInt32) (pcr : Vector UInt8 48) :
    ResultRel (KeysAgree A) (s.write_pcr pcr_id pcr) ({ s with keys := k }.write_pcr pcr_id pcr) := by
  unfold write_pcr
  dsimp only
  split_ifs
  · exact keys_agree_with_keys hk
  · exact rfl

theorem keys_agree_clear_with_debug_values (sel : Bool) :
    KeysAgree A (s.clear_with_debug_values sel) ({ s with keys := k }.clear_with_debug_values sel) :=
  ⟨rfl, fun a ha => Memory.write_apply_congr (hk a ha) _ _⟩

end Writes

/-! ## One call -/

section Step

variable {R : KeyVaultRegs → KeyVaultRegs → Prop}

theorem resultRel_ofExcept {x y : Except BusError KeyVaultRegs} (hxy : ResultRel R x y) :
    ResultRel R (Checked.ofExcept x) (Checked.ofExcept y) := by
  rcases hxy.error_or_ok with ⟨e, rfl, rfl⟩ | ⟨s', t', rfl, rfl, hst'⟩
  · exact rfl
  · exact hst'

theorem reply_rel (hst : R s t) (x : Checked BusError KvData) :
    ResultRel (fun r r' => R r.1 r'.1 ∧ r.2 = r'.2) (s.reply x) (t.reply x) := by
  rcases x with (e | _) | d
  · exact ⟨hst, rfl⟩
  · exact rfl
  · exact ⟨hst, rfl⟩

theorem reply_rel_of_eq (hst : R s t) {x y : Checked BusError KvData} (hxy : x = y) :
    ResultRel (fun r r' => R r.1 r'.1 ∧ r.2 = r'.2) (s.reply x) (t.reply y) :=
  hxy ▸ reply_rel hst x

theorem commit_rel (hst : R s t) {x y : Checked BusError KeyVaultRegs} (hxy : ResultRel R x y) :
    ResultRel (fun r r' => R r.1 r'.1 ∧ r.2 = r'.2) (s.commit x) (t.commit y) := by
  rcases hxy.error_or_ok with ⟨e | _, rfl, rfl⟩ | ⟨s', t', rfl, rfl, hst'⟩
  · -- the same refusal leaves both vaults as they were
    exact ⟨hst, rfl⟩
  · exact rfl
  · exact ⟨hst', rfl⟩

end Step

/-- Every call but a key read gives the same answer from two vaults that agree on the registers
and on the key bytes `A`, and leads to two such vaults. -/
theorem step_keys_agree (h : KeysAgree A s t) {input : KvInput} (hin : input.reads_key = false) :
    ResultRel (fun r r' => KeysAgree A r.1 r'.1 ∧ r.2 = r'.2) (s.step input) (t.step input) := by
  obtain ⟨k, rfl⟩ : ∃ k, t = { s with keys := k } := ⟨t.keys, h.eq_with_keys⟩
  have hk : ∀ a ∈ A, s.keys a = k a := h.keys_eq
  cases input with
  | read size addr => exact reply_rel h _
  | write size addr val => exact commit_rel h (resultRel_ofExcept (keys_agree_write hk size addr val))
  | read_key | read_key_locked | read_key_as_data => cases hin
  | write_key key_id key key_usage => exact commit_rel h (keys_agree_write_key hk key_id key key_usage)
  | read_pcr pcr_id => exact reply_rel h _
  | write_pcr pcr_id pcr => exact commit_rel h (keys_agree_write_pcr hk pcr_id pcr)
  | clear_keys_with_debug_values sel => exact ⟨keys_agree_clear_with_debug_values hk sel, rfl⟩
  | warm_reset => exact ⟨keys_agree_with_keys hk, rfl⟩
  | update_reset => exact ⟨keys_agree_with_keys hk, rfl⟩

/-- No run without key reads reveals a key byte: from two vaults that agree on the registers and
on the key bytes `A`, it gives the same answers, or panics at the same call, and ends in two such
vaults. With `A` empty, the key memory has no say in any answer. -/
theorem run_keys_agree {inputs : List KvInput} (hst : KeysAgree A s t)
    (hinputs : ∀ input ∈ inputs, input.reads_key = false) :
    ResultRel (fun r r' => KeysAgree A r.1 r'.1 ∧ r.2 = r'.2) (s.run inputs) (t.run inputs) :=
  runSteps_rel step (KeysAgree A) (fun input => input.reads_key = false)
    (fun _ _ _ hin h => step_keys_agree h hin) inputs s t hinputs hst

/-- Two vaults differing in the bytes of key 0: a key write, a bus read, a `CLEAR` of key 0 and
the debug fill answer alike. -/
theorem run_keys_agree_clear_and_fill :
    KeysAgree {a | 48 ≤ a} KeyVaultRegs.new
        { KeyVaultRegs.new with keys := fun a => if a < 48 then 0xAA else 0 } ∧
      (∀ input ∈ [KvInput.write_key 1 [1, 2, 3, 4] 1, .read .Word 0x04, .write .Word 0x00 4,
        .clear_keys_with_debug_values true], input.reads_key = false) ∧
      ResultRel (fun r r' => KeysAgree {a | 48 ≤ a} r.1 r'.1 ∧ r.2 = r'.2)
        (KeyVaultRegs.new.run [.write_key 1 [1, 2, 3, 4] 1, .read .Word 0x04, .write .Word 0x00 4,
          .clear_keys_with_debug_values true])
        ({ KeyVaultRegs.new with keys := fun a => if a < 48 then 0xAA else 0 }.run
          [.write_key 1 [1, 2, 3, 4] 1, .read .Word 0x04, .write .Word 0x00 4,
            .clear_keys_with_debug_values true]) := by
  have hst : KeysAgree {a | 48 ≤ a} KeyVaultRegs.new
      { KeyVaultRegs.new with keys := fun a => if a < 48 then 0xAA else 0 } := by
    refine ⟨rfl, fun a ha => ?_⟩
    have ha' : ¬a < 48 := Nat.not_lt.mpr ha
    simp [KeyVaultRegs.new, ha']
  exact ⟨hst, by decide, run_keys_agree hst (by decide)⟩

/-! ## A use-locked key

Its bytes are the only ones two vaults may differ in (`other_key_bytes i`). A key read of another
slot reads bytes on which they agree; `read_key` and `read_key_as_data` of the locked slot are
refused on both sides alike. -/

section UseLocked

variable {i : Fin 32} {key_id : UInt32}

theorem mem_other_key_bytes (h : key_id.toNat ≠ i.val) {j : Nat} (hj : j < KeyVault.KEY_SIZE) :
    key_id.toNat * KeyVault.KEY_SIZE + j ∈ other_key_bytes i := by
  simp only [other_key_bytes, KeyVault.KEY_SIZE, Set.mem_ofPred_eq] at hj ⊢
  omega

section Reads

variable (hk : ∀ j < KeyVault.KEY_SIZE,
  s.keys (key_id.toNat * KeyVault.KEY_SIZE + j) = k (key_id.toNat * KeyVault.KEY_SIZE + j))
  (u : KeyUsage)
include hk

theorem read_key_congr : s.read_key key_id u = { s with keys := k }.read_key key_id u := by
  simp only [read_key, Memory.read_congr hk]

theorem read_key_locked_congr :
    s.read_key_locked key_id u = { s with keys := k }.read_key_locked key_id u := by
  simp only [read_key_locked, Memory.read_congr hk]

end Reads

/-- `read_key_as_data` reads the key bytes only through `read_key`. -/
theorem read_key_as_data_of_read_key {u : KeyUsage}
    (h : s.read_key key_id u = { s with keys := k }.read_key key_id u) :
    s.read_key_as_data key_id u = { s with keys := k }.read_key_as_data key_id u := by
  unfold read_key_as_data
  rw [h]

/-- With key `i` use-locked, every call but a `read_key_locked` of it gives the same answer from
two vaults that differ at most in its bytes, and leads to two such vaults. -/
theorem step_use_locked_agree (hlock : UseLocked i s) (h : KeysAgree (other_key_bytes i) s t)
    {input : KvInput} (hin : input.reads_locked_key i = false) :
    ResultRel (fun r r' => KeysAgree (other_key_bytes i) r.1 r'.1 ∧ r.2 = r'.2)
      (s.step input) (t.step input) := by
  obtain ⟨k, rfl⟩ : ∃ k, t = { s with keys := k } := ⟨t.keys, h.eq_with_keys⟩
  -- a key read of another slot reads bytes on which the two vaults agree
  have hslot : ∀ key_id : UInt32, key_id.toNat ≠ i.val → ∀ j < KeyVault.KEY_SIZE,
      s.keys (key_id.toNat * KeyVault.KEY_SIZE + j) = k (key_id.toNat * KeyVault.KEY_SIZE + j) :=
    fun key_id hne j hj => h.keys_eq _ (mem_other_key_bytes hne hj)
  -- `read_key` of the locked slot is refused on both sides, and of another it reads the same bytes
  have hread : ∀ key_id u, s.read_key key_id u = { s with keys := k }.read_key key_id u := by
    intro key_id u
    by_cases heq : key_id.toNat = i.val
    · have hi : key_id.toNat < KeyVault.KEY_COUNT := heq ▸ i.isLt
      have hlock' : UseLocked ⟨_, hi⟩ s := by
        obtain rfl : (⟨_, hi⟩ : Fin 32) = i := Fin.ext heq
        exact hlock
      have hlock'' : UseLocked ⟨_, hi⟩ { s with keys := k } := hlock'.of_eq rfl
      rw [read_key_of_use_locked hi hlock', read_key_of_use_locked hi hlock'']
    · exact read_key_congr (hslot key_id heq) u
  cases input with
  | read_key key_id u => exact reply_rel_of_eq h (by rw [hread])
  | read_key_as_data key_id u =>
    exact reply_rel_of_eq h (by rw [read_key_as_data_of_read_key (hread key_id u)])
  | read_key_locked key_id u =>
    have hne : key_id.toNat ≠ i.val := by simpa [KvInput.reads_locked_key] using hin
    exact reply_rel_of_eq h (by rw [read_key_locked_congr (hslot key_id hne) u])
  | read | write | write_key | read_pcr | write_pcr | clear_keys_with_debug_values | warm_reset
  | update_reset => exact step_keys_agree h rfl

/-- A use-locked key's bytes reach no answer: every run without a reset and without a
`read_key_locked` of it, key reads of every kind included, gives the same answers from two vaults
that differ at most in its bytes, and ends in two such vaults. A reset lifts the lock and leaves
the bytes, which `read_key` then returns. -/
theorem use_locked_key_secret {inputs : List KvInput} (hlock : UseLocked i s)
    (hst : KeysAgree (other_key_bytes i) s t)
    (hinputs : ∀ input ∈ inputs,
      input ≠ .warm_reset ∧ input ≠ .update_reset ∧ input.reads_locked_key i = false) :
    ResultRel (fun r r' => KeysAgree (other_key_bytes i) r.1 r'.1 ∧ r.2 = r'.2)
      (s.run inputs) (t.run inputs) := by
  -- the lock is part of the relation that the steps keep
  have hrun := runSteps_rel step (fun s t => KeysAgree (other_key_bytes i) s t ∧ UseLocked i s)
    (fun input => input ≠ .warm_reset ∧ input ≠ .update_reset ∧ input.reads_locked_key i = false)
    (fun s t input hin h => by
      refine ResultRel.mono ?_
        ((step_use_locked_agree h.2 h.1 hin.2.2).and_of_ok fun r hr => h.2.step ⟨hin.1, hin.2.1⟩ hr)
      rintro r r' ⟨⟨hkeys, hout⟩, hl⟩
      exact ⟨⟨hkeys, hl⟩, hout⟩)
    inputs s t hinputs ⟨hst, hlock⟩
  exact ResultRel.mono (fun r r' h => ⟨h.1.1, h.2⟩) hrun

/-- Key 2 use-locked: its reads are refused alike, and a key written to slot 3 and read back is
the same on both sides. -/
theorem use_locked_key_secret_other_slot_reads :
    UseLocked 2 (KeyVaultRegs.new.write_key_ctrl 2 2) ∧
      KeysAgree (other_key_bytes 2) (KeyVaultRegs.new.write_key_ctrl 2 2)
        { KeyVaultRegs.new.write_key_ctrl 2 2 with
          keys := fun a => if a / 48 = 2 then 0x55 else (KeyVaultRegs.new.write_key_ctrl 2 2).keys a } ∧
      (∀ input ∈ [KvInput.read_key 2 ⟨1⟩, .read_key_as_data 2 ⟨1⟩, .write_key 3 [1, 2, 3, 4] 1,
        .read_key 3 ⟨1⟩], input ≠ .warm_reset ∧ input ≠ .update_reset ∧
          input.reads_locked_key 2 = false) ∧
      ResultRel (fun r r' => KeysAgree (other_key_bytes 2) r.1 r'.1 ∧ r.2 = r'.2)
        ((KeyVaultRegs.new.write_key_ctrl 2 2).run [.read_key 2 ⟨1⟩, .read_key_as_data 2 ⟨1⟩,
          .write_key 3 [1, 2, 3, 4] 1, .read_key 3 ⟨1⟩])
        ({ KeyVaultRegs.new.write_key_ctrl 2 2 with
          keys := fun a => if a / 48 = 2 then 0x55 else (KeyVaultRegs.new.write_key_ctrl 2 2).keys a }.run
            [.read_key 2 ⟨1⟩, .read_key_as_data 2 ⟨1⟩, .write_key 3 [1, 2, 3, 4] 1,
              .read_key 3 ⟨1⟩]) := by
  have hlock : UseLocked 2 (KeyVaultRegs.new.write_key_ctrl 2 2) := by decide
  have hst : KeysAgree (other_key_bytes 2) (KeyVaultRegs.new.write_key_ctrl 2 2)
      { KeyVaultRegs.new.write_key_ctrl 2 2 with
        keys := fun a => if a / 48 = 2 then 0x55 else (KeyVaultRegs.new.write_key_ctrl 2 2).keys a } := by
    refine ⟨rfl, fun a ha => ?_⟩
    have ha' : ¬a / 48 = 2 := ha
    simp only [ha', if_false]
  exact ⟨hlock, hst, by decide, use_locked_key_secret hlock hst (by decide)⟩

end UseLocked

end KeyVaultRegs

end Caliptra.Emulator
