import Mathlib
import Caliptra.Lib.Slice
import Caliptra.Emulator.KeyVault

/-!
# What the key vault's locks protect (`sw-emulator/lib/periph/src/key_vault.rs`)

The data vault is four banks of guarded words (`DvBank`): the sticky and non-sticky entries of
12 words, each guarded by the lock of its entry, and the lockable and sticky lockable scratch
words, each guarded by a lock of its own. A bus write reaches a bank through `write_lock_ctrl`
or `write_locked_word` on the bank's registers, and every other call leaves the bank alone
(`write_eq_ok`, `step_state`). So a locked entry keeps its lock and its words over every run
(`datavault_entry_frozen`); a warm or update reset ends that only for the two non-sticky banks.

A write-locked key keeps its bytes, its usage and its last word over every run without a reset
or a debug-value fill (`write_locked_key_frozen`), and a use-locked key stays unreadable by
`read_key` (`use_locked_key_unreadable`). What `write_key` stores in an unlocked slot is read back
by `read_key_as_data` as it was written, its last-word index trimming the slot's 48 bytes to the
key (`read_key_as_data_write_key`). A locked PCR is only protected from `CLEAR`: `write_pcr` and
bus writes to its words still change it (`locked_pcr_frozen`).
-/

namespace Caliptra.Emulator

open Register

/-- Lock register `e` of a bank is set. -/
def Locked {n : Nat} (ctrl : Vector UInt32 n) (e : Fin n) : Prop :=
  DV_CONTROL.LOCK_ENTRY.read (ctrl.get e) ≠ 0

instance {n : Nat} (ctrl : Vector UInt32 n) (e : Fin n) : Decidable (Locked ctrl e) :=
  inferInstanceAs (Decidable (_ ≠ _))

/-! ## The two write paths of a bank -/

section Bank

variable {m n : Nat} {ctrl : Vector UInt32 m} {words words' : Vector UInt32 n}

theorem locked_write_lock_ctrl {e : Fin m} (h : Locked ctrl e) (index : Fin m) (val : UInt32) :
    Locked (write_lock_ctrl ctrl index val) e := by
  unfold Locked write_lock_ctrl
  by_cases hi : index = e
  · subst hi
    rw [Vector.get_set_self, Field.read_modify_or_of_ne_zero DV_CONTROL.LOCK_ENTRY_wf h]
    decide
  · rwa [Vector.get_set_of_ne hi]

theorem write_locked_word_eq_ok {ci : Fin m} {wi : Fin n} {val : UInt32} :
    write_locked_word ctrl words ci wi val = .ok words' ↔
      ¬Locked ctrl ci ∧ words' = words.set wi val wi.isLt := by
  unfold write_locked_word Locked
  split_ifs with h
  · simp [h]
  · simp [h, eq_comm]

/-- A guarded word write keeps every word whose lock is set. -/
theorem write_locked_word_get {guard : Fin n → Fin m} {e : Fin m} (he : Locked ctrl e)
    {wi : Fin n} {val : UInt32} (h : write_locked_word ctrl words (guard wi) wi val = .ok words')
    {k : Fin n} (hk : guard k = e) : words'.get k = words.get k := by
  obtain ⟨hnl, rfl⟩ := write_locked_word_eq_ok.mp h
  have hne : wi ≠ k := by
    rintro rfl
    exact hnl (hk ▸ he)
  exact Vector.get_set_of_ne hne _

end Bank

/-! ## The data vault as four banks -/

/-- The four banks of guarded words. -/
inductive DvBank
  | sticky_datavault
  | datavault
  | lockable_scratch
  | sticky_lockable_scratch
  deriving DecidableEq

namespace DvBank

/-- The number of lock registers. -/
def ctrl_count : DvBank → Nat
  | sticky_datavault => 10
  | datavault => 10
  | lockable_scratch => 10
  | sticky_lockable_scratch => 8

/-- The number of guarded words. -/
def word_count : DvBank → Nat
  | sticky_datavault => 120
  | datavault => 120
  | lockable_scratch => 10
  | sticky_lockable_scratch => 8

/-- The lock registers. -/
def ctrl : (b : DvBank) → KeyVaultRegs → Vector UInt32 b.ctrl_count
  | sticky_datavault, regs => regs.sticky_datavault_control
  | datavault, regs => regs.datavault_control
  | lockable_scratch, regs => regs.lockable_scratch_control
  | sticky_lockable_scratch, regs => regs.sticky_lockable_scratch_control

/-- The guarded words. -/
def words : (b : DvBank) → KeyVaultRegs → Vector UInt32 b.word_count
  | sticky_datavault, regs => regs.sticky_datavault_entry
  | datavault, regs => regs.datavault_entry
  | lockable_scratch, regs => regs.lockable_scratch
  | sticky_lockable_scratch, regs => regs.sticky_lockable_scratch

/-- The lock that guards a word. -/
def guard : (b : DvBank) → Fin b.word_count → Fin b.ctrl_count
  | sticky_datavault, k => datavault_entry_of k
  | datavault, k => datavault_entry_of k
  | lockable_scratch, k => k
  | sticky_lockable_scratch, k => k

/-- The bank's locks survive warm and update resets. -/
def sticky : DvBank → Bool
  | sticky_datavault => true
  | datavault => false
  | lockable_scratch => false
  | sticky_lockable_scratch => true

/-- New lock registers for the bank. -/
def set_ctrl : (b : DvBank) → KeyVaultRegs → Vector UInt32 b.ctrl_count → KeyVaultRegs
  | sticky_datavault, regs, c => { regs with sticky_datavault_control := c }
  | datavault, regs, c => { regs with datavault_control := c }
  | lockable_scratch, regs, c => { regs with lockable_scratch_control := c }
  | sticky_lockable_scratch, regs, c => { regs with sticky_lockable_scratch_control := c }

/-- New guarded words for the bank. -/
def set_words : (b : DvBank) → KeyVaultRegs → Vector UInt32 b.word_count → KeyVaultRegs
  | sticky_datavault, regs, w => { regs with sticky_datavault_entry := w }
  | datavault, regs, w => { regs with datavault_entry := w }
  | lockable_scratch, regs, w => { regs with lockable_scratch := w }
  | sticky_lockable_scratch, regs, w => { regs with sticky_lockable_scratch := w }

variable {regs : KeyVaultRegs}

@[simp] theorem ctrl_set_ctrl_self (b : DvBank) (c : Vector UInt32 b.ctrl_count) :
    b.ctrl (b.set_ctrl regs c) = c := by
  cases b <;> rfl

theorem ctrl_set_ctrl_of_ne {b b' : DvBank} (h : b ≠ b') (c : Vector UInt32 b'.ctrl_count) :
    b.ctrl (b'.set_ctrl regs c) = b.ctrl regs := by
  cases b <;> cases b' <;> first | rfl | exact absurd rfl h

@[simp] theorem words_set_ctrl (b b' : DvBank) (c : Vector UInt32 b'.ctrl_count) :
    b.words (b'.set_ctrl regs c) = b.words regs := by
  cases b <;> cases b' <;> rfl

@[simp] theorem ctrl_set_words (b b' : DvBank) (w : Vector UInt32 b'.word_count) :
    b.ctrl (b'.set_words regs w) = b.ctrl regs := by
  cases b <;> cases b' <;> rfl

@[simp] theorem words_set_words_self (b : DvBank) (w : Vector UInt32 b.word_count) :
    b.words (b.set_words regs w) = w := by
  cases b <;> rfl

theorem words_set_words_of_ne {b b' : DvBank} (h : b ≠ b') (w : Vector UInt32 b'.word_count) :
    b.words (b'.set_words regs w) = b.words regs := by
  cases b <;> cases b' <;> first | rfl | exact absurd rfl h

/-! The calls outside the data vault leave every bank alone. -/

@[simp] theorem ctrl_with_keys (b : DvBank) (kc : Vector UInt32 32) (k : Memory) :
    b.ctrl { regs with key_control := kc, keys := k } = b.ctrl regs := by
  cases b <;> rfl

@[simp] theorem words_with_keys (b : DvBank) (kc : Vector UInt32 32) (k : Memory) :
    b.words { regs with key_control := kc, keys := k } = b.words regs := by
  cases b <;> rfl

@[simp] theorem ctrl_with_pcrs (b : DvBank) (pc : Vector UInt32 32) (p : Vector UInt32 384) :
    b.ctrl { regs with pcr_control := pc, pcrs := p } = b.ctrl regs := by
  cases b <;> rfl

@[simp] theorem words_with_pcrs (b : DvBank) (pc : Vector UInt32 32) (p : Vector UInt32 384) :
    b.words { regs with pcr_control := pc, pcrs := p } = b.words regs := by
  cases b <;> rfl

@[simp] theorem ctrl_with_generic_scratch (b : DvBank) (g : Vector UInt32 8) :
    b.ctrl { regs with nonsticky_generic_scratch := g } = b.ctrl regs := by
  cases b <;> rfl

@[simp] theorem words_with_generic_scratch (b : DvBank) (g : Vector UInt32 8) :
    b.words { regs with nonsticky_generic_scratch := g } = b.words regs := by
  cases b <;> rfl

end DvBank

/-! ## What a bus write can do -/

namespace KeyVaultRegs

variable {regs regs' : KeyVaultRegs} {size : RvSize} {addr val : UInt32}

/-- Every way a bus write goes through: a key or PCR control write, a word write to a PCR or to
the generic scratch, or one of the two write paths of a data-vault bank. -/
theorem write_eq_ok (h : regs.write size addr val = .ok regs') :
    (∃ i, regs' = regs.write_key_ctrl i val) ∨
    (∃ i, regs' = regs.write_pcr_ctrl i val) ∨
    (∃ i : Fin 384, register_array_index 0x2600 384 addr = some i ∧ size = .Word ∧
      regs' = { regs with pcrs := regs.pcrs.set i val i.isLt }) ∨
    (∃ i : Fin 8, size = .Word ∧
      regs' = { regs with nonsticky_generic_scratch := regs.nonsticky_generic_scratch.set i val i.isLt }) ∨
    (∃ (b : DvBank) (i : Fin b.ctrl_count),
      regs' = b.set_ctrl regs (write_lock_ctrl (b.ctrl regs) i val)) ∨
    (∃ (b : DvBank) (i : Fin b.word_count) (words : Vector UInt32 b.word_count),
      write_locked_word (b.ctrl regs) (b.words regs) (b.guard i) i val = .ok words ∧
      regs' = b.set_words regs words) := by
  -- the arms in the order `#[derive(Bus)]` tries them; an address no arm takes is refused
  unfold write at h
  split at h
  · exact .inl ⟨_, (Except.ok.inj h).symm⟩
  split at h
  · exact .inr <| .inl ⟨_, (Except.ok.inj h).symm⟩
  split at h
  · obtain ⟨v, hv, rfl⟩ := Except.map_eq_ok.mp h
    obtain ⟨hs, rfl⟩ := ReadWriteRegister.write_eq_ok.mp hv
    exact .inr <| .inr <| .inl ⟨_, ‹_›, hs, rfl⟩
  split at h
  · exact .inr <| .inr <| .inr <| .inr <| .inl ⟨.sticky_datavault, _, (Except.ok.inj h).symm⟩
  split at h
  · obtain ⟨w, hw, rfl⟩ := Except.map_eq_ok.mp h
    exact .inr <| .inr <| .inr <| .inr <| .inr ⟨.sticky_datavault, _, w, hw, rfl⟩
  split at h
  · exact .inr <| .inr <| .inr <| .inr <| .inl ⟨.datavault, _, (Except.ok.inj h).symm⟩
  split at h
  · obtain ⟨w, hw, rfl⟩ := Except.map_eq_ok.mp h
    exact .inr <| .inr <| .inr <| .inr <| .inr ⟨.datavault, _, w, hw, rfl⟩
  split at h
  · exact .inr <| .inr <| .inr <| .inr <| .inl ⟨.lockable_scratch, _, (Except.ok.inj h).symm⟩
  split at h
  · obtain ⟨w, hw, rfl⟩ := Except.map_eq_ok.mp h
    exact .inr <| .inr <| .inr <| .inr <| .inr ⟨.lockable_scratch, _, w, hw, rfl⟩
  split at h
  · obtain ⟨v, hv, rfl⟩ := Except.map_eq_ok.mp h
    obtain ⟨hs, rfl⟩ := ReadWriteRegister.write_eq_ok.mp hv
    exact .inr <| .inr <| .inr <| .inl ⟨_, hs, rfl⟩
  split at h
  · exact .inr <| .inr <| .inr <| .inr <| .inl ⟨.sticky_lockable_scratch, _, (Except.ok.inj h).symm⟩
  split at h
  · obtain ⟨w, hw, rfl⟩ := Except.map_eq_ok.mp h
    exact .inr <| .inr <| .inr <| .inr <| .inr ⟨.sticky_lockable_scratch, _, w, hw, rfl⟩
  · cases h

/-! ## The internal writes -/

/-- What a `write_key` that goes through checked, and what it stores: the key from the slot's
first byte, the usage, and the index of the key's last word. -/
theorem write_key_eq_ok {key_id : UInt32} {key : List UInt8} {key_usage : UInt32} :
    regs.write_key key_id key key_usage = .ok regs' ↔
      ∃ h : key_id.toNat < KeyVault.KEY_COUNT, key.length ≤ KeyVault.KEY_SIZE ∧
        key.length % 4 = 0 ∧ key ≠ [] ∧
        KV_CONTROL.WRITE_LOCK.read (regs.key_control.get ⟨_, h⟩) = 0 ∧
        KV_CONTROL.USE_LOCK.read (regs.key_control.get ⟨_, h⟩) = 0 ∧
        regs' = { regs with
          keys := Memory.write regs.keys (key_id.toNat * KeyVault.KEY_SIZE) key
          key_control := regs.key_control.set key_id.toNat
            ((KV_CONTROL.LAST_DWORD.val (UInt32.ofNat (key.length / 4) - 1)).modify
              ((KV_CONTROL.USAGE.val key_usage).modify (regs.key_control.get ⟨_, h⟩))) h } := by
  unfold write_key
  rw [Checked.failIf_bind_eq_ok]
  by_cases h : key_id.toNat < KeyVault.KEY_COUNT
  · rw [dif_pos h, Checked.failIf_bind_eq_ok, Checked.bind_eq_ok]
    constructor
    · rintro ⟨hlen, hlocks, last, hsub, hok⟩
      obtain ⟨hpos, rfl⟩ := Checked.sub_eq_ok.mp hsub
      simp only [not_or, not_lt, ne_eq, not_not, KeyVault.KEY_SIZE] at hlen hlocks
      refine ⟨h, hlen.1, hlen.2, ?_, hlocks.1, hlocks.2, (Except.ok.inj hok).symm⟩
      -- an empty key makes `key_wordlen as u32 - 1` underflow
      rintro rfl
      simp at hpos
    · rintro ⟨h', hl, hm, hne, hwl, hul, hregs⟩
      have hpos : 0 < key.length := List.length_pos_iff.mpr hne
      simp only [KeyVault.KEY_SIZE] at hl
      have hw : (UInt32.ofNat (key.length / 4)).toNat = key.length / 4 := by
        rw [UInt32.toNat_ofNat', Nat.mod_eq_of_lt (by omega)]
      have hlen : ¬(key.length > KeyVault.KEY_SIZE ∨ key.length % 4 ≠ 0) := by
        simp only [KeyVault.KEY_SIZE]
        omega
      have hsub : (Checked.sub (UInt32.ofNat (key.length / 4)) 1 : Checked BusError UInt32) =
          .ok (UInt32.ofNat (key.length / 4) - 1) := by
        refine Checked.sub_eq_ok.mpr ⟨?_, rfl⟩
        rw [hw]
        show 1 ≤ key.length / 4
        omega
      subst hregs
      exact ⟨hlen, by simp [hwl, hul], _, hsub, rfl⟩
  · simp only [dif_neg h, Checked.panic, reduceCtorEq, and_false, false_iff, not_exists]
    intro h'
    exact absurd h' h

/-- What a `write_pcr` that goes through stores: the PCR's words, read little-endian from the
bytes. -/
theorem write_pcr_eq_ok {pcr_id : UInt32} {pcr : Vector UInt8 48} :
    regs.write_pcr pcr_id pcr = .ok regs' ↔
      pcr_id.toNat < 32 ∧ regs' = { regs with
        pcrs := Vector.ofFn fun k =>
          if pcr_id.toNat * PCR_SIZE_WORDS ≤ k.val ∧ k.val < pcr_id.toNat * PCR_SIZE_WORDS + PCR_SIZE_WORDS then
            let b := 4 * (k.val - pcr_id.toNat * PCR_SIZE_WORDS)
            Bytes.ofLe32 (pcr.toList.getD b 0) (pcr.toList.getD (b + 1) 0)
              (pcr.toList.getD (b + 2) 0) (pcr.toList.getD (b + 3) 0)
          else regs.pcrs.get k } := by
  unfold write_pcr
  dsimp only
  split_ifs with h
  · simp only [PCR_SIZE_WORDS, PCR_REG_SIZE_WORDS, Nat.reduceShiftRight] at h
    simp only [Checked.pure_eq_ok, Except.ok.injEq]
    constructor
    · rintro rfl
      exact ⟨by omega, rfl⟩
    · rintro ⟨-, rfl⟩
      rfl
  · simp only [PCR_SIZE_WORDS, PCR_REG_SIZE_WORDS, Nat.reduceShiftRight] at h
    simp only [Checked.panic, reduceCtorEq, false_iff, not_and]
    intro hp
    omega

/-! ## What a call can do -/

theorem reply_fst {x : Checked BusError KvData} {r : KeyVaultRegs × Except BusError KvData}
    (h : regs.reply x = .ok r) : r.1 = regs := by
  unfold reply at h
  split at h <;> first | cases h; rfl | cases h

theorem commit_fst {x : Checked BusError KeyVaultRegs} {r : KeyVaultRegs × Except BusError KvData}
    (h : regs.commit x = .ok r) : r.1 = regs ∨ x = .ok r.1 := by
  unfold commit at h
  split at h
  · cases h
    exact .inr rfl
  · cases h
    exact .inl rfl
  · cases h

/-- The registers after a call: as they were, or as a bus write, `write_key`, `write_pcr`, the
debug-value fill or a reset leaves them. -/
theorem step_state {input : KvInput} {r : KeyVaultRegs × Except BusError KvData}
    (h : regs.step input = .ok r) :
    r.1 = regs ∨
    (∃ size addr val, input = .write size addr val ∧ regs.write size addr val = .ok r.1) ∨
    (∃ key_id key key_usage, input = .write_key key_id key key_usage ∧
      regs.write_key key_id key key_usage = .ok r.1) ∨
    (∃ pcr_id pcr, input = .write_pcr pcr_id pcr ∧ regs.write_pcr pcr_id pcr = .ok r.1) ∨
    (∃ sel, input = .clear_keys_with_debug_values sel ∧ r.1 = regs.clear_with_debug_values sel) ∨
    ((input = .warm_reset ∨ input = .update_reset) ∧ r.1 = regs.unlock_vault_registers) := by
  cases input with
  | read | read_key | read_key_locked | read_key_as_data | read_pcr => exact .inl (reply_fst h)
  | write size addr val =>
    rcases commit_fst h with h' | h'
    · exact .inl h'
    · exact .inr <| .inl ⟨size, addr, val, rfl, Checked.ofExcept_eq_ok.mp h'⟩
  | write_key key_id key key_usage =>
    rcases commit_fst h with h' | h'
    · exact .inl h'
    · exact .inr <| .inr <| .inl ⟨key_id, key, key_usage, rfl, h'⟩
  | write_pcr pcr_id pcr =>
    rcases commit_fst h with h' | h'
    · exact .inl h'
    · exact .inr <| .inr <| .inr <| .inl ⟨pcr_id, pcr, rfl, h'⟩
  | clear_keys_with_debug_values sel =>
    cases h
    exact .inr <| .inr <| .inr <| .inr <| .inl ⟨sel, rfl, rfl⟩
  | warm_reset =>
    cases h
    exact .inr <| .inr <| .inr <| .inr <| .inr ⟨.inl rfl, rfl⟩
  | update_reset =>
    cases h
    exact .inr <| .inr <| .inr <| .inr <| .inr ⟨.inr rfl, rfl⟩

end KeyVaultRegs

/-! ## The fields of a key's control register -/

namespace KeyVaultRegs

variable {regs : KeyVaultRegs} {i j : Fin 32} {val : UInt32}

theorem write_lock_write_key_ctrl (h : KV_CONTROL.WRITE_LOCK.read (regs.key_control.get i) ≠ 0) :
    KV_CONTROL.WRITE_LOCK.read ((regs.write_key_ctrl j val).key_control.get i) ≠ 0 := by
  simp only [write_key_ctrl]
  by_cases hji : j = i
  · subst hji
    rw [Vector.get_set_self, Field.read_modify_val_of_disjoint KV_CONTROL.USE_LOCK_wf
      KV_CONTROL.WRITE_LOCK_wf (by decide), Field.read_modify_or_of_ne_zero KV_CONTROL.WRITE_LOCK_wf h]
    decide
  · rwa [Vector.get_set_of_ne hji]

theorem use_lock_write_key_ctrl (h : KV_CONTROL.USE_LOCK.read (regs.key_control.get i) ≠ 0) :
    KV_CONTROL.USE_LOCK.read ((regs.write_key_ctrl j val).key_control.get i) ≠ 0 := by
  simp only [write_key_ctrl]
  by_cases hji : j = i
  · subst hji
    have h' : KV_CONTROL.USE_LOCK.read ((KV_CONTROL.WRITE_LOCK.val
        (KV_CONTROL.WRITE_LOCK.read (regs.key_control.get j) ||| KV_CONTROL.WRITE_LOCK.read val)).modify
        (regs.key_control.get j)) ≠ 0 := by
      rwa [Field.read_modify_val_of_disjoint KV_CONTROL.WRITE_LOCK_wf KV_CONTROL.USE_LOCK_wf
        (by decide)]
    rw [Vector.get_set_self, Field.read_modify_or_of_ne_zero KV_CONTROL.USE_LOCK_wf h']
    decide
  · rwa [Vector.get_set_of_ne hji]

/-- A control write sets locks only: the usage and the last word are not written. -/
theorem usage_write_key_ctrl :
    KV_CONTROL.USAGE.read ((regs.write_key_ctrl j val).key_control.get i) =
      KV_CONTROL.USAGE.read (regs.key_control.get i) := by
  simp only [write_key_ctrl]
  by_cases hji : j = i
  · subst hji
    rw [Vector.get_set_self, Field.read_modify_val_of_disjoint KV_CONTROL.USE_LOCK_wf
      KV_CONTROL.USAGE_wf (by decide), Field.read_modify_val_of_disjoint KV_CONTROL.WRITE_LOCK_wf
      KV_CONTROL.USAGE_wf (by decide)]
  · rw [Vector.get_set_of_ne hji]

theorem last_dword_write_key_ctrl :
    KV_CONTROL.LAST_DWORD.read ((regs.write_key_ctrl j val).key_control.get i) =
      KV_CONTROL.LAST_DWORD.read (regs.key_control.get i) := by
  simp only [write_key_ctrl]
  by_cases hji : j = i
  · subst hji
    rw [Vector.get_set_self, Field.read_modify_val_of_disjoint KV_CONTROL.USE_LOCK_wf
      KV_CONTROL.LAST_DWORD_wf (by decide), Field.read_modify_val_of_disjoint
      KV_CONTROL.WRITE_LOCK_wf KV_CONTROL.LAST_DWORD_wf (by decide)]
  · rw [Vector.get_set_of_ne hji]

/-- The bytes of key `i` lie apart from those of every other key. -/
theorem key_bytes_disjoint (hji : j ≠ i) {n : Nat} (hn : n ≤ KeyVault.KEY_SIZE) :
    i.val * KeyVault.KEY_SIZE + KeyVault.KEY_SIZE ≤ j.val * KeyVault.KEY_SIZE ∨
      j.val * KeyVault.KEY_SIZE + n ≤ i.val * KeyVault.KEY_SIZE := by
  have : j.val ≠ i.val := Fin.val_ne_of_ne hji
  simp only [KeyVault.KEY_SIZE] at hn ⊢
  rcases Nat.lt_or_gt_of_ne this with hlt | hlt
  · right
    nlinarith
  · left
    nlinarith

/-- `CLEAR` leaves a write-locked key alone, and clears no other key's bytes. -/
theorem keys_write_key_ctrl (h : KV_CONTROL.WRITE_LOCK.read (regs.key_control.get i) ≠ 0) :
    Memory.read (regs.write_key_ctrl j val).keys (i.val * KeyVault.KEY_SIZE) KeyVault.KEY_SIZE =
      Memory.read regs.keys (i.val * KeyVault.KEY_SIZE) KeyVault.KEY_SIZE := by
  by_cases hji : j = i
  · subst hji
    -- the lock read back after the write is set, so the clear does not happen
    have hl := @write_lock_write_key_ctrl regs j j val h
    simp only [write_key_ctrl, Vector.get_set_self] at hl ⊢
    rw [if_neg (fun hc => hl hc.1)]
  · simp only [write_key_ctrl]
    split_ifs
    · exact Memory.read_write_of_disjoint (by simpa using key_bytes_disjoint hji le_rfl)
    · rfl

end KeyVaultRegs

/-! ## A locked data-vault entry stays as it is -/

namespace DvBank

variable {b : DvBank} {e : Fin b.ctrl_count} {w : Vector UInt32 b.word_count}
  {regs regs' : KeyVaultRegs}

/-- Lock `e` of the bank is set, and the words it guards are those of `w`. -/
def Frozen (b : DvBank) (e : Fin b.ctrl_count) (w : Vector UInt32 b.word_count)
    (regs : KeyVaultRegs) : Prop :=
  Locked (b.ctrl regs) e ∧ ∀ k, b.guard k = e → (b.words regs).get k = w.get k

theorem Frozen.of_eq (h : Frozen b e w regs) (hc : b.ctrl regs' = b.ctrl regs)
    (hw : b.words regs' = b.words regs) : Frozen b e w regs' := by
  rw [Frozen, hc, hw]
  exact h

/-- A bus write keeps a frozen entry: a lock write only ors in, and a write to a guarded word
is refused. -/
theorem Frozen.write {size : RvSize} {addr val : UInt32} (h : Frozen b e w regs)
    (hw : regs.write size addr val = .ok regs') : Frozen b e w regs' := by
  rcases KeyVaultRegs.write_eq_ok hw with
    ⟨i, rfl⟩ | ⟨i, rfl⟩ | ⟨i, -, -, rfl⟩ | ⟨i, -, rfl⟩ | ⟨b', i, rfl⟩ | ⟨b', i, words, hwords, rfl⟩
  · exact h.of_eq (ctrl_with_keys _ _ _) (words_with_keys _ _ _)
  · exact h.of_eq (ctrl_with_pcrs _ _ _) (words_with_pcrs _ _ _)
  · exact h.of_eq (ctrl_with_pcrs _ _ _) (words_with_pcrs _ _ _)
  · exact h.of_eq (ctrl_with_generic_scratch _ _) (words_with_generic_scratch _ _)
  · by_cases hb : b = b'
    · subst hb
      refine ⟨?_, fun k hk => ?_⟩
      · rw [ctrl_set_ctrl_self]
        exact locked_write_lock_ctrl h.1 i val
      · rw [words_set_ctrl]
        exact h.2 k hk
    · exact h.of_eq (ctrl_set_ctrl_of_ne hb _) (words_set_ctrl _ _ _)
  · by_cases hb : b = b'
    · subst hb
      refine ⟨by rw [ctrl_set_words]; exact h.1, fun k hk => ?_⟩
      rw [words_set_words_self, write_locked_word_get h.1 hwords hk]
      exact h.2 k hk
    · exact h.of_eq (ctrl_set_words _ _ _) (words_set_words_of_ne hb _)

theorem ctrl_unlock_vault_registers (hb : b.sticky = true) :
    b.ctrl regs.unlock_vault_registers = b.ctrl regs := by
  cases b <;> first | rfl | cases hb

/-- Every call keeps a frozen entry, except a reset on a bank whose locks it clears. -/
theorem Frozen.step {input : KvInput} {r : KeyVaultRegs × Except BusError KvData}
    (h : Frozen b e w regs) (hreset : b.sticky = true ∨ (input ≠ .warm_reset ∧ input ≠ .update_reset))
    (hstep : regs.step input = .ok r) : Frozen b e w r.1 := by
  rcases KeyVaultRegs.step_state hstep with
    hr | ⟨_, _, _, -, hw⟩ | ⟨_, _, _, -, hk⟩ | ⟨_, _, -, hp⟩ | ⟨_, -, hr⟩ | ⟨hin, hr⟩
  · rw [hr]
    exact h
  · exact h.write hw
  · obtain ⟨_, -, -, -, -, -, hr⟩ := KeyVaultRegs.write_key_eq_ok.mp hk
    rw [hr]
    exact h.of_eq (ctrl_with_keys _ _ _) (words_with_keys _ _ _)
  · obtain ⟨-, hr⟩ := KeyVaultRegs.write_pcr_eq_ok.mp hp
    rw [hr]
    exact h.of_eq (ctrl_with_pcrs _ regs.pcr_control _) (words_with_pcrs _ regs.pcr_control _)
  · rw [hr]
    exact h.of_eq (ctrl_with_keys _ regs.key_control _) (words_with_keys _ regs.key_control _)
  · -- only a sticky bank keeps its locks through a reset
    have hb : b.sticky = true := by
      rcases hreset with hb | ⟨hw, hu⟩
      · exact hb
      · rcases hin with rfl | rfl
        · exact absurd rfl hw
        · exact absurd rfl hu
    exact h.of_eq (by rw [hr]; exact ctrl_unlock_vault_registers hb) (by rw [hr]; cases b <;> rfl)

end DvBank

/-! ## A write-locked key stays as it is -/

namespace KeyVaultRegs

variable {regs regs' : KeyVaultRegs} {i : Fin 32}

@[simp] theorem key_control_set_ctrl (b : DvBank) (c : Vector UInt32 b.ctrl_count) :
    (b.set_ctrl regs c).key_control = regs.key_control := by
  cases b <;> rfl

@[simp] theorem keys_set_ctrl (b : DvBank) (c : Vector UInt32 b.ctrl_count) :
    (b.set_ctrl regs c).keys = regs.keys := by
  cases b <;> rfl

@[simp] theorem key_control_set_words (b : DvBank) (w : Vector UInt32 b.word_count) :
    (b.set_words regs w).key_control = regs.key_control := by
  cases b <;> rfl

@[simp] theorem keys_set_words (b : DvBank) (w : Vector UInt32 b.word_count) :
    (b.set_words regs w).keys = regs.keys := by
  cases b <;> rfl

/-- Key `i` is write-locked, and its bytes, its usage and its last word are `bytes`, `usage` and
`last`. -/
structure KeyFrozen (i : Fin 32) (bytes : List UInt8) (usage last : UInt32)
    (regs : KeyVaultRegs) : Prop where
  write_locked : KV_CONTROL.WRITE_LOCK.read (regs.key_control.get i) ≠ 0
  bytes_eq : Memory.read regs.keys (i.val * KeyVault.KEY_SIZE) KeyVault.KEY_SIZE = bytes
  usage_eq : KV_CONTROL.USAGE.read (regs.key_control.get i) = usage
  last_dword_eq : KV_CONTROL.LAST_DWORD.read (regs.key_control.get i) = last

variable {bytes : List UInt8} {usage last : UInt32}

theorem KeyFrozen.of_eq (h : KeyFrozen i bytes usage last regs)
    (hc : regs'.key_control = regs.key_control) (hk : regs'.keys = regs.keys) :
    KeyFrozen i bytes usage last regs' := by
  obtain ⟨h1, h2, h3, h4⟩ := h
  exact ⟨hc ▸ h1, hk ▸ h2, hc ▸ h3, hc ▸ h4⟩

/-- A bus write keeps a write-locked key: its control register only ors in locks, and `CLEAR` is
refused. -/
theorem KeyFrozen.write {size : RvSize} {addr val : UInt32} (h : KeyFrozen i bytes usage last regs)
    (hw : regs.write size addr val = .ok regs') : KeyFrozen i bytes usage last regs' := by
  rcases write_eq_ok hw with
    ⟨j, rfl⟩ | ⟨j, rfl⟩ | ⟨j, -, -, rfl⟩ | ⟨j, -, rfl⟩ | ⟨b, j, rfl⟩ | ⟨b, j, words, -, rfl⟩
  · exact ⟨write_lock_write_key_ctrl h.1, (keys_write_key_ctrl h.1).trans h.2,
      usage_write_key_ctrl.trans h.3, last_dword_write_key_ctrl.trans h.4⟩
  · exact h.of_eq rfl rfl
  · exact h.of_eq rfl rfl
  · exact h.of_eq rfl rfl
  · exact h.of_eq (key_control_set_ctrl _ _) (keys_set_ctrl _ _)
  · exact h.of_eq (key_control_set_words _ _) (keys_set_words _ _)

/-- `write_key` refuses a write-locked slot and writes no other slot's bytes. -/
theorem KeyFrozen.write_key {key_id : UInt32} {key : List UInt8} {key_usage : UInt32}
    (h : KeyFrozen i bytes usage last regs) (hk : regs.write_key key_id key key_usage = .ok regs') :
    KeyFrozen i bytes usage last regs' := by
  obtain ⟨hid, hlen, -, -, hwl, -, rfl⟩ := write_key_eq_ok.mp hk
  have hne : (⟨key_id.toNat, hid⟩ : Fin 32) ≠ i := by
    rintro rfl
    exact h.1 hwl
  have hget : ∀ x, (regs.key_control.set key_id.toNat x hid).get i = regs.key_control.get i :=
    fun x => Vector.get_set_of_ne hne x
  refine ⟨?_, ?_, ?_, ?_⟩
  · rw [hget]
    exact h.1
  · rw [← h.2]
    exact Memory.read_write_of_disjoint (key_bytes_disjoint hne hlen)
  · rw [hget]
    exact h.3
  · rw [hget]
    exact h.4

/-- Every call but a reset or a debug-value fill keeps a write-locked key. -/
theorem KeyFrozen.step {input : KvInput} {r : KeyVaultRegs × Except BusError KvData}
    (h : KeyFrozen i bytes usage last regs)
    (hin : input ≠ .warm_reset ∧ input ≠ .update_reset ∧ ∀ sel, input ≠ .clear_keys_with_debug_values sel)
    (hstep : regs.step input = .ok r) : KeyFrozen i bytes usage last r.1 := by
  rcases step_state hstep with
    hr | ⟨_, _, _, -, hw⟩ | ⟨_, _, _, -, hk⟩ | ⟨_, _, -, hp⟩ | ⟨sel, rfl, -⟩ | ⟨hr, -⟩
  · rw [hr]
    exact h
  · exact h.write hw
  · exact h.write_key hk
  · obtain ⟨-, hr⟩ := write_pcr_eq_ok.mp hp
    rw [hr]
    exact h.of_eq rfl rfl
  · exact absurd rfl (hin.2.2 sel)
  · rcases hr with rfl | rfl
    · exact absurd rfl hin.1
    · exact absurd rfl hin.2.1

/-! ## A use-locked key stays unreadable -/

/-- Key `i` is use-locked. -/
def UseLocked (i : Fin 32) (regs : KeyVaultRegs) : Prop :=
  KV_CONTROL.USE_LOCK.read (regs.key_control.get i) ≠ 0

instance (i : Fin 32) (regs : KeyVaultRegs) : Decidable (UseLocked i regs) :=
  inferInstanceAs (Decidable (_ ≠ _))

theorem UseLocked.of_eq (h : UseLocked i regs) (hc : regs'.key_control = regs.key_control) :
    UseLocked i regs' := by
  rw [UseLocked, hc]
  exact h

theorem UseLocked.write {size : RvSize} {addr val : UInt32} (h : UseLocked i regs)
    (hw : regs.write size addr val = .ok regs') : UseLocked i regs' := by
  rcases write_eq_ok hw with
    ⟨j, rfl⟩ | ⟨j, rfl⟩ | ⟨j, -, -, rfl⟩ | ⟨j, -, rfl⟩ | ⟨b, j, rfl⟩ | ⟨b, j, words, -, rfl⟩
  · exact use_lock_write_key_ctrl h
  · exact h.of_eq rfl
  · exact h.of_eq rfl
  · exact h.of_eq rfl
  · exact h.of_eq (key_control_set_ctrl _ _)
  · exact h.of_eq (key_control_set_words _ _)

theorem UseLocked.write_key {key_id : UInt32} {key : List UInt8} {key_usage : UInt32}
    (h : UseLocked i regs) (hk : regs.write_key key_id key key_usage = .ok regs') :
    UseLocked i regs' := by
  obtain ⟨hid, -, -, -, -, hul, rfl⟩ := write_key_eq_ok.mp hk
  have hne : (⟨key_id.toNat, hid⟩ : Fin 32) ≠ i := by
    rintro rfl
    exact h hul
  rw [UseLocked, Vector.get_set_of_ne hne]
  exact h

/-- Every call but a reset keeps a key use-locked; the debug-value fill writes bytes only. -/
theorem UseLocked.step {input : KvInput} {r : KeyVaultRegs × Except BusError KvData}
    (h : UseLocked i regs) (hin : input ≠ .warm_reset ∧ input ≠ .update_reset)
    (hstep : regs.step input = .ok r) : UseLocked i r.1 := by
  rcases step_state hstep with
    hr | ⟨_, _, _, -, hw⟩ | ⟨_, _, _, -, hk⟩ | ⟨_, _, -, hp⟩ | ⟨sel, -, hr⟩ | ⟨hr, -⟩
  · rw [hr]
    exact h
  · exact h.write hw
  · exact h.write_key hk
  · obtain ⟨-, hr⟩ := write_pcr_eq_ok.mp hp
    rw [hr]
    exact h.of_eq rfl
  · rw [hr]
    exact h.of_eq rfl
  · rcases hr with rfl | rfl
    · exact absurd rfl hin.1
    · exact absurd rfl hin.2

/-- `read_key` once the slot is known: the lock and usage check, then the slot's bytes. -/
theorem read_key_eq {key_id : UInt32} (hi : key_id.toNat < KeyVault.KEY_COUNT) (u : KeyUsage) :
    regs.read_key key_id u =
      (Checked.failIf (KV_CONTROL.USE_LOCK.read (regs.key_control.get ⟨_, hi⟩) ≠ 0 ∨
        KV_CONTROL.USAGE.read (regs.key_control.get ⟨_, hi⟩) &&& u.bits = 0) .LoadAccessFault >>=
        fun _ => pure (Memory.read regs.keys (key_id.toNat * KeyVault.KEY_SIZE) KeyVault.KEY_SIZE)) := by
  simp only [read_key, Checked.index, dif_pos (show key_id.toNat < 32 from hi),
    Vector.get_eq_getElem]
  rfl

theorem read_key_of_use_locked {key_id : UInt32} (hi : key_id.toNat < KeyVault.KEY_COUNT)
    (h : UseLocked ⟨_, hi⟩ regs) (u : KeyUsage) :
    regs.read_key key_id u = Checked.fail .LoadAccessFault := by
  rw [read_key_eq hi, Checked.failIf, if_pos (.inl h)]
  rfl

/-! ## A written key reads back -/

/-- `read_key_as_data` once the slot is known: the key's bytes, cut or padded to its words. -/
theorem read_key_as_data_eq {key_id : UInt32} (hi : key_id.toNat < KeyVault.KEY_COUNT)
    (u : KeyUsage) :
    regs.read_key_as_data key_id u = (regs.read_key key_id u).map fun result =>
      result.take ((KV_CONTROL.LAST_DWORD.read (regs.key_control.get ⟨_, hi⟩) + 1).toNat * 4) ++
        List.replicate ((KV_CONTROL.LAST_DWORD.read (regs.key_control.get ⟨_, hi⟩) + 1).toNat * 4 -
          result.length) 0 := by
  simp only [read_key_as_data, Checked.index, dif_pos (show key_id.toNat < 32 from hi),
    Vector.get_eq_getElem]
  cases regs.read_key key_id u <;> rfl

/-- The control word that `write_key` stores keeps the slot's use lock and holds the new usage. -/
theorem write_key_ctrl_word (c usage last : UInt32) :
    KV_CONTROL.USE_LOCK.read ((KV_CONTROL.LAST_DWORD.val last).modify
        ((KV_CONTROL.USAGE.val usage).modify c)) = KV_CONTROL.USE_LOCK.read c ∧
      KV_CONTROL.USAGE.read ((KV_CONTROL.LAST_DWORD.val last).modify
        ((KV_CONTROL.USAGE.val usage).modify c)) = usage &&& KV_CONTROL.USAGE.mask := by
  constructor
  · rw [Field.read_modify_val_of_disjoint KV_CONTROL.LAST_DWORD_wf KV_CONTROL.USE_LOCK_wf
      (by decide), Field.read_modify_val_of_disjoint KV_CONTROL.USAGE_wf KV_CONTROL.USE_LOCK_wf
      (by decide)]
  · rw [Field.read_modify_val_of_disjoint KV_CONTROL.LAST_DWORD_wf KV_CONTROL.USAGE_wf (by decide),
      Field.read_modify_val_self KV_CONTROL.USAGE_wf]

/-- The `LAST_DWORD` field that `write_key` stores for a key of whole words gives back the key's
length. -/
theorem last_dword_key_length {key : List UInt8} (hne : key ≠ [])
    (hlen : key.length ≤ KeyVault.KEY_SIZE) (hmod : key.length % 4 = 0) (w : UInt32) :
    (KV_CONTROL.LAST_DWORD.read ((KV_CONTROL.LAST_DWORD.val
      (UInt32.ofNat (key.length / 4) - 1)).modify w) + 1).toNat * 4 = key.length := by
  have hpos : 0 < key.length := List.length_pos_iff.mpr hne
  simp only [KeyVault.KEY_SIZE] at hlen
  have hw : (UInt32.ofNat (key.length / 4)).toNat = key.length / 4 := by
    rw [UInt32.toNat_ofNat', Nat.mod_eq_of_lt (by omega)]
  have hsub : (UInt32.ofNat (key.length / 4) - 1).toNat = key.length / 4 - 1 := by
    rw [UInt32.toNat_sub_of_le _ _ (by rw [UInt32.le_iff_toNat_le, hw]; simp; omega), hw]
    rfl
  -- the word count minus one fits the field's four bits
  have hand : ((UInt32.ofNat (key.length / 4) - 1) &&& KV_CONTROL.LAST_DWORD.mask).toNat =
      key.length / 4 - 1 := by
    rw [UInt32.toNat_and, KV_CONTROL.LAST_DWORD_wf.mask_eq, Nat.and_two_pow_sub_one_eq_mod, hsub,
      Nat.mod_eq_of_lt (by omega)]
  rw [Field.read_modify_val_self KV_CONTROL.LAST_DWORD_wf, UInt32.toNat_add, hand]
  simp
  omega

/-- A key that `write_key` stores is read back by `read_key_as_data` as it was written, for every
use it was given. -/
theorem read_key_as_data_write_key {key_id : UInt32} {key : List UInt8} {key_usage : UInt32}
    (h : regs.write_key key_id key key_usage = .ok regs') {u : KeyUsage}
    (hu : key_usage &&& 0x3F &&& u.bits ≠ 0) :
    regs'.read_key_as_data key_id u = .ok key := by
  obtain ⟨hid, hlen, hmod, hne, -, hul, rfl⟩ := write_key_eq_ok.mp h
  have hget := Vector.get_set_self regs.key_control ⟨_, hid⟩
    ((KV_CONTROL.LAST_DWORD.val (UInt32.ofNat (key.length / 4) - 1)).modify
      ((KV_CONTROL.USAGE.val key_usage).modify (regs.key_control.get ⟨_, hid⟩)))
  obtain ⟨huse, husage⟩ := write_key_ctrl_word (regs.key_control.get ⟨_, hid⟩) key_usage
    (UInt32.ofNat (key.length / 4) - 1)
  have hu' : key_usage &&& KV_CONTROL.USAGE.mask &&& u.bits ≠ 0 := hu
  rw [read_key_as_data_eq hid u, read_key_eq hid u]
  simp only [hget, huse, hul, husage, last_dword_key_length hne hlen hmod, hu', ne_eq,
    not_true_eq_false, false_or, Checked.failIf, if_false, pure_bind]
  refine congrArg Except.ok ?_
  beta_reduce
  -- the 48 bytes of the slot, cut to the key's words
  rw [Memory.take_read _ _ hlen, Memory.read_write_self, Memory.length_read,
    Nat.sub_eq_zero_of_le hlen, List.replicate_zero, List.append_nil]

theorem read_key_as_data_write_key_two_words :
    ∃ regs', KeyVaultRegs.new.write_key 3 [1, 2, 3, 4, 5, 6, 7, 8] 1 = .ok regs' ∧
      (1 : UInt32) &&& 0x3F &&& (⟨1⟩ : KeyUsage).bits ≠ 0 ∧
      regs'.read_key_as_data 3 ⟨1⟩ = .ok [1, 2, 3, 4, 5, 6, 7, 8] := by
  obtain ⟨r, hr⟩ : ∃ r, KeyVaultRegs.new.write_key 3 [1, 2, 3, 4, 5, 6, 7, 8] 1 = .ok r :=
    ⟨_, rfl⟩
  exact ⟨r, hr, by decide, read_key_as_data_write_key hr (by decide)⟩

/-! ## A locked PCR keeps its words unless they are written -/

/-- The call writes words of PCR `p`: `write_pcr` of it, or a bus write at one of its 12 words. -/
def writes_pcr (p : Fin 32) : KvInput → Prop
  | .write _ addr _ => 0x2600 + 48 * p.val ≤ addr.toNat ∧ addr.toNat < 0x2600 + 48 * p.val + 48 ∧
      addr.toNat % 4 = 0
  | .write_pcr pcr_id _ => pcr_id.toNat = p.val
  | _ => False

instance (p : Fin 32) : DecidablePred (writes_pcr p)
  | .write .. => inferInstanceAs (Decidable (_ ∧ _))
  | .write_pcr pcr_id _ => inferInstanceAs (Decidable (pcr_id.toNat = p.val))
  | .read .. | .read_key .. | .read_key_locked .. | .read_key_as_data .. | .write_key ..
  | .read_pcr .. | .clear_keys_with_debug_values .. | .warm_reset | .update_reset =>
    inferInstanceAs (Decidable False)

/-- PCR `p` is locked, and its words are those of `w`. -/
structure PcrFrozen (p : Fin 32) (w : Vector UInt32 384) (regs : KeyVaultRegs) : Prop where
  locked : PV_CONTROL.LOCK.read (regs.pcr_control.get p) ≠ 0
  words_eq : ∀ k : Fin 384, k.val / PCR_SIZE_WORDS = p.val → regs.pcrs.get k = w.get k

variable {p : Fin 32} {w : Vector UInt32 384}

theorem PcrFrozen.of_eq (h : PcrFrozen p w regs) (hc : regs'.pcr_control = regs.pcr_control)
    (hp : regs'.pcrs = regs.pcrs) : PcrFrozen p w regs' := by
  obtain ⟨h1, h2⟩ := h
  exact ⟨hc ▸ h1, hp ▸ h2⟩

@[simp] theorem pcr_control_set_ctrl (b : DvBank) (c : Vector UInt32 b.ctrl_count) :
    (b.set_ctrl regs c).pcr_control = regs.pcr_control := by
  cases b <;> rfl

@[simp] theorem pcrs_set_ctrl (b : DvBank) (c : Vector UInt32 b.ctrl_count) :
    (b.set_ctrl regs c).pcrs = regs.pcrs := by
  cases b <;> rfl

@[simp] theorem pcr_control_set_words (b : DvBank) (w : Vector UInt32 b.word_count) :
    (b.set_words regs w).pcr_control = regs.pcr_control := by
  cases b <;> rfl

@[simp] theorem pcrs_set_words (b : DvBank) (w : Vector UInt32 b.word_count) :
    (b.set_words regs w).pcrs = regs.pcrs := by
  cases b <;> rfl

/-- A control write keeps a locked PCR locked and its words as they are: `CLEAR` is refused, and
clears no other PCR's words. -/
theorem PcrFrozen.write_pcr_ctrl (h : PcrFrozen p w regs) (j : Fin 32) (val : UInt32) :
    PcrFrozen p w (regs.write_pcr_ctrl j val) := by
  by_cases hjp : j = p
  · subst hjp
    have hl : PV_CONTROL.LOCK.read ((regs.write_pcr_ctrl j val).pcr_control.get j) ≠ 0 := by
      simp only [KeyVaultRegs.write_pcr_ctrl, Vector.get_set_self]
      rw [Field.read_modify_or_of_ne_zero PV_CONTROL.LOCK_wf h.1]
      decide
    refine ⟨hl, fun k hk => ?_⟩
    simp only [KeyVaultRegs.write_pcr_ctrl, Vector.get_set_self] at hl ⊢
    rw [if_neg (fun hc => hl hc.1)]
    exact h.2 k hk
  · refine ⟨?_, fun k hk => ?_⟩
    · unfold KeyVaultRegs.write_pcr_ctrl
      dsimp only
      rw [Vector.get_set_of_ne hjp]
      exact h.1
    · have hout : ¬(j.val * PCR_SIZE_WORDS ≤ k.val ∧ k.val < j.val * PCR_SIZE_WORDS + PCR_SIZE_WORDS) := by
        have : j.val ≠ p.val := Fin.val_ne_of_ne hjp
        simp only [PCR_SIZE_WORDS] at hk ⊢
        omega
      unfold KeyVaultRegs.write_pcr_ctrl
      dsimp only
      split_ifs
      · rw [Vector.get_ofFn, if_neg hout]
        exact h.2 k hk
      · exact h.2 k hk

/-- A bus write keeps a locked PCR, unless it is a word write at the PCR. -/
theorem PcrFrozen.write {size : RvSize} {addr val : UInt32} (h : PcrFrozen p w regs)
    (hno : ¬writes_pcr p (.write size addr val)) (hw : regs.write size addr val = .ok regs') :
    PcrFrozen p w regs' := by
  rcases write_eq_ok hw with
    ⟨j, rfl⟩ | ⟨j, rfl⟩ | ⟨j, hj, -, rfl⟩ | ⟨j, -, rfl⟩ | ⟨b, j, rfl⟩ | ⟨b, j, words, -, rfl⟩
  · exact h.of_eq rfl rfl
  · exact h.write_pcr_ctrl j val
  · -- the word written is not one of the PCR's
    refine ⟨h.1, fun k hk => ?_⟩
    have hjk : j ≠ k := by
      rintro rfl
      have ha := (register_array_index_eq_some (by decide)).mp hj
      simp only [PCR_SIZE_WORDS] at hk
      exact hno ⟨by omega, by omega, by omega⟩
    rw [Vector.get_set_of_ne hjk]
    exact h.2 k hk
  · exact h.of_eq rfl rfl
  · exact h.of_eq (pcr_control_set_ctrl _ _) (pcrs_set_ctrl _ _)
  · exact h.of_eq (pcr_control_set_words _ _) (pcrs_set_words _ _)

/-- Every call but a reset or a write of the PCR's words keeps a locked PCR. -/
theorem PcrFrozen.step {input : KvInput} {r : KeyVaultRegs × Except BusError KvData}
    (h : PcrFrozen p w regs) (hin : input ≠ .warm_reset ∧ input ≠ .update_reset ∧ ¬writes_pcr p input)
    (hstep : regs.step input = .ok r) : PcrFrozen p w r.1 := by
  rcases step_state hstep with
    hr | ⟨_, _, _, rfl, hw⟩ | ⟨_, _, _, -, hk⟩ | ⟨pcr_id, _, rfl, hp⟩ | ⟨sel, -, hr⟩ | ⟨hr, -⟩
  · rw [hr]
    exact h
  · exact h.write hin.2.2 hw
  · obtain ⟨_, -, -, -, -, -, hr⟩ := write_key_eq_ok.mp hk
    rw [hr]
    exact h.of_eq rfl rfl
  · -- `write_pcr` of another PCR writes other words
    obtain ⟨-, hr⟩ := write_pcr_eq_ok.mp hp
    rw [hr]
    refine ⟨h.1, fun k hk => ?_⟩
    have hne : pcr_id.toNat ≠ p.val := hin.2.2
    have hout : ¬(pcr_id.toNat * PCR_SIZE_WORDS ≤ k.val ∧
        k.val < pcr_id.toNat * PCR_SIZE_WORDS + PCR_SIZE_WORDS) := by
      simp only [PCR_SIZE_WORDS] at hk ⊢
      omega
    simp only [Vector.get_ofFn, if_neg hout]
    exact h.2 k hk
  · rw [hr]
    exact h.of_eq rfl rfl
  · rcases hr with rfl | rfl
    · exact absurd rfl hin.1
    · exact absurd rfl hin.2.1

/-! ## Over every run -/

variable {inputs : List KvInput} {r : KeyVaultRegs × List (Except BusError KvData)}

/-- A locked data-vault entry keeps its lock and its words over every run; an entry of the two
non-sticky banks, over every run without a warm or update reset. -/
theorem datavault_entry_frozen {b : DvBank} {e : Fin b.ctrl_count}
    (hlock : Locked (b.ctrl regs) e)
    (hreset : b.sticky = true ∨ ∀ input ∈ inputs, input ≠ .warm_reset ∧ input ≠ .update_reset)
    (hrun : regs.run inputs = .ok r) :
    Locked (b.ctrl r.1) e ∧ ∀ k, b.guard k = e → (b.words r.1).get k = (b.words regs).get k := by
  have h0 : DvBank.Frozen b e (b.words regs) regs := ⟨hlock, fun _ _ => rfl⟩
  rcases hreset with hs | hno
  · exact Simulation.runSteps_inv step (DvBank.Frozen b e (b.words regs))
      (fun _ _ _ h hstep => h.step (.inl hs) hstep) inputs regs r h0 hrun
  · exact Simulation.runSteps_inv_of_forall step (DvBank.Frozen b e (b.words regs)) _
      (fun _ _ _ hi h hstep => h.step (.inr hi) hstep) inputs regs r hno h0 hrun

theorem sticky_entry_frozen_across_resets :
    ∃ r, (KeyVaultRegs.new.write_sticky_datavault_ctrl 3 1).run
        [.warm_reset, .write .Word 0x40b8 7, .update_reset, .write .Word 0x4000 0] = .ok r ∧
      Locked r.1.sticky_datavault_control 3 ∧
      ∀ k, datavault_entry_of k = 3 → r.1.sticky_datavault_entry.get k =
        (KeyVaultRegs.new.write_sticky_datavault_ctrl 3 1).sticky_datavault_entry.get k := by
  obtain ⟨r, hr⟩ : ∃ r, (KeyVaultRegs.new.write_sticky_datavault_ctrl 3 1).run
      [.warm_reset, .write .Word 0x40b8 7, .update_reset, .write .Word 0x4000 0] = .ok r := ⟨_, rfl⟩
  have hlock : Locked (KeyVaultRegs.new.write_sticky_datavault_ctrl 3 1).sticky_datavault_control 3 := by
    decide
  exact ⟨r, hr, datavault_entry_frozen (b := .sticky_datavault) (e := (3 : Fin 10)) hlock (.inl rfl) hr⟩

/-- A write-locked key keeps its lock, its bytes, its usage and its last word over every run
without a reset or a debug-value fill. -/
theorem write_locked_key_frozen {i : Fin 32}
    (hlock : KV_CONTROL.WRITE_LOCK.read (regs.key_control.get i) ≠ 0)
    (hinputs : ∀ input ∈ inputs, input ≠ .warm_reset ∧ input ≠ .update_reset ∧
      ∀ sel, input ≠ .clear_keys_with_debug_values sel)
    (hrun : regs.run inputs = .ok r) :
    KeyFrozen i (Memory.read regs.keys (i.val * KeyVault.KEY_SIZE) KeyVault.KEY_SIZE)
      (KV_CONTROL.USAGE.read (regs.key_control.get i))
      (KV_CONTROL.LAST_DWORD.read (regs.key_control.get i)) r.1 :=
  Simulation.runSteps_inv_of_forall step _ _ (fun _ _ _ hi h hstep => h.step hi hstep) inputs regs r
    hinputs ⟨hlock, rfl, rfl, rfl⟩ hrun

theorem write_locked_key_keeps_bytes :
    ∃ r, (KeyVaultRegs.new.write_key_ctrl 5 1).run
        [.write .Word 0x14 4, .write_key 5 [1, 2, 3, 4] 1, .write_key 6 [9, 9, 9, 9] 1] = .ok r ∧
      KeyFrozen 5 (Memory.read (KeyVaultRegs.new.write_key_ctrl 5 1).keys (5 * KeyVault.KEY_SIZE)
          KeyVault.KEY_SIZE)
        (KV_CONTROL.USAGE.read ((KeyVaultRegs.new.write_key_ctrl 5 1).key_control.get 5))
        (KV_CONTROL.LAST_DWORD.read ((KeyVaultRegs.new.write_key_ctrl 5 1).key_control.get 5)) r.1 := by
  obtain ⟨r, hr⟩ : ∃ r, (KeyVaultRegs.new.write_key_ctrl 5 1).run
      [.write .Word 0x14 4, .write_key 5 [1, 2, 3, 4] 1, .write_key 6 [9, 9, 9, 9] 1] = .ok r := ⟨_, rfl⟩
  exact ⟨r, hr, write_locked_key_frozen (by decide) (by decide) hr⟩

/-- A use-locked key cannot be read by `read_key` for the rest of every run without a reset. -/
theorem use_locked_key_unreadable {key_id : UInt32} (hi : key_id.toNat < KeyVault.KEY_COUNT)
    (hlock : UseLocked ⟨_, hi⟩ regs)
    (hinputs : ∀ input ∈ inputs, input ≠ .warm_reset ∧ input ≠ .update_reset)
    (hrun : regs.run inputs = .ok r) (u : KeyUsage) :
    r.1.read_key key_id u = Checked.fail .LoadAccessFault :=
  read_key_of_use_locked hi
    (Simulation.runSteps_inv_of_forall step _ _ (fun _ _ _ hin h hstep => h.step hin hstep) inputs
      regs r hinputs hlock hrun) u

theorem use_locked_key_unreadable_after_writes :
    ∃ r, (KeyVaultRegs.new.write_key_ctrl 2 2).run
        [.write .Word 0x08 0, .clear_keys_with_debug_values true, .write_key 2 [1, 2, 3, 4] 1] = .ok r ∧
      r.1.read_key 2 ⟨1⟩ = Checked.fail .LoadAccessFault := by
  obtain ⟨r, hr⟩ : ∃ r, (KeyVaultRegs.new.write_key_ctrl 2 2).run
      [.write .Word 0x08 0, .clear_keys_with_debug_values true, .write_key 2 [1, 2, 3, 4] 1] = .ok r :=
    ⟨_, rfl⟩
  exact ⟨r, hr, use_locked_key_unreadable (by decide) (by decide) (by decide) hr ⟨1⟩⟩

/-- A locked PCR keeps its lock and its words over every run without a reset that neither
`write_pcr`s it nor writes one of its words over the bus: its lock guards it against `CLEAR`
alone. -/
theorem locked_pcr_frozen {p : Fin 32} (hlock : PV_CONTROL.LOCK.read (regs.pcr_control.get p) ≠ 0)
    (hinputs : ∀ input ∈ inputs, input ≠ .warm_reset ∧ input ≠ .update_reset ∧ ¬writes_pcr p input)
    (hrun : regs.run inputs = .ok r) : PcrFrozen p regs.pcrs r.1 :=
  Simulation.runSteps_inv_of_forall step _ _ (fun _ _ _ hi h hstep => h.step hi hstep) inputs regs r
    hinputs ⟨hlock, fun _ _ => rfl⟩ hrun

theorem locked_pcr_survives_clear :
    ∃ r, (KeyVaultRegs.new.write_pcr_ctrl 1 1).run
        [.write .Word 0x2004 2, .write .Word 0x2000 2, .write .Word 0x2600 7] = .ok r ∧
      PcrFrozen 1 (KeyVaultRegs.new.write_pcr_ctrl 1 1).pcrs r.1 := by
  obtain ⟨r, hr⟩ : ∃ r, (KeyVaultRegs.new.write_pcr_ctrl 1 1).run
      [.write .Word 0x2004 2, .write .Word 0x2000 2, .write .Word 0x2600 7] = .ok r := ⟨_, rfl⟩
  exact ⟨r, hr, locked_pcr_frozen (by decide) (by decide) hr⟩

end KeyVaultRegs

end Caliptra.Emulator
