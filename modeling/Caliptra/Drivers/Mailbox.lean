import Caliptra.Error
import Caliptra.MemoryLayout
import Caliptra.Lib.Bytes
import Caliptra.Lib.Memory

/-!
# The mailbox, receive side (`drivers/src/mailbox.rs`)

A request from the SoC sits in the mailbox SRAM with its length in `dlen`; the
microcontroller reads it through the FIFO register `dataout`, one word per read. The FIFO is
modelled as the emulator implements it (`sw-emulator/lib/periph/src/mailbox.rs`): `dlen` is
latched, capped at the SRAM's size, and a read returns the SRAM word at the read index and
advances the index by four, or returns 0 once the index has reached the latched length.

On this FIFO the driver's `fifo::dequeue` fills the front of a buffer, `copy_request` wraps it
with the transaction-state and ECC checks, and `drop_words` discards words. The main lemmas
say what a run of reads yields when it stays below the latched length: the SRAM bytes from the
read index on (`dequeue_words_of_le`, `dequeue_of_le`); and that a read changes nothing but the
read index (`dataout_snd`, `dequeue_snd`).
-/

namespace Caliptra

open CaliptraError

/-- `MboxFsmE`: the mailbox's hardware state. -/
inductive MboxFsmE where
  | MboxIdle
  | MboxRdyForCmd
  | MboxRdyForData
  | MboxRdyForDlen
  | MboxExecuteSoc
  | Reserved5
  | MboxExecuteUc
  | MboxError
  deriving DecidableEq, Repr

/-- `MailboxOpState`: the driver's view of a transaction. -/
inductive MailboxOpState where
  | RdyForCmd
  | RdyForDlen
  | RdyForData
  | Execute
  | Idle
  deriving DecidableEq, Repr

/-- The mailbox registers the receive side reads, its SRAM, and the FIFO's read index. -/
structure Mbox where
  mbox_fsm_ps : MboxFsmE
  cmd : UInt32
  user : UInt32
  dlen : UInt32
  ram : List UInt8
  ram_size : ram.length = MBOX_SIZE.toNat
  read_index : Nat
  /-- `mailbox_uncorrectable_ecc()`: the SRAM reported an uncorrectable error. -/
  uncorrectable_ecc : Bool

namespace Mbox

/-- `Fifo::latch_dlen`: the data length, capped at the SRAM's size. -/
def latched_dlen (m : Mbox) : Nat := min m.dlen.toNat m.ram.length

/-- The SRAM word at byte `i`, read little-endian. -/
def word_at (m : Mbox) (i : Nat) : UInt32 :=
  Bytes.ofLe32 (m.ram.getD i 0) (m.ram.getD (i + 1) 0) (m.ram.getD (i + 2) 0)
    (m.ram.getD (i + 3) 0)

/-- The FIFO after `k` more bytes were read. -/
def advance (m : Mbox) (k : Nat) : Mbox := { m with read_index := m.read_index + k }

/-- A read of `dataout`: `Fifo::dequeue`, or 0 once the FIFO is empty. -/
def dataout (m : Mbox) : UInt32 × Mbox :=
  if m.read_index < m.latched_dlen then (m.word_at m.read_index, m.advance 4) else (0, m)

@[simp] theorem advance_read_index (m : Mbox) (k : Nat) :
    (m.advance k).read_index = m.read_index + k := rfl

@[simp] theorem advance_ram (m : Mbox) (k : Nat) : (m.advance k).ram = m.ram := rfl

@[simp] theorem advance_dlen (m : Mbox) (k : Nat) : (m.advance k).dlen = m.dlen := rfl

@[simp] theorem advance_uncorrectable_ecc (m : Mbox) (k : Nat) :
    (m.advance k).uncorrectable_ecc = m.uncorrectable_ecc := rfl

@[simp] theorem latched_dlen_advance (m : Mbox) (k : Nat) :
    (m.advance k).latched_dlen = m.latched_dlen := rfl

@[simp] theorem advance_zero (m : Mbox) : m.advance 0 = m := rfl

theorem advance_advance (m : Mbox) (j k : Nat) : (m.advance j).advance k = m.advance (j + k) := by
  simp only [advance, Nat.add_assoc]

theorem latched_dlen_le_dlen (m : Mbox) : m.latched_dlen ≤ m.dlen.toNat := Nat.min_le_left _ _

theorem latched_dlen_le_length (m : Mbox) : m.latched_dlen ≤ m.ram.length := Nat.min_le_right _ _

theorem latched_dlen_of_le {m : Mbox} (h : m.dlen.toNat ≤ MBOX_SIZE.toNat) :
    m.latched_dlen = m.dlen.toNat := by
  rw [latched_dlen, m.ram_size]
  exact Nat.min_eq_left h

theorem dataout_of_lt {m : Mbox} (h : m.read_index < m.latched_dlen) :
    m.dataout = (m.word_at m.read_index, m.advance 4) := if_pos h

/-- A read changes nothing but the read index. -/
theorem dataout_snd (m : Mbox) : ∃ k, m.dataout.2 = m.advance k := by
  unfold dataout
  split
  · exact ⟨4, rfl⟩
  · exact ⟨0, rfl⟩

/-- The bytes of the word at `i` are the SRAM's four bytes there. -/
theorem le32_word_at {m : Mbox} {i : Nat} (h : i + 4 ≤ m.ram.length) :
    Bytes.le32 (m.word_at i) = (m.ram.drop i).take 4 := by
  have h0 : m.ram.getD i 0 = m.ram[i] := List.getD_eq_getElem _ _ (by omega)
  have h1 : m.ram.getD (i + 1) 0 = m.ram[i + 1] := List.getD_eq_getElem _ _ (by omega)
  have h2 : m.ram.getD (i + 2) 0 = m.ram[i + 2] := List.getD_eq_getElem _ _ (by omega)
  have h3 : m.ram.getD (i + 3) 0 = m.ram[i + 3] := List.getD_eq_getElem _ _ (by omega)
  rw [word_at, Bytes.le32_ofLe32, h0, h1, h2, h3, List.drop_eq_getElem_cons (by omega),
    List.drop_eq_getElem_cons (by omega), List.drop_eq_getElem_cons (by omega),
    List.drop_eq_getElem_cons (by omega)]
  rfl

end Mbox

namespace fifo

/-- `fifo::dequeue_words`: `n` reads of `dataout`, each word stored as its four bytes. -/
def dequeue_words : Nat → Mbox → List UInt8 × Mbox
  | 0, m => ([], m)
  | n + 1, m =>
    let (w, m) := m.dataout
    let (rest, m) := dequeue_words n m
    (Bytes.le32 w ++ rest, m)

/-- `fifo::dequeue`: the front of `buf`, at most `dlen` bytes of it, is overwritten with what
the FIFO yields, a last partial word included; the rest of `buf` is unchanged. -/
def dequeue (m : Mbox) (buf : List UInt8) : List UInt8 × Mbox :=
  let len := if m.dlen.toNat < buf.length then m.dlen.toNat else buf.length
  let len_words := len / 4
  let (words, m) := dequeue_words len_words m
  let suffix_len := len - 4 * len_words
  if suffix_len ≠ 0 ∧ suffix_len ≤ 4 then
    let (last_word, m) := m.dataout
    (words ++ (Bytes.le32 last_word).take suffix_len ++ buf.drop len, m)
  else (words ++ buf.drop len, m)

theorem dequeue_words_snd (n : Nat) (m : Mbox) : ∃ k, (dequeue_words n m).2 = m.advance k := by
  induction n generalizing m with
  | zero => exact ⟨0, rfl⟩
  | succ n ih =>
    obtain ⟨j, hj⟩ := m.dataout_snd
    obtain ⟨k, hk⟩ := ih m.dataout.2
    rw [hj] at hk
    refine ⟨j + k, ?_⟩
    simp only [dequeue_words, hj, hk, Mbox.advance_advance]

/-- `n` reads that stay below the latched length yield the next `4 * n` bytes of the SRAM. -/
theorem dequeue_words_of_le {n : Nat} {m : Mbox} (h : m.read_index + 4 * n ≤ m.latched_dlen) :
    dequeue_words n m = ((m.ram.drop m.read_index).take (4 * n), m.advance (4 * n)) := by
  induction n generalizing m with
  | zero => simp [dequeue_words]
  | succ n ih =>
    have hlen := m.latched_dlen_le_length
    have hrest : (m.advance 4).read_index + 4 * n ≤ (m.advance 4).latched_dlen := by
      simp only [Mbox.advance_read_index, Mbox.latched_dlen_advance]
      omega
    have hbytes : Bytes.le32 (m.word_at m.read_index) ++
        ((m.ram.drop (m.read_index + 4)).take (4 * n)) =
        (m.ram.drop m.read_index).take (4 * (n + 1)) := by
      rw [Mbox.le32_word_at (by omega), Nat.mul_succ, Nat.add_comm (4 * n), List.take_add,
        List.drop_drop]
    simp only [dequeue_words, Mbox.dataout_of_lt (show m.read_index < m.latched_dlen by omega),
      ih hrest, Mbox.advance_ram, Mbox.advance_read_index, hbytes, Mbox.advance_advance]
    congr 2
    omega

theorem length_dequeue_words (n : Nat) (m : Mbox) : (dequeue_words n m).1.length = 4 * n := by
  induction n generalizing m with
  | zero => rfl
  | succ n ih => simp only [dequeue_words, List.length_append, Bytes.le32_length, ih]; omega

/-- `dequeue` overwrites `buf` in place: the buffer keeps its length. -/
theorem length_dequeue (m : Mbox) (buf : List UInt8) : (dequeue m buf).1.length = buf.length := by
  unfold dequeue
  dsimp only
  have hlen : (if m.dlen.toNat < buf.length then m.dlen.toNat else buf.length) ≤ buf.length := by
    split <;> omega
  generalize (if m.dlen.toNat < buf.length then m.dlen.toNat else buf.length) = len at hlen ⊢
  have hw := length_dequeue_words (len / 4) m
  split
  · simp only [List.length_append, hw, List.length_take, Bytes.le32_length, List.length_drop]
    omega
  · simp only [List.length_append, hw, List.length_drop]
    omega

/-- Every run of `dequeue` changes nothing but the read index. -/
theorem dequeue_snd (m : Mbox) (buf : List UInt8) : ∃ k, (dequeue m buf).2 = m.advance k := by
  unfold dequeue
  dsimp only
  generalize (if m.dlen.toNat < buf.length then m.dlen.toNat else buf.length) = len
  obtain ⟨j, hj⟩ := dequeue_words_snd (len / 4) m
  split
  · obtain ⟨k, hk⟩ := (dequeue_words (len / 4) m).2.dataout_snd
    exact ⟨j + k, by rw [hk, hj, Mbox.advance_advance]⟩
  · exact ⟨j, hj⟩

/-- A buffer of whole words that the FIFO can fill is overwritten with the next SRAM bytes. -/
theorem dequeue_of_le {m : Mbox} {buf : List UInt8} (hmod : buf.length % 4 = 0)
    (h : m.read_index + buf.length ≤ m.latched_dlen) :
    dequeue m buf = ((m.ram.drop m.read_index).take buf.length, m.advance buf.length) := by
  have hd := m.latched_dlen_le_dlen
  have hwords : 4 * (buf.length / 4) = buf.length := by omega
  have hrun := dequeue_words_of_le (n := buf.length / 4) (m := m) (by omega)
  rw [hwords] at hrun
  simp only [dequeue, if_neg (show ¬m.dlen.toNat < buf.length by omega), hrun, hwords,
    Nat.sub_self, ne_eq, not_true_eq_false, false_and, if_false, List.drop_length,
    List.append_nil]

end fifo

/-- `CommandId::FIRMWARE_LOAD`. -/
def CommandId.FIRMWARE_LOAD : UInt32 := 0x46574C44

/-- `MailboxRecvTxn`: a request being received, and the driver's state for it. -/
structure MailboxRecvTxn where
  state : MailboxOpState
  mbox : Mbox

/-- `Mailbox::try_start_recv_txn`: a transaction, when the SoC has handed the mailbox over. -/
def Mailbox.try_start_recv_txn (mbox : Mbox) : Option MailboxRecvTxn :=
  match mbox.mbox_fsm_ps with
  | .MboxExecuteUc => some ⟨.Execute, mbox⟩
  | _ => none

theorem Mailbox.try_start_recv_txn_eq_some {mbox : Mbox} {txn : MailboxRecvTxn} :
    Mailbox.try_start_recv_txn mbox = some txn ↔
      mbox.mbox_fsm_ps = .MboxExecuteUc ∧ txn = ⟨.Execute, mbox⟩ := by
  unfold Mailbox.try_start_recv_txn
  split
  · next h => simp [h, eq_comm]
  · next h =>
    simp only [reduceCtorEq, false_iff, not_and]
    exact fun hfsm => absurd hfsm h

namespace MailboxRecvTxn

def cmd (txn : MailboxRecvTxn) : UInt32 := txn.mbox.cmd

def dlen (txn : MailboxRecvTxn) : UInt32 := txn.mbox.dlen

/-- `raw_mailbox_contents`: the whole SRAM. -/
def raw_mailbox_contents (txn : MailboxRecvTxn) : List UInt8 := txn.mbox.ram

/-- `copy_request`: fill `data` from the FIFO; the new contents of `data` are returned. -/
def copy_request (txn : MailboxRecvTxn) (data : List UInt8) :
    CaliptraResult (List UInt8 × MailboxRecvTxn) :=
  if txn.state ≠ .Execute then .error DRIVER_MAILBOX_INVALID_STATE
  else
    let (data, mbox) := fifo.dequeue txn.mbox data
    if mbox.uncorrectable_ecc then .error DRIVER_MAILBOX_UNCORRECTABLE_ECC
    else .ok (data, { txn with mbox })

/-- `drop_words`: discard at most `count` words. `usize` is 32 bits wide on the target, and the
firmware is built without overflow checks, so `dlen_bytes + 3` wraps. -/
def drop_words (txn : MailboxRecvTxn) (count : Nat) : CaliptraResult MailboxRecvTxn :=
  let dlen_words := ((txn.mbox.dlen + 3) / 4).toNat
  let words_to_read := min count dlen_words
  .ok { txn with mbox := (fifo.dequeue_words words_to_read txn.mbox).2 }

/-- `complete`: hand the mailbox back to the SoC. The status it reports is not modelled. -/
def complete (txn : MailboxRecvTxn) (_success : Bool) : CaliptraResult MailboxRecvTxn :=
  if txn.state ≠ .Execute ∧ txn.state ≠ .RdyForData then .error DRIVER_MAILBOX_INVALID_STATE
  else .ok { txn with state := .Idle }

theorem copy_request_eq_ok {txn : MailboxRecvTxn} {data : List UInt8}
    {r : List UInt8 × MailboxRecvTxn} :
    txn.copy_request data = .ok r ↔ txn.state = .Execute ∧ txn.mbox.uncorrectable_ecc = false ∧
      r = ((fifo.dequeue txn.mbox data).1, { txn with mbox := (fifo.dequeue txn.mbox data).2 }) := by
  obtain ⟨k, hk⟩ := fifo.dequeue_snd txn.mbox data
  have hecc : (fifo.dequeue txn.mbox data).2.uncorrectable_ecc = txn.mbox.uncorrectable_ecc := by
    rw [hk, Mbox.advance_uncorrectable_ecc]
  unfold copy_request
  by_cases hst : txn.state = .Execute
  · rw [if_neg (not_not.mpr hst)]
    dsimp only
    rw [hecc]
    cases txn.mbox.uncorrectable_ecc <;> simp [hst, eq_comm]
  · simp [hst]

theorem length_copy_request {txn : MailboxRecvTxn} {data : List UInt8}
    {r : List UInt8 × MailboxRecvTxn} (H : txn.copy_request data = .ok r) :
    r.1.length = data.length := by
  obtain ⟨-, -, rfl⟩ := copy_request_eq_ok.mp H
  exact fifo.length_dequeue _ _

/-- A request of whole words that the FIFO holds is copied from the SRAM at the read index. -/
theorem copy_request_of_le {txn : MailboxRecvTxn} {data : List UInt8}
    (hst : txn.state = .Execute) (hecc : txn.mbox.uncorrectable_ecc = false)
    (hmod : data.length % 4 = 0) (h : txn.mbox.read_index + data.length ≤ txn.mbox.latched_dlen) :
    txn.copy_request data = .ok ((txn.mbox.ram.drop txn.mbox.read_index).take data.length,
      { txn with mbox := txn.mbox.advance data.length }) := by
  rw [copy_request_eq_ok, fifo.dequeue_of_le hmod h]
  exact ⟨hst, hecc, rfl⟩

/-- `copy_request` into a buffer of `n` bytes, such as `manifest.as_mut_bytes()`. -/
def copy_request_into {n : Nat} (txn : MailboxRecvTxn) (buf : Vector UInt8 n) :
    CaliptraResult (Vector UInt8 n × MailboxRecvTxn) :=
  match h : txn.copy_request buf.toList with
  | .ok r => .ok (⟨r.1.toArray, by simpa using length_copy_request h⟩, r.2)
  | .error e => .error e

theorem copy_request_into_eq_ok {n : Nat} {txn : MailboxRecvTxn} {buf : Vector UInt8 n}
    {v : Vector UInt8 n} {txn' : MailboxRecvTxn} :
    txn.copy_request_into buf = .ok (v, txn') ↔ txn.copy_request buf.toList = .ok (v.toList, txn') := by
  unfold copy_request_into
  split
  · next r h =>
    obtain ⟨data, t⟩ := r
    simp only [h, Except.ok.injEq, Prod.mk.injEq]
    constructor
    · rintro ⟨rfl, rfl⟩
      exact ⟨by simp, rfl⟩
    · rintro ⟨rfl, rfl⟩
      exact ⟨Vector.toArray_injective (by cases v; simp [Vector.toList]), rfl⟩
  · next e h => simp [h]

theorem copy_request_into_of_le {n : Nat} {txn : MailboxRecvTxn} {buf : Vector UInt8 n}
    (hst : txn.state = .Execute) (hecc : txn.mbox.uncorrectable_ecc = false) (hmod : n % 4 = 0)
    (h : txn.mbox.read_index + n ≤ txn.mbox.latched_dlen) :
    ∃ v : Vector UInt8 n, txn.copy_request_into buf =
        .ok (v, { txn with mbox := txn.mbox.advance n }) ∧
      v.toList = (txn.mbox.ram.drop txn.mbox.read_index).take n := by
  have hc : txn.copy_request buf.toList = .ok ((txn.mbox.ram.drop txn.mbox.read_index).take n,
      { txn with mbox := txn.mbox.advance n }) := by
    simpa using @copy_request_of_le txn buf.toList hst hecc (by simpa using hmod)
      (by simpa using h)
  have hlen : ((txn.mbox.ram.drop txn.mbox.read_index).take n).length = n := by
    simpa using length_copy_request hc
  refine ⟨⟨((txn.mbox.ram.drop txn.mbox.read_index).take n).toArray, by simpa using hlen⟩,
    copy_request_into_eq_ok.mpr ?_, by simp [Vector.toList]⟩
  simpa [Vector.toList] using hc

/-- `copy_request` into the `words` words of memory at `addr`:
`from_raw_parts_mut(addr as *mut u32, words).as_mut_bytes()`. -/
def copy_request_words (txn : MailboxRecvTxn) (mem : Memory) (addr words : Nat) :
    CaliptraResult (Memory × MailboxRecvTxn) := do
  let (data, txn) ← txn.copy_request (mem.read addr (4 * words))
  return (mem.write addr data, txn)

/-- A copy into memory writes whole words at `addr` and nothing else. -/
theorem copy_request_words_eq_ok {txn txn' : MailboxRecvTxn} {mem mem' : Memory} {addr words : Nat}
    (H : txn.copy_request_words mem addr words = .ok (mem', txn')) :
    ∃ data : List UInt8, data.length = 4 * words ∧ mem' = mem.write addr data ∧
      txn.state = .Execute ∧ txn'.state = txn.state := by
  simp only [copy_request_words, bind, Except.bind] at H
  split at H
  · cases H
  · next r hr =>
    obtain ⟨data, t⟩ := r
    cases H
    have hlen := length_copy_request hr
    obtain ⟨hst, -, hres⟩ := copy_request_eq_ok.mp hr
    simp only [Prod.mk.injEq] at hres
    exact ⟨data, by simpa using hlen, rfl, hst, by rw [hres.2]⟩

theorem copy_request_words_of_le {txn : MailboxRecvTxn} {mem : Memory} {addr words : Nat}
    (hst : txn.state = .Execute) (hecc : txn.mbox.uncorrectable_ecc = false)
    (h : txn.mbox.read_index + 4 * words ≤ txn.mbox.latched_dlen) :
    txn.copy_request_words mem addr words =
      .ok (mem.write addr ((txn.mbox.ram.drop txn.mbox.read_index).take (4 * words)),
        { txn with mbox := txn.mbox.advance (4 * words) }) := by
  have hmod : (mem.read addr (4 * words)).length % 4 = 0 := by simp
  rw [copy_request_words, copy_request_of_le hst hecc hmod (by simpa using h)]
  simp only [Memory.length_read]
  rfl

theorem drop_words_of_le {txn : MailboxRecvTxn} {count : Nat}
    (hd : txn.mbox.dlen.toNat + 3 < 2 ^ 32)
    (h : txn.mbox.read_index + 4 * count ≤ txn.mbox.latched_dlen) :
    txn.drop_words count = .ok { txn with mbox := txn.mbox.advance (4 * count) } := by
  have hl := txn.mbox.latched_dlen_le_dlen
  have hwords : ((txn.mbox.dlen + 3) / 4).toNat = (txn.mbox.dlen.toNat + 3) / 4 := by
    rw [UInt32.toNat_div, UInt32.toNat_add, Nat.mod_eq_of_lt (by simpa using hd)]
    rfl
  simp only [drop_words, hwords, Nat.min_eq_left (show count ≤ (txn.mbox.dlen.toNat + 3) / 4 by omega),
    fifo.dequeue_words_of_le h]

theorem complete_of_execute {txn : MailboxRecvTxn} (hst : txn.state = .Execute) (success : Bool) :
    txn.complete success = .ok { txn with state := .Idle } := by
  simp [complete, hst]

end MailboxRecvTxn

end Caliptra
