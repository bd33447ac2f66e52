import Mathlib

/-!
# Byte encodings and bits of machine words

Big- and little-endian byte strings of 16- and 32-bit words (`to_be_bytes`, `to_le_bytes`,
`from_le_bytes`, `from_be_bytes`) and the byte swap of a 32-bit word. The encodings are written with the word's
value, so that their lemmas reduce to arithmetic on `Nat`. The section on masks reads
`b & (1 << k)` of a 32-bit word as the bits `Nat.testBit` of its value; the last one reads a
byte string as one big-endian integer (`beNat`) and a run of its bits inside one byte.
-/

namespace Bytes

/-- `u32::to_be_bytes`. -/
def be32 (w : UInt32) : List UInt8 :=
  [UInt8.ofNat (w.toNat / 16777216), UInt8.ofNat (w.toNat / 65536),
    UInt8.ofNat (w.toNat / 256), UInt8.ofNat w.toNat]

/-- `u32::to_le_bytes`. -/
def le32 (w : UInt32) : List UInt8 :=
  [UInt8.ofNat w.toNat, UInt8.ofNat (w.toNat / 256),
    UInt8.ofNat (w.toNat / 65536), UInt8.ofNat (w.toNat / 16777216)]

/-- `u16::to_be_bytes`. -/
def be16 (h : UInt16) : List UInt8 :=
  [UInt8.ofNat (h.toNat / 256), UInt8.ofNat h.toNat]

/-- `u32::swap_bytes`: the word whose bytes are those of `w` in reverse order. -/
def swap32 (w : UInt32) : UInt32 :=
  UInt32.ofNat (w.toNat % 256 * 16777216 + w.toNat / 256 % 256 * 65536 +
    w.toNat / 65536 % 256 * 256 + w.toNat / 16777216)

/-- `u32::from_le_bytes` of four bytes. -/
def ofLe32 (b0 b1 b2 b3 : UInt8) : UInt32 :=
  UInt32.ofNat (b0.toNat + b1.toNat * 256 + b2.toNat * 65536 + b3.toNat * 16777216)

/-- `u32::from_be_bytes` of four bytes. -/
def ofBe32 (b0 b1 b2 b3 : UInt8) : UInt32 :=
  UInt32.ofNat (b0.toNat * 16777216 + b1.toNat * 65536 + b2.toNat * 256 + b3.toNat)

@[simp] theorem be32_length (w : UInt32) : (be32 w).length = 4 := rfl

@[simp] theorem le32_length (w : UInt32) : (le32 w).length = 4 := rfl

@[simp] theorem be16_length (h : UInt16) : (be16 h).length = 2 := rfl

/-- Encoding the first `n` words takes the first `k * n` bytes, for `k` bytes a word. -/
theorem flatMap_take_of_length {α β : Type} {f : α → List β} {k : Nat}
    (hf : ∀ a, (f a).length = k) (l : List α) (n : Nat) :
    (l.take n).flatMap f = (l.flatMap f).take (k * n) := by
  induction l generalizing n with
  | nil => simp
  | cons a l ih =>
    cases n with
    | zero => simp
    | succ n =>
      rw [List.take_succ_cons, List.flatMap_cons, List.flatMap_cons, ih, Nat.mul_succ,
        Nat.add_comm, ← hf a, List.take_length_add_append]

theorem swap32_toNat (w : UInt32) :
    (swap32 w).toNat = w.toNat % 256 * 16777216 + w.toNat / 256 % 256 * 65536 +
      w.toNat / 65536 % 256 * 256 + w.toNat / 16777216 := by
  have := w.toNat_lt
  simp only [swap32, UInt32.toNat_ofNat']
  omega

/-- The four bytes of a 32-bit word, least significant first. -/
theorem toNat_bytes (w : UInt32) : ∃ a0 a1 a2 a3, a0 < 256 ∧ a1 < 256 ∧ a2 < 256 ∧ a3 < 256 ∧
    w.toNat % 256 = a0 ∧ w.toNat / 256 % 256 = a1 ∧ w.toNat / 65536 % 256 = a2 ∧
    w.toNat / 16777216 = a3 ∧ w.toNat = a0 + 256 * a1 + 65536 * a2 + 16777216 * a3 := by
  have := w.toNat_lt
  exact ⟨_, _, _, _, by omega, by omega, by omega, by omega, rfl, rfl, rfl, rfl, by omega⟩

/-- The bytes of the word `a0 a1 a2 a3`, written most significant first. -/
theorem bytes_of_digits {a0 a1 a2 a3 : Nat} (h0 : a0 < 256) (h1 : a1 < 256) (h2 : a2 < 256)
    (h3 : a3 < 256) :
    (a0 * 16777216 + a1 * 65536 + a2 * 256 + a3) / 16777216 % 256 = a0 ∧
    (a0 * 16777216 + a1 * 65536 + a2 * 256 + a3) / 65536 % 256 = a1 ∧
    (a0 * 16777216 + a1 * 65536 + a2 * 256 + a3) / 256 % 256 = a2 ∧
    (a0 * 16777216 + a1 * 65536 + a2 * 256 + a3) % 256 = a3 :=
  ⟨by omega, by omega, by omega, by omega⟩

/-- Reading a swapped word big-endian gives the word's little-endian bytes: this is how a
`[U32<LittleEndian>; N]` array turned into a `HashValue` hashes back to its own memory bytes. -/
theorem be32_swap32 (w : UInt32) : be32 (swap32 w) = le32 w := by
  obtain ⟨a0, a1, a2, a3, h0, h1, h2, h3, e0, e1, e2, e3, -⟩ := toNat_bytes w
  have hs : (swap32 w).toNat = a0 * 16777216 + a1 * 65536 + a2 * 256 + a3 := by
    rw [swap32_toNat, e0, e1, e2, e3]
  obtain ⟨s3, s2, s1, s0⟩ := bytes_of_digits h0 h1 h2 h3
  have w3 : w.toNat / 16777216 % 256 = a3 := by rw [e3, Nat.mod_eq_of_lt h3]
  simp only [be32, le32, List.cons.injEq, and_true]
  refine ⟨?_, ?_, ?_, ?_⟩ <;> apply UInt8.toNat_inj.mp <;> simp only [UInt8.toNat_ofNat', hs]
  · rw [s3, e0]
  · rw [s2, e1]
  · rw [s1, e2]
  · rw [s0, w3]

/-! ## Reading words back -/

theorem ofLe32_le32 (w : UInt32) :
    ofLe32 (UInt8.ofNat w.toNat) (UInt8.ofNat (w.toNat / 256)) (UInt8.ofNat (w.toNat / 65536))
      (UInt8.ofNat (w.toNat / 16777216)) = w := by
  have := w.toNat_lt
  apply UInt32.toNat_inj.mp
  simp only [ofLe32, UInt32.toNat_ofNat', UInt8.toNat_ofNat']
  omega

theorem ofBe32_be32 (w : UInt32) :
    ofBe32 (UInt8.ofNat (w.toNat / 16777216)) (UInt8.ofNat (w.toNat / 65536))
      (UInt8.ofNat (w.toNat / 256)) (UInt8.ofNat w.toNat) = w := by
  have := w.toNat_lt
  apply UInt32.toNat_inj.mp
  simp only [ofBe32, UInt32.toNat_ofNat', UInt8.toNat_ofNat']
  omega

/-- A word read from four bytes is stored back as the same four bytes: the FIFO's
`dataout` word written to memory as `Unalign<u32>`. -/
theorem le32_ofLe32 (b0 b1 b2 b3 : UInt8) : le32 (ofLe32 b0 b1 b2 b3) = [b0, b1, b2, b3] := by
  have h0 := b0.toNat_lt
  have h1 := b1.toNat_lt
  have h2 := b2.toNat_lt
  have h3 := b3.toNat_lt
  have hv : (ofLe32 b0 b1 b2 b3).toNat =
      b0.toNat + b1.toNat * 256 + b2.toNat * 65536 + b3.toNat * 16777216 := by
    simp only [ofLe32, UInt32.toNat_ofNat']
    omega
  simp only [le32, hv, List.cons.injEq, and_true]
  refine ⟨?_, ?_, ?_, ?_⟩ <;> apply UInt8.toNat_inj.mp <;> simp only [UInt8.toNat_ofNat'] <;>
    omega

/-! ## Single-bit masks -/

theorem toNat_one_shl {k : UInt32} (hk : k.toNat < 32) : (1 <<< k : UInt32).toNat = 2 ^ k.toNat := by
  rw [UInt32.toNat_shiftLeft, Nat.mod_eq_of_lt hk, UInt32.toNat_one, Nat.one_shiftLeft]
  exact Nat.mod_eq_of_lt (Nat.pow_lt_pow_right (by norm_num) hk)

theorem toNat_shl_of_lt {a k : UInt32} (hk : k.toNat < 32) (h : a.toNat * 2 ^ k.toNat < 2 ^ 32) :
    (a <<< k).toNat = a.toNat * 2 ^ k.toNat := by
  rw [UInt32.toNat_shiftLeft, Nat.mod_eq_of_lt hk, Nat.shiftLeft_eq, Nat.mod_eq_of_lt h]

theorem and_one_shl_toNat {b k : UInt32} (hk : k.toNat < 32) :
    (b &&& (1 <<< k)).toNat = (b.toNat.testBit k.toNat).toNat * 2 ^ k.toNat := by
  rw [UInt32.toNat_and, toNat_one_shl hk, Nat.and_two_pow]

/-- `b & (1 << k) == 0`: bit `k` of `b` is clear. -/
theorem and_one_shl_eq_zero_iff {b k : UInt32} (hk : k.toNat < 32) :
    b &&& (1 <<< k) = 0 ↔ b.toNat.testBit k.toNat = false := by
  rw [← UInt32.toNat_inj, and_one_shl_toNat hk]
  cases b.toNat.testBit k.toNat <;> simp

/-- `b & (1 << k) == 1 << k`: bit `k` of `b` is set. -/
theorem and_one_shl_beq {b k : UInt32} (hk : k.toNat < 32) :
    (b &&& (1 <<< k) == 1 <<< k) = b.toNat.testBit k.toNat := by
  have h := and_one_shl_toNat (b := b) hk
  have hp : 0 < 2 ^ k.toNat := by positivity
  cases ht : b.toNat.testBit k.toNat
  · rw [ht] at h
    simp only [beq_eq_false_iff_ne, ne_eq, ← UInt32.toNat_inj, h, toNat_one_shl hk]
    simp only [Bool.toNat_false, zero_mul]
    omega
  · rw [ht] at h
    simp only [beq_iff_eq, ← UInt32.toNat_inj, h, toNat_one_shl hk, Bool.toNat_true, one_mul]

/-! ## A byte string as an integer -/

/-- The byte string read as one big-endian unsigned integer. -/
def beNat (s : List UInt8) : Nat := Nat.ofDigits 256 (s.reverse.map UInt8.toNat)

@[simp] theorem beNat_nil : beNat [] = 0 := rfl

theorem beNat_append (a b : List UInt8) :
    beNat (a ++ b) = beNat a * 256 ^ b.length + beNat b := by
  simp only [beNat, List.reverse_append, List.map_append, Nat.ofDigits_append, List.length_map,
    List.length_reverse]
  ring

theorem beNat_singleton (b : UInt8) : beNat [b] = b.toNat := by
  simp [beNat]

theorem beNat_lt (s : List UInt8) : beNat s < 256 ^ s.length := by
  have h := @Nat.ofDigits_lt_base_pow_length 256 (s.reverse.map UInt8.toNat) (by norm_num)
    (by simpa using fun a _ => UInt8.toNat_lt a)
  simpa [beNat] using h

/-- Dividing by the weight of the bytes after byte `k` leaves the integer of the bytes up to it. -/
theorem beNat_div_pow (s : List UInt8) {k : Nat} (hk : k < s.length) :
    beNat s / 256 ^ (s.length - 1 - k) = beNat (s.take k) * 256 + s[k].toNat := by
  have hsplit : s = s.take k ++ [s[k]] ++ s.drop (k + 1) := by
    rw [List.append_assoc, List.singleton_append, ← List.drop_eq_getElem_cons hk,
      List.take_append_drop]
  have hlen : (s.drop (k + 1)).length = s.length - 1 - k := by simp; omega
  have hpos : 0 < 256 ^ (s.length - 1 - k) := by positivity
  have hnum : beNat s = 256 ^ (s.length - 1 - k) * beNat (s.take k ++ [s[k]]) +
      beNat (s.drop (k + 1)) := by
    conv_lhs => rw [hsplit]
    rw [beNat_append, hlen, mul_comm]
  rw [hnum, Nat.mul_add_div hpos, Nat.div_eq_of_lt (hlen ▸ beNat_lt _), Nat.add_zero,
    beNat_append, beNat_singleton]
  rfl

/-- `w` bits of a byte string that lie in its byte `k`, `e` bits above the end of that byte. -/
theorem beNat_bits_of_byte (s : List UInt8) {k e w : Nat} (hk : k < s.length) (hew : e + w ≤ 8) :
    beNat s / 2 ^ (8 * (s.length - 1 - k) + e) % 2 ^ w = s[k].toNat / 2 ^ e % 2 ^ w := by
  have h256 : (2 : Nat) ^ (8 * (s.length - 1 - k)) = 256 ^ (s.length - 1 - k) := by
    rw [pow_mul]; norm_num
  rw [pow_add, ← Nat.div_div_eq_div_mul, h256, beNat_div_pow s hk]
  -- the bytes before `k` only add multiples of `2 ^ (8 - e)`, which `2 ^ w` divides
  have h8 : (256 : Nat) = 2 ^ (8 - e) * 2 ^ e := by rw [← pow_add, Nat.sub_add_cancel (by omega)]; rfl
  rw [h8, ← mul_assoc, Nat.add_comm, Nat.add_mul_div_right _ _ (by positivity), Nat.add_mod,
    Nat.mul_mod, Nat.mod_eq_zero_of_dvd (pow_dvd_pow 2 (by omega : w ≤ 8 - e)), mul_zero,
    Nat.zero_mod, add_zero, Nat.mod_mod]

/-- `1 << b` on `u16`. -/
theorem one_shl_toNat {b : UInt16} (hb : b.toNat < 16) : ((1 : UInt16) <<< b).toNat = 2 ^ b.toNat := by
  rw [UInt16.toNat_shiftLeft, Nat.mod_eq_of_lt hb, UInt16.toNat_one, Nat.one_shiftLeft]
  exact Nat.mod_eq_of_lt (Nat.pow_lt_pow_right (by decide) hb)

/-- `(1 << b) - 1` on `u16`, the mask of the `b` low bits. -/
theorem one_shl_sub_one_toNat {b : UInt16} (hb : b.toNat < 16) :
    (((1 : UInt16) <<< b) - 1).toNat = 2 ^ b.toNat - 1 := by
  have hle : (1 : UInt16) ≤ (1 : UInt16) <<< b := by
    rw [UInt16.le_iff_toNat_le, one_shl_toNat hb, UInt16.toNat_one]
    exact Nat.one_le_two_pow
  rw [UInt16.toNat_sub_of_le _ _ hle, one_shl_toNat hb, UInt16.toNat_one]

/-- `((1 << w) - 1) as u8 & (b >> e)`, the `w` bits of a byte `e` bits above its end. -/
theorem mask_shiftRight_toNat (b : UInt8) {e w : Nat} (he : e < 8) (hw : w ≤ 8) :
    ((((1 : UInt16) <<< w.toUInt16) - 1).toUInt8 &&& (b >>> e.toUInt8)).toNat =
      b.toNat / 2 ^ e % 2 ^ w := by
  have hw8 : 2 ^ w ≤ 2 ^ 8 := Nat.pow_le_pow_right (by decide) hw
  have hw16 : w.toUInt16.toNat = w := by
    simp [Nat.toUInt16]
    omega
  have hmask : (((1 : UInt16) <<< w.toUInt16) - 1).toUInt8.toNat = 2 ^ w - 1 := by
    rw [UInt16.toNat_toUInt8, one_shl_sub_one_toNat (by omega), hw16, Nat.mod_eq_of_lt (by omega)]
  have he8 : e.toUInt8.toNat % 8 = e := by
    simp [Nat.toUInt8]
    omega
  rw [UInt8.toNat_and, hmask, UInt8.toNat_shiftRight, he8, Nat.and_comm,
    Nat.and_two_pow_sub_one_eq_mod, Nat.shiftRight_eq_div_pow]

/-! ## Rotations and xors of a word -/

theorem rotateLeft_rotateRight {w : Nat} (x : BitVec w) {r : Nat} (hr : r < w) :
    (x.rotateRight r).rotateLeft r = x := by
  ext i hi
  have hmod : r % w = r := Nat.mod_eq_of_lt hr
  rw [BitVec.getElem_rotateLeft hi]
  split
  · rw [BitVec.getElem_rotateRight (by omega), dif_neg (by omega)]
    congr 1; omega
  · rw [BitVec.getElem_rotateRight (by omega), dif_pos (by omega)]
    congr 1; omega

theorem rotateRight_rotateLeft {w : Nat} (x : BitVec w) {r : Nat} (hr : r < w) :
    (x.rotateLeft r).rotateRight r = x := by
  ext i hi
  have hmod : r % w = r := Nat.mod_eq_of_lt hr
  rw [BitVec.getElem_rotateRight hi]
  split
  · rw [BitVec.getElem_rotateLeft (by omega), dif_neg (by omega)]
    congr 1; omega
  · rw [BitVec.getElem_rotateLeft (by omega), dif_pos (by omega)]
    congr 1; omega

theorem rotateLeft_xor {w : Nat} (x y : BitVec w) (r : Nat) :
    (x ^^^ y).rotateLeft r = x.rotateLeft r ^^^ y.rotateLeft r := by
  ext i hi
  simp only [BitVec.getElem_rotateLeft hi, BitVec.getElem_xor]
  split <;> rfl

theorem or_eq_zero_iff {w : Nat} {x y : BitVec w} : x ||| y = 0 ↔ x = 0 ∧ y = 0 := by
  constructor
  · intro h
    have hbit : ∀ i (hi : i < w), x[i] = false ∧ y[i] = false := fun i hi => by
      simpa using congrArg (·[i]) h
    exact ⟨BitVec.eq_of_getElem_eq fun i hi => by simp [(hbit i hi).1],
      BitVec.eq_of_getElem_eq fun i hi => by simp [(hbit i hi).2]⟩
  · rintro ⟨rfl, rfl⟩
    simp

end Bytes
