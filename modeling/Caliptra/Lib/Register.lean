import Mathlib

/-!
# Bit fields of a 32-bit register

The `Field` and `FieldValue` of `tock-registers` over a 32-bit word. A field is a mask of ones
placed at `shift`: `read` takes it out of a word, `is_set` tests it for a set bit, and `val v` is
the field value that puts `v` in it. A field value replaces the bits it covers and keeps the
others (`modify`); `+` puts two field values in at once, and `CLEAR` is the value 0.

A field is well formed (`Field.Wf f w`) when its mask is `w` ones and it ends inside the word.
Bit `j` of a word after `modify` is then bit `j - shift` of the value inside the field and the old
bit outside it (`testBit_modify_val`). So reading a field back after writing it gives the value
cut to the field's width (`read_modify_val_self`), and writing a field leaves every field beside
it as it was (`read_modify_val_of_disjoint`).
-/

namespace Register

/-- `Field`: `mask`, a run of ones, shifted to `shift`. -/
structure Field where
  mask : UInt32
  shift : UInt32

/-- `FieldValue`: the bits `mask` a write covers and what it puts there. -/
structure FieldValue where
  mask : UInt32
  value : UInt32

namespace FieldValue

/-- `FieldValue::modify`. -/
def modify (fv : FieldValue) (x : UInt32) : UInt32 := (x &&& ~~~fv.mask) ||| fv.value

/-- `FieldValue + FieldValue`. -/
instance : Add FieldValue := ⟨fun a b => ⟨a.mask ||| b.mask, a.value ||| b.value⟩⟩

theorem add_def (a b : FieldValue) : a + b = ⟨a.mask ||| b.mask, a.value ||| b.value⟩ := rfl

end FieldValue

namespace Field

/-- `Field::read`. -/
def read (f : Field) (x : UInt32) : UInt32 := (x &&& (f.mask <<< f.shift)) >>> f.shift

/-- `Field::is_set`. -/
def is_set (f : Field) (x : UInt32) : Bool := x &&& (f.mask <<< f.shift) != 0

/-- `Field::val`. -/
def val (f : Field) (v : UInt32) : FieldValue := ⟨f.mask <<< f.shift, (v &&& f.mask) <<< f.shift⟩

/-- The field's `CLEAR`. -/
def CLEAR (f : Field) : FieldValue := f.val 0

/-- A field of `w` bits that lies inside the word. -/
structure Wf (f : Field) (w : Nat) : Prop where
  mask_eq : f.mask.toNat = 2 ^ w - 1
  fits : f.shift.toNat + w ≤ 32
  pos : 0 < w

theorem testBit_toNat_of_ge (x : UInt32) {j : Nat} (hj : 32 ≤ j) : x.toNat.testBit j = false :=
  Nat.testBit_lt_two_pow (lt_of_lt_of_le x.toNat_lt (Nat.pow_le_pow_right (by norm_num) hj))

theorem testBit_not (a : UInt32) {j : Nat} (hj : j < 32) :
    (~~~a).toNat.testBit j = !a.toNat.testBit j := by
  rw [← UInt32.toNat_toBitVec, ← UInt32.toNat_toBitVec, UInt32.toBitVec_not, BitVec.testBit_toNat,
    BitVec.testBit_toNat, BitVec.getLsbD_not]
  simp [hj]

section

variable {f : Field} {w : Nat}

theorem Wf.shift_lt (hf : f.Wf w) : f.shift.toNat < 32 := by
  have := hf.fits
  have := hf.pos
  omega

/-- A value of `w` bits, placed at the field, still fits in the word. -/
theorem Wf.shl_lt (hf : f.Wf w) {m : Nat} (hm : m < 2 ^ w) : m * 2 ^ f.shift.toNat < 2 ^ 32 :=
  calc m * 2 ^ f.shift.toNat < 2 ^ w * 2 ^ f.shift.toNat :=
        Nat.mul_lt_mul_of_pos_right hm (Nat.two_pow_pos _)
    _ = 2 ^ (w + f.shift.toNat) := (pow_add 2 w _).symm
    _ ≤ 2 ^ 32 := Nat.pow_le_pow_right (by norm_num) (by have := hf.fits; omega)

theorem testBit_mask_shl (hf : f.Wf w) (j : Nat) :
    (f.mask <<< f.shift).toNat.testBit j =
      decide (f.shift.toNat ≤ j ∧ j < f.shift.toNat + w) := by
  have hm : 2 ^ w - 1 < 2 ^ w := Nat.sub_lt (Nat.two_pow_pos w) one_pos
  rw [UInt32.toNat_shiftLeft, Nat.mod_eq_of_lt hf.shift_lt, hf.mask_eq, Nat.shiftLeft_eq,
    Nat.mod_eq_of_lt (hf.shl_lt hm), ← Nat.shiftLeft_eq, Nat.testBit_shiftLeft,
    Nat.testBit_two_pow_sub_one]
  by_cases h : f.shift.toNat ≤ j
  · simp only [ge_iff_le, h, decide_true, Bool.true_and, true_and, decide_eq_decide]
    omega
  · simp [h]

theorem testBit_read (hf : f.Wf w) (x : UInt32) (j : Nat) :
    (f.read x).toNat.testBit j = (decide (j < w) && x.toNat.testBit (f.shift.toNat + j)) := by
  rw [read, UInt32.toNat_shiftRight, Nat.mod_eq_of_lt hf.shift_lt, Nat.testBit_shiftRight,
    UInt32.toNat_and, Nat.testBit_and, testBit_mask_shl hf]
  simp only [Nat.le_add_right, true_and, Nat.add_lt_add_iff_left]
  rw [Bool.and_comm]

theorem testBit_val_value (hf : f.Wf w) (v : UInt32) (j : Nat) :
    (f.val v).value.toNat.testBit j =
      (decide (f.shift.toNat ≤ j ∧ j < f.shift.toNat + w) &&
        v.toNat.testBit (j - f.shift.toNat)) := by
  have hv : (v &&& f.mask).toNat < 2 ^ w := by
    rw [UInt32.toNat_and, hf.mask_eq, Nat.and_two_pow_sub_one_eq_mod]
    exact Nat.mod_lt _ (Nat.two_pow_pos w)
  rw [val, UInt32.toNat_shiftLeft, Nat.mod_eq_of_lt hf.shift_lt, Nat.shiftLeft_eq,
    Nat.mod_eq_of_lt (hf.shl_lt hv), ← Nat.shiftLeft_eq, Nat.testBit_shiftLeft, UInt32.toNat_and,
    hf.mask_eq, Nat.testBit_and, Nat.testBit_two_pow_sub_one]
  by_cases h : f.shift.toNat ≤ j
  · by_cases h' : j < f.shift.toNat + w
    · simp [h, h', show j - f.shift.toNat < w by omega]
    · simp [h, h', show ¬j - f.shift.toNat < w by omega]
  · simp [h]

/-- Bit by bit, writing `v` into a field: `v` inside the field, the old word outside it. -/
theorem testBit_modify_val (hf : f.Wf w) (v x : UInt32) (j : Nat) :
    ((f.val v).modify x).toNat.testBit j =
      if f.shift.toNat ≤ j ∧ j < f.shift.toNat + w then v.toNat.testBit (j - f.shift.toNat)
      else x.toNat.testBit j := by
  by_cases hj : j < 32
  · rw [FieldValue.modify, UInt32.toNat_or, Nat.testBit_or, UInt32.toNat_and, Nat.testBit_and,
      testBit_not _ hj, show (f.val v).mask = f.mask <<< f.shift from rfl, testBit_mask_shl hf,
      testBit_val_value hf]
    by_cases h : f.shift.toNat ≤ j ∧ j < f.shift.toNat + w <;> simp [h]
  · -- past the word every bit is clear, and the field ends inside it
    have hout : ¬(f.shift.toNat ≤ j ∧ j < f.shift.toNat + w) := by
      have := hf.fits
      omega
    rw [if_neg hout, testBit_toNat_of_ge _ (by omega), testBit_toNat_of_ge _ (by omega)]

/-- Reading a field back after writing it gives the value, cut to the field's width. -/
theorem read_modify_val_self (hf : f.Wf w) (v x : UInt32) :
    f.read ((f.val v).modify x) = v &&& f.mask := by
  apply UInt32.toNat_inj.mp
  apply Nat.eq_of_testBit_eq
  intro j
  rw [testBit_read hf, testBit_modify_val hf, UInt32.toNat_and, Nat.testBit_and, hf.mask_eq,
    Nat.testBit_two_pow_sub_one]
  by_cases h : j < w <;> simp [h]

/-- Writing a field leaves a field beside it as it was. -/
theorem read_modify_val_of_disjoint {g : Field} {w' : Nat} (hf : f.Wf w) (hg : g.Wf w')
    (hd : f.shift.toNat + w ≤ g.shift.toNat ∨ g.shift.toNat + w' ≤ f.shift.toNat)
    (v x : UInt32) : g.read ((f.val v).modify x) = g.read x := by
  apply UInt32.toNat_inj.mp
  apply Nat.eq_of_testBit_eq
  intro j
  rw [testBit_read hg, testBit_read hg, testBit_modify_val hf]
  by_cases h : j < w'
  · have hout : ¬(f.shift.toNat ≤ g.shift.toNat + j ∧ g.shift.toNat + j < f.shift.toNat + w) := by
      omega
    simp [h, hout]
  · simp [h]

theorem read_lt (hf : f.Wf w) (x : UInt32) : (f.read x).toNat < 2 ^ w := by
  apply Nat.lt_pow_two_of_testBit
  intro j hj
  rw [testBit_read hf]
  simp [show ¬j < w by omega]

/-- A one-bit field reads `0` or `1`; once a write ors a `1` into it, it reads `1`. -/
theorem read_modify_or_of_ne_zero (hf : f.Wf 1) {x v : UInt32} (h : f.read x ≠ 0) :
    f.read ((f.val (f.read x ||| v)).modify x) = 1 := by
  have hx : (f.read x).toNat < 2 := by simpa using read_lt hf x
  have hx1 : f.read x = 1 := by
    apply UInt32.toNat_inj.mp
    have : (f.read x).toNat ≠ 0 := fun h0 => h (UInt32.toNat_inj.mp h0)
    simp only [UInt32.reduceToNat]
    omega
  rw [read_modify_val_self hf, hx1]
  apply UInt32.toNat_inj.mp
  apply Nat.eq_of_testBit_eq
  intro j
  rw [UInt32.toNat_and, Nat.testBit_and, hf.mask_eq, UInt32.toNat_or, Nat.testBit_or]
  rcases j with _ | j <;> simp [Nat.testBit_succ]

end

end Field

namespace FieldValue

/-- Two field values put in at once are the first and then the second, when the first puts
nothing under the second's mask. -/
theorem modify_add {a b : FieldValue} (h : a.value &&& b.mask = 0) (x : UInt32) :
    (a + b).modify x = b.modify (a.modify x) := by
  apply UInt32.toNat_inj.mp
  apply Nat.eq_of_testBit_eq
  intro j
  by_cases hj : j < 32
  · have hb : a.value.toNat.testBit j = true → b.mask.toNat.testBit j = false := by
      intro ha
      have := congrArg (fun y : UInt32 => y.toNat.testBit j) h
      simp only [UInt32.toNat_and, Nat.testBit_and, ha, Bool.true_and, UInt32.toNat_zero,
        Nat.zero_testBit] at this
      exact this
    simp only [modify, add_def, UInt32.toNat_or, UInt32.toNat_and, Nat.testBit_or, Nat.testBit_and,
      Field.testBit_not _ hj]
    cases ha : a.value.toNat.testBit j <;> cases hbm : b.mask.toNat.testBit j <;> simp_all
  · rw [Field.testBit_toNat_of_ge _ (by omega), Field.testBit_toNat_of_ge _ (by omega)]

end FieldValue

end Register
