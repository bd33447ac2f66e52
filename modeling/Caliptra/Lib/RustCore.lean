import Mathlib

/-!
# Results with panics, and ranges

A Rust function of type `fn(..) -> Result<T, E>` leaves in one of three ways: `Ok`, `Err`, or
a panic (an index out of bounds, or an arithmetic overflow in a build with overflow checks).
`Checked ε α` is `Except (Exit ε) α`, where `Exit ε` is either an `Err` value or a panic, so
that a model written with `do` notation keeps the three apart.

The operations below are the panicking primitives of the language: `+` and `-` on `u32`,
`<<` on `u32`, and indexing a fixed-size array. Each is defined by the bound it checks; the
lemmas give the value when the bound holds and the panic when it fails. The bind lemmas
`bind_eq_ok` and `bind_eq_panic` are the inversion rules used to take a model apart.

`RangeU32` is `core::ops::Range<u32>`, the half-open interval `start..end`.
-/

/-- How a computation of `Checked ε α` fails: with an error value, or by a panic. -/
inductive Exit (ε : Type) where
  | error (e : ε)
  | panic
  deriving DecidableEq, Repr

/-- A computation that returns `α`, fails with `ε`, or panics. -/
abbrev Checked (ε α : Type) := Except (Exit ε) α

namespace Checked

variable {ε α β : Type}

/-- `Err(e)?`: leave with the error `e`. -/
def fail (e : ε) : Checked ε α := .error (.error e)

/-- A panic. -/
def panic : Checked ε α := .error .panic

/-- `x.map_err(|_| e)?`: an error of `x` is replaced by `e`. -/
def liftErr (e : ε) : Except ε α → Checked ε α
  | .ok a => .ok a
  | .error _ => fail e

/-- `x?` for a plain `Result`. -/
def ofExcept : Except ε α → Checked ε α
  | .ok a => .ok a
  | .error e => fail e

/-- `if c { Err(e)? }`: leave with the error `e` when `c` holds. -/
def failIf (c : Prop) [Decidable c] (e : ε) : Checked ε Unit := if c then fail e else pure ()

/-- `a + b` on `u32` with overflow checks. -/
def add (a b : UInt32) : Checked ε UInt32 :=
  if a.toNat + b.toNat < 2 ^ 32 then pure (a + b) else panic

/-- `a - b` on `u32` with overflow checks. -/
def sub (a b : UInt32) : Checked ε UInt32 :=
  if b.toNat ≤ a.toNat then pure (a - b) else panic

/-- `a << b` on `u32` with overflow checks: the shift amount must be below the width. -/
def shl (a b : UInt32) : Checked ε UInt32 :=
  if b.toNat < 32 then pure (a <<< b) else panic

/-- `a + b` on `u16` with overflow checks. -/
def add16 (a b : UInt16) : Checked ε UInt16 :=
  if a.toNat + b.toNat < 2 ^ 16 then pure (a + b) else panic

/-- `a - b` on `u16` with overflow checks. -/
def sub16 (a b : UInt16) : Checked ε UInt16 :=
  if b.toNat ≤ a.toNat then pure (a - b) else panic

/-- `a * b` on `u16` with overflow checks. -/
def mul16 (a b : UInt16) : Checked ε UInt16 :=
  if a.toNat * b.toNat < 2 ^ 16 then pure (a * b) else panic

/-- `a << b` on `u16`: the shift amount must be below the width; the bits shifted out are lost. -/
def shl16 (a : UInt16) (b : Nat) : Checked ε UInt16 :=
  if b < 16 then pure (a <<< b.toUInt16) else panic

/-- `v[i]` on an array of length `n`. -/
def index {n : Nat} (v : Vector α n) (i : Nat) : Checked ε α :=
  if h : i < n then pure v[i] else panic

/-- `buf[start..start + src.len()].copy_from_slice(src)`, and `buf[start] = x` for `src = [x]`;
it panics when the range is not in `buf`. -/
def write (buf : List α) (start : Nat) (src : List α) : Checked ε (List α) :=
  if start + src.length ≤ buf.length then pure (buf.take start ++ src ++ buf.drop (start + src.length))
  else panic

/-- `&buf[..k]`. -/
def slice_to (buf : List α) (k : Nat) : Checked ε (List α) :=
  if k ≤ buf.length then pure (buf.take k) else panic

/-! ## Inversion rules -/

@[simp] theorem pure_eq_ok (a : α) : (pure a : Checked ε α) = .ok a := rfl

theorem bind_eq_ok {x : Checked ε α} {f : α → Checked ε β} {b : β} :
    x >>= f = .ok b ↔ ∃ a, x = .ok a ∧ f a = .ok b := by
  cases x <;> simp [bind, Except.bind]

theorem bind_eq_panic {x : Checked ε α} {f : α → Checked ε β} :
    x >>= f = .error .panic ↔ x = .error .panic ∨ ∃ a, x = .ok a ∧ f a = .error .panic := by
  cases x <;> simp [bind, Except.bind]

/-- A sequence panics only where one of its steps does. -/
theorem bind_ne_panic {x : Checked ε α} {f : α → Checked ε β} (hx : x ≠ .error .panic)
    (hf : ∀ a, x = .ok a → f a ≠ .error .panic) : x >>= f ≠ .error .panic := by
  rw [ne_eq, bind_eq_panic]
  rintro (h | ⟨a, ha, h⟩)
  · exact hx h
  · exact hf a ha h

@[simp] theorem pure_ne_panic (a : α) : (pure a : Checked ε α) ≠ .error .panic := by
  simp [pure, Except.pure]

@[simp] theorem fail_ne_ok (e : ε) (a : α) : fail e ≠ (.ok a : Checked ε α) := by
  simp [fail]

@[simp] theorem fail_ne_panic (e : ε) : fail e ≠ (.error .panic : Checked ε α) := by
  simp [fail]

@[simp] theorem panic_ne_ok (a : α) : panic ≠ (.ok a : Checked ε α) := by
  simp [panic]

@[simp] theorem liftErr_eq_ok {e : ε} {x : Except ε α} {a : α} : liftErr e x = .ok a ↔ x = .ok a := by
  cases x <;> simp [liftErr]

@[simp] theorem liftErr_ne_panic (e : ε) (x : Except ε α) : liftErr e x ≠ .error .panic := by
  cases x <;> simp [liftErr]

@[simp] theorem ofExcept_eq_ok {x : Except ε α} {a : α} : ofExcept x = .ok a ↔ x = .ok a := by
  cases x <;> simp [ofExcept]

@[simp] theorem ofExcept_ne_panic (x : Except ε α) : ofExcept x ≠ .error .panic := by
  cases x <;> simp [ofExcept]

@[simp] theorem failIf_eq_ok {c : Prop} [Decidable c] {e : ε} {u : Unit} :
    failIf c e = .ok u ↔ ¬c := by
  unfold failIf
  split <;> simp_all

@[simp] theorem failIf_ne_panic (c : Prop) [Decidable c] (e : ε) :
    failIf c e ≠ .error .panic := by
  unfold failIf
  split <;> simp

theorem failIf_bind_eq_ok {c : Prop} [Decidable c] {e : ε} {k : Unit → Checked ε β} {b : β} :
    failIf c e >>= k = .ok b ↔ ¬c ∧ k () = .ok b := by
  rw [bind_eq_ok]
  constructor
  · rintro ⟨⟨⟩, hc, hk⟩
    exact ⟨failIf_eq_ok.mp hc, hk⟩
  · rintro ⟨hc, hk⟩
    exact ⟨(), failIf_eq_ok.mpr hc, hk⟩

theorem failIf_bind_eq_panic {c : Prop} [Decidable c] {e : ε} {k : Unit → Checked ε β} :
    failIf c e >>= k = .error .panic ↔ ¬c ∧ k () = .error .panic := by
  rw [bind_eq_panic]
  constructor
  · rintro (h | ⟨⟨⟩, hc, hk⟩)
    · exact absurd h (failIf_ne_panic c e)
    · exact ⟨failIf_eq_ok.mp hc, hk⟩
  · rintro ⟨hc, hk⟩
    exact .inr ⟨(), failIf_eq_ok.mpr hc, hk⟩

/-! ## The primitives -/

/-- The value of a `u32` sum that did not overflow. -/
theorem toNat_add_of_lt {a b : UInt32} (h : a.toNat + b.toNat < 2 ^ 32) :
    (a + b).toNat = a.toNat + b.toNat := by
  rw [UInt32.toNat_add, Nat.mod_eq_of_lt h]

/-- The value of a `u32` difference that did not underflow. -/
theorem toNat_sub_of_le {a b : UInt32} (h : b.toNat ≤ a.toNat) :
    (a - b).toNat = a.toNat - b.toNat :=
  UInt32.toNat_sub_of_le a b (UInt32.le_iff_toNat_le.mpr h)

theorem add_eq_ok {a b c : UInt32} :
    (add a b : Checked ε UInt32) = .ok c ↔ a.toNat + b.toNat < 2 ^ 32 ∧ c = a + b := by
  unfold add
  split <;> simp_all [eq_comm]

theorem add_eq_panic {a b : UInt32} :
    (add a b : Checked ε UInt32) = .error .panic ↔ 2 ^ 32 ≤ a.toNat + b.toNat := by
  unfold add
  split <;> simp_all [panic]

theorem sub_eq_ok {a b c : UInt32} :
    (sub a b : Checked ε UInt32) = .ok c ↔ b.toNat ≤ a.toNat ∧ c = a - b := by
  unfold sub
  split <;> simp_all [eq_comm]

theorem sub_eq_panic {a b : UInt32} :
    (sub a b : Checked ε UInt32) = .error .panic ↔ a.toNat < b.toNat := by
  unfold sub
  split <;> simp_all [panic]

theorem sub_ne_panic {a b : UInt32} (h : b.toNat ≤ a.toNat) :
    (sub a b : Checked ε UInt32) ≠ .error .panic := by
  simp [sub, h]

theorem shl_eq_ok {a b c : UInt32} :
    (shl a b : Checked ε UInt32) = .ok c ↔ b.toNat < 32 ∧ c = a <<< b := by
  unfold shl
  split <;> simp_all [eq_comm]

theorem shl_ne_panic {a b : UInt32} (h : b.toNat < 32) :
    (shl a b : Checked ε UInt32) ≠ .error .panic := by
  simp [shl, h]

theorem index_eq_ok {n : Nat} {v : Vector α n} {i : Nat} {a : α} :
    (index v i : Checked ε α) = .ok a ↔ ∃ h : i < n, v[i] = a := by
  unfold index
  split <;> simp_all

theorem index_ne_panic {n : Nat} {v : Vector α n} {i : Nat} (h : i < n) :
    (index v i : Checked ε α) ≠ .error .panic := by
  simp [index, h]

@[simp] theorem ok_bind (a : α) (f : α → Checked ε β) : ((.ok a : Checked ε α) >>= f) = f a :=
  rfl

@[simp] theorem ofExcept_ok (a : α) : (ofExcept (.ok a) : Checked ε α) = .ok a := rfl

theorem failIf_of_not {c : Prop} [Decidable c] {e : ε} (h : ¬c) : failIf c e = pure () :=
  if_neg h

theorem add16_of_lt {a b : UInt16} (h : a.toNat + b.toNat < 2 ^ 16) :
    (add16 a b : Checked ε UInt16) = .ok (a + b) := by
  rw [add16, if_pos h]; rfl

theorem sub16_of_le {a b : UInt16} (h : b.toNat ≤ a.toNat) :
    (sub16 a b : Checked ε UInt16) = .ok (a - b) := by
  rw [sub16, if_pos h]; rfl

theorem mul16_of_lt {a b : UInt16} (h : a.toNat * b.toNat < 2 ^ 16) :
    (mul16 a b : Checked ε UInt16) = .ok (a * b) := by
  rw [mul16, if_pos h]; rfl

theorem shl16_of_lt {a : UInt16} {b : Nat} (h : b < 16) :
    (shl16 a b : Checked ε UInt16) = .ok (a <<< b.toUInt16) := by
  rw [shl16, if_pos h]; rfl

theorem write_of_le {buf src : List α} {start : Nat} (h : start + src.length ≤ buf.length) :
    (write buf start src : Checked ε (List α)) =
      .ok (buf.take start ++ src ++ buf.drop (start + src.length)) := by
  rw [write, if_pos h]; rfl

theorem slice_to_of_le {buf : List α} {k : Nat} (h : k ≤ buf.length) :
    (slice_to buf k : Checked ε (List α)) = .ok (buf.take k) := by
  rw [slice_to, if_pos h]; rfl

/-- Writing `f x` for each `x` of `xs` at consecutive offsets, each `f x` of length `k`, writes
their concatenation once: the loops `for v in words { buf[i..i + 4].copy_from_slice(..); i += 4 }`. -/
theorem foldlM_write {f : β → List α} {k : Nat} (hf : ∀ x, (f x).length = k) (xs : List β)
    (buf : List α) (start : Nat) (h : start + k * xs.length ≤ buf.length) :
    (xs.foldlM (fun (p : List α × Nat) x => do
        let b ← write p.1 p.2 (f x)
        pure (b, p.2 + k)) (buf, start) : Checked ε (List α × Nat)) =
      .ok (buf.take start ++ xs.flatMap f ++ buf.drop (start + k * xs.length),
        start + k * xs.length) := by
  induction xs generalizing buf start with
  | nil => simp
  | cons x xs ih =>
    simp only [List.length_cons] at h
    have hk : start + k ≤ buf.length := by nlinarith
    have hpre : (buf.take start ++ f x).length = start + k := by simp [hf]; omega
    have hlen : (buf.take start ++ f x ++ buf.drop (start + k)).length = buf.length := by
      rw [List.length_append, hpre]; simp; omega
    have hrest : start + k + k * xs.length ≤
        (buf.take start ++ f x ++ buf.drop (start + k)).length := by
      rw [hlen]; nlinarith
    rw [List.foldlM_cons, write_of_le (by rw [hf]; exact hk), ok_bind, pure_bind, hf, ih _ _ hrest]
    -- what the later writes keep is the first write's `f x` before them and `buf` after them
    have hdrop : (buf.take start ++ f x ++ buf.drop (start + k)).drop (start + k + k * xs.length) =
        buf.drop (start + k * (xs.length + 1)) := by
      have hnil : (buf.take start ++ f x).drop (start + k + k * xs.length) = [] :=
        List.drop_eq_nil_of_le (by omega)
      rw [List.drop_append, hnil, hpre, List.drop_drop, List.nil_append]
      congr 1
      rw [Nat.mul_add, Nat.mul_one]
      omega
    rw [List.take_left' hpre, hdrop, List.flatMap_cons, List.length_cons]
    simp only [List.append_assoc, Nat.mul_add, Nat.mul_one, Nat.add_assoc, Nat.add_comm k]

/-- Writing `src` right after a prefix `a` of the buffer. -/
theorem write_append_length (a rest src : List α) (h : src.length ≤ rest.length) :
    (write (a ++ rest) a.length src : Checked ε (List α)) =
      .ok (a ++ (src ++ rest.drop src.length)) := by
  rw [write_of_le (by simp; omega), List.take_left, List.drop_length_add_append, List.append_assoc]

/-- `&buf[..k]` of a buffer that starts with `a` and then `b`, at the end of `b`. -/
theorem slice_to_append_length (a b rest : List α) :
    (slice_to (a ++ (b ++ rest)) (a.length + b.length) : Checked ε (List α)) = .ok (a ++ b) := by
  rw [slice_to_of_le (by simp), List.take_length_add_append, List.take_left]

end Checked

/-- `core::ops::Range<u32>`: the half-open interval `start..end_`. -/
structure RangeU32 where
  start : UInt32
  end_ : UInt32
  deriving DecidableEq, Repr

namespace RangeU32

/-- `Range::contains`. -/
def contains (r : RangeU32) (x : UInt32) : Bool := r.start ≤ x && x < r.end_

/-- `ExactSizeIterator::len` of the range: the number of its elements, `0` when it is empty. -/
def len (r : RangeU32) : UInt32 := if r.start < r.end_ then r.end_ - r.start else 0

/-- The values of the range, as natural numbers. -/
def toSet (r : RangeU32) : Set ℕ := Set.Ico r.start.toNat r.end_.toNat

@[simp] theorem contains_iff (r : RangeU32) (x : UInt32) :
    r.contains x = true ↔ r.start.toNat ≤ x.toNat ∧ x.toNat < r.end_.toNat := by
  simp [contains, UInt32.le_iff_toNat_le, UInt32.lt_iff_toNat_lt]

theorem contains_iff_mem {r : RangeU32} {x : UInt32} : r.contains x = true ↔ x.toNat ∈ r.toSet := by
  simp [toSet]

theorem len_of_le {a b : UInt32} (h : a.toNat ≤ b.toNat) : RangeU32.len ⟨a, b⟩ = b - a := by
  unfold len
  split
  · rfl
  · next hlt =>
    dsimp only at hlt
    rw [UInt32.lt_iff_toNat_lt] at hlt
    have hab : a = b := UInt32.toNat_inj.mp (by omega)
    simp [hab]

end RangeU32

namespace Except

/-- The inversion rule for a plain `Result`. -/
theorem bind_eq_ok {ε α β : Type} {x : Except ε α} {f : α → Except ε β} {b : β} :
    x >>= f = .ok b ↔ ∃ a, x = .ok a ∧ f a = .ok b := by
  cases x <;> simp [bind, Except.bind]

/-- The inversion rule for `Result::map`. -/
theorem map_eq_ok {ε α β : Type} {x : Except ε α} {f : α → β} {b : β} :
    x.map f = .ok b ↔ ∃ a, x = .ok a ∧ f a = b := by
  cases x <;> simp [Except.map]

@[simp] theorem pure_eq_ok {ε α : Type} {a b : α} : (pure a : Except ε α) = .ok b ↔ a = b := by
  simp [pure, Except.pure]

/-- `if c { Err(e)? }` in a plain `Result`. -/
def failIf {ε : Type} (c : Prop) [Decidable c] (e : ε) : Except ε Unit :=
  if c then .error e else .ok ()

@[simp] theorem failIf_eq_ok {ε : Type} {c : Prop} [Decidable c] {e : ε} {u : Unit} :
    failIf c e = .ok u ↔ ¬c := by
  by_cases hc : c <;> simp [failIf, hc]

@[simp] theorem mapError_eq_ok {ε ε' α : Type} {f : ε → ε'} {x : Except ε α} {a : α} :
    x.mapError f = .ok a ↔ x = .ok a := by
  cases x <;> simp [Except.mapError]

/-- A loop `for x in xs { g(x)? }` over a plain `Result` goes through when every step does. -/
theorem forM_eq_ok {ε α : Type} {xs : List α} {g : α → Except ε Unit} :
    xs.forM g = .ok () ↔ ∀ x ∈ xs, g x = .ok () := by
  induction xs with
  | nil => simp [List.forM]
  | cons x xs ih =>
    simp only [List.forM, List.mem_cons, forall_eq_or_imp, ← ih]
    cases g x <;> simp [bind, Except.bind]

end Except
