import Caliptra.Error
import Caliptra.Lib.Bytes

/-!
# The CFI random-delay generator (`cfi/lib/src/xoshiro.rs`)

`Xoshiro128` is xoshiro128**: four 32-bit words, updated by `next` with xors, one shift and one
rotation, and so a GF(2)-linear map of the 128 state bits (`next_state_xor`). Its inverse is
written out (`prev`): the only step that is not undone at once is `s2 ^= s1 << 9` after
`s1 ^= s2`, and `s1 ^ (s1 << 9)` is undone by xoring the shifts by 9, 18 and 27 (`unshift`),
since a shift by 36 clears the word. A bijective linear map fixes zero and sends every other
state to a non-zero one, which is why `mix_entropy` insists on a non-zero state: from it no run
of `next` reaches the all-zero fixed point (`next_state_iterate_ne_zero`), and so none of the
delays of `CfiCounter::delay` does; each of them spins its loop 1 to 128 times
(`delay_run_bounded`).

The words are `BitVec 32` (the `u32` of the source, with its wrapping products). `entropy_gen`
is given by the results of its successive calls.
-/

namespace Caliptra

/-- `Xoshiro128`: the four state words, each a `Cell<u32>`. -/
structure Xoshiro128 where
  s0 : BitVec 32
  s1 : BitVec 32
  s2 : BitVec 32
  s3 : BitVec 32
  deriving DecidableEq, Repr

namespace Xoshiro128

def new_with_seed (s0 s1 s2 s3 : BitVec 32) : Xoshiro128 := ⟨s0, s1, s2, s3⟩

def new_unseeded : Xoshiro128 := new_with_seed 0 0 0 0

/-- `Xoshiro128::next`: the random number and the state it leaves. -/
def next (x : Xoshiro128) : BitVec 32 × Xoshiro128 :=
  let s0 := x.s0
  let s1 := x.s1
  let s2 := x.s2
  let s3 := x.s3
  let result := (s1 * 5).rotateLeft 7 * 9
  let t := s1 <<< 9
  let s2 := s2 ^^^ s0
  let s3 := s3 ^^^ s1
  let s1 := s1 ^^^ s2
  let s0 := s0 ^^^ s3
  let s2 := s2 ^^^ t
  let s3 := s3.rotateLeft 11
  (result, ⟨s0, s1, s2, s3⟩)

/-- `Xoshiro128::mix_entropy` on the results of the successive calls of `entropy_gen`: it
returns once the state is non-zero, panics (`cfi_panic(CfiPanicInfo::TrngError)`) on an `Err`,
and is `none` while it would still be looping when the results run out. -/
def mix_entropy (x : Xoshiro128) :
    List (CaliptraResult (Vector (BitVec 32) 12)) → Option (Checked CaliptraError Xoshiro128)
  | [] => none
  | .error _ :: _ => some Checked.panic
  | .ok entropy :: rest =>
    let x : Xoshiro128 :=
      ⟨x.s0 ^^^ entropy[0], x.s1 ^^^ entropy[1], x.s2 ^^^ entropy[2], x.s3 ^^^ entropy[3]⟩
    -- Atlease one value must be non-zero
    if x.s0 ||| x.s1 ||| x.s2 ||| x.s3 ≠ 0 then some (pure x) else mix_entropy x rest

/-! ## The state as a GF(2)-vector space of 128 bits -/

instance : Zero Xoshiro128 := ⟨⟨0, 0, 0, 0⟩⟩

instance : XorOp Xoshiro128 := ⟨fun x y => ⟨x.s0 ^^^ y.s0, x.s1 ^^^ y.s1, x.s2 ^^^ y.s2, x.s3 ^^^ y.s3⟩⟩

@[simp] theorem zero_eq : (0 : Xoshiro128) = ⟨0, 0, 0, 0⟩ := rfl

@[simp] theorem xor_eq (x y : Xoshiro128) :
    x ^^^ y = ⟨x.s0 ^^^ y.s0, x.s1 ^^^ y.s1, x.s2 ^^^ y.s2, x.s3 ^^^ y.s3⟩ := rfl

theorem eq_zero_iff (x : Xoshiro128) : x = 0 ↔ x.s0 ||| x.s1 ||| x.s2 ||| x.s3 = 0 := by
  rw [Bytes.or_eq_zero_iff, Bytes.or_eq_zero_iff, Bytes.or_eq_zero_iff]
  cases x
  simp [and_assoc]

/-- The state update of `next`. -/
def next_state (x : Xoshiro128) : Xoshiro128 := (next x).2

/-- The xor of the shifts of `c` by 9, 18 and 27: the inverse of `s ↦ s ^ (s << 9)`. -/
def unshift (c : BitVec 32) : BitVec 32 := c ^^^ (c <<< 9) ^^^ (c <<< 18) ^^^ (c <<< 27)

theorem unshift_xor_shiftLeft (s : BitVec 32) : unshift (s ^^^ (s <<< 9)) = s := by
  simp only [unshift, BitVec.shiftLeft_xor_distrib, ← BitVec.shiftLeft_add, Nat.reduceAdd,
    BitVec.shiftLeft_eq_zero (by omega : 32 ≤ 36), BitVec.xor_zero, ← BitVec.xor_assoc,
    xor_cancel_right]

theorem unshift_xor_shiftLeft_unshift (c : BitVec 32) : unshift c ^^^ (unshift c <<< 9) = c := by
  simp only [unshift, BitVec.shiftLeft_xor_distrib, ← BitVec.shiftLeft_add, Nat.reduceAdd,
    BitVec.shiftLeft_eq_zero (by omega : 32 ≤ 36), BitVec.xor_zero]
  rw [show c ^^^ c <<< 9 ^^^ c <<< 18 ^^^ c <<< 27 = c ^^^ (c <<< 9 ^^^ c <<< 18 ^^^ c <<< 27) by
    simp only [BitVec.xor_assoc], xor_cancel_right]

/-- The inverse of `next_state`, undoing its steps from the last. -/
def prev (x : Xoshiro128) : Xoshiro128 :=
  let s3 := x.s3.rotateRight 11
  let s1 := unshift (x.s1 ^^^ x.s2)
  let s2 := x.s1 ^^^ s1
  let s0 := x.s0 ^^^ s3
  ⟨s0, s1, s2 ^^^ s0, s3 ^^^ s1⟩

theorem next_state_xor (x y : Xoshiro128) :
    next_state (x ^^^ y) = next_state x ^^^ next_state y := by
  simp only [next_state, next, xor_eq, Bytes.rotateLeft_xor, BitVec.shiftLeft_xor_distrib,
    mk.injEq]
  refine ⟨?_, ?_, ?_, ?_⟩ <;> ac_rfl

theorem next_state_zero : next_state 0 = 0 := rfl

theorem prev_next_state (x : Xoshiro128) : prev (next_state x) = x := by
  obtain ⟨s0, s1, s2, s3⟩ := x
  -- `s1 ^ s2` after the update is `s1 ^ (s1 << 9)` before it
  have h12 : s1 ^^^ (s2 ^^^ s0) ^^^ (s2 ^^^ s0 ^^^ s1 <<< 9) = s1 ^^^ s1 <<< 9 := by
    rw [BitVec.xor_assoc, ← BitVec.xor_assoc (s2 ^^^ s0), BitVec.xor_self, BitVec.zero_xor]
  simp only [prev, next_state, next, Bytes.rotateRight_rotateLeft _ (by omega : 11 < 32), h12,
    unshift_xor_shiftLeft, xor_cancel_right, mk.injEq, true_and, and_true]
  rw [BitVec.xor_comm s1, xor_cancel_right, xor_cancel_right]

theorem next_state_prev (x : Xoshiro128) : next_state (prev x) = x := by
  obtain ⟨s0, s1, s2, s3⟩ := x
  have hu := unshift_xor_shiftLeft_unshift (s1 ^^^ s2)
  simp only [prev, next_state, next, xor_cancel_right,
    Bytes.rotateLeft_rotateRight _ (by omega : 11 < 32), mk.injEq, true_and, and_true]
  refine ⟨?_, ?_⟩
  · rw [BitVec.xor_comm s1 (unshift _), xor_cancel_left]
  · rw [BitVec.xor_assoc, hu, xor_cancel_left]

/-- The state update of `next` as a permutation of the states. -/
def next_equiv : Xoshiro128 ≃ Xoshiro128 :=
  ⟨next_state, prev, prev_next_state, next_state_prev⟩

theorem next_state_injective : Function.Injective next_state := next_equiv.injective

/-- No run of `next` from a non-zero state reaches the zero state, which `next` fixes. -/
theorem next_state_iterate_ne_zero {x : Xoshiro128} (hx : x ≠ 0) (k : Nat) :
    next_state^[k] x ≠ 0 := by
  intro h
  apply hx
  apply next_state_injective.iterate k
  rw [h, Function.iterate_fixed next_state_zero]

theorem mix_entropy_ne_zero {x x' : Xoshiro128} {results : List (CaliptraResult (Vector (BitVec 32) 12))}
    (h : mix_entropy x results = some (.ok x')) : x' ≠ 0 := by
  induction results generalizing x with
  | nil => cases h
  | cons r rest ih =>
    cases r with
    | error e => cases h
    | ok entropy =>
      simp only [mix_entropy] at h
      split at h
      · rename_i hne
        cases h
        rw [ne_eq, eq_zero_iff]
        exact hne
      · exact ih h

theorem next_state_linear_bijective :
    (∀ x y : Xoshiro128, next_state (x ^^^ y) = next_state x ^^^ next_state y) ∧
      Function.Bijective next_state ∧
      ∀ (x : Xoshiro128) (results : List (CaliptraResult (Vector (BitVec 32) 12)))
        (x' : Xoshiro128), mix_entropy x results = some (.ok x') →
          ∀ k, next_state^[k] x' ≠ 0 :=
  ⟨next_state_xor, next_equiv.bijective,
    fun _ _ _ h k => next_state_iterate_ne_zero (mix_entropy_ne_zero h) k⟩

theorem next_state_linear_bijective_unseeded :
    mix_entropy new_unseeded [.ok (Vector.replicate 12 1)] = some (.ok ⟨1, 1, 1, 1⟩) ∧
      ∀ k, next_state^[k] ⟨1, 1, 1, 1⟩ ≠ 0 :=
  ⟨rfl, next_state_linear_bijective.2.2 new_unseeded [.ok (Vector.replicate 12 1)] _ rfl⟩

end Xoshiro128

namespace CfiCounter

/-- `CfiCounter::delay` on the state of the global generator `prng()`: the count `_real_cyc` of
the `addi`/`bne` loop, and the state `next` leaves. -/
def delay (prng : Xoshiro128) : BitVec 32 × Xoshiro128 :=
  let (r, prng) := prng.next
  let cycles := r % 256
  let real_cyc := 1 + cycles / 2
  (real_cyc, prng)

/-- The delay loop runs between 1 and 128 times; a count of 0 would make `bne` loop 2^32 times. -/
theorem delay_cycles_bounds (prng : Xoshiro128) :
    1 ≤ (delay prng).1.toNat ∧ (delay prng).1.toNat ≤ 128 := by
  have hr : ((prng.next).1 % 256).toNat < 256 := by
    rw [BitVec.toNat_umod]
    exact Nat.mod_lt _ (by decide)
  simp only [delay, BitVec.toNat_add, BitVec.toNat_udiv]
  simp only [BitVec.reduceToNat]
  omega

end CfiCounter

end Caliptra
