import Caliptra.Lib.Bytes

/-!
# LMS signature verification, as RFC 8554 states it

The candidate root `Tc` of Algorithm 6a, computed from Algorithm 4b's candidate one-time public
key `Kc`, over byte strings and a hash function `H` given as a parameter (for the SHA-256
parameter sets, SHA-256 truncated to `n` bytes). Nothing here is taken from the driver: the
coefficients are the `w`-bit chunks of a byte string read most significant bit first, the
checksum is the exact sum of Algorithm 2 before it is written in two bytes, and the climb to the
root is the loop of Algorithm 6a, step 4.
-/

namespace Caliptra.Rfc8554

/-- `u32str(x)`, `u16str(x)` and `u8str(x)`: `x` in 4, 2 and 1 big-endian bytes. -/
def u32str (x : Nat) : List UInt8 := Bytes.be32 x.toUInt32

def u16str (x : Nat) : List UInt8 := Bytes.be16 x.toUInt16

def u8str (x : Nat) : List UInt8 := [x.toUInt8]

/-- The domain separators of Section 3. -/
def D_PBLC : Nat := 0x8080
def D_MESG : Nat := 0x8181
def D_LEAF : Nat := 0x8282
def D_INTR : Nat := 0x8383

/-- `coef(S, i, w)`: bits `i * w` to `i * w + w - 1` of `S`, most significant first. -/
def coef (S : List UInt8) (i w : Nat) : Nat :=
  Bytes.beNat S / 2 ^ (8 * S.length - (i + 1) * w) % 2 ^ w

/-- The parameters of an LM-OTS type (Table 1): the hash length `n`, the Winternitz parameter
`w`, the number `p` of chains and the checksum shift `ls`. -/
structure LmotsParams where
  n : Nat
  w : Nat
  p : Nat
  ls : Nat

/-- `Cksm(S)` of Algorithm 2, as an integer. -/
def cksm (params : LmotsParams) (S : List UInt8) : Nat :=
  (∑ i ∈ Finset.range (params.n * 8 / params.w), (2 ^ params.w - 1 - coef S i params.w)) *
    2 ^ params.ls

theorem coef_lt (S : List UInt8) (i w : Nat) : coef S i w < 2 ^ w :=
  Nat.mod_lt _ (by positivity)

/-- Bytes after `S` leave the chunks that lie inside `S` as they are. -/
theorem coef_append (S T : List UInt8) {i w : Nat} (h : (i + 1) * w ≤ 8 * S.length) :
    coef (S ++ T) i w = coef S i w := by
  have hT : Bytes.beNat T < 2 ^ (8 * T.length) := by
    rw [pow_mul]; exact Bytes.beNat_lt T
  have hexp : 8 * (S ++ T).length - (i + 1) * w = 8 * T.length + (8 * S.length - (i + 1) * w) := by
    simp only [List.length_append]; omega
  have hS : Bytes.beNat (S ++ T) / 2 ^ (8 * T.length) = Bytes.beNat S := by
    rw [Bytes.beNat_append, show (256 : Nat) ^ T.length = 2 ^ (8 * T.length) by rw [pow_mul]; norm_num,
      Nat.mul_comm, Nat.mul_add_div (by positivity), Nat.div_eq_of_lt hT, Nat.add_zero]
  rw [coef, coef, hexp, pow_add, ← Nat.div_div_eq_div_mul, hS]

/-- Each term of the checksum is at most `2 ^ w - 1`. -/
theorem cksm_le (params : LmotsParams) (S : List UInt8) :
    cksm params S ≤ params.n * 8 / params.w * (2 ^ params.w - 1) * 2 ^ params.ls := by
  apply Nat.mul_le_mul_right
  calc (∑ i ∈ Finset.range (params.n * 8 / params.w), (2 ^ params.w - 1 - coef S i params.w))
      ≤ ∑ _i ∈ Finset.range (params.n * 8 / params.w), (2 ^ params.w - 1) :=
        Finset.sum_le_sum fun _ _ => Nat.sub_le _ _
    _ = params.n * 8 / params.w * (2 ^ params.w - 1) := by simp

/-- The checksum reads only the first `n` bytes. -/
theorem cksm_append (params : LmotsParams) (S T : List UInt8) (h : params.n ≤ S.length) :
    cksm params (S ++ T) = cksm params S := by
  unfold cksm
  congr 1
  refine Finset.sum_congr rfl fun i hi => ?_
  have hi' : (i + 1) * params.w ≤ 8 * S.length := by
    have := Finset.mem_range.mp hi
    calc (i + 1) * params.w ≤ params.n * 8 / params.w * params.w := Nat.mul_le_mul_right _ this
      _ ≤ params.n * 8 := Nat.div_mul_le_self _ _
      _ ≤ 8 * S.length := by omega
  rw [coef_append S T hi']

section

variable (H : List UInt8 → List UInt8)

/-- Algorithm 4b, step 3: the message representative `Q`. -/
def message_representative (I : List UInt8) (q : Nat) (C message : List UInt8) : List UInt8 :=
  H (I ++ u32str q ++ u16str D_MESG ++ C ++ message)

/-- Algorithm 4b, step 4, for chain `i`: `tmp` hashed for `j = a, ..., 2^w - 2`. -/
def chain (w : Nat) (I : List UInt8) (q i a : Nat) (tmp : List UInt8) : List UInt8 :=
  (List.range' a (2 ^ w - 1 - a)).foldl
    (fun tmp j => H (I ++ u32str q ++ u16str i ++ u8str j ++ tmp)) tmp

/-- Algorithm 4b, steps 4 and 5: `Kc` from the message representative `Q`, each `y[i]` hashed
on from the `i`-th coefficient of `Q || Cksm(Q)`. -/
def ots_key_of_representative (params : LmotsParams) (I : List UInt8) (q : Nat) (Q : List UInt8)
    (y : List (List UInt8)) : List UInt8 :=
  let V := Q ++ u16str (cksm params Q)
  let z := (List.range params.p).map fun i => chain H params.w I q i (coef V i params.w) (y.getD i [])
  H (I ++ u32str q ++ u16str D_PBLC ++ z.flatten)

/-- Algorithm 4b: the candidate one-time public key `Kc` of the signature `(C, y)` of
`message` at leaf `q`. -/
def candidate_ots_key (params : LmotsParams) (I : List UInt8) (q : Nat) (C : List UInt8)
    (y : List (List UInt8)) (message : List UInt8) : List UInt8 :=
  ots_key_of_representative H params I q (message_representative H I q C message) y

/-- Algorithm 6a, step 4, at step `i` of the climb from the leaf `node_num`: the node is
`node_num / 2 ^ i`, and its sibling `path[i]` goes on the left when the node is odd and on the
right when it is even. -/
def climb_step (I : List UInt8) (path : List (List UInt8)) (node_num : Nat) (tmp : List UInt8)
    (i : Nat) : List UInt8 :=
  let node := node_num / 2 ^ i
  if node % 2 = 1 then H (I ++ u32str (node / 2) ++ u16str D_INTR ++ path.getD i [] ++ tmp)
  else H (I ++ u32str (node / 2) ++ u16str D_INTR ++ tmp ++ path.getD i [])

/-- Algorithm 6a, step 4: the `h` interior hashes from the leaf `node_num` to the root. -/
def climb (I : List UInt8) (path : List (List UInt8)) (h node_num : Nat) (tmp : List UInt8) :
    List UInt8 :=
  (List.range h).foldl (climb_step H I path node_num) tmp

/-- Algorithm 6a: the candidate root `Tc` of a tree of height `h`. -/
def candidate_root (params : LmotsParams) (h : Nat) (I : List UInt8) (q : Nat) (C : List UInt8)
    (y path : List (List UInt8)) (message : List UInt8) : List UInt8 :=
  let Kc := candidate_ots_key H params I q C y message
  let node_num := 2 ^ h + q
  climb H I path h node_num (H (I ++ u32str node_num ++ u16str D_LEAF ++ Kc))

end

end Caliptra.Rfc8554
