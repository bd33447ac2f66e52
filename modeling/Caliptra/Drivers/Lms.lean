import Caliptra.Error
import Caliptra.LmsTypes
import Caliptra.Lib.RustCore
import Caliptra.Spec.Rfc8554

/-!
# The LMS verifier (`drivers/src/lms.rs`)

The software verifier of the `hw-1.0` build: the Winternitz chains are hashed one step at a time
in a 55-byte buffer that is reused across chains and steps. The SHA-256 engine is a parameter
`sha256_driver`, the digest (as eight words) of the bytes passed to the updates between
`digest_init` and `finalize`; its own errors are not modelled. The functions run in
`Checked CaliptraError`, so that a slice index out of range and the checked `u16` arithmetic
of `checksum` are panics and not silent wrap-arounds; `usize` is `Nat`.

The first lemmas read `coefficient` and `checksum` as the `coef` and `Cksm` of RFC 8554
(`coefficient_eq`, `checksum_eq`), under the conditions that each entry of `LMOTS_P` other
than the reserved one meets (`LmotsParameter.Valid`).
-/

namespace Caliptra

open CaliptraError

/-- `Array4x8`: a SHA-256 digest as eight words. -/
abbrev Array4x8 := Vector UInt32 8

/-- `LmotsParameter`: a row of Table 1 of RFC 8554. -/
structure LmotsParameter where
  algorithm_name : LmotsAlgorithmType
  n : UInt8
  w : UInt8
  p : UInt16
  ls : UInt8
  deriving DecidableEq, Repr

namespace HashValue

/-- `HashValue::<N>::from(Array4x8)`: the first `N` words; `data.0[..N]` panics when `N > 8`. -/
def ofArray4x8 {N : Nat} (data : Array4x8) : Checked CaliptraError (HashValue N) :=
  if h : N ≤ 8 then pure ⟨Vector.ofFn fun i => data[i.val]⟩ else Checked.panic

end HashValue

namespace Lms

def D_PBLC : UInt16 := 0x8080
def D_MESG : UInt16 := 0x8181
def D_LEAF : UInt16 := 0x8282
def D_INTR : UInt16 := 0x8383

def LMOTS_P : List LmotsParameter :=
  [⟨.LmotsReserved, 0, 0, 0, 0⟩,
   ⟨.LmotsSha256N32W1, 32, 1, 265, 7⟩,
   ⟨.LmotsSha256N32W2, 32, 2, 133, 6⟩,
   ⟨.LmotsSha256N32W4, 32, 4, 67, 4⟩,
   ⟨.LmotsSha256N32W8, 32, 8, 34, 0⟩,
   ⟨.LmotsSha256N24W1, 24, 1, 200, 8⟩,
   ⟨.LmotsSha256N24W2, 24, 2, 101, 6⟩,
   ⟨.LmotsSha256N24W4, 24, 4, 51, 4⟩,
   ⟨.LmotsSha256N24W8, 24, 8, 26, 0⟩]

def get_lmots_parameters (algo_type : LmotsAlgorithmType) : CaliptraResult LmotsParameter :=
  match LMOTS_P.find? (·.algorithm_name == algo_type) with
  | some i => .ok i
  | none => .error DRIVER_LMS_INVALID_LMOTS_ALGO_TYPE

def get_lms_parameters (algo_type : LmsAlgorithmType) : CaliptraResult (UInt8 × UInt8) :=
  if algo_type = .LmsSha256N32H5 then .ok (32, 5)
  else if algo_type = .LmsSha256N32H10 then .ok (32, 10)
  else if algo_type = .LmsSha256N32H15 then .ok (32, 15)
  else if algo_type = .LmsSha256N32H20 then .ok (32, 20)
  else if algo_type = .LmsSha256N32H25 then .ok (32, 25)
  else if algo_type = .LmsSha256N24H5 then .ok (24, 5)
  else if algo_type = .LmsSha256N24H10 then .ok (24, 10)
  else if algo_type = .LmsSha256N24H15 then .ok (24, 15)
  else if algo_type = .LmsSha256N24H20 then .ok (24, 20)
  else if algo_type = .LmsSha256N24H25 then .ok (24, 25)
  else .error DRIVER_LMS_INVALID_LMS_ALGO_TYPE

def WNTZ_MODE_SHA256 : UInt8 := 32
def ITER_COUNTER_OFFSET : Nat := 22
def WNT_PREFIX_SIZE : Nat := 55
def TMP_OFFSET : Nat := 23

/-- `matches!(w, 1 | 2 | 4 | 8)`. -/
def valid_w (w : Nat) : Bool := w == 1 || w == 2 || w == 4 || w == 8

/-- `Lms::coefficient`: the `i`-th `w`-bit chunk of `s`. -/
def coefficient (s : List UInt8) (i w : Nat) : CaliptraResult UInt8 := do
  Except.failIf (valid_w w = false) DRIVER_LMS_INVALID_WINTERNITS_PARAM
  let bitmask : UInt16 := (1 <<< w.toUInt16) - 1
  let index := i * w / 8
  if h : index ≥ s.length then throw DRIVER_LMS_INVALID_INDEX
  else
    let b := s[index]
    let shift := if w ≠ 0 then 8 - (w * (i % (8 / w)) + w) else 8
    let rs : UInt8 := if shift < 8 then b >>> shift.toUInt8 else 0
    let small_bitmask := bitmask.toUInt8
    pure (small_bitmask &&& rs)

/-- `Lms::checksum`. After the check on `w`, the shift and the subtraction that make `bitmask`
cannot overflow; the product `upper_bound` and the sum are checked. -/
def checksum (algo_type : LmotsAlgorithmType) (input_string : List UInt8) :
    Checked CaliptraError UInt16 := do
  let params ← Checked.ofExcept (get_lmots_parameters algo_type)
  Checked.failIf (valid_w params.w.toNat = false) DRIVER_LMS_INVALID_WINTERNITS_PARAM
  let upper_bound ← Checked.mul16 params.n.toUInt16 (8 / params.w.toUInt16)
  let bitmask : UInt16 := (1 <<< params.w.toUInt16) - 1
  let sum ← (List.range upper_bound.toNat).foldlM (fun sum i => do
    let c ← Checked.ofExcept (coefficient input_string i params.w.toNat)
    Checked.add16 sum (← Checked.sub16 bitmask c.toUInt16)) 0
  Checked.shl16 sum params.ls.toNat

/-- `buf[i..i + 4].clone_from_slice(&val.to_be_bytes()); i += 4` for each word, from `start`. -/
def write_words (buf : List UInt8) (start : Nat) (words : List UInt32) :
    Checked CaliptraError (List UInt8 × Nat) :=
  words.foldlM (fun (p : List UInt8 × Nat) val => do
    let b ← Checked.write p.1 p.2 (Bytes.be32 val)
    pure (b, p.2 + 4)) (buf, start)

section

variable (sha256_driver : List UInt8 → Array4x8) {N P H : Nat}

/-- `Lms::hash_message`: `H(I || q || D_MESG || C || message)`. -/
def hash_message (message : List UInt8) (lms_identifier : LmsIdentifier) (q : Vector UInt8 4)
    (nonce : Vector UInt32 N) : Checked CaliptraError (HashValue N) :=
  HashValue.ofArray4x8 (sha256_driver (lms_identifier.toList ++ q.toList ++ Bytes.be16 D_MESG ++
    nonce.toList.flatMap Bytes.le32 ++ message))

/-- `Lms::hash_chain` of the `hw-1.0` build: `tmp` hashed for `j = coeff, ..., 2^w - 2`, each
time with `j` written at `ITER_COUNTER_OFFSET` and `tmp` at `TMP_OFFSET` of `wnt_prefix`.
It returns the buffer as it leaves it and the last `tmp`. -/
def hash_chain ( wnt_prefix : List UInt8) (coeff : UInt8) (params : LmotsParameter)
    (tmp : HashValue N) : Checked CaliptraError (List UInt8 × HashValue N) := do
  let iteration_count := (← Checked.sub16 (← Checked.shl16 1 params.w.toNat) 1).toUInt8
  (List.range' coeff.toNat (iteration_count.toNat - coeff.toNat)).foldlM
    (fun (p : List UInt8 × HashValue N) j => do
      let wnt_prefix ← Checked.write p.1 ITER_COUNTER_OFFSET [j.toUInt8]
      let ( wnt_prefix, _) ← write_words wnt_prefix TMP_OFFSET p.2.val.toList
      let block ← Checked.slice_to wnt_prefix (TMP_OFFSET + N * 4)
      let tmp ← HashValue.ofArray4x8 (sha256_driver block)
      pure ( wnt_prefix, tmp)) ( wnt_prefix, tmp)

/-- `Lms::candidate_ots_signature`: the candidate one-time public key. The array `z` is
collected in order, one chain a step. -/
def candidate_ots_signature (lms_identifier : LmsIdentifier) (algo_type : LmotsAlgorithmType)
    (q : Vector UInt8 4) (y : Vector (Vector UInt32 N) P) (message_digest : HashValue N) :
    Checked CaliptraError (HashValue N) := do
  let params ← Checked.ofExcept (get_lmots_parameters algo_type)
  Checked.failIf (params.p.toNat ≠ P) DRIVER_LMS_INVALID_PVALUE
  Checked.failIf (params.n > 32) DRIVER_LMS_INVALID_HASH_WIDTH
  Checked.failIf (params.n.toNat ≠ N * 4) DRIVER_LMS_INVALID_HASH_WIDTH
  -- 2 extra bytes for the checksum
  let (message_hash_with_checksum, _) ←
    write_words (List.replicate 34 0) 0 message_digest.val.toList
  let checksum_q ← checksum algo_type message_hash_with_checksum
  let be_checksum : Vector UInt8 2 := ⟨(Bytes.be16 checksum_q).toArray, by simp⟩
  let checksum_offset := N * 4
  let message_hash_with_checksum ←
    Checked.write message_hash_with_checksum checksum_offset [be_checksum[0]]
  let message_hash_with_checksum ←
    Checked.write message_hash_with_checksum (checksum_offset + 1) [be_checksum[1]]
  let hash_block ← Checked.write (List.replicate 55 0) 0 lms_identifier.toList
  let hash_block ← Checked.write hash_block 16 q.toList
  let (_, z) ← (List.finRange P).foldlM (fun (p : List UInt8 × List (HashValue N)) (i : Fin P) => do
    let a ← Checked.ofExcept (coefficient message_hash_with_checksum i params.w.toNat)
    let tmp := HashValue.ofLe (getElem y i i.isLt)
    let hash_block ← Checked.write p.1 20 (Bytes.be16 i.val.toUInt16)
    let (hash_block, val) ← hash_chain sha256_driver hash_block a params tmp
    pure (hash_block, p.2 ++ [val])) (hash_block, [])
  HashValue.ofArray4x8 (sha256_driver (lms_identifier.toList ++ q.toList ++ Bytes.be16 D_PBLC ++
    z.flatMap fun t => t.val.toList.flatMap Bytes.be32))

/-- `tree_path.get(i).ok_or(DRIVER_LMS_PATH_OUT_OF_BOUNDS)?.as_bytes()`. -/
def path_bytes (tree_path : Vector (Vector UInt32 N) H) (i : Nat) :
    Checked CaliptraError (List UInt8) :=
  match tree_path[i]? with
  | some p => pure (p.toList.flatMap Bytes.le32)
  | none => Checked.fail DRIVER_LMS_PATH_OUT_OF_BOUNDS

/-- The loop `while node_num > 1 { .. }` of `verify_lms_signature_cfi_generic`, from `node_num`
and `temp` at path index `i`. -/
def merkle_loop (id : LmsIdentifier) (tree_path : Vector (Vector UInt32 N) H) (node_num : UInt32)
    (temp : HashValue N) (i : Nat) : Checked CaliptraError (HashValue N) :=
  if h : node_num > 1 then do
    let left ← if node_num % 2 = 1 then path_bytes tree_path i else pure []
    let right ← if node_num % 2 = 0 then path_bytes tree_path i else pure []
    let temp ← HashValue.ofArray4x8 (sha256_driver (id.toList ++ Bytes.be32 (node_num / 2) ++
      Bytes.be16 D_INTR ++ left ++ temp.val.toList.flatMap Bytes.be32 ++ right))
    merkle_loop id tree_path (node_num / 2) temp (i + 1)
  else pure temp
termination_by node_num.toNat
decreasing_by
  rw [gt_iff_lt, UInt32.lt_iff_toNat_lt, UInt32.toNat_one] at h
  rw [UInt32.toNat_div]
  simp only [UInt32.reduceToNat]
  omega

/-- `Lms::verify_lms_signature_cfi_generic`: the candidate root of the signature. -/
def verify_lms_signature_cfi_generic (input_string : List UInt8) (lms_public_key : LmsPublicKey N)
    (lms_sig : LmsSignature N P H) : Checked CaliptraError (HashValue N) := do
  Checked.failIf (lms_sig.ots.ots_type ≠ lms_public_key.otstype)
    DRIVER_LMS_SIGNATURE_LMOTS_DOESNT_MATCH_PUBKEY_LMOTS
  let q_str : Vector UInt8 4 := ⟨(Bytes.be32 lms_sig.q).toArray, by simp⟩
  let (_, tree_height) ← Checked.ofExcept (get_lms_parameters lms_sig.tree_type)
  -- Make sure the height of the tree matches the value of H this was compiled with
  Checked.failIf (tree_height.toNat ≠ H) DRIVER_LMS_INVALID_TREE_HEIGHT
  Checked.failIf (lms_sig.q ≥ (← Checked.shl 1 H.toUInt32)) DRIVER_LMS_INVALID_Q_VALUE
  let node_num ← Checked.add (← Checked.shl 1 tree_height.toUInt32) lms_sig.q
  Checked.failIf (node_num ≥ (← Checked.shl 2 tree_height.toUInt32)) DRIVER_LMS_INVALID_Q_VALUE
  let message_digest ←
    hash_message sha256_driver input_string lms_public_key.id q_str lms_sig.ots.nonce
  let candidate_key ← candidate_ots_signature sha256_driver lms_public_key.id
    lms_sig.ots.ots_type q_str lms_sig.ots.y message_digest
  Checked.failIf (tree_height ∉ [5, 10, 15, 20, 25]) DRIVER_LMS_INVALID_TREE_HEIGHT
  let temp ← HashValue.ofArray4x8 (sha256_driver (lms_public_key.id.toList ++
    Bytes.be32 node_num ++ Bytes.be16 D_LEAF ++ candidate_key.val.toList.flatMap Bytes.be32))
  merkle_loop sha256_driver lms_public_key.id lms_sig.tree_path node_num temp 0

end

end Lms

/-! ## Coefficients and the checksum -/

/-- The parameters of RFC 8554 that a row of `LMOTS_P` stands for. -/
def LmotsParameter.toSpec (p : LmotsParameter) : Rfc8554.LmotsParams :=
  ⟨p.n.toNat, p.w.toNat, p.p.toNat, p.ls.toNat⟩

/-- What the verifier needs of a row of `LMOTS_P`: its lookup finds it, `w` is one of the four
Winternitz widths, the checksum fits in 16 bits after the shift, and the `p` coefficients of
`Q || Cksm(Q)` lie inside those `n + 2` bytes. -/
structure LmotsParameter.Valid (p : LmotsParameter) : Prop where
  lookup : Lms.get_lmots_parameters p.algorithm_name = .ok p
  valid_w : Lms.valid_w p.w.toNat = true
  n_le : p.n.toNat ≤ 32
  ls_lt : p.ls.toNat < 16
  cksm_lt : p.n.toNat * 8 / p.w.toNat * (2 ^ p.w.toNat - 1) * 2 ^ p.ls.toNat < 2 ^ 16
  p_le : p.p.toNat * p.w.toNat ≤ 8 * (p.n.toNat + 2)

namespace Lms

/-- Every row but the reserved one is valid. -/
theorem LMOTS_P_valid : ∀ p ∈ LMOTS_P, p.w ≠ 0 → p.Valid := by
  intro p hp hw
  simp only [LMOTS_P, List.mem_cons, List.not_mem_nil, or_false] at hp
  rcases hp with rfl | rfl | rfl | rfl | rfl | rfl | rfl | rfl | rfl
  · exact absurd rfl hw
  all_goals exact ⟨rfl, rfl, by decide, by decide, by decide, by decide⟩

theorem valid_w_iff {w : Nat} : valid_w w = true ↔ w = 1 ∨ w = 2 ∨ w = 4 ∨ w = 8 := by
  simp only [valid_w, Bool.or_eq_true, beq_iff_eq, or_assoc]

theorem coef_toUInt8_toNat (s : List UInt8) {i w : Nat} (hw : w ≤ 8) :
    (Rfc8554.coef s i w).toUInt8.toNat = Rfc8554.coef s i w :=
  Nat.mod_eq_of_lt (lt_of_lt_of_le (Rfc8554.coef_lt s i w)
    (Nat.pow_le_pow_right (by decide) hw))

theorem coefficient_eq (s : List UInt8) {i w : Nat} (hw : valid_w w = true)
    (hi : i * w / 8 < s.length) :
    coefficient s i w = .ok (Rfc8554.coef s i w).toUInt8 := by
  have hw' := valid_w_iff.mp hw
  have hw0 : w ≠ 0 := by omega
  -- the chunk lies in byte `i * w / 8`, `shift` bits above the end of that byte
  have hshift : 8 * s.length - (i + 1) * w =
      8 * (s.length - 1 - i * w / 8) + (8 - (w * (i % (8 / w)) + w)) := by
    rcases hw' with rfl | rfl | rfl | rfl <;> omega
  have hfit : 8 - (w * (i % (8 / w)) + w) + w ≤ 8 := by
    rcases hw' with rfl | rfl | rfl | rfl <;> omega
  have hbyte := Bytes.beNat_bits_of_byte s hi hfit
  rw [← hshift] at hbyte
  have hmask := Bytes.mask_shiftRight_toNat s[i * w / 8]
    (by omega : 8 - (w * (i % (8 / w)) + w) < 8) (by omega : w ≤ 8)
  simp only [coefficient, Except.failIf, hw, not_le.mpr hi, ne_eq, hw0, not_false_eq_true,
    ite_true, Bool.true_eq_false, ite_false, dite_false,
    show 8 - (w * (i % (8 / w)) + w) < 8 by omega]
  change Except.ok _ = _
  congr 1
  rw [← UInt8.toNat_inj, hmask, coef_toUInt8_toNat s (by omega), ← hbyte]
  rfl

/-- The loop of `checksum` adds `bitmask - coefficient` for `i < k`; with `bitmask = 2 ^ w - 1`
and a total below `2 ^ 16` nothing overflows and no index is out of range. -/
theorem checksum_loop (s : List UInt8) {w : Nat} (hw : valid_w w = true) {bitmask : UInt16}
    (hmask : bitmask.toNat = 2 ^ w - 1) (k : Nat) (hk : k * w ≤ 8 * s.length)
    (hb : k * (2 ^ w - 1) < 2 ^ 16) :
    (List.range k).foldlM (fun (sum : UInt16) i => do
      let c ← Checked.ofExcept (coefficient s i w)
      Checked.add16 sum (← Checked.sub16 bitmask c.toUInt16)) 0 =
      (.ok (UInt16.ofNat (∑ i ∈ Finset.range k, (2 ^ w - 1 - Rfc8554.coef s i w))) :
        Checked CaliptraError UInt16) := by
  have hw8 : 0 < w ∧ w ≤ 8 := by have := valid_w_iff.mp hw; omega
  induction k with
  | zero => rfl
  | succ k ih =>
    have hsum : ∑ i ∈ Finset.range k, (2 ^ w - 1 - Rfc8554.coef s i w) ≤ k * (2 ^ w - 1) := by
      calc _ ≤ ∑ _i ∈ Finset.range k, (2 ^ w - 1) := Finset.sum_le_sum fun _ _ => Nat.sub_le _ _
        _ = k * (2 ^ w - 1) := by simp
    have hc := coef_toUInt8_toNat s (i := k) hw8.2
    have hidx : k * w / 8 < s.length := by
      have : k * w + w ≤ 8 * s.length := by rw [Nat.succ_mul] at hk; exact hk
      omega
    have hcle : Rfc8554.coef s k w ≤ 2 ^ w - 1 := by have := Rfc8554.coef_lt s k w; omega
    rw [List.range_succ, List.foldlM_append, ih (by nlinarith) (by nlinarith), Checked.ok_bind]
    simp only [List.foldlM_cons, List.foldlM_nil, bind_pure]
    rw [coefficient_eq s hw hidx]
    set S := ∑ i ∈ Finset.range k, (2 ^ w - 1 - Rfc8554.coef s i w)
    have hc16 : (Rfc8554.coef s k w).toUInt8.toUInt16.toNat = Rfc8554.coef s k w := by
      rw [UInt8.toNat_toUInt16, hc]
    have hle : (Rfc8554.coef s k w).toUInt8.toUInt16 ≤ bitmask := by
      rw [UInt16.le_iff_toNat_le, hc16, hmask]; exact hcle
    have hS : (UInt16.ofNat S).toNat = S := UInt16.toNat_ofNat_of_lt (by nlinarith)
    have hsub : (bitmask - (Rfc8554.coef s k w).toUInt8.toUInt16).toNat = 2 ^ w - 1 - Rfc8554.coef s k w := by
      rw [UInt16.toNat_sub_of_le _ _ hle, hmask, hc16]
    have hlt : S + (2 ^ w - 1 - Rfc8554.coef s k w) < 2 ^ 16 := by
      have : S + (2 ^ w - 1 - Rfc8554.coef s k w) ≤ (k + 1) * (2 ^ w - 1) := by
        rw [Nat.succ_mul]; omega
      omega
    rw [show Checked.ofExcept (.ok (Rfc8554.coef s k w).toUInt8) =
        (.ok (Rfc8554.coef s k w).toUInt8 : Checked CaliptraError UInt8) from rfl,
      Checked.ok_bind, Checked.sub16_of_le (by rw [hc16, hmask]; exact hcle), Checked.ok_bind,
      Checked.add16_of_lt (by rw [hS, hsub]; exact hlt), Finset.sum_range_succ]
    congr 1
    apply UInt16.toNat_inj.mp
    rw [UInt16.toNat_add, hS, hsub, UInt16.toNat_ofNat']

theorem checksum_eq {algo_type : LmotsAlgorithmType} {params : LmotsParameter}
    (hget : get_lmots_parameters algo_type = .ok params) (hv : params.Valid) (s : List UInt8)
    (hs : params.n.toNat ≤ s.length) :
    checksum algo_type s = .ok (UInt16.ofNat (Rfc8554.cksm params.toSpec s)) := by
  have hw := valid_w_iff.mp hv.valid_w
  have hdvd : params.w.toNat ∣ 8 := by rcases hw with h | h | h | h <;> rw [h] <;> decide
  have hn := params.n.toNat_lt
  -- `upper_bound = n * (8 / w)`, which is `n * 8 / w` because `w` divides 8
  have hprod : params.n.toNat * (8 / params.w.toNat) < 2 ^ 16 := by
    have h8 : 8 / params.w.toNat ≤ 8 := Nat.div_le_self _ _
    nlinarith
  have hfactors : params.n.toUInt16.toNat * (8 / params.w.toUInt16).toNat =
      params.n.toNat * (8 / params.w.toNat) := by
    rw [UInt16.toNat_div, UInt8.toNat_toUInt16, UInt8.toNat_toUInt16]
    rfl
  -- `upper_bound = n * (8 / w)`, which is `n * 8 / w` because `w` divides 8
  have hub : (params.n.toUInt16 * (8 / params.w.toUInt16)).toNat =
      params.n.toNat * 8 / params.w.toNat := by
    rw [UInt16.toNat_mul, hfactors, Nat.mod_eq_of_lt hprod, Nat.mul_div_assoc _ hdvd]
  have hmask : ((1 : UInt16) <<< params.w.toUInt16 - 1).toNat = 2 ^ params.w.toNat - 1 := by
    rw [Bytes.one_shl_sub_one_toNat (by rw [UInt8.toNat_toUInt16]; omega), UInt8.toNat_toUInt16]
  set S := ∑ i ∈ Finset.range (params.n.toNat * 8 / params.w.toNat),
    (2 ^ params.w.toNat - 1 - Rfc8554.coef s i params.w.toNat) with hS
  have hc : Rfc8554.cksm params.toSpec s = S * 2 ^ params.ls.toNat := rfl
  have hcksm : S * 2 ^ params.ls.toNat < 2 ^ 16 :=
    hc ▸ lt_of_le_of_lt (Rfc8554.cksm_le _ _) hv.cksm_lt
  have hsum : S < 2 ^ 16 := lt_of_le_of_lt (Nat.le_mul_of_pos_right S (by positivity)) hcksm
  have hloop := checksum_loop s hv.valid_w hmask (params.n.toNat * 8 / params.w.toNat)
    (le_trans (Nat.div_mul_le_self _ _) (by omega))
    (lt_of_le_of_lt (Nat.le_mul_of_pos_right _ (by positivity)) hv.cksm_lt)
  simp only [checksum, hget, Checked.ofExcept_ok, Checked.ok_bind,
    Checked.failIf_of_not (by simp [hv.valid_w] : ¬valid_w params.w.toNat = false), pure_bind]
  rw [Checked.mul16_of_lt (by rw [hfactors]; exact hprod), Checked.ok_bind, hub, hloop,
    Checked.ok_bind, Checked.shl16_of_lt hv.ls_lt]
  congr 1
  apply UInt16.toNat_inj.mp
  have hls : params.ls.toNat.toUInt16.toNat % 16 = params.ls.toNat := by
    simp only [Nat.toUInt16, UInt16.toNat_ofNat']
    have := hv.ls_lt
    omega
  rw [UInt16.toNat_shiftLeft, hls, UInt16.toNat_ofNat', Nat.mod_eq_of_lt hsum, hc,
    UInt16.toNat_ofNat', Nat.shiftLeft_eq]

theorem coefficient_checksum_exact :
    (∀ w : Nat, w = 1 ∨ w = 2 ∨ w = 4 ∨ w = 8 → ∀ (s : List UInt8) (i : Nat),
      i * w / 8 < s.length → (coefficient s i w).map UInt8.toNat = .ok (Rfc8554.coef s i w)) ∧
    ∀ p ∈ LMOTS_P, p.w ≠ 0 → ∀ s : List UInt8, s.length = 34 →
      (checksum p.algorithm_name s).map UInt16.toNat = .ok (Rfc8554.cksm p.toSpec s) := by
  refine ⟨fun w hw s i hi => ?_, fun p hp hw s hs => ?_⟩
  · rw [coefficient_eq s (valid_w_iff.mpr hw) hi]
    exact congrArg Except.ok (coef_toUInt8_toNat s (by omega))
  · have hv := LMOTS_P_valid p hp hw
    have hcksm : Rfc8554.cksm p.toSpec s < 2 ^ 16 :=
      lt_of_le_of_lt (Rfc8554.cksm_le _ _) hv.cksm_lt
    rw [checksum_eq hv.lookup hv s (by have := hv.n_le; omega)]
    exact congrArg Except.ok (UInt16.toNat_ofNat_of_lt hcksm)

/-- The reserved row of `LMOTS_P` is found by its lookup, and then rejected for its `w = 0`. -/
theorem checksum_reserved_rejected :
    ⟨.LmotsReserved, 0, 0, 0, 0⟩ ∈ LMOTS_P ∧
      checksum .LmotsReserved (List.replicate 34 0) =
        Checked.fail DRIVER_LMS_INVALID_WINTERNITS_PARAM :=
  ⟨List.mem_cons_self, rfl⟩

/-- The row `LmotsSha256N24W4` on the 34 bytes `0x80, 0, ...`: its checksum is the exact sum, and
the first 4-bit coefficient of the input is `8`. -/
theorem coefficient_checksum_exact_n24w4 :
    ((4 = 1 ∨ 4 = 2 ∨ 4 = 4 ∨ 4 = 8) ∧ 0 * 4 / 8 < (0x80 :: List.replicate 33 0).length) ∧
      (coefficient (0x80 :: List.replicate 33 0) 0 4).map UInt8.toNat =
        .ok (Rfc8554.coef (0x80 :: List.replicate 33 0) 0 4) ∧
      (⟨.LmotsSha256N24W4, 24, 4, 51, 4⟩ ∈ LMOTS_P ∧ (4 : UInt8) ≠ 0 ∧
        (0x80 :: List.replicate 33 0).length = 34) ∧
      (checksum .LmotsSha256N24W4 (0x80 :: List.replicate 33 0)).map UInt16.toNat =
        .ok (Rfc8554.cksm (LmotsParameter.toSpec ⟨.LmotsSha256N24W4, 24, 4, 51, 4⟩)
          (0x80 :: List.replicate 33 0)) :=
  ⟨⟨by decide, by decide⟩,
    coefficient_checksum_exact.1 4 (by decide) _ 0 (by decide),
    ⟨by decide, by decide, by decide⟩,
    coefficient_checksum_exact.2 ⟨.LmotsSha256N24W4, 24, 4, 51, 4⟩ (by decide) (by decide)
      (0x80 :: List.replicate 33 0) (by decide)⟩

end Lms

end Caliptra
