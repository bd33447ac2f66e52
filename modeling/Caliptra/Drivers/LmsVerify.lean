import Caliptra.Drivers.Lms

/-!
# `Lms::verify_lms_signature_cfi_generic` against RFC 8554

With SHA-256 a parameter, the software verifier of the `hw-1.0` build computes the candidate
root `Tc` of Algorithm 6a of RFC 8554 (`Rfc8554.candidate_root`) for the hash that truncates
SHA-256 to `N` words. The proof follows the code: the 55-byte buffer of `hash_chain` is always
`I || q || i || j || tmp` followed by bytes nothing reads (`hash_chain_loop`), the coefficients
of `message_hash_with_checksum` are those of `Q || Cksm(Q)`, and the Merkle loop from the node
`N0 / 2 ^ i` does the last steps of the climb from `N0` (`merkle_loop_eq`).
-/

namespace Caliptra

namespace HashValue

/-- The bytes of a hash value, each word big-endian: what `val.to_be_bytes()` feeds the hasher. -/
def beBytes {N : Nat} (h : HashValue N) : List UInt8 := h.val.toList.flatMap Bytes.be32

@[simp] theorem beBytes_length {N : Nat} (h : HashValue N) : h.beBytes.length = 4 * N := by
  simp [beBytes, List.length_flatMap, Nat.mul_comm]

theorem ofArray4x8_eq {N : Nat} (hN : N ≤ 8) (d : Array4x8) :
    ∃ h : HashValue N, ofArray4x8 d = .ok h ∧ h.beBytes = (d.toList.flatMap Bytes.be32).take (4 * N) := by
  refine ⟨_, dif_pos hN, ?_⟩
  have hl : (Vector.ofFn fun i : Fin N => d[i.val]).toList = d.toList.take N := by
    apply List.ext_getElem
    · simp; omega
    · intro i h1 h2
      simp
  rw [beBytes, hl, Bytes.flatMap_take_of_length (fun _ => Bytes.be32_length _)]

theorem ofLe_beBytes {N : Nat} (d : Vector UInt32 N) :
    (ofLe d).beBytes = d.toList.flatMap Bytes.le32 := by
  rw [beBytes, ofLe, Vector.toList_map, List.flatMap_map]
  exact congrArg (List.flatMap · d.toList) (funext Bytes.be32_swap32)

end HashValue

end Caliptra

namespace Caliptra.Lms

section
variable (sha256_driver : List UInt8 → Array4x8) {N : Nat}

/-- The hash of the RFC's equations: SHA-256 truncated to its first `N` words. -/
def truncated_sha256 (N : Nat) (m : List UInt8) : List UInt8 :=
  ((sha256_driver m).toList.flatMap Bytes.be32).take (4 * N)

theorem write_words_append_length (a rest : List UInt8) (words : List UInt32)
    (h : 4 * words.length ≤ rest.length) :
    write_words (a ++ rest) a.length words =
      .ok (a ++ (words.flatMap Bytes.be32 ++ rest.drop (4 * words.length)),
        a.length + 4 * words.length) := by
  rw [write_words, Checked.foldlM_write (fun _ => Bytes.be32_length _) words _ _ (by simp; omega),
    List.take_left, List.drop_length_add_append, List.append_assoc]

theorem hash_chain_loop (hN : N ≤ 8) (pre : List UInt8) (hpre : pre.length = 22) (js : List Nat) :
    ∀ (rest : List UInt8), rest.length = 33 → ∀ tmp : HashValue N,
    ∃ rest' tmp', js.foldlM (fun (p : List UInt8 × HashValue N) j => do
      let wnt_prefix ← Checked.write p.1 ITER_COUNTER_OFFSET [j.toUInt8]
      let ( wnt_prefix, _) ← write_words wnt_prefix TMP_OFFSET p.2.val.toList
      let block ← Checked.slice_to wnt_prefix (TMP_OFFSET + N * 4)
      let tmp ← HashValue.ofArray4x8 (sha256_driver block)
      pure ( wnt_prefix, tmp)) (pre ++ rest, tmp) = .ok (pre ++ rest', tmp') ∧
      rest'.length = 33 ∧
      tmp'.beBytes = js.foldl (fun t j => truncated_sha256 sha256_driver N (pre ++ [j.toUInt8] ++ t))
        tmp.beBytes := by
  induction js with
  | nil => intro rest hrest tmp; exact ⟨rest, tmp, rfl, hrest, rfl⟩
  | cons j js ih =>
    intro rest hrest tmp
    have htmp : tmp.val.toList.length = N := by simp
    -- the counter byte goes at offset 22, the end of `pre`
    have hb1 : (Checked.write (pre ++ rest) ITER_COUNTER_OFFSET [j.toUInt8] :
        Checked CaliptraError _) = .ok ((pre ++ [j.toUInt8]) ++ rest.drop 1) := by
      rw [show ITER_COUNTER_OFFSET = pre.length from hpre.symm,
        Checked.write_append_length _ _ _ (by simp [hrest]), List.append_assoc]
      rfl
    -- `tmp` goes at offset 23, right after the counter byte
    have hb2 : write_words ((pre ++ [j.toUInt8]) ++ rest.drop 1) TMP_OFFSET tmp.val.toList =
        .ok ((pre ++ [j.toUInt8]) ++ (tmp.beBytes ++ (rest.drop 1).drop (4 * N)),
          TMP_OFFSET + 4 * N) := by
      rw [show TMP_OFFSET = (pre ++ [j.toUInt8]).length by simp [hpre, TMP_OFFSET],
        write_words_append_length _ _ _ (by simp [hrest]; omega), htmp]
      rfl
    have hb3 : (Checked.slice_to ((pre ++ [j.toUInt8]) ++ (tmp.beBytes ++ (rest.drop 1).drop (4 * N)))
        (TMP_OFFSET + N * 4) : Checked CaliptraError _) = .ok (pre ++ [j.toUInt8] ++ tmp.beBytes) := by
      rw [show TMP_OFFSET + N * 4 = (pre ++ [j.toUInt8]).length + tmp.beBytes.length by
        simp [hpre, TMP_OFFSET]; omega, Checked.slice_to_append_length]
    obtain ⟨tmp1, hofa, hbytes⟩ :=
      HashValue.ofArray4x8_eq hN (sha256_driver (pre ++ [j.toUInt8] ++ tmp.beBytes))
    obtain ⟨rest', tmp', hrun, hlen', hfold⟩ :=
      ih ([j.toUInt8] ++ (tmp.beBytes ++ (rest.drop 1).drop (4 * N))) (by simp [hrest]; omega) tmp1
    refine ⟨rest', tmp', ?_, hlen', ?_⟩
    · simp only [List.foldlM_cons]
      rw [hb1, Checked.ok_bind, hb2, Checked.ok_bind, hb3, Checked.ok_bind, hofa, Checked.ok_bind]
      simpa only [List.append_assoc, pure_bind] using hrun
    · rw [List.foldl_cons, hfold, hbytes]
      rfl

theorem hash_chain_eq (hN : N ≤ 8) {params : LmotsParameter} (hw : valid_w params.w.toNat = true)
    (pre rest : List UInt8) (hpre : pre.length = 22) (hrest : rest.length = 33) (coeff : UInt8)
    (tmp : HashValue N) :
    ∃ rest' tmp', hash_chain sha256_driver (pre ++ rest) coeff params tmp = .ok (pre ++ rest', tmp') ∧
      rest'.length = 33 ∧
      tmp'.beBytes = (List.range' coeff.toNat (2 ^ params.w.toNat - 1 - coeff.toNat)).foldl
        (fun t j => truncated_sha256 sha256_driver N (pre ++ [j.toUInt8] ++ t)) tmp.beBytes := by
  have hw8 : params.w.toNat ≤ 8 := by have := valid_w_iff.mp hw; omega
  have hw16 : params.w.toNat.toUInt16.toNat = params.w.toNat := by
    simp only [Nat.toUInt16, UInt16.toNat_ofNat']
    omega
  have hpow : 2 ^ params.w.toNat ≤ 2 ^ 8 := Nat.pow_le_pow_right (by decide) hw8
  -- `iteration_count = ((1 << w) - 1) as u8` is `2 ^ w - 1`
  have hcount : (((1 : UInt16) <<< params.w.toNat.toUInt16) - 1).toUInt8.toNat =
      2 ^ params.w.toNat - 1 := by
    rw [UInt16.toNat_toUInt8, Bytes.one_shl_sub_one_toNat (by omega), hw16,
      Nat.mod_eq_of_lt (by omega)]
  simp only [hash_chain]
  have hle : (1 : UInt16).toNat ≤ ((1 : UInt16) <<< params.w.toNat.toUInt16).toNat := by
    rw [Bytes.one_shl_toNat (by omega), UInt16.toNat_one]
    exact Nat.one_le_two_pow
  rw [Checked.shl16_of_lt (by omega), Checked.ok_bind, Checked.sub16_of_le hle, Checked.ok_bind,
    hcount]
  exact hash_chain_loop sha256_driver hN pre hpre _ rest hrest tmp

theorem chains_loop (hN : N ≤ 8) {P : Nat} {params : LmotsParameter}
    (hw : valid_w params.w.toNat = true) (V : List UInt8) (a : Fin P → UInt8)
    (ha : ∀ i : Fin P, coefficient V i params.w.toNat = .ok (a i)) (y : Vector (Vector UInt32 N) P)
    (Iq : List UInt8) (hIq : Iq.length = 20) (is : List (Fin P)) :
    ∀ rest, rest.length = 35 → ∀ z : List (HashValue N),
    ∃ rest' zs, is.foldlM (fun (p : List UInt8 × List (HashValue N)) (i : Fin P) => do
      let a ← Checked.ofExcept (coefficient V i params.w.toNat)
      let tmp := HashValue.ofLe (getElem y i i.isLt)
      let hash_block ← Checked.write p.1 20 (Bytes.be16 i.val.toUInt16)
      let (hash_block, val) ← hash_chain sha256_driver hash_block a params tmp
      pure (hash_block, p.2 ++ [val])) (Iq ++ rest, z) = .ok (Iq ++ rest', z ++ zs) ∧
      rest'.length = 35 ∧
      zs.map HashValue.beBytes = is.map fun i =>
        (List.range' (a i).toNat (2 ^ params.w.toNat - 1 - (a i).toNat)).foldl
          (fun t j => truncated_sha256 sha256_driver N
            (Iq ++ Bytes.be16 i.val.toUInt16 ++ [j.toUInt8] ++ t))
          ((getElem y i i.isLt).toList.flatMap Bytes.le32) := by
  induction is with
  | nil => intro rest hrest z; exact ⟨rest, [], by simp, hrest, rfl⟩
  | cons i is ih =>
    intro rest hrest z
    have hb : (Checked.write (Iq ++ rest) 20 (Bytes.be16 i.val.toUInt16) :
        Checked CaliptraError _) = .ok ((Iq ++ Bytes.be16 i.val.toUInt16) ++ rest.drop 2) := by
      rw [show (20 : Nat) = Iq.length from hIq.symm,
        Checked.write_append_length _ _ _ (by simp [hrest]), List.append_assoc]
      rfl
    obtain ⟨rest1, val, hchain, hlen1, hval⟩ := hash_chain_eq sha256_driver hN hw
      (Iq ++ Bytes.be16 i.val.toUInt16) (rest.drop 2) (by simp [hIq]) (by simp [hrest]) (a i)
      (HashValue.ofLe y[i])
    obtain ⟨rest', zs, hrun, hlen', hzs⟩ :=
      ih (Bytes.be16 i.val.toUInt16 ++ rest1) (by simp [hlen1]) (z ++ [val])
    refine ⟨rest', val :: zs, ?_, hlen', ?_⟩
    · simp only [List.foldlM_cons]
      rw [ha, Checked.ofExcept_ok, Checked.ok_bind, hb, Checked.ok_bind, hchain, Checked.ok_bind]
      simpa only [List.append_assoc, pure_bind, List.cons_append, List.nil_append] using hrun
    · rw [List.map_cons, List.map_cons, hzs, hval, HashValue.ofLe_beBytes]

theorem candidate_ots_signature_eq {P : Nat} {algo_type : LmotsAlgorithmType}
    {params : LmotsParameter} (hget : get_lmots_parameters algo_type = .ok params)
    (hv : params.Valid) (hp : params.p.toNat = P) (hn : params.n.toNat = N * 4)
    (I : LmsIdentifier) (q : Vector UInt8 4) (qn : Nat) (hq : q.toList = Rfc8554.u32str qn)
    (y : Vector (Vector UInt32 N) P) (digest : HashValue N) :
    ∃ h, candidate_ots_signature sha256_driver I algo_type q y digest = .ok h ∧
      h.beBytes = Rfc8554.ots_key_of_representative (truncated_sha256 sha256_driver N)
        params.toSpec I.toList qn digest.beBytes (y.toList.map fun v => v.toList.flatMap Bytes.le32) := by
  have hN : N ≤ 8 := by have := hv.n_le; omega
  have hw := hv.valid_w
  have hQ : digest.beBytes.length = N * 4 := by rw [HashValue.beBytes_length, Nat.mul_comm]
  set Q := digest.beBytes
  set c := UInt16.ofNat (Rfc8554.cksm params.toSpec Q)
  -- `message_hash_with_checksum` is `Q`, then the checksum, then zeros
  have hw1 : write_words (List.replicate 34 0) 0 digest.val.toList =
      .ok (Q ++ (List.replicate 34 0).drop (4 * N), 4 * N) := by
    have h := write_words_append_length ([] : List UInt8) (List.replicate 34 0) digest.val.toList
      (by simp; omega)
    simpa [Q, HashValue.beBytes] using h
  have hck : checksum algo_type (Q ++ (List.replicate 34 0).drop (4 * N)) = .ok c := by
    rw [checksum_eq hget hv _ (by simp; omega),
      Rfc8554.cksm_append _ _ _ (by simp [LmotsParameter.toSpec]; omega)]
  simp only [candidate_ots_signature, hget, Checked.ofExcept_ok, Checked.ok_bind,
    Checked.failIf_of_not (by omega : ¬params.p.toNat ≠ P),
    Checked.failIf_of_not (by have := hv.n_le; simp [UInt8.lt_iff_toNat_lt]; omega : ¬params.n > 32),
    Checked.failIf_of_not (by omega : ¬params.n.toNat ≠ N * 4), pure_bind]
  rw [hw1, Checked.ok_bind]
  set Z := (List.replicate 34 (0 : UInt8)).drop (4 * N) with hZ
  have hZlen : Z.length = 34 - 4 * N := by simp [hZ]
  -- the two checksum bytes go at `N * 4` and `N * 4 + 1`, the end of `Q`
  set b : Vector UInt8 2 := ⟨(Bytes.be16 c).toArray, by simp⟩ with hb
  have hc1 : (Checked.write (Q ++ Z) (N * 4) [b[0]] : Checked CaliptraError _) =
      .ok (Q ++ ([b[0]] ++ Z.drop 1)) := by
    rw [← hQ, Checked.write_append_length _ _ _ (by simp; omega)]
    rfl
  have hc2 : (Checked.write (Q ++ ([b[0]] ++ Z.drop 1)) (N * 4 + 1) [b[1]] :
      Checked CaliptraError _) = .ok ((Q ++ Bytes.be16 c) ++ (Z.drop 1).drop 1) := by
    rw [← List.append_assoc, show N * 4 + 1 = (Q ++ [b[0]]).length by simp [hQ],
      Checked.write_append_length _ _ _ (by simp; omega)]
    simp [hb, Bytes.be16]
  simp only
  rw [hck, Checked.ok_bind, hc1, Checked.ok_bind, hc2, Checked.ok_bind]
  -- `hash_block` is `I || q` followed by zeros
  have hh1 : (Checked.write (List.replicate 55 (0 : UInt8)) 0 I.toList : Checked CaliptraError _) =
      .ok (I.toList ++ (List.replicate 55 (0 : UInt8)).drop 16) := by
    have h := Checked.write_append_length (ε := CaliptraError) ([] : List UInt8)
      (List.replicate 55 (0 : UInt8)) I.toList (by simp)
    simpa using h
  have hh2 : (Checked.write (I.toList ++ (List.replicate 55 (0 : UInt8)).drop 16) 16 q.toList :
      Checked CaliptraError _) =
      .ok ((I.toList ++ q.toList) ++ ((List.replicate 55 (0 : UInt8)).drop 16).drop 4) := by
    have h := Checked.write_append_length (ε := CaliptraError) I.toList
      ((List.replicate 55 (0 : UInt8)).drop 16) q.toList (by simp)
    rw [show I.toList.length = 16 by simp] at h
    rw [h, List.append_assoc, Vector.length_toList]
  rw [hh1, Checked.ok_bind, hh2, Checked.ok_bind]
  -- every coefficient of the buffer is the RFC's coefficient of `V = Q || Cksm(Q)`
  set V := Q ++ Rfc8554.u16str (Rfc8554.cksm params.toSpec Q) with hV
  have hVlen : V.length = params.n.toNat + 2 := by simp [hV, Rfc8554.u16str, hQ, hn]
  have hcoef : ∀ i : Fin P, coefficient ((Q ++ Bytes.be16 c) ++ (Z.drop 1).drop 1) i
      params.w.toNat = .ok (Rfc8554.coef V i params.w.toNat).toUInt8 := by
    intro i
    have hi : (i.val + 1) * params.w.toNat ≤ 8 * V.length := by
      have := hv.p_le
      rw [hVlen]
      nlinarith [i.isLt]
    have hi' : i.val * params.w.toNat + params.w.toNat ≤ 8 * V.length := by
      rw [← Nat.succ_mul]; exact hi
    have hn32 := hv.n_le
    have hw0 : 0 < params.w.toNat := by have := valid_w_iff.mp hw; omega
    rw [coefficient_eq _ hw (by simp [hQ, hZlen]; omega), show Q ++ Bytes.be16 c = V from rfl,
      Rfc8554.coef_append _ _ hi]
  obtain ⟨rest', zs, hrun, -, hzs⟩ := chains_loop sha256_driver hN hw _ _ hcoef y
    (I.toList ++ q.toList) (by simp) (List.finRange P)
    ((List.drop 16 (List.replicate 55 (0 : UInt8))).drop 4) (by simp) []
  simp only at hrun
  rw [hrun, Checked.ok_bind]
  obtain ⟨h, hofa, hbytes⟩ := HashValue.ofArray4x8_eq hN (sha256_driver (I.toList ++ q.toList ++
    Bytes.be16 D_PBLC ++ zs.flatMap fun t => t.val.toList.flatMap Bytes.be32))
  refine ⟨h, by simpa using hofa, ?_⟩
  -- the chains in the order of `i`, each from its coefficient of `V` and its `y[i]`
  have hchains : zs.flatMap (fun t => t.val.toList.flatMap Bytes.be32) =
      ((List.range params.toSpec.p).map fun i =>
        Rfc8554.chain (truncated_sha256 sha256_driver N) params.toSpec.w I.toList qn i
          (Rfc8554.coef V i params.toSpec.w)
          ((y.toList.map fun v => v.toList.flatMap Bytes.le32).getD i [])).flatten := by
    rw [List.flatMap_def]
    change (zs.map HashValue.beBytes).flatten = _
    rw [hzs]
    congr 1
    apply List.ext_getElem
    · simp [LmotsParameter.toSpec, hp]
    · intro i h1 h2
      have hi : i < P := by simpa using h1
      simp only [List.getElem_map, List.getElem_finRange, List.getElem_range, Fin.cast_mk,
        coef_toUInt8_toNat _ (by have := valid_w_iff.mp hw; omega : params.w.toNat ≤ 8)]
      rw [List.getD_eq_getElem _ _ (by simpa using hi)]
      simp [hq, Rfc8554.chain, LmotsParameter.toSpec, Rfc8554.u16str, Rfc8554.u8str]
  rw [hbytes, hchains, hq]
  rfl

theorem path_bytes_eq {H : Nat} (tree_path : Vector (Vector UInt32 N) H) {i : Nat} (hi : i < H) :
    path_bytes tree_path i =
      .ok ((tree_path.toList.map fun v => v.toList.flatMap Bytes.le32).getD i []) := by
  rw [path_bytes, Vector.getElem?_eq_getElem hi, List.getD_eq_getElem _ _ (by simpa using hi)]
  simp

/-- One level of the Merkle loop: the sibling is read once, and goes on the left of an odd node
and on the right of an even one. -/
theorem merkle_loop_step {H : Nat} (id : LmsIdentifier) (tree_path : Vector (Vector UInt32 N) H)
    {node_num : UInt32} (hgt : node_num > 1) (temp : HashValue N) {i : Nat} {sib : List UInt8}
    (hpath : path_bytes tree_path i = .ok sib) :
    merkle_loop sha256_driver id tree_path node_num temp i =
      HashValue.ofArray4x8 (sha256_driver (id.toList ++ Bytes.be32 (node_num / 2) ++
        Bytes.be16 D_INTR ++ (if node_num % 2 = 1 then sib else []) ++ temp.beBytes ++
        (if node_num % 2 = 0 then sib else []))) >>= fun t =>
      merkle_loop sha256_driver id tree_path (node_num / 2) t (i + 1) := by
  rw [merkle_loop, dif_pos hgt]
  by_cases hodd : node_num % 2 = 1
  · simp only [hodd, if_true, hpath, Checked.ok_bind, pure_bind]
    rfl
  · have heven : node_num % 2 = 0 := by
      have := UInt32.toNat_lt (node_num % 2)
      rw [← UInt32.toNat_inj, UInt32.toNat_mod] at hodd ⊢
      simp only [UInt32.reduceToNat] at hodd ⊢
      omega
    simp only [heven, if_true, hpath, Checked.ok_bind, pure_bind]
    rfl

theorem climb_step_eq (Hs : List UInt8 → List UInt8) (I : List UInt8) (path : List (List UInt8))
    {N0 i : Nat} {node_num : UInt32} (hnode : node_num.toNat = N0 / 2 ^ i) (tmp : List UInt8) :
    Rfc8554.climb_step Hs I path N0 tmp i =
      Hs (I ++ Bytes.be32 (node_num / 2) ++ Bytes.be16 D_INTR ++
        (if node_num % 2 = 1 then path.getD i [] else []) ++ tmp ++
        (if node_num % 2 = 0 then path.getD i [] else [])) := by
  have hhalf : Rfc8554.u32str (N0 / 2 ^ i / 2) = Bytes.be32 (node_num / 2) := by
    rw [Rfc8554.u32str, ← hnode]
    congr 1
    apply UInt32.toNat_inj.mp
    rw [UInt32.toNat_div, Nat.toUInt32, UInt32.toNat_ofNat', Nat.mod_eq_of_lt]
    · rfl
    · have := node_num.toNat_lt
      omega
  have hpar : node_num % 2 = 1 ↔ N0 / 2 ^ i % 2 = 1 := by
    rw [← UInt32.toNat_inj, UInt32.toNat_mod, hnode]
    rfl
  have hpar0 : node_num % 2 = 0 ↔ ¬N0 / 2 ^ i % 2 = 1 := by
    rw [← UInt32.toNat_inj, UInt32.toNat_mod, hnode]
    simp only [UInt32.reduceToNat]
    omega
  unfold Rfc8554.climb_step
  by_cases hodd : N0 / 2 ^ i % 2 = 1
  · simp [hodd, hpar.mpr hodd, hhalf]
    rfl
  · simp [hodd, hpar0.mpr hodd, hhalf]
    rfl

/-- The Merkle loop from the node `N0 / 2 ^ i`, `d` levels below the root, does the last `d`
steps of the climb from `N0`. -/
theorem merkle_loop_eq (hN : N ≤ 8) {H : Nat} (id : LmsIdentifier)
    (tree_path : Vector (Vector UInt32 N) H) (N0 : Nat) (d : Nat) :
    ∀ i (temp : HashValue N) (node_num : UInt32), i + d = H → 2 ^ H ≤ N0 → N0 < 2 ^ (H + 1) →
      node_num.toNat = N0 / 2 ^ i →
      ∃ t, merkle_loop sha256_driver id tree_path node_num temp i = .ok t ∧
        t.beBytes = (List.range' i d).foldl (Rfc8554.climb_step (truncated_sha256 sha256_driver N)
          id.toList (tree_path.toList.map fun v => v.toList.flatMap Bytes.le32) N0) temp.beBytes := by
  induction d with
  | zero =>
    intro i temp node_num hi hlo hhi hnode
    -- at the root the node is 1
    have h1 : node_num.toNat = 1 := by
      rw [Nat.add_zero] at hi
      subst hi
      rw [hnode]
      exact Nat.div_eq_of_lt_le (by omega) (by rw [pow_succ] at hhi; omega)
    refine ⟨temp, ?_, rfl⟩
    rw [merkle_loop, dif_neg (by simp [UInt32.lt_iff_toNat_lt, h1])]
    rfl
  | succ d ih =>
    intro i temp node_num hi hlo hhi hnode
    -- the node is `d + 1` levels below the root, so at least 2
    have hge : 2 ^ (d + 1) ≤ node_num.toNat := by
      rw [hnode, Nat.le_div_iff_mul_le (by positivity), ← pow_add]
      exact le_trans (Nat.pow_le_pow_right (by decide) (by omega)) hlo
    have hgt : node_num > 1 := by
      rw [gt_iff_lt, UInt32.lt_iff_toNat_lt, UInt32.toNat_one]
      have : 2 ≤ 2 ^ (d + 1) := Nat.le_self_pow (by omega) 2
      omega
    have hhalf : (node_num / 2).toNat = N0 / 2 ^ (i + 1) := by
      rw [UInt32.toNat_div, hnode, pow_succ, Nat.div_div_eq_div_mul]
      rfl
    have hpath := path_bytes_eq tree_path (show i < H by omega)
    obtain ⟨temp1, hofa, hbytes⟩ := HashValue.ofArray4x8_eq hN (sha256_driver
      (id.toList ++ Bytes.be32 (node_num / 2) ++ Bytes.be16 D_INTR ++
        (if node_num % 2 = 1 then _ else []) ++ temp.beBytes ++
        (if node_num % 2 = 0 then _ else [])))
    obtain ⟨t, hrun, ht⟩ := ih (i + 1) temp1 (node_num / 2) (by omega) hlo hhi hhalf
    refine ⟨t, ?_, ?_⟩
    · rw [merkle_loop_step sha256_driver id tree_path hgt temp hpath, hofa, Checked.ok_bind, hrun]
    · rw [ht, List.range'_succ, List.foldl_cons, hbytes, climb_step_eq _ _ _ hnode]
      rfl

theorem get_lmots_parameters_mem {algo_type : LmotsAlgorithmType} {params : LmotsParameter}
    (h : get_lmots_parameters algo_type = .ok params) : params ∈ LMOTS_P := by
  unfold get_lmots_parameters at h
  split at h
  · rename_i hfind
    cases h
    exact List.mem_of_find?_eq_some hfind
  · cases h

theorem get_lmots_parameters_w_ne_zero {algo_type : LmotsAlgorithmType} {params : LmotsParameter}
    (h : get_lmots_parameters algo_type = .ok params) (hres : algo_type ≠ .LmotsReserved) :
    params.w ≠ 0 := by
  unfold get_lmots_parameters at h
  split at h
  · rename_i hfind
    cases h
    have hname : params.algorithm_name = algo_type := by simpa using List.find?_some hfind
    have hrow : ∀ p ∈ LMOTS_P, p.algorithm_name ≠ .LmotsReserved → p.w ≠ 0 := by decide
    exact hrow params (List.mem_of_find?_eq_some hfind) (hname ▸ hres)
  · cases h

theorem get_lms_parameters_height {algo_type : LmsAlgorithmType} {m h : UInt8}
    (hget : get_lms_parameters algo_type = .ok (m, h)) : h ∈ [5, 10, 15, 20, 25] := by
  unfold get_lms_parameters at hget
  split_ifs at hget <;> cases hget <;> decide

theorem verify_lms_signature_cfi_generic_eq {P H : Nat} (input_string : List UInt8)
    (pk : LmsPublicKey N) (sig : LmsSignature N P H) {params : LmotsParameter} {m h : UInt8}
    (hots : sig.ots.ots_type = pk.otstype)
    (hlms : get_lms_parameters sig.tree_type = .ok (m, h)) (hH : h.toNat = H)
    (hget : get_lmots_parameters sig.ots.ots_type = .ok params) (hw : params.w ≠ 0)
    (hp : params.p.toNat = P) (hn : params.n.toNat = N * 4) (hq : sig.q.toNat < 2 ^ H) :
    ∃ r, verify_lms_signature_cfi_generic sha256_driver input_string pk sig = .ok r ∧
      r.beBytes = Rfc8554.candidate_root (truncated_sha256 sha256_driver N) params.toSpec H
        pk.id.toList sig.q.toNat (sig.ots.nonce.toList.flatMap Bytes.le32)
        (sig.ots.y.toList.map fun v => v.toList.flatMap Bytes.le32)
        (sig.tree_path.toList.map fun v => v.toList.flatMap Bytes.le32) input_string := by
  have hv := LMOTS_P_valid params (get_lmots_parameters_mem hget) hw
  have hN : N ≤ 8 := by have := hv.n_le; omega
  have hh := get_lms_parameters_height hlms
  have hH25 : H ≤ 25 := by
    rw [← hH]; simp only [List.mem_cons, List.not_mem_nil, or_false] at hh
    rcases hh with rfl | rfl | rfl | rfl | rfl <;> decide
  simp only [verify_lms_signature_cfi_generic, Checked.failIf_of_not (not_not.mpr hots), pure_bind,
    hlms, Checked.ofExcept_ok, Checked.ok_bind, Checked.failIf_of_not (not_not.mpr hH)]
  have hH32 : H.toUInt32.toNat = H := by
    rw [Nat.toUInt32_eq, UInt32.toNat_ofNat']; omega
  have hh32 : h.toUInt32.toNat = H := by simp [hH]
  have hpow : 2 ^ H ≤ 2 ^ 25 := Nat.pow_le_pow_right (by norm_num) hH25
  have hone : ((1 : UInt32) <<< H.toUInt32).toNat = 2 ^ H := by
    rw [Bytes.toNat_one_shl (by omega), hH32]
  have hone' : ((1 : UInt32) <<< h.toUInt32).toNat = 2 ^ H := by
    rw [Bytes.toNat_one_shl (by omega), hh32]
  have htwo : ((2 : UInt32) <<< h.toUInt32).toNat = 2 * 2 ^ H := by
    rw [Bytes.toNat_shl_of_lt (by omega) (by simp only [UInt32.reduceToNat, hh32]; omega), hh32]
    rfl
  have hnode : ((1 : UInt32) <<< h.toUInt32 + sig.q).toNat = 2 ^ H + sig.q.toNat := by
    rw [UInt32.toNat_add, hone']
    exact Nat.mod_eq_of_lt (by omega)
  have hs1 : (Checked.shl 1 H.toUInt32 : Checked CaliptraError UInt32) = .ok (1 <<< H.toUInt32) :=
    Checked.shl_eq_ok.mpr ⟨by omega, rfl⟩
  have hs1' : (Checked.shl 1 h.toUInt32 : Checked CaliptraError UInt32) = .ok (1 <<< h.toUInt32) :=
    Checked.shl_eq_ok.mpr ⟨by omega, rfl⟩
  have hs2 : (Checked.shl 2 h.toUInt32 : Checked CaliptraError UInt32) = .ok (2 <<< h.toUInt32) :=
    Checked.shl_eq_ok.mpr ⟨by omega, rfl⟩
  have hadd : (Checked.add (1 <<< h.toUInt32) sig.q : Checked CaliptraError UInt32) =
      .ok (1 <<< h.toUInt32 + sig.q) :=
    Checked.add_eq_ok.mpr ⟨by omega, rfl⟩
  simp only [hs1, hs1', hs2, hadd, Checked.ok_bind, pure_bind,
    Checked.failIf_of_not (show ¬sig.q ≥ 1 <<< H.toUInt32 by simp only [UInt32.le_iff_toNat_le]; omega),
    Checked.failIf_of_not (show ¬(1 <<< h.toUInt32 + sig.q ≥ 2 <<< h.toUInt32) by
      simp only [UInt32.le_iff_toNat_le]; omega)]
  generalize hqv : (Vector.mk (Bytes.be32 sig.q).toArray (by simp) : Vector UInt8 4) = qv
  have hqs : qv.toList = Rfc8554.u32str sig.q.toNat := by
    rw [← hqv]; simp [Rfc8554.u32str]
  obtain ⟨dg, hdg, hdgb⟩ := HashValue.ofArray4x8_eq (N := N) hN (sha256_driver (pk.id.toList ++ qv.toList ++
    Bytes.be16 D_MESG ++ sig.ots.nonce.toList.flatMap Bytes.le32 ++ input_string))
  obtain ⟨key, hkey, hkeyb⟩ := candidate_ots_signature_eq sha256_driver hget hv hp hn pk.id qv
    sig.q.toNat hqs sig.ots.y dg
  obtain ⟨leaf, hleaf, hleafb⟩ := HashValue.ofArray4x8_eq (N := N) hN (sha256_driver (pk.id.toList ++
    Bytes.be32 (1 <<< h.toUInt32 + sig.q) ++ Bytes.be16 D_LEAF ++ key.val.toList.flatMap Bytes.be32))
  obtain ⟨t, ht, htb⟩ := merkle_loop_eq sha256_driver hN pk.id sig.tree_path (2 ^ H + sig.q.toNat) H
    0 leaf _ (Nat.zero_add H) (by omega) (by rw [Nat.pow_succ]; omega) (by rw [hnode]; simp)
  refine ⟨t, ?_, ?_⟩
  · simp only [hash_message, hdg, Checked.ok_bind, hkey, Checked.failIf_of_not (not_not.mpr hh),
      pure_bind, hleaf, ht]
  · have hleaf_num : Rfc8554.u32str (2 ^ H + sig.q.toNat) = Bytes.be32 (1 <<< h.toUInt32 + sig.q) := by
      rw [Rfc8554.u32str, ← hnode, Nat.toUInt32_eq, UInt32.ofNat_toNat]
    rw [htb, hleafb, Rfc8554.candidate_root, Rfc8554.climb, List.range_eq_range', hleaf_num]
    have hrep : Rfc8554.message_representative (truncated_sha256 sha256_driver N) pk.id.toList
        sig.q.toNat (sig.ots.nonce.toList.flatMap Bytes.le32) input_string = dg.beBytes := by
      rw [Rfc8554.message_representative, ← hqs, hdgb]; rfl
    congr 1
    show truncated_sha256 sha256_driver N _ = _
    rw [Rfc8554.candidate_ots_key, hrep, ← hkeyb]
    rfl

theorem verify_lms_signature_cfi_generic_candidate_root {P H : Nat} (input_string : List UInt8)
    (pk : LmsPublicKey N) (sig : LmsSignature N P H) {params : LmotsParameter} {m h : UInt8}
    (hots : sig.ots.ots_type = pk.otstype) (hres : sig.ots.ots_type ≠ .LmotsReserved)
    (hlms : get_lms_parameters sig.tree_type = .ok (m, h)) (hH : h.toNat = H)
    (hget : get_lmots_parameters sig.ots.ots_type = .ok params)
    (hp : params.p.toNat = P) (hn : params.n.toNat = N * 4) (hq : sig.q.toNat < 2 ^ H) :
    ∃ r, verify_lms_signature_cfi_generic sha256_driver input_string pk sig = .ok r ∧
      r.beBytes = Rfc8554.candidate_root (truncated_sha256 sha256_driver N) params.toSpec H
        pk.id.toList sig.q.toNat (sig.ots.nonce.toList.flatMap Bytes.le32)
        (sig.ots.y.toList.map fun v => v.toList.flatMap Bytes.le32)
        (sig.tree_path.toList.map fun v => v.toList.flatMap Bytes.le32) input_string :=
  verify_lms_signature_cfi_generic_eq sha256_driver input_string pk sig hots hlms hH hget
    (get_lmots_parameters_w_ne_zero hget hres) hp hn hq

theorem verify_lms_signature_cfi_generic_candidate_root_n24h5 :
    ∃ r, verify_lms_signature_cfi_generic (fun _ => Vector.replicate 8 0) []
      ⟨.LmsSha256N24H5, .LmotsSha256N24W8, Vector.replicate 16 0, Vector.replicate 6 0⟩
      (⟨0, ⟨.LmotsSha256N24W8, Vector.replicate 6 0, Vector.replicate 26 (Vector.replicate 6 0)⟩,
        .LmsSha256N24H5, Vector.replicate 5 (Vector.replicate 6 0)⟩ : LmsSignature 6 26 5) = .ok r := by
  refine Exists.imp (fun _ h => h.1)
    (verify_lms_signature_cfi_generic_candidate_root _ _ _ _ (m := 24) (h := 5) ?_ ?_ ?_ ?_
      (show _ = Except.ok ⟨.LmotsSha256N24W8, 24, 8, 26, 0⟩ from rfl) ?_ ?_ ?_)
  all_goals first | rfl | decide

theorem verify_lms_signature_cfi_generic_ignores_tree_type (input_string : List UInt8)
    (pk : LmsPublicKey 6) (sig : LmsSignature 6 51 15)
    (hpk : pk.tree_type = .LmsSha256N24H15) (hsig : sig.tree_type = .LmsSha256N32H15)
    (hpko : pk.otstype = .LmotsSha256N24W4) (hots : sig.ots.ots_type = .LmotsSha256N24W4)
    (hq : sig.q.toNat < 2 ^ 15) :
    (∃ r, verify_lms_signature_cfi_generic sha256_driver input_string pk sig = .ok r) ∧
      sig.tree_type ≠ pk.tree_type ∧ get_lms_parameters sig.tree_type = .ok (32, 15) := by
  have hlms : get_lms_parameters sig.tree_type = .ok (32, 15) := by rw [hsig]; rfl
  refine ⟨?_, by rw [hpk, hsig]; decide, hlms⟩
  obtain ⟨r, hr, -⟩ := verify_lms_signature_cfi_generic_eq sha256_driver input_string pk sig
    (hots.trans hpko.symm) hlms rfl (by rw [hots]; rfl) (by decide) rfl rfl hq
  exact ⟨r, hr⟩

theorem verify_lms_signature_cfi_generic_ignores_tree_type_zero :
    ∃ r, verify_lms_signature_cfi_generic (fun _ => Vector.replicate 8 0) []
      ⟨.LmsSha256N24H15, .LmotsSha256N24W4, Vector.replicate 16 0, Vector.replicate 6 0⟩
      (⟨0, ⟨.LmotsSha256N24W4, Vector.replicate 6 0, Vector.replicate 51 (Vector.replicate 6 0)⟩,
        .LmsSha256N32H15, Vector.replicate 15 (Vector.replicate 6 0)⟩ : LmsSignature 6 51 15) =
      .ok r := by
  refine (verify_lms_signature_cfi_generic_ignores_tree_type _ _ _ _ ?_ ?_ ?_ ?_ ?_).1
  all_goals first | rfl | decide

end
end Caliptra.Lms
