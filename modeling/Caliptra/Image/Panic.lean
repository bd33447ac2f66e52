import Caliptra.Image.Guarantees

/-!
# Where `ImageVerifier::verify` can panic

Every index, shift and subtraction of the verifier is guarded by a check made before it,
except one: the load check of `verify_fmc` and `verify_runtime` computes
`load_addr + size - 1` as `(load_addr + size) - 1`. `verify_toc` bounded
`load_addr + (size - 1)`, which leaves `load_addr + size = 2^32` possible, and then the sum
overflows. `verify_eq_panic` shows that this is the only way `verify` panics, and
`verify_panics_at_load_end` exhibits it. In the ROM the image is the mailbox, so an image that
hashes is at most `MBOX_SIZE` bytes, and with its load address in the ICCM the sum cannot reach
`2^32`: `rom_verify_ne_panic`.
-/

namespace Caliptra

open CaliptraError

namespace ImageVerifier

variable {env : ImageVerificationEnv}

/-! ## The stages that cannot panic -/

theorem verify_vendor_pk_digest_ne_panic : verify_vendor_pk_digest env ≠ .error .panic := by
  unfold verify_vendor_pk_digest
  split
  · exact Checked.pure_ne_panic _
  · simp [Checked.bind_eq_panic]

theorem verify_owner_pk_digest_ne_panic {reason : ResetReason} :
    verify_owner_pk_digest env reason ≠ .error .panic := by
  simp [verify_owner_pk_digest, Checked.bind_eq_panic]

/-- Both key index checks shift `1` by an index they have just bounded by the key count. -/
theorem key_idx_match_ne_panic {count idx : UInt32}
    {revocation_check : UInt32 → Checked CaliptraError Unit} {e : CaliptraError}
    (h2 : 2 ≤ count.toNat) (h33 : count.toNat ≤ 33)
    (hcheck : ∀ k, revocation_check k ≠ .error .panic) :
    (if idx ≤ count - 2 then Checked.shl 1 idx >>= revocation_check
      else if idx = count - 2 + 1 then pure () else Checked.fail e) ≠ .error .panic := by
  split
  · next hle =>
    have hsub : (count - 2).toNat = count.toNat - 2 := Checked.toNat_sub_of_le h2
    rw [UInt32.le_iff_toNat_le, hsub] at hle
    exact Checked.bind_ne_panic (Checked.shl_ne_panic (by omega)) fun k _ => hcheck k
  · split <;> simp [Checked.fail]

theorem verify_vendor_ecc_pk_idx_ne_panic {preamble : ImagePreamble} {reason : ResetReason} :
    verify_vendor_ecc_pk_idx env preamble reason ≠ .error .panic := by
  unfold verify_vendor_ecc_pk_idx
  refine Checked.bind_ne_panic ?_ fun _ _ => by simp [Checked.bind_eq_panic]
  exact key_idx_match_ne_panic (by decide) (by decide) fun _ => Checked.failIf_ne_panic _ _

theorem verify_vendor_lms_pk_idx_ne_panic {preamble : ImagePreamble} {reason : ResetReason} :
    verify_vendor_lms_pk_idx env preamble reason ≠ .error .panic := by
  unfold verify_vendor_lms_pk_idx
  refine Checked.bind_ne_panic ?_ fun _ _ => by simp [Checked.bind_eq_panic]
  exact key_idx_match_ne_panic (by decide) (by decide) fun _ => Checked.failIf_ne_panic _ _

theorem verify_preamble_lms_ne_panic {preamble : ImagePreamble} {reason : ResetReason} :
    verify_preamble_lms env preamble reason ≠ .error .panic := by
  unfold verify_preamble_lms
  split
  · refine Checked.bind_ne_panic verify_vendor_lms_pk_idx_ne_panic fun r hr => ?_
    obtain ⟨rfl, hnr, -⟩ := verify_vendor_lms_pk_idx_ok hr
    -- the index was just bounded by the key count
    exact Checked.bind_ne_panic (Checked.index_ne_panic (UInt32.lt_iff_toNat_lt.mp hnr.1))
      fun _ _ => Checked.pure_ne_panic _
  · exact Checked.pure_ne_panic _

theorem verify_preamble_ne_panic {preamble : ImagePreamble} {reason : ResetReason} :
    verify_preamble env preamble reason ≠ .error .panic := by
  unfold verify_preamble
  refine Checked.bind_ne_panic verify_vendor_pk_digest_ne_panic fun _ _ => ?_
  refine Checked.bind_ne_panic verify_owner_pk_digest_ne_panic fun _ _ => ?_
  refine Checked.bind_ne_panic verify_vendor_ecc_pk_idx_ne_panic fun r hr => ?_
  obtain ⟨rfl, hnr, -⟩ := verify_vendor_ecc_pk_idx_ok hr
  refine Checked.bind_ne_panic (Checked.index_ne_panic (UInt32.lt_iff_toNat_lt.mp hnr.1))
    fun _ _ => ?_
  exact Checked.bind_ne_panic verify_preamble_lms_ne_panic fun _ _ => Checked.pure_ne_panic _

/-- The signature checks call the engines and compare; they index and compute nothing. -/
theorem verify_vendor_sig_ne_panic {digest : ImageDigest}
    {ecc_info : ImageEccPubKey × ImageEccSignature}
    {lms_info : Option (ImageLmsPublicKey × ImageLmsSignature)} :
    verify_vendor_sig env digest ecc_info lms_info ≠ .error .panic := by
  rcases lms_info with _ | ⟨key, sig⟩ <;> cases hen : env.lms_verify_enabled <;>
    simp [verify_vendor_sig, hen, Checked.bind_eq_panic]

theorem verify_owner_ecc_sig_ne_panic {digest : ImageDigest} {pub_key : ImageEccPubKey}
    {sig : ImageEccSignature} : verify_owner_ecc_sig env digest pub_key sig ≠ .error .panic := by
  simp [verify_owner_ecc_sig, Checked.bind_eq_panic]

theorem verify_owner_lms_sig_ne_panic {digest : ImageDigest} {pub_key : ImageLmsPublicKey}
    {sig : ImageLmsSignature} : verify_owner_lms_sig env digest pub_key sig ≠ .error .panic := by
  simp [verify_owner_lms_sig, Checked.bind_eq_panic]

theorem verify_header_ne_panic {header : ImageHeader} {info : HeaderInfo} :
    verify_header env header info ≠ .error .panic := by
  rcases hl : info.vendor_lms_pub_key_idx with _ | idx <;>
    rcases ho : info.owner_lms_info with _ | ⟨key, sig⟩ <;>
    simp [verify_header, hl, ho, Checked.bind_eq_panic, verify_vendor_sig_ne_panic,
      verify_owner_ecc_sig_ne_panic, verify_owner_lms_sig_ne_panic]

theorem verify_toc_ne_panic {manifest : ImageManifest} {verify_info : TocInfo}
    {img_bundle_sz : UInt32} : verify_toc env manifest verify_info img_bundle_sz ≠ .error .panic := by
  simp only [verify_toc, ne_eq, Checked.bind_eq_panic, Checked.liftErr_ne_panic,
    Checked.failIf_ne_panic, Checked.ofExcept_ne_panic, Checked.sub_eq_panic,
    Checked.failIf_eq_ok, Checked.pure_ne_panic, exists_const, false_or, UInt32.toNat_one,
    Nat.lt_one_iff, ← UInt32.toNat_inj, UInt32.toNat_zero]
  -- both `image_size() - 1` come after the checks that the sizes are not zero
  rintro ⟨-, -, -, -, hf, hr, -, -, -, -, -, -, -, hsub⟩
  rcases hsub with h | ⟨-, -, -, h | ⟨-, -, -, -, h⟩⟩
  · exact hf h
  · exact hr h
  · exact h

/-! ## The panic -/

/-- How the checks common to both images panic: the image was hashed and its load address
accepted, and then the sum `load_addr + size` overflows. -/
structure PanicsAtLoadEnd (env : ImageVerificationEnv) (e : ImageTocEntry) : Prop where
  size_pos : 1 ≤ e.size.toNat
  range_no_wrap : e.offset.toNat + e.size.toNat < 2 ^ 32
  digest_ok :
    env.sha384_digest e.offset (RangeU32.len ⟨e.offset, e.offset + e.size⟩) = .ok e.digest
  load_addr_mem : env.iccm_range.contains e.load_addr
  load_end_overflow : 2 ^ 32 ≤ e.load_addr.toNat + e.size.toNat

theorem verify_exe_eq_panic {e : ImageTocEntry} {E1 E2 E3 E4 E5 E6 : CaliptraError}
    (hsize : 1 ≤ e.size.toNat) (H : verify_exe env e E1 E2 E3 E4 E5 E6 = .error .panic) :
    PanicsAtLoadEnd env e := by
  simp only [verify_exe, Checked.bind_eq_panic, Checked.ofExcept_ne_panic,
    Checked.liftErr_ne_panic, Checked.failIf_ne_panic, Checked.pure_ne_panic,
    Checked.ofExcept_eq_ok, Checked.liftErr_eq_ok, Checked.failIf_eq_ok,
    ImageTocEntry.image_range_eq_ok, Checked.add_eq_panic, Checked.add_eq_ok,
    Checked.sub_eq_panic, exists_const, false_or, or_false, exists_eq_left, exists_and_left,
    and_assoc, and_false, ne_eq, not_not, Bool.not_eq_true', Bool.not_eq_false] at H
  obtain ⟨hr, a, ha, rfl, hl, hsum⟩ := H
  refine ⟨hsize, hr, ha, hl, ?_⟩
  rcases hsum with hover | ⟨hno, hsub⟩
  · exact hover
  · -- the subtraction cannot underflow: the sum did not wrap and the size is not zero
    rw [Checked.toNat_add_of_lt hno, UInt32.toNat_one] at hsub
    omega

theorem verify_fmc_eq_panic {e : ImageTocEntry} {reason : ResetReason}
    (hsize : 1 ≤ e.size.toNat) (H : verify_fmc env e reason = .error .panic) :
    PanicsAtLoadEnd env e := by
  simp only [verify_fmc, Checked.bind_eq_panic, Checked.failIf_ne_panic, Checked.pure_ne_panic,
    Checked.failIf_eq_ok, exists_const, or_false, and_false] at H
  exact verify_exe_eq_panic hsize H

theorem verify_runtime_eq_panic {e : ImageTocEntry}
    (hsize : 1 ≤ e.size.toNat) (H : verify_runtime env e = .error .panic) :
    PanicsAtLoadEnd env e := by
  simp only [verify_runtime, Checked.bind_eq_panic, Checked.failIf_ne_panic, Checked.pure_ne_panic,
    Checked.failIf_eq_ok, exists_const, or_false, and_false] at H
  exact verify_exe_eq_panic hsize H

/-- `verify` panics only at the sum `load_addr + size` of the FMC or of the runtime, when it is
exactly `2^32`: `verify_toc` let `load_addr + (size - 1)` reach `2^32 - 1`. -/
theorem verify_eq_panic {manifest : ImageManifest} {img_bundle_sz : UInt32}
    {reason : ResetReason} (H : verify env manifest img_bundle_sz reason = .error .panic) :
    PanicsAtLoadEnd env manifest.fmc ∧
        manifest.fmc.load_addr.toNat + manifest.fmc.size.toNat = 2 ^ 32 ∨
      PanicsAtLoadEnd env manifest.runtime ∧
        manifest.runtime.load_addr.toNat + manifest.runtime.size.toNat = 2 ^ 32 := by
  simp only [verify, Checked.bind_eq_panic, Checked.failIf_ne_panic, Checked.failIf_eq_ok,
    verify_preamble_ne_panic, verify_header_ne_panic, verify_toc_ne_panic, Checked.pure_ne_panic,
    exists_const, false_or, or_false, and_false, exists_false] at H
  obtain ⟨-, -, hi, -, ti, -, ii, ht, H⟩ := H
  obtain ⟨toc, rfl⟩ := verify_toc_ok ht
  have hf := toc.fmc_load_no_wrap
  have hr := toc.runtime_load_no_wrap
  rcases H with hfmc | ⟨⟨fi, fl⟩, -, hrt⟩
  · have hp := verify_fmc_eq_panic toc.fmc_size_pos hfmc
    exact .inl ⟨hp, by have := hp.load_end_overflow; omega⟩
  · have hp := verify_runtime_eq_panic toc.runtime_size_pos hrt
    exact .inr ⟨hp, by have := hp.load_end_overflow; omega⟩

/-- A bundle that `verify` panics on under `TestEnv::default()`: its FMC is loaded at the start
of the ICCM and is `0xC0000000` bytes long, so that `load_addr + (size - 1)` is `u32::MAX` and
passes `verify_toc`, while `load_addr + size` is `2^32`. -/
def panic_manifest : ImageManifest :=
  { test_manifest with
    fmc := ⟨1, 1, 0, 0, 0, 0x40000000, 0x40000000, 5884, 0xC0000000, ZERO_DIGEST⟩
    runtime := ⟨2, 2, 0, 0, 0, 0x3FFFFFF0, 0x3FFFFFF0, 0xC00016FC, 4, ZERO_DIGEST⟩ }

theorem verify_panics_at_load_end :
    verify TestEnv.default.env panic_manifest 0xFFFFFFFF .ColdReset = .error .panic := by
  decide +kernel

end ImageVerifier

/-! ## The ROM's environment -/

namespace FirmwareImageVerificationEnv

/-- In the ROM an image that hashes lies in the mailbox, so it is at most `MBOX_SIZE` bytes, and
with a load address in the ICCM its end cannot reach `2^32`. -/
theorem not_panics_at_load_end (fenv : FirmwareImageVerificationEnv) {e : ImageTocEntry} :
    ¬ImageVerifier.PanicsAtLoadEnd fenv.env e := by
  intro h
  have hlen : RangeU32.len ⟨e.offset, e.offset + e.size⟩ = e.size := by
    rw [RangeU32.len_of_le (by rw [Checked.toNat_add_of_lt h.range_no_wrap]; omega)]
    exact add_sub_cancel_left e.offset e.size
  have hdigest : fenv.sha384_digest e.offset e.size = .ok e.digest := hlen ▸ h.digest_ok
  have hbound := sha384_digest_ok_bound hdigest
  have hmem := (RangeU32.contains_iff _ _).mp h.load_addr_mem
  have hend : ICCM_RANGE.end_.toNat = 0x40020000 := rfl
  have hmbox : MBOX_SIZE.toNat = 131072 := rfl
  have hover := h.load_end_overflow
  change _ ∧ e.load_addr.toNat < ICCM_RANGE.end_.toNat at hmem
  omega

end FirmwareImageVerificationEnv

namespace ImageVerifier

/-- With the ROM's environment, over any mailbox contents, `verify` never panics. -/
theorem rom_verify_ne_panic (fenv : FirmwareImageVerificationEnv) (manifest : ImageManifest)
    (img_bundle_sz : UInt32) (reason : ResetReason) :
    verify fenv.env manifest img_bundle_sz reason ≠ .error .panic := by
  intro H
  rcases verify_eq_panic H with ⟨h, -⟩ | ⟨h, -⟩
  · exact fenv.not_panics_at_load_end h
  · exact fenv.not_panics_at_load_end h

end ImageVerifier

end Caliptra
