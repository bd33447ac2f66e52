import Caliptra.Image.VerifierSpec
import Caliptra.Image.Envs

/-!
# What the ROM may rely on once an image is verified

Two consequences of a successful `ImageVerifier::verify`, assembled from the stage lemmas of
`VerifierSpec`:

* `verify_safe_to_load`: the two executables can be copied into the ICCM as their TOC entries
  describe. Their closed load intervals `[load_addr, load_addr + size - 1]` are non-empty, do not
  wrap, lie in the ICCM and do not meet; load addresses and entry points are aligned; the images
  come one after the other in the bundle, after the manifest.
* `verify_authorized`: the authorisation postcondition. The vendor keys used are in range and
  not revoked, the header repeats their indices, a fused owner key digest matches, the SVNs
  respect the fuses, and on an update reset the keys, owner digest and FMC digest are those
  recorded at cold boot.
-/

namespace Caliptra

open CaliptraError

namespace ImageTocEntry

/-- The bytes an image is loaded into: the closed interval `[load_addr, load_addr + size - 1]`. -/
def load_interval (e : ImageTocEntry) : Set ℕ :=
  Set.Icc e.load_addr.toNat (e.load_addr.toNat + e.size.toNat - 1)

end ImageTocEntry

namespace ImageVerifier

variable {env : ImageVerificationEnv}

/-! ## Safe to load -/

namespace ExeVerified

variable {e : ImageTocEntry}

/-- The last byte `load_addr + size - 1` of a verified image, computed without wrapping. -/
theorem load_end_toNat (h : ExeVerified env e) :
    (e.load_addr + e.size - 1).toNat = e.load_addr.toNat + e.size.toNat - 1 := by
  have hsum := Checked.toNat_add_of_lt h.load_end_no_wrap
  rw [Checked.toNat_sub_of_le (by rw [hsum, UInt32.toNat_one]; exact h.load_end_pos), hsum,
    UInt32.toNat_one]

theorem load_interval_subset (h : ExeVerified env e) : e.load_interval ⊆ env.iccm_range.toSet := by
  have hstart := RangeU32.contains_iff_mem.mp h.load_addr_mem
  have hend := RangeU32.contains_iff_mem.mp h.load_end_mem
  rw [h.load_end_toNat] at hend
  simp only [RangeU32.toSet, Set.mem_Ico] at hstart hend
  intro x hx
  simp only [ImageTocEntry.load_interval, Set.mem_Icc] at hx
  exact ⟨by omega, by omega⟩

end ExeVerified

/-- The facts a loader needs about the manifest of a verified bundle, for an ICCM `iccm`. -/
structure SafeToLoad (iccm : RangeU32) (manifest : ImageManifest) (img_bundle_sz : UInt32) :
    Prop where
  fmc_size_pos : 1 ≤ manifest.fmc.size.toNat
  runtime_size_pos : 1 ≤ manifest.runtime.size.toNat
  fmc_load_no_wrap : manifest.fmc.load_addr.toNat + manifest.fmc.size.toNat - 1 < 2 ^ 32
  runtime_load_no_wrap :
    manifest.runtime.load_addr.toNat + manifest.runtime.size.toNat - 1 < 2 ^ 32
  fmc_load_in_iccm : manifest.fmc.load_interval ⊆ iccm.toSet
  runtime_load_in_iccm : manifest.runtime.load_interval ⊆ iccm.toSet
  loads_disjoint : Disjoint manifest.fmc.load_interval manifest.runtime.load_interval
  fmc_load_addr_aligned : manifest.fmc.load_addr % 4 = 0
  runtime_load_addr_aligned : manifest.runtime.load_addr % 4 = 0
  fmc_entry_point_aligned : manifest.fmc.entry_point % 4 = 0
  runtime_entry_point_aligned : manifest.runtime.entry_point % 4 = 0
  fmc_entry_point_in_iccm : manifest.fmc.entry_point.toNat ∈ iccm.toSet
  runtime_entry_point_in_iccm : manifest.runtime.entry_point.toNat ∈ iccm.toSet
  images_in_order :
    manifest.fmc.offset.toNat + manifest.fmc.size.toNat ≤ manifest.runtime.offset.toNat
  fits_bundle : manifest.size.toNat + manifest.fmc.size.toNat + manifest.runtime.size.toNat ≤
    img_bundle_sz.toNat

/-- Two closed intervals apart from each other are disjoint. -/
theorem load_intervals_disjoint {a b : ImageTocEntry}
    (h : b.load_addr.toNat + (b.size.toNat - 1) < a.load_addr.toNat ∨
      a.load_addr.toNat + (a.size.toNat - 1) < b.load_addr.toNat)
    (ha : 1 ≤ a.size.toNat) (hb : 1 ≤ b.size.toNat) :
    Disjoint a.load_interval b.load_interval := by
  rw [Set.disjoint_left]
  intro x hxa hxb
  simp only [ImageTocEntry.load_interval, Set.mem_Icc] at hxa hxb
  omega

/-- A verified bundle is safe to load into the ICCM of the environment that verified it (the
ROM's is `ICCM_RANGE`), whatever the manifest, bundle size and reset reason. -/
theorem verify_safe_to_load {manifest : ImageManifest} {img_bundle_sz : UInt32}
    {reason : ResetReason} {info : ImageVerificationInfo}
    (H : verify env manifest img_bundle_sz reason = .ok info) :
    SafeToLoad env.iccm_range manifest img_bundle_sz := by
  obtain ⟨-, -, -, toc, fmc, -, -, runtime, -, -, -⟩ := verify_ok H
  exact {
    fmc_size_pos := toc.fmc_size_pos
    runtime_size_pos := toc.runtime_size_pos
    fmc_load_no_wrap := by have := fmc.load_end_no_wrap; omega
    runtime_load_no_wrap := by have := runtime.load_end_no_wrap; omega
    fmc_load_in_iccm := fmc.load_interval_subset
    runtime_load_in_iccm := runtime.load_interval_subset
    loads_disjoint := load_intervals_disjoint toc.loads_apart toc.fmc_size_pos
      toc.runtime_size_pos
    fmc_load_addr_aligned := fmc.load_addr_aligned
    runtime_load_addr_aligned := runtime.load_addr_aligned
    fmc_entry_point_aligned := fmc.entry_point_aligned
    runtime_entry_point_aligned := runtime.entry_point_aligned
    fmc_entry_point_in_iccm := RangeU32.contains_iff_mem.mp fmc.entry_point_mem
    runtime_entry_point_in_iccm := RangeU32.contains_iff_mem.mp runtime.entry_point_mem
    images_in_order := toc.images_in_order
    fits_bundle := toc.fits_bundle }

/-- A bundle the fuzzing environment accepts: one signing key of each kind, the FMC right after
the manifest and the runtime right after the FMC, loaded 64 KiB apart in the ICCM. -/
def test_manifest : ImageManifest :=
  let ecc_key : ImageEccPubKey := ⟨Vector.replicate _ 1, Vector.replicate _ 1⟩
  let lms_key : ImageLmsPublicKey := ⟨⟨0⟩, ⟨0⟩, Vector.replicate _ 0, Vector.replicate _ 0⟩
  let sigs : ImageSignatures :=
    ⟨⟨Vector.replicate _ 1, Vector.replicate _ 1⟩,
      ⟨0, ⟨⟨0⟩, Vector.replicate _ 0, Vector.replicate _ (Vector.replicate _ 0)⟩, ⟨0⟩,
        Vector.replicate _ (Vector.replicate _ 0)⟩⟩
  { marker := MANIFEST_MARKER
    size := 5884
    preamble := {
      vendor_pub_keys := ⟨Vector.replicate _ ecc_key, Vector.replicate _ lms_key⟩
      vendor_ecc_pub_key_idx := 0
      vendor_lms_pub_key_idx := 0
      vendor_sigs := sigs
      owner_pub_keys := ⟨ecc_key, lms_key⟩
      owner_sigs := sigs }
    header := ⟨0, 0, 0, MAX_TOC_ENTRY_COUNT, 0, ZERO_DIGEST⟩
    fmc := ⟨1, 1, 0, 0, 0, 0x40000000, 0x40000000, 5884, 1024, ZERO_DIGEST⟩
    runtime := ⟨2, 2, 0, 0, 0, 0x40010000, 0x40010000, 6908, 1024, ZERO_DIGEST⟩ }

/-- What `verify` returns for `test_manifest` under `TestEnv::default()`. -/
def test_info : ImageVerificationInfo where
  vendor_ecc_pub_key_idx := 0
  vendor_lms_pub_key_idx := some 0
  owner_pub_keys_digest := ZERO_DIGEST
  owner_pub_keys_digest_in_fuses := false
  fmc := ⟨0x40000000, 1024, 0x40000000, 0, 0, ZERO_DIGEST⟩
  runtime := ⟨0x40010000, 1024, 0x40010000, 0, 0, ZERO_DIGEST⟩
  log_info := ⟨0, VendorPubKeyRevocation.from_bits_truncate 0, some 0, some 0, ⟨0, 0, 0⟩,
    ⟨0, 0, 0⟩⟩

theorem test_manifest_safe_to_load :
    SafeToLoad TestEnv.default.env.iccm_range test_manifest IMAGE_BUNDLE_SIZE :=
  verify_safe_to_load
    (by decide +kernel : verify TestEnv.default.env test_manifest IMAGE_BUNDLE_SIZE .ColdReset =
      .ok test_info)

/-! ## Authorised -/

/-- The authorisation postcondition of a verified bundle. -/
structure Authorized (env : ImageVerificationEnv) (manifest : ImageManifest)
    (reason : ResetReason) (info : ImageVerificationInfo) : Prop where
  ecc_idx_eq : info.vendor_ecc_pub_key_idx = manifest.preamble.vendor_ecc_pub_key_idx
  ecc_not_revoked : KeyNotRevoked VENDOR_ECC_KEY_COUNT env.vendor_ecc_pub_key_revocation.bits
    info.vendor_ecc_pub_key_idx
  header_ecc_idx_eq : manifest.header.vendor_ecc_pub_key_idx = info.vendor_ecc_pub_key_idx
  lms_idx : if env.lms_verify_enabled then
      ∃ i, info.vendor_lms_pub_key_idx = some i ∧ i = manifest.preamble.vendor_lms_pub_key_idx ∧
        KeyNotRevoked VENDOR_LMS_KEY_COUNT env.vendor_lms_pub_key_revocation i ∧
        manifest.header.vendor_lms_pub_key_idx = i
    else info.vendor_lms_pub_key_idx = none
  owner_digest_fused : env.owner_pub_key_digest_fuses ≠ ZERO_DIGEST →
    env.owner_pub_key_digest_fuses = info.owner_pub_keys_digest
  fmc_svn : env.dev_lifecycle ≠ .Unprovisioned → env.anti_rollback_disable = false →
    info.fmc.svn ≤ 32 ∧ env.fmc_fuse_svn ≤ info.fmc.svn
  runtime_svn : env.dev_lifecycle ≠ .Unprovisioned → env.anti_rollback_disable = false →
    info.runtime.svn ≤ MAX_RUNTIME_SVN ∧ env.runtime_fuse_svn ≤ info.runtime.svn
  fmc_effective_fuse_svn :
    info.fmc.effective_fuse_svn = if env.anti_rollback_disable then 0 else env.fmc_fuse_svn
  runtime_effective_fuse_svn :
    info.runtime.effective_fuse_svn = if env.anti_rollback_disable then 0 else env.runtime_fuse_svn
  update_reset : reason = .UpdateReset →
    env.vendor_ecc_pub_key_idx_dv = info.vendor_ecc_pub_key_idx ∧
    (∀ i, info.vendor_lms_pub_key_idx = some i → env.vendor_lms_pub_key_idx_dv = i) ∧
    env.owner_pub_key_digest_dv = info.owner_pub_keys_digest ∧
    env.get_fmc_digest_dv = info.fmc.digest

/-- The vendor LMS index recorded by the preamble checks: the checked one when LMS verification
is on, none otherwise. -/
theorem lms_idx_of_preamble {preamble : ImagePreamble} {reason : ResetReason} {hi : HeaderInfo}
    (pre : PreambleVerified env preamble reason hi) :
    if env.lms_verify_enabled then
      hi.vendor_lms_pub_key_idx = some preamble.vendor_lms_pub_key_idx ∧
        KeyNotRevoked VENDOR_LMS_KEY_COUNT env.vendor_lms_pub_key_revocation
          preamble.vendor_lms_pub_key_idx ∧
        (reason = .UpdateReset → env.vendor_lms_pub_key_idx_dv = preamble.vendor_lms_pub_key_idx)
    else hi.vendor_lms_pub_key_idx = none := by
  have hlms := verify_preamble_lms_ok pre.lms_ok
  split
  · next hen =>
    rw [if_pos hen] at hlms
    obtain ⟨_, hres, hnr, hdv⟩ := hlms
    exact ⟨congrArg Prod.fst hres, hnr, hdv⟩
  · next hen =>
    rw [if_neg hen] at hlms
    exact congrArg Prod.fst hlms

theorem verify_authorized {manifest : ImageManifest} {img_bundle_sz : UInt32}
    {reason : ResetReason} {info : ImageVerificationInfo}
    (H : verify env manifest img_bundle_sz reason = .ok info) :
    Authorized env manifest reason info := by
  obtain ⟨-, -, ⟨hi, pre, hdr, hecc, hlms, hown, -⟩, -, -, hfs, hfd, -, hrs, hfi, hri⟩ :=
    verify_ok H
  obtain ⟨-, hfused, hown_dv, -⟩ := verify_owner_pk_digest_ok pre.owner_pk_digest_ok
  have hidx : info.vendor_ecc_pub_key_idx = manifest.preamble.vendor_ecc_pub_key_idx :=
    hecc.trans pre.ecc_idx_eq
  have hlms_idx := lms_idx_of_preamble pre
  refine {
    ecc_idx_eq := hidx
    ecc_not_revoked := hidx ▸ pre.ecc_not_revoked
    header_ecc_idx_eq := hdr.ecc_idx_eq.trans hecc.symm
    lms_idx := ?_
    owner_digest_fused := fun h => (hfused h).trans hown.symm
    fmc_svn := fun hl ha => by
      rw [hfi]
      exact hfs (svn_check_required_eq_true.mpr ⟨hl, ha⟩)
    runtime_svn := fun hl ha => by
      rw [hri]
      exact hrs (svn_check_required_eq_true.mpr ⟨hl, ha⟩)
    fmc_effective_fuse_svn := by rw [hfi]; rfl
    runtime_effective_fuse_svn := by rw [hri]; rfl
    update_reset := fun hr => ⟨?_, fun i hsome => ?_, (hown_dv hr).trans hown.symm, ?_⟩ }
  · -- the LMS index, by whether LMS verification is on
    split
    · next hen =>
      rw [if_pos hen] at hlms_idx
      obtain ⟨hsome, hnr, -⟩ := hlms_idx
      exact ⟨_, hlms.trans hsome, rfl, hnr, hdr.lms_idx_eq _ hsome⟩
    · next hen =>
      rw [if_neg hen] at hlms_idx
      exact hlms.trans hlms_idx
  · rw [hidx]
    exact pre.ecc_idx_dv hr
  · split at hlms_idx
    · obtain ⟨hsome', -, hdv⟩ := hlms_idx
      rw [hlms, hsome'] at hsome
      rw [hdv hr, Option.some.inj hsome]
    · rw [hlms, hlms_idx] at hsome
      cases hsome
  · rw [hfi]
    exact (hfd hr).symm

/-- A verified executable's section, read from the mailbox SRAM, hashes to its TOC digest. -/
theorem sha384_section_of_verified {venv : FirmwareImageVerificationEnv} {e : ImageTocEntry}
    (h : ExeVerified venv.env e) :
    venv.sha384 (venv.image.extract e.offset.toNat (e.offset.toNat + e.size.toNat)) =
      .ok e.digest := by
  have hd := FirmwareImageVerificationEnv.sha384_digest_eq_ok h.digest_ok
  have hsum := Checked.toNat_add_of_lt h.range_no_wrap
  rw [RangeU32.len_of_le (by omega), add_sub_cancel_left] at hd
  exact hd

theorem test_manifest_authorized :
    Authorized TestEnv.default.env test_manifest .ColdReset test_info :=
  verify_authorized
    (by decide +kernel : verify TestEnv.default.env test_manifest IMAGE_BUNDLE_SIZE .ColdReset =
      .ok test_info)

end ImageVerifier

end Caliptra
