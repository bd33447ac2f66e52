import Caliptra.Image.Verifier

/-!
# What a successful `ImageVerifier::verify` establishes

One lemma per function of the verifier takes a successful run apart: from `f .. = .ok r` it
gives every check that passed and the value returned. The later lemmas cite these and never
unfold the function again. The checks are restated over `Nat`, on the values of the `u32`
fields, so that `omega` can combine them.

The two images are described by `ExeVerified` (the checks common to `verify_fmc` and
`verify_runtime`) and the table of contents by `TocVerified`.
-/

namespace Caliptra

open CaliptraError

namespace ImageVerifier

variable {env : ImageVerificationEnv}

/-! ## The images -/

/-- The checks `verify_exe` makes of one image: the image lies in the bundle and hashes to its
TOC digest, and it loads inside the ICCM at a word-aligned address, with the sum
`load_addr + size` computed without overflow. -/
structure ExeVerified (env : ImageVerificationEnv) (e : ImageTocEntry) : Prop where
  range_no_wrap : e.offset.toNat + e.size.toNat < 2 ^ 32
  digest_ok : env.sha384_digest e.offset (RangeU32.len ⟨e.offset, e.offset + e.size⟩) = .ok e.digest
  load_addr_mem : env.iccm_range.contains e.load_addr
  load_end_no_wrap : e.load_addr.toNat + e.size.toNat < 2 ^ 32
  load_end_pos : 1 ≤ e.load_addr.toNat + e.size.toNat
  load_end_mem : env.iccm_range.contains (e.load_addr + e.size - 1)
  load_addr_aligned : e.load_addr % 4 = 0
  entry_point_mem : env.iccm_range.contains e.entry_point
  entry_point_aligned : e.entry_point % 4 = 0

theorem verify_exe_ok {e : ImageTocEntry} {E1 E2 E3 E4 E5 E6 : CaliptraError}
    {actual : ImageDigest} (H : verify_exe env e E1 E2 E3 E4 E5 E6 = .ok actual) :
    ExeVerified env e ∧ actual = e.digest := by
  simp only [verify_exe, Checked.bind_eq_ok, Checked.failIf_eq_ok, exists_const,
    Checked.ofExcept_eq_ok, Checked.liftErr_eq_ok, Checked.add_eq_ok, Checked.sub_eq_ok,
    Checked.pure_eq_ok, ImageTocEntry.image_range_eq_ok, Except.ok.injEq, exists_eq_left,
    exists_and_left, and_assoc, ne_eq, not_not, Bool.not_eq_true', Bool.not_eq_false] at H
  obtain ⟨hr, a, ha, rfl, hl, hw, hp, he, hal, hep, hepa, rfl⟩ := H
  have hsum : (e.load_addr + e.size).toNat = e.load_addr.toNat + e.size.toNat := by
    rw [UInt32.toNat_add, Nat.mod_eq_of_lt hw]
  rw [hsum, UInt32.toNat_one] at hp
  exact ⟨⟨hr, ha, hl, hw, hp, he, hal, hep, hepa⟩, rfl⟩

theorem svn_check_required_eq_true :
    svn_check_required env = true ↔
      env.dev_lifecycle ≠ .Unprovisioned ∧ env.anti_rollback_disable = false := by
  unfold svn_check_required
  split
  · next h => simp [h]
  · next h => cases env.anti_rollback_disable <;> simp [h]

theorem verify_fmc_ok {e : ImageTocEntry} {reason : ResetReason}
    {r : ImageVerificationExeInfo × ImageSvnLogInfo} (H : verify_fmc env e reason = .ok r) :
    ExeVerified env e ∧
      (svn_check_required env = true → e.svn ≤ 32 ∧ env.fmc_fuse_svn ≤ e.svn) ∧
      (reason = .UpdateReset → e.digest = env.get_fmc_digest_dv) ∧
      r = exe_info env e env.fmc_fuse_svn := by
  simp only [verify_fmc, Checked.bind_eq_ok, Checked.failIf_eq_ok, exists_const,
    Checked.pure_eq_ok, Except.ok.injEq, not_and, ne_eq, not_not, UInt32.not_lt] at H
  obtain ⟨actual, hx, hmax, hfuse, hdv, rfl⟩ := H
  obtain ⟨hv, rfl⟩ := verify_exe_ok hx
  exact ⟨hv, fun hc => ⟨hmax hc, hfuse hc⟩, hdv, rfl⟩

theorem verify_runtime_ok {e : ImageTocEntry}
    {r : ImageVerificationExeInfo × ImageSvnLogInfo} (H : verify_runtime env e = .ok r) :
    ExeVerified env e ∧
      (svn_check_required env = true → e.svn ≤ MAX_RUNTIME_SVN ∧ env.runtime_fuse_svn ≤ e.svn) ∧
      r = exe_info env e env.runtime_fuse_svn := by
  simp only [verify_runtime, Checked.bind_eq_ok, Checked.failIf_eq_ok, exists_const,
    Checked.pure_eq_ok, Except.ok.injEq, not_and, UInt32.not_lt] at H
  obtain ⟨actual, hx, hmax, hfuse, rfl⟩ := H
  exact ⟨(verify_exe_ok hx).1, fun hc => ⟨hmax hc, hfuse hc⟩, rfl⟩

/-! ## The vendor key indices -/

/-- Key `idx` of `count` vendor keys may sign: it is in range, and it is the last key, which
cannot be revoked, or bit `idx` of the revocation mask is clear. -/
def KeyNotRevoked (count mask idx : UInt32) : Prop :=
  idx < count ∧ (idx = count - 1 ∨ mask.toNat.testBit idx.toNat = false)

/-- The `match key_idx { 0..=SECOND_LAST_KEY_IDX => .., LAST_KEY_IDX => .., _ => Err(..) }` of
both index checks: a key other than the last one passes only through the revocation test. -/
theorem key_idx_match_ok {count idx : UInt32} {revocation_check : Checked CaliptraError Unit}
    {e : CaliptraError} (hcount : 2 ≤ count.toNat)
    (H : (if idx ≤ count - 2 then revocation_check
      else if idx = count - 2 + 1 then pure () else Checked.fail e) = .ok ()) :
    idx.toNat + 2 ≤ count.toNat ∧ revocation_check = .ok () ∨ idx.toNat + 1 = count.toNat := by
  have hsub : (count - 2).toNat = count.toNat - 2 := Checked.toNat_sub_of_le hcount
  split at H
  · next hle =>
    rw [UInt32.le_iff_toNat_le, hsub] at hle
    exact .inl ⟨by omega, H⟩
  · split at H
    · next hlast =>
      subst hlast
      have := count.toNat_lt
      right
      rw [Checked.toNat_add_of_lt (by rw [hsub, UInt32.toNat_one]; omega), hsub, UInt32.toNat_one]
      omega
    · exact absurd H (Checked.fail_ne_ok _ _)

theorem key_not_revoked_of_match {count mask idx : UInt32}
    (H : idx.toNat + 2 ≤ count.toNat ∧ mask.toNat.testBit idx.toNat = false ∨
      idx.toNat + 1 = count.toNat) :
    KeyNotRevoked count mask idx := by
  rcases H with ⟨hlt, hbit⟩ | hlast
  · exact ⟨UInt32.lt_iff_toNat_lt.mpr (by omega), .inr hbit⟩
  · refine ⟨UInt32.lt_iff_toNat_lt.mpr (by omega), .inl ?_⟩
    apply UInt32.toNat_inj.mp
    rw [Checked.toNat_sub_of_le (by rw [UInt32.toNat_one]; omega), UInt32.toNat_one]
    omega

theorem verify_vendor_ecc_pk_idx_ok {preamble : ImagePreamble} {reason : ResetReason}
    {r : UInt32 × VendorPubKeyRevocation}
    (H : verify_vendor_ecc_pk_idx env preamble reason = .ok r) :
    r = (preamble.vendor_ecc_pub_key_idx, env.vendor_ecc_pub_key_revocation) ∧
      KeyNotRevoked VENDOR_ECC_KEY_COUNT env.vendor_ecc_pub_key_revocation.bits
        preamble.vendor_ecc_pub_key_idx ∧
      (reason = .UpdateReset → env.vendor_ecc_pub_key_idx_dv = preamble.vendor_ecc_pub_key_idx) := by
  simp only [verify_vendor_ecc_pk_idx, Checked.bind_eq_ok, Checked.failIf_eq_ok, exists_const,
    Checked.pure_eq_ok, Except.ok.injEq, not_and, not_not] at H
  obtain ⟨⟨⟩, hmatch, hdv, rfl⟩ := H
  refine ⟨rfl, key_not_revoked_of_match ?_, hdv⟩
  rcases key_idx_match_ok (by decide) hmatch with ⟨hle, hrev⟩ | hlast
  · -- `from_bits_truncate(1 << key_idx)` is the flag of bit `key_idx`
    simp only [Checked.bind_eq_ok, Checked.shl_eq_ok, Checked.failIf_eq_ok] at hrev
    obtain ⟨_, ⟨-, rfl⟩, hc⟩ := hrev
    rw [VendorPubKeyRevocation.contains_one_shl _ (by simp [VENDOR_ECC_KEY_COUNT] at hle; omega),
      Bool.not_eq_true] at hc
    exact .inl ⟨hle, hc⟩
  · exact .inr hlast

theorem verify_vendor_lms_pk_idx_ok {preamble : ImagePreamble} {reason : ResetReason}
    {r : Option UInt32 × Option UInt32}
    (H : verify_vendor_lms_pk_idx env preamble reason = .ok r) :
    r = (some preamble.vendor_lms_pub_key_idx, some env.vendor_lms_pub_key_revocation) ∧
      KeyNotRevoked VENDOR_LMS_KEY_COUNT env.vendor_lms_pub_key_revocation
        preamble.vendor_lms_pub_key_idx ∧
      (reason = .UpdateReset → env.vendor_lms_pub_key_idx_dv = preamble.vendor_lms_pub_key_idx) := by
  simp only [verify_vendor_lms_pk_idx, Checked.bind_eq_ok, Checked.failIf_eq_ok, exists_const,
    Checked.pure_eq_ok, Except.ok.injEq, not_and, not_not] at H
  obtain ⟨⟨⟩, hmatch, hdv, rfl⟩ := H
  refine ⟨rfl, key_not_revoked_of_match ?_, hdv⟩
  rcases key_idx_match_ok (by decide) hmatch with ⟨hle, hrev⟩ | hlast
  · simp only [Checked.bind_eq_ok, Checked.shl_eq_ok, Checked.failIf_eq_ok, not_not] at hrev
    obtain ⟨_, ⟨hk, rfl⟩, hc⟩ := hrev
    exact .inl ⟨hle, (Bytes.and_one_shl_eq_zero_iff hk).mp hc⟩
  · exact .inr hlast

/-! ## The preamble and the header -/

theorem verify_owner_pk_digest_ok {reason : ResetReason} {r : ImageDigest × Bool}
    (H : verify_owner_pk_digest env reason = .ok r) :
    env.sha384_digest ImageManifest.owner_pub_key_range.start
        ImageManifest.owner_pub_key_range.len = .ok r.1 ∧
      (env.owner_pub_key_digest_fuses ≠ ZERO_DIGEST → env.owner_pub_key_digest_fuses = r.1) ∧
      (reason = .UpdateReset → env.owner_pub_key_digest_dv = r.1) ∧
      r.2 = decide (env.owner_pub_key_digest_fuses ≠ ZERO_DIGEST) := by
  simp only [verify_owner_pk_digest, Checked.bind_eq_ok, Checked.liftErr_eq_ok,
    Checked.failIf_eq_ok, exists_const, Checked.pure_eq_ok, Except.ok.injEq, not_and,
    not_not] at H
  obtain ⟨actual, hd, hfuse, hdv, rfl⟩ := H
  exact ⟨hd, hfuse, hdv, rfl⟩

/-- The LMS part of the preamble checks: with LMS verification on, the LMS index check passed
and its key is the one at that index; with it off, nothing is recorded. -/
theorem verify_preamble_lms_ok {preamble : ImagePreamble} {reason : ResetReason}
    {r : Option UInt32 × Option UInt32 × Option (ImageLmsPublicKey × ImageLmsSignature)}
    (H : verify_preamble_lms env preamble reason = .ok r) :
    if env.lms_verify_enabled then
      ∃ h : preamble.vendor_lms_pub_key_idx.toNat < VENDOR_LMS_KEY_COUNT.toNat,
        r = (some preamble.vendor_lms_pub_key_idx, some env.vendor_lms_pub_key_revocation,
          some (preamble.vendor_pub_keys.lms_pub_keys[preamble.vendor_lms_pub_key_idx.toNat],
            preamble.vendor_sigs.lms_sig)) ∧
        KeyNotRevoked VENDOR_LMS_KEY_COUNT env.vendor_lms_pub_key_revocation
          preamble.vendor_lms_pub_key_idx ∧
        (reason = .UpdateReset →
          env.vendor_lms_pub_key_idx_dv = preamble.vendor_lms_pub_key_idx)
    else r = (none, none, none) := by
  unfold verify_preamble_lms at H
  split at H
  · next hen =>
    rw [if_pos hen]
    obtain ⟨⟨idx, rev⟩, hidx, H⟩ := Checked.bind_eq_ok.mp H
    obtain ⟨hr, hkey, hdv⟩ := verify_vendor_lms_pk_idx_ok hidx
    simp only [Prod.mk.injEq] at hr
    obtain ⟨rfl, rfl⟩ := hr
    obtain ⟨key, hk, H⟩ := Checked.bind_eq_ok.mp H
    obtain ⟨hlt, rfl⟩ := Checked.index_eq_ok.mp hk
    exact ⟨hlt, (Except.ok.inj H).symm, hkey, hdv⟩
  · next hen =>
    rw [if_neg hen]
    exact (Except.ok.inj H).symm

/-- What the preamble checks record for the later stages. -/
structure PreambleVerified (env : ImageVerificationEnv) (preamble : ImagePreamble)
    (reason : ResetReason) (info : HeaderInfo) : Prop where
  vendor_pk_digest_ok : verify_vendor_pk_digest env = .ok ()
  owner_pk_digest_ok :
    verify_owner_pk_digest env reason =
      .ok (info.owner_pub_keys_digest, info.owner_pub_keys_digest_in_fuses)
  ecc_idx_eq : info.vendor_ecc_pub_key_idx = preamble.vendor_ecc_pub_key_idx
  ecc_revocation_eq : info.vendor_ecc_pub_key_revocation = env.vendor_ecc_pub_key_revocation
  ecc_not_revoked : KeyNotRevoked VENDOR_ECC_KEY_COUNT env.vendor_ecc_pub_key_revocation.bits
    preamble.vendor_ecc_pub_key_idx
  ecc_idx_dv : reason = .UpdateReset →
    env.vendor_ecc_pub_key_idx_dv = preamble.vendor_ecc_pub_key_idx
  ecc_info_eq : ∃ h : preamble.vendor_ecc_pub_key_idx.toNat < VENDOR_ECC_KEY_COUNT.toNat,
    info.vendor_ecc_info =
      (preamble.vendor_pub_keys.ecc_pub_keys[preamble.vendor_ecc_pub_key_idx.toNat],
        preamble.vendor_sigs.ecc_sig)
  lms_ok : verify_preamble_lms env preamble reason =
    .ok (info.vendor_lms_pub_key_idx, info.vendor_lms_pub_key_revocation, info.vendor_lms_info)
  owner_ecc_info_eq :
    info.owner_ecc_info = (preamble.owner_pub_keys.ecc_pub_key, preamble.owner_sigs.ecc_sig)
  owner_lms_info_eq : info.owner_lms_info =
    if env.lms_verify_enabled then
      some (preamble.owner_pub_keys.lms_pub_key, preamble.owner_sigs.lms_sig)
    else none

theorem verify_preamble_ok {preamble : ImagePreamble} {reason : ResetReason} {info : HeaderInfo}
    (H : verify_preamble env preamble reason = .ok info) :
    PreambleVerified env preamble reason info := by
  simp only [verify_preamble, Checked.bind_eq_ok, Checked.pure_eq_ok, Except.ok.injEq] at H
  obtain ⟨⟨⟩, hv, ⟨od, odf⟩, ho, ⟨idx, rev⟩, he, key, hk, ⟨li, lr, linfo⟩, hl, rfl⟩ := H
  obtain ⟨hr, hnr, hdv⟩ := verify_vendor_ecc_pk_idx_ok he
  simp only [Prod.mk.injEq] at hr
  obtain ⟨rfl, rfl⟩ := hr
  obtain ⟨hlt, rfl⟩ := Checked.index_eq_ok.mp hk
  exact ⟨hv, ho, rfl, rfl, hnr, hdv, ⟨hlt, rfl⟩, hl, rfl, rfl⟩

theorem verify_vendor_sig_ok {digest : ImageDigest} {ecc_info : ImageEccPubKey × ImageEccSignature}
    {lms_info : Option (ImageLmsPublicKey × ImageLmsSignature)}
    (H : verify_vendor_sig env digest ecc_info lms_info = .ok ()) :
    ecc_info.1.x ≠ ZERO_DIGEST ∧ ecc_info.1.y ≠ ZERO_DIGEST ∧
      ecc_info.2.r ≠ ZERO_DIGEST ∧ ecc_info.2.s ≠ ZERO_DIGEST ∧
      env.ecc384_verify digest ecc_info.1 ecc_info.2 = .ok ecc_info.2.r ∧
      ∀ key sig, env.lms_verify_enabled = true → lms_info = some (key, sig) →
        env.lms_verify digest key sig = .ok (HashValue.ofLe key.digest) := by
  obtain ⟨pub_key, ecc_sig⟩ := ecc_info
  simp only [verify_vendor_sig, Checked.bind_eq_ok, Checked.failIf_eq_ok, exists_const,
    Checked.liftErr_eq_ok, not_or, ne_eq, not_not] at H
  obtain ⟨⟨hx, hy⟩, ⟨hr, hs⟩, verify_r, hv, rfl, H⟩ := H
  refine ⟨hx, hy, hr, hs, hv, fun key sig hen hinfo => ?_⟩
  rw [hen, hinfo] at H
  simp only [Checked.bind_eq_ok, Checked.liftErr_eq_ok, Checked.failIf_eq_ok, not_not] at H
  obtain ⟨_, hl, rfl⟩ := H
  exact hl

theorem verify_owner_ecc_sig_ok {digest : ImageDigest} {pub_key : ImageEccPubKey}
    {sig : ImageEccSignature} (H : verify_owner_ecc_sig env digest pub_key sig = .ok ()) :
    pub_key.x ≠ ZERO_DIGEST ∧ pub_key.y ≠ ZERO_DIGEST ∧ sig.r ≠ ZERO_DIGEST ∧
      sig.s ≠ ZERO_DIGEST ∧ env.ecc384_verify digest pub_key sig = .ok sig.r := by
  simp only [verify_owner_ecc_sig, Checked.bind_eq_ok, Checked.failIf_eq_ok, exists_const,
    Checked.liftErr_eq_ok, not_or, ne_eq, not_not] at H
  obtain ⟨⟨hx, hy⟩, ⟨hr, hs⟩, verify_r, hv, rfl⟩ := H
  exact ⟨hx, hy, hr, hs, hv⟩

theorem verify_owner_lms_sig_ok {digest : ImageDigest} {pub_key : ImageLmsPublicKey}
    {sig : ImageLmsSignature} (H : verify_owner_lms_sig env digest pub_key sig = .ok ()) :
    env.lms_verify digest pub_key sig = .ok (HashValue.ofLe pub_key.digest) := by
  simp only [verify_owner_lms_sig, Checked.bind_eq_ok, Checked.failIf_eq_ok,
    Checked.liftErr_eq_ok, not_not] at H
  obtain ⟨_, hl, rfl⟩ := H
  exact hl

/-- What the header checks establish: the vendor signature over the vendor part of the header,
the owner signatures over the whole header, and the key indices the header repeats. -/
structure HeaderVerified (env : ImageVerificationEnv) (header : ImageHeader)
    (info : HeaderInfo) : Prop where
  vendor_sig_ok : ∃ digest_vendor,
    env.sha384_digest ImageManifest.header_range.start ImageManifest.vendor_header_len =
      .ok digest_vendor ∧
    verify_vendor_sig env digest_vendor info.vendor_ecc_info info.vendor_lms_info = .ok ()
  owner_sig_ok : ∃ digest_owner,
    env.sha384_digest ImageManifest.header_range.start ImageManifest.header_range.len =
      .ok digest_owner ∧
    verify_owner_ecc_sig env digest_owner info.owner_ecc_info.1 info.owner_ecc_info.2 = .ok () ∧
    ∀ key sig, info.owner_lms_info = some (key, sig) →
      verify_owner_lms_sig env digest_owner key sig = .ok ()
  ecc_idx_eq : header.vendor_ecc_pub_key_idx = info.vendor_ecc_pub_key_idx
  lms_idx_eq : ∀ idx, info.vendor_lms_pub_key_idx = some idx → header.vendor_lms_pub_key_idx = idx

theorem verify_header_ok {header : ImageHeader} {info : HeaderInfo} {r : TocInfo}
    (H : verify_header env header info = .ok r) :
    HeaderVerified env header info ∧ r = { len := header.toc_len, digest := header.toc_digest } := by
  simp only [verify_header, Checked.bind_eq_ok, Checked.liftErr_eq_ok, Checked.failIf_eq_ok,
    exists_const, Checked.pure_eq_ok, Except.ok.injEq, not_not] at H
  obtain ⟨dv, hdv, dow, hdow, ⟨⟩, hvs, hecc, ⟨⟩, hlms, ⟨⟩, hoe, ⟨⟩, hol, rfl⟩ := H
  refine ⟨⟨⟨dv, hdv, hvs⟩, ⟨dow, hdow, hoe, fun key sig hinfo => ?_⟩, hecc,
    fun idx hidx => ?_⟩, rfl⟩
  · rw [hinfo] at hol
    exact hol
  · rw [hidx] at hlms
    simpa using hlms

/-! ## The table of contents -/

/-- The checks of `verify_toc`, on the values of the fields: both images are non-empty, fit in
the bundle after the manifest, occupy offset ranges that do not wrap and come in order, and
have closed load intervals `[load_addr, load_addr + size - 1]` that neither wrap nor meet. -/
structure TocVerified (env : ImageVerificationEnv) (manifest : ImageManifest)
    (verify_info : TocInfo) (img_bundle_sz : UInt32) : Prop where
  len_eq : verify_info.len = MAX_TOC_ENTRY_COUNT
  digest_ok : env.sha384_digest ImageManifest.toc_range.start ImageManifest.toc_range.len =
    .ok verify_info.digest
  fmc_size_pos : 0 < manifest.fmc.size.toNat
  runtime_size_pos : 0 < manifest.runtime.size.toNat
  fits_bundle : manifest.size.toNat + manifest.fmc.size.toNat + manifest.runtime.size.toNat ≤
    img_bundle_sz.toNat
  fmc_range_no_wrap : manifest.fmc.offset.toNat + manifest.fmc.size.toNat < 2 ^ 32
  runtime_range_no_wrap : manifest.runtime.offset.toNat + manifest.runtime.size.toNat < 2 ^ 32
  images_in_order :
    manifest.fmc.offset.toNat + manifest.fmc.size.toNat ≤ manifest.runtime.offset.toNat
  fmc_load_no_wrap : manifest.fmc.load_addr.toNat + (manifest.fmc.size.toNat - 1) < 2 ^ 32
  runtime_load_no_wrap :
    manifest.runtime.load_addr.toNat + (manifest.runtime.size.toNat - 1) < 2 ^ 32
  loads_apart :
    manifest.runtime.load_addr.toNat + (manifest.runtime.size.toNat - 1) <
        manifest.fmc.load_addr.toNat ∨
      manifest.fmc.load_addr.toNat + (manifest.fmc.size.toNat - 1) <
        manifest.runtime.load_addr.toNat

theorem verify_toc_ok {manifest : ImageManifest} {verify_info : TocInfo} {img_bundle_sz : UInt32}
    {r : ImageInfo} (H : verify_toc env manifest verify_info img_bundle_sz = .ok r) :
    TocVerified env manifest verify_info img_bundle_sz ∧
      r = { fmc := manifest.fmc, runtime := manifest.runtime } := by
  simp only [verify_toc, Checked.bind_eq_ok, Checked.failIf_eq_ok, exists_const,
    Checked.ofExcept_eq_ok, Checked.liftErr_eq_ok, Checked.sub_eq_ok, Checked.pure_eq_ok,
    ImageTocEntry.image_range_eq_ok, overflowing_add, Except.ok.injEq, exists_eq_left,
    exists_and_left, and_assoc, ne_eq, not_not, not_and, decide_eq_true_eq, not_le,
    UInt32.not_lt, gt_iff_lt, ge_iff_le] at H
  simp only [ImageTocEntry.image_size] at H
  obtain ⟨hlen, a, hd, rfl, -, -, hfit, hfr, hrr, -, hord, hf1, hfl, hr1, hrl, hov, rfl⟩ := H
  have hfs : (manifest.fmc.size - 1).toNat = manifest.fmc.size.toNat - 1 := by
    rw [Checked.toNat_sub_of_le hf1, UInt32.toNat_one]
  have hrs : (manifest.runtime.size - 1).toNat = manifest.runtime.size.toNat - 1 := by
    rw [Checked.toNat_sub_of_le hr1, UInt32.toNat_one]
  rw [hfs] at hfl
  rw [hrs] at hrl
  rw [UInt32.toNat_one] at hf1 hr1
  -- the comparisons of `verify_toc` are on sums that were just shown not to wrap
  rw [UInt32.le_iff_toNat_le, Checked.toNat_add_of_lt hfr] at hord
  rw [UInt32.le_iff_toNat_le, UInt32.le_iff_toNat_le, Checked.toNat_add_of_lt (by rwa [hrs]),
    Checked.toNat_add_of_lt (by rwa [hfs]), hfs, hrs] at hov
  exact ⟨⟨hlen, hd, hf1, hr1, by omega, hfr, hrr, hord, hfl, hrl, by omega⟩, rfl⟩

/-! ## The whole verifier -/

/-- A successful run of `verify`, stage by stage: the checks each stage passed, and where each
field of the returned `ImageVerificationInfo` comes from. -/
structure Verified (env : ImageVerificationEnv) (manifest : ImageManifest) (img_bundle_sz : UInt32)
    (reason : ResetReason) (info : ImageVerificationInfo) : Prop where
  marker_eq : manifest.marker = MANIFEST_MARKER
  size_eq : manifest.size.toNat = IMAGE_MANIFEST_BYTE_SIZE
  header_info : ∃ hi : HeaderInfo, PreambleVerified env manifest.preamble reason hi ∧
    HeaderVerified env manifest.header hi ∧
    info.vendor_ecc_pub_key_idx = hi.vendor_ecc_pub_key_idx ∧
    info.vendor_lms_pub_key_idx = hi.vendor_lms_pub_key_idx ∧
    info.owner_pub_keys_digest = hi.owner_pub_keys_digest ∧
    info.owner_pub_keys_digest_in_fuses = hi.owner_pub_keys_digest_in_fuses
  toc : TocVerified env manifest
    { len := manifest.header.toc_len, digest := manifest.header.toc_digest } img_bundle_sz
  fmc : ExeVerified env manifest.fmc
  fmc_svn : svn_check_required env = true →
    manifest.fmc.svn ≤ 32 ∧ env.fmc_fuse_svn ≤ manifest.fmc.svn
  fmc_digest_dv : reason = .UpdateReset → manifest.fmc.digest = env.get_fmc_digest_dv
  runtime : ExeVerified env manifest.runtime
  runtime_svn : svn_check_required env = true →
    manifest.runtime.svn ≤ MAX_RUNTIME_SVN ∧ env.runtime_fuse_svn ≤ manifest.runtime.svn
  fmc_info : info.fmc = (exe_info env manifest.fmc env.fmc_fuse_svn).1
  runtime_info : info.runtime = (exe_info env manifest.runtime env.runtime_fuse_svn).1

theorem verify_ok {manifest : ImageManifest} {img_bundle_sz : UInt32} {reason : ResetReason}
    {info : ImageVerificationInfo} (H : verify env manifest img_bundle_sz reason = .ok info) :
    Verified env manifest img_bundle_sz reason info := by
  simp only [verify, Checked.bind_eq_ok, Checked.failIf_eq_ok, exists_const, Checked.pure_eq_ok,
    not_not] at H
  obtain ⟨hm, hs, hi, hp, ti, hh, ii, ht, ⟨fi, fl⟩, hf, ⟨ri, rl⟩, hr, H⟩ := H
  obtain ⟨hhv, rfl⟩ := verify_header_ok hh
  obtain ⟨htv, rfl⟩ := verify_toc_ok ht
  obtain ⟨hfe, hfs, hfd, hfi⟩ := verify_fmc_ok hf
  obtain ⟨hre, hrs, hri⟩ := verify_runtime_ok hr
  cases Except.ok.inj H
  exact ⟨hm, hs, ⟨hi, verify_preamble_ok hp, hhv, rfl, rfl, rfl, rfl⟩, htv, hfe, hfs, hfd, hre,
    hrs, congrArg Prod.fst hfi, congrArg Prod.fst hri⟩

end ImageVerifier

end Caliptra
