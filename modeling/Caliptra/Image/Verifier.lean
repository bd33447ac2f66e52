import Caliptra.Image.Types

/-!
# The image verifier (`image/verify/src/verifier.rs`)

`ImageVerifier::verify` and the checks it is made of, over an `ImageVerificationEnv`. The
environment is the trait of the same name: the hash, signature and fuse queries the ROM answers
from its hardware, here a record of functions. The trait's `&mut self` is only used by the
crypto engines and by `set_fw_extended_error`, which records an error detail on the way out of
a failed check; neither changes the value of a later query, so the queries are pure functions.

The model is written in `Checked`, so that a panic is an outcome of its own: every array index,
shift and `u32` addition or subtraction that Rust checks is a `Checked` primitive, in the order
the source evaluates it. The `cfi_launder` and `cfi_assert_*` calls re-check, against glitches,
the condition of the branch they stand in; they hold on every branch of this model and are left
out.
-/

namespace Caliptra

open CaliptraError

/-- `ImageVerificationEnv`. -/
structure ImageVerificationEnv where
  sha384_digest : UInt32 → UInt32 → CaliptraResult ImageDigest
  ecc384_verify : ImageDigest → ImageEccPubKey → ImageEccSignature → CaliptraResult ImageScalar
  lms_verify : ImageDigest → ImageLmsPublicKey → ImageLmsSignature →
    CaliptraResult (HashValue SHA192_DIGEST_WORD_SIZE)
  vendor_pub_key_digest : ImageDigest
  vendor_ecc_pub_key_revocation : VendorPubKeyRevocation
  vendor_lms_pub_key_revocation : UInt32
  owner_pub_key_digest_fuses : ImageDigest
  anti_rollback_disable : Bool
  dev_lifecycle : Lifecycle
  vendor_ecc_pub_key_idx_dv : UInt32
  vendor_lms_pub_key_idx_dv : UInt32
  owner_pub_key_digest_dv : ImageDigest
  get_fmc_digest_dv : ImageDigest
  fmc_fuse_svn : UInt32
  runtime_fuse_svn : UInt32
  iccm_range : RangeU32
  lms_verify_enabled : Bool

/-- `MAX_RUNTIME_SVN`. -/
def MAX_RUNTIME_SVN : UInt32 := 128

/-- `HeaderInfo`: what the preamble checks hand to the header checks. -/
structure HeaderInfo where
  vendor_ecc_pub_key_idx : UInt32
  vendor_lms_pub_key_idx : Option UInt32
  vendor_ecc_pub_key_revocation : VendorPubKeyRevocation
  vendor_ecc_info : ImageEccPubKey × ImageEccSignature
  vendor_lms_info : Option (ImageLmsPublicKey × ImageLmsSignature)
  vendor_lms_pub_key_revocation : Option UInt32
  owner_ecc_info : ImageEccPubKey × ImageEccSignature
  owner_lms_info : Option (ImageLmsPublicKey × ImageLmsSignature)
  owner_pub_keys_digest : ImageDigest
  owner_pub_keys_digest_in_fuses : Bool

/-- `TocInfo`. -/
structure TocInfo where
  len : UInt32
  digest : ImageDigest

/-- `ImageInfo`. -/
structure ImageInfo where
  fmc : ImageTocEntry
  runtime : ImageTocEntry

namespace ImageVerifier

variable (env : ImageVerificationEnv)

/-- `verify_vendor_pk_digest`: the vendor key region hashes to the fuse value, except on an
unprovisioned part. -/
def verify_vendor_pk_digest : Checked CaliptraError Unit :=
  if env.dev_lifecycle = .Unprovisioned then
    pure ()
  else do
    let expected := env.vendor_pub_key_digest
    Checked.failIf (expected = ZERO_DIGEST) IMAGE_VERIFIER_ERR_VENDOR_PUB_KEY_DIGEST_INVALID
    let range := ImageManifest.vendor_pub_keys_range
    let actual ← Checked.liftErr IMAGE_VERIFIER_ERR_VENDOR_PUB_KEY_DIGEST_FAILURE
      (env.sha384_digest range.start range.len)
    Checked.failIf (expected ≠ actual) IMAGE_VERIFIER_ERR_VENDOR_PUB_KEY_DIGEST_MISMATCH

/-- `verify_owner_pk_digest`: returns the digest of the owner keys and whether the fuses
hold one. -/
def verify_owner_pk_digest (reason : ResetReason) :
    Checked CaliptraError (ImageDigest × Bool) := do
  let range := ImageManifest.owner_pub_key_range
  let actual ← Checked.liftErr IMAGE_VERIFIER_ERR_OWNER_PUB_KEY_DIGEST_FAILURE
    (env.sha384_digest range.start range.len)
  let fuses_digest := env.owner_pub_key_digest_fuses
  -- a zero fuse digest means that no owner key is fused, and any owner key is accepted
  Checked.failIf (fuses_digest ≠ ZERO_DIGEST ∧ fuses_digest ≠ actual)
    IMAGE_VERIFIER_ERR_OWNER_PUB_KEY_DIGEST_MISMATCH
  Checked.failIf (reason = .UpdateReset ∧ env.owner_pub_key_digest_dv ≠ actual)
    IMAGE_VERIFIER_ERR_UPDATE_RESET_OWNER_DIGEST_FAILURE
  return (actual, fuses_digest ≠ ZERO_DIGEST)

/-- `verify_vendor_ecc_pk_idx`. The last key cannot be revoked; the others are checked against
the revocation fuses, through `from_bits_truncate(1 << key_idx)`. -/
def verify_vendor_ecc_pk_idx (preamble : ImagePreamble) (reason : ResetReason) :
    Checked CaliptraError (UInt32 × VendorPubKeyRevocation) := do
  let SECOND_LAST_KEY_IDX : UInt32 := VENDOR_ECC_KEY_COUNT - 2
  let LAST_KEY_IDX : UInt32 := SECOND_LAST_KEY_IDX + 1
  let key_idx := preamble.vendor_ecc_pub_key_idx
  let revocation := env.vendor_ecc_pub_key_revocation
  (if key_idx ≤ SECOND_LAST_KEY_IDX then do
      let key := VendorPubKeyRevocation.from_bits_truncate (← Checked.shl 0x01 key_idx)
      Checked.failIf (revocation.contains key) IMAGE_VERIFIER_ERR_VENDOR_ECC_PUB_KEY_REVOKED
    else if key_idx = LAST_KEY_IDX then
      pure ()
    else
      Checked.fail IMAGE_VERIFIER_ERR_VENDOR_ECC_PUB_KEY_INDEX_OUT_OF_BOUNDS)
  Checked.failIf (reason = .UpdateReset ∧ env.vendor_ecc_pub_key_idx_dv ≠ key_idx)
    IMAGE_VERIFIER_ERR_UPDATE_RESET_VENDOR_ECC_PUB_KEY_IDX_MISMATCH
  return (key_idx, revocation)

/-- `verify_vendor_lms_pk_idx`: as for ECC, against the LMS revocation mask `u32`. -/
def verify_vendor_lms_pk_idx (preamble : ImagePreamble) (reason : ResetReason) :
    Checked CaliptraError (Option UInt32 × Option UInt32) := do
  let SECOND_LAST_KEY_IDX : UInt32 := VENDOR_LMS_KEY_COUNT - 2
  let LAST_KEY_IDX : UInt32 := SECOND_LAST_KEY_IDX + 1
  let key_idx := preamble.vendor_lms_pub_key_idx
  let revocation := env.vendor_lms_pub_key_revocation
  (if key_idx ≤ SECOND_LAST_KEY_IDX then do
      Checked.failIf (revocation &&& (← Checked.shl 0x01 key_idx) ≠ 0)
        IMAGE_VERIFIER_ERR_VENDOR_LMS_PUB_KEY_REVOKED
    else if key_idx = LAST_KEY_IDX then
      pure ()
    else
      Checked.fail IMAGE_VERIFIER_ERR_VENDOR_LMS_PUB_KEY_INDEX_OUT_OF_BOUNDS)
  Checked.failIf (reason = .UpdateReset ∧ env.vendor_lms_pub_key_idx_dv ≠ key_idx)
    IMAGE_VERIFIER_ERR_UPDATE_RESET_VENDOR_LMS_PUB_KEY_IDX_MISMATCH
  return (some key_idx, some revocation)

/-- The LMS part of `verify_preamble`: the vendor LMS key index, its revocation mask, and the
key and signature to check, when LMS verification is enabled. -/
def verify_preamble_lms (preamble : ImagePreamble) (reason : ResetReason) :
    Checked CaliptraError
      (Option UInt32 × Option UInt32 × Option (ImageLmsPublicKey × ImageLmsSignature)) :=
  if env.lms_verify_enabled then do
    let (idx, revocation) ← verify_vendor_lms_pk_idx env preamble reason
    match idx with
    | some i =>
      let key ← Checked.index preamble.vendor_pub_keys.lms_pub_keys i.toNat
      pure (idx, revocation, some (key, preamble.vendor_sigs.lms_sig))
    | none => pure (idx, revocation, none)
  else
    pure (none, none, none)

/-- `verify_preamble`. -/
def verify_preamble (preamble : ImagePreamble) (reason : ResetReason) :
    Checked CaliptraError HeaderInfo := do
  verify_vendor_pk_digest env
  let (owner_pub_keys_digest, owner_pub_keys_digest_in_fuses) ←
    verify_owner_pk_digest env reason
  let (vendor_ecc_pub_key_idx, vendor_ecc_pub_key_revocation) ←
    verify_vendor_ecc_pk_idx env preamble reason
  let vendor_ecc_key ←
    Checked.index preamble.vendor_pub_keys.ecc_pub_keys vendor_ecc_pub_key_idx.toNat
  let (vendor_lms_pub_key_idx, vendor_lms_pub_key_revocation, vendor_lms_info) ←
    verify_preamble_lms env preamble reason
  let owner_lms_info :=
    if env.lms_verify_enabled then
      some (preamble.owner_pub_keys.lms_pub_key, preamble.owner_sigs.lms_sig)
    else none
  return {
    vendor_ecc_pub_key_idx := vendor_ecc_pub_key_idx
    vendor_lms_pub_key_idx := vendor_lms_pub_key_idx
    vendor_ecc_info := (vendor_ecc_key, preamble.vendor_sigs.ecc_sig)
    vendor_lms_info := vendor_lms_info
    owner_lms_info := owner_lms_info
    owner_pub_keys_digest := owner_pub_keys_digest
    owner_pub_keys_digest_in_fuses := owner_pub_keys_digest_in_fuses
    owner_ecc_info := (preamble.owner_pub_keys.ecc_pub_key, preamble.owner_sigs.ecc_sig)
    vendor_ecc_pub_key_revocation := vendor_ecc_pub_key_revocation
    vendor_lms_pub_key_revocation := vendor_lms_pub_key_revocation }

/-- `verify_vendor_sig`: the vendor ECC signature, and the vendor LMS signature when LMS
verification is enabled. -/
def verify_vendor_sig (digest : ImageDigest) (ecc_info : ImageEccPubKey × ImageEccSignature)
    (lms_info : Option (ImageLmsPublicKey × ImageLmsSignature)) :
    Checked CaliptraError Unit := do
  let (ecc_pub_key, ecc_sig) := ecc_info
  Checked.failIf (ecc_pub_key.x = ZERO_DIGEST ∨ ecc_pub_key.y = ZERO_DIGEST)
    IMAGE_VERIFIER_ERR_VENDOR_PUB_KEY_DIGEST_INVALID_ARG
  Checked.failIf (ecc_sig.r = ZERO_DIGEST ∨ ecc_sig.s = ZERO_DIGEST)
    IMAGE_VERIFIER_ERR_VENDOR_ECC_SIGNATURE_INVALID_ARG
  let verify_r ← Checked.liftErr IMAGE_VERIFIER_ERR_VENDOR_ECC_VERIFY_FAILURE
    (env.ecc384_verify digest ecc_pub_key ecc_sig)
  Checked.failIf (verify_r ≠ ecc_sig.r) IMAGE_VERIFIER_ERR_VENDOR_ECC_SIGNATURE_INVALID
  match env.lms_verify_enabled, lms_info with
  | true, some (lms_pub_key, lms_sig) => do
    let candidate_key ← Checked.liftErr IMAGE_VERIFIER_ERR_VENDOR_LMS_VERIFY_FAILURE
      (env.lms_verify digest lms_pub_key lms_sig)
    Checked.failIf (candidate_key ≠ HashValue.ofLe lms_pub_key.digest)
      IMAGE_VERIFIER_ERR_VENDOR_LMS_SIGNATURE_INVALID
  | _, _ => pure ()

/-- `verify_owner_ecc_sig`. -/
def verify_owner_ecc_sig (digest : ImageDigest) (pub_key : ImageEccPubKey)
    (sig : ImageEccSignature) : Checked CaliptraError Unit := do
  Checked.failIf (pub_key.x = ZERO_DIGEST ∨ pub_key.y = ZERO_DIGEST)
    IMAGE_VERIFIER_ERR_OWNER_ECC_PUB_KEY_INVALID_ARG
  Checked.failIf (sig.r = ZERO_DIGEST ∨ sig.s = ZERO_DIGEST)
    IMAGE_VERIFIER_ERR_OWNER_ECC_SIGNATURE_INVALID_ARG
  let verify_r ← Checked.liftErr IMAGE_VERIFIER_ERR_OWNER_ECC_VERIFY_FAILURE
    (env.ecc384_verify digest pub_key sig)
  Checked.failIf (verify_r ≠ sig.r) IMAGE_VERIFIER_ERR_OWNER_ECC_SIGNATURE_INVALID

/-- `verify_owner_lms_sig`. -/
def verify_owner_lms_sig (digest : ImageDigest) (lms_pub_key : ImageLmsPublicKey)
    (lms_sig : ImageLmsSignature) : Checked CaliptraError Unit := do
  let candidate_key ← Checked.liftErr IMAGE_VERIFIER_ERR_OWNER_LMS_VERIFY_FAILURE
    (env.lms_verify digest lms_pub_key lms_sig)
  Checked.failIf (candidate_key ≠ HashValue.ofLe lms_pub_key.digest)
    IMAGE_VERIFIER_ERR_OWNER_LMS_SIGNATURE_INVALID

/-- `verify_header`: both signatures over the header digest, and the key indices the header
itself records. -/
def verify_header (header : ImageHeader) (info : HeaderInfo) :
    Checked CaliptraError TocInfo := do
  let range := ImageManifest.header_range
  let digest_vendor ← Checked.liftErr IMAGE_VERIFIER_ERR_HEADER_DIGEST_FAILURE
    (env.sha384_digest range.start ImageManifest.vendor_header_len)
  let digest_owner ← Checked.liftErr IMAGE_VERIFIER_ERR_HEADER_DIGEST_FAILURE
    (env.sha384_digest range.start range.len)
  verify_vendor_sig env digest_vendor info.vendor_ecc_info info.vendor_lms_info
  Checked.failIf (header.vendor_ecc_pub_key_idx ≠ info.vendor_ecc_pub_key_idx)
    IMAGE_VERIFIER_ERR_VENDOR_ECC_PUB_KEY_INDEX_MISMATCH
  (match info.vendor_lms_pub_key_idx with
    | some idx =>
      Checked.failIf (header.vendor_lms_pub_key_idx ≠ idx)
        IMAGE_VERIFIER_ERR_VENDOR_LMS_PUB_KEY_INDEX_MISMATCH
    | none => pure ())
  let (owner_ecc_pub_key, owner_ecc_sig) := info.owner_ecc_info
  verify_owner_ecc_sig env digest_owner owner_ecc_pub_key owner_ecc_sig
  (match info.owner_lms_info with
    | some (owner_lms_pub_key, owner_lms_sig) =>
      verify_owner_lms_sig env digest_owner owner_lms_pub_key owner_lms_sig
    | none => pure ())
  return { len := header.toc_len, digest := header.toc_digest }

/-- `u32::overflowing_add`: the wrapped sum and whether it wrapped. -/
def overflowing_add (a b : UInt32) : UInt32 × Bool := (a + b, 2 ^ 32 ≤ a.toNat + b.toNat)

/-- `verify_toc`: the TOC digest, non-empty images within the bundle, image ranges in order
and not overlapping, and load intervals that neither wrap nor overlap. -/
def verify_toc (manifest : ImageManifest) (verify_info : TocInfo) (img_bundle_sz : UInt32) :
    Checked CaliptraError ImageInfo := do
  Checked.failIf (verify_info.len ≠ MAX_TOC_ENTRY_COUNT) IMAGE_VERIFIER_ERR_TOC_ENTRY_COUNT_INVALID
  let range := ImageManifest.toc_range
  let actual ← Checked.liftErr IMAGE_VERIFIER_ERR_TOC_DIGEST_FAILURE
    (env.sha384_digest range.start range.len)
  Checked.failIf (verify_info.digest ≠ actual) IMAGE_VERIFIER_ERR_TOC_DIGEST_MISMATCH
  Checked.failIf (manifest.fmc.image_size = 0) IMAGE_VERIFIER_ERR_FMC_SIZE_ZERO
  Checked.failIf (manifest.runtime.image_size = 0) IMAGE_VERIFIER_ERR_RUNTIME_SIZE_ZERO
  -- computed in `u64`, where the sum of three `u32` cannot wrap
  let img_len : Nat :=
    manifest.size.toNat + manifest.fmc.image_size.toNat + manifest.runtime.image_size.toNat
  Checked.failIf (img_len > img_bundle_sz.toNat)
    IMAGE_VERIFIER_ERR_IMAGE_LEN_MORE_THAN_BUNDLE_SIZE
  let fmc_range ← Checked.ofExcept manifest.fmc.image_range
  let runtime_range ← Checked.ofExcept manifest.runtime.image_range
  Checked.failIf (fmc_range.start < runtime_range.end_ ∧ fmc_range.end_ > runtime_range.start)
    IMAGE_VERIFIER_ERR_FMC_RUNTIME_OVERLAP
  Checked.failIf (fmc_range.end_ > runtime_range.start)
    IMAGE_VERIFIER_ERR_FMC_RUNTIME_INCORRECT_ORDER
  let fmc_load_addr_start := manifest.fmc.load_addr
  let (fmc_load_addr_end, overflow) :=
    overflowing_add fmc_load_addr_start (← Checked.sub manifest.fmc.image_size 1)
  Checked.failIf overflow IMAGE_VERIFIER_ERR_FMC_LOAD_ADDRESS_IMAGE_SIZE_ARITHMETIC_OVERFLOW
  let runtime_load_addr_start := manifest.runtime.load_addr
  let (runtime_load_addr_end, overflow) :=
    overflowing_add runtime_load_addr_start (← Checked.sub manifest.runtime.image_size 1)
  Checked.failIf overflow IMAGE_VERIFIER_ERR_RUNTIME_LOAD_ADDRESS_IMAGE_SIZE_ARITHMETIC_OVERFLOW
  Checked.failIf
    (fmc_load_addr_start ≤ runtime_load_addr_end ∧ fmc_load_addr_end ≥ runtime_load_addr_start)
    IMAGE_VERIFIER_ERR_FMC_RUNTIME_LOAD_ADDR_OVERLAP
  return { fmc := manifest.fmc, runtime := manifest.runtime }

/-- `svn_check_required`: SVNs are checked unless the part is unprovisioned or anti-rollback
is disabled. -/
def svn_check_required : Bool :=
  if env.dev_lifecycle = .Unprovisioned then false
  else if env.anti_rollback_disable then false
  else true

/-- `effective_fuse_svn`. -/
def effective_fuse_svn (fuse_svn : UInt32) (anti_rollback_disable : Bool) : UInt32 :=
  if anti_rollback_disable then 0 else fuse_svn

/-- The checks `verify_fmc` and `verify_runtime` share: the image digest, and the load
address and entry point inside the ICCM and word aligned. The load check is
`!contains(load_addr) || !contains(load_addr + size - 1)`: the sum is evaluated only when the
first test passes, as `(load_addr + size) - 1`. The errors are the image's own. -/
def verify_exe (verify_info : ImageTocEntry)
    (DIGEST_FAILURE DIGEST_MISMATCH LOAD_ADDR_INVALID LOAD_ADDR_UNALIGNED ENTRY_POINT_INVALID
      ENTRY_POINT_UNALIGNED : CaliptraError) :
    Checked CaliptraError ImageDigest := do
  let range ← Checked.ofExcept verify_info.image_range
  let actual ← Checked.liftErr DIGEST_FAILURE (env.sha384_digest range.start range.len)
  Checked.failIf (verify_info.digest ≠ actual) DIGEST_MISMATCH
  Checked.failIf (!env.iccm_range.contains verify_info.load_addr) LOAD_ADDR_INVALID
  let load_end ← Checked.sub (← Checked.add verify_info.load_addr verify_info.size) 1
  Checked.failIf (!env.iccm_range.contains load_end) LOAD_ADDR_INVALID
  Checked.failIf (verify_info.load_addr % 4 ≠ 0) LOAD_ADDR_UNALIGNED
  Checked.failIf (!env.iccm_range.contains verify_info.entry_point) ENTRY_POINT_INVALID
  Checked.failIf (verify_info.entry_point % 4 ≠ 0) ENTRY_POINT_UNALIGNED
  return actual

/-- The `ImageVerificationExeInfo` and `ImageSvnLogInfo` of a verified image. -/
def exe_info (verify_info : ImageTocEntry) (fuse_svn : UInt32) :
    ImageVerificationExeInfo × ImageSvnLogInfo :=
  ({ load_addr := verify_info.load_addr
     entry_point := verify_info.entry_point
     svn := verify_info.svn
     effective_fuse_svn := effective_fuse_svn fuse_svn env.anti_rollback_disable
     digest := verify_info.digest
     size := verify_info.size },
   { manifest_svn := verify_info.svn
     reserved := verify_info.reserved
     fuse_svn := fuse_svn })

/-- `verify_fmc`. -/
def verify_fmc (verify_info : ImageTocEntry) (reason : ResetReason) :
    Checked CaliptraError (ImageVerificationExeInfo × ImageSvnLogInfo) := do
  let actual ← verify_exe env verify_info IMAGE_VERIFIER_ERR_FMC_DIGEST_FAILURE
    IMAGE_VERIFIER_ERR_FMC_DIGEST_MISMATCH IMAGE_VERIFIER_ERR_FMC_LOAD_ADDR_INVALID
    IMAGE_VERIFIER_ERR_FMC_LOAD_ADDR_UNALIGNED IMAGE_VERIFIER_ERR_FMC_ENTRY_POINT_INVALID
    IMAGE_VERIFIER_ERR_FMC_ENTRY_POINT_UNALIGNED
  Checked.failIf (svn_check_required env ∧ verify_info.svn > 32)
    IMAGE_VERIFIER_ERR_FMC_SVN_GREATER_THAN_MAX_SUPPORTED
  Checked.failIf (svn_check_required env ∧ verify_info.svn < env.fmc_fuse_svn)
    IMAGE_VERIFIER_ERR_FMC_SVN_LESS_THAN_FUSE
  Checked.failIf (reason = .UpdateReset ∧ actual ≠ env.get_fmc_digest_dv)
    IMAGE_VERIFIER_ERR_UPDATE_RESET_FMC_DIGEST_MISMATCH
  return exe_info env verify_info env.fmc_fuse_svn

/-- `verify_runtime`: as `verify_fmc`, with the runtime SVN bound and no data-vault check. -/
def verify_runtime (verify_info : ImageTocEntry) :
    Checked CaliptraError (ImageVerificationExeInfo × ImageSvnLogInfo) := do
  let _ ← verify_exe env verify_info IMAGE_VERIFIER_ERR_RUNTIME_DIGEST_FAILURE
    IMAGE_VERIFIER_ERR_RUNTIME_DIGEST_MISMATCH IMAGE_VERIFIER_ERR_RUNTIME_LOAD_ADDR_INVALID
    IMAGE_VERIFIER_ERR_RUNTIME_LOAD_ADDR_UNALIGNED IMAGE_VERIFIER_ERR_RUNTIME_ENTRY_POINT_INVALID
    IMAGE_VERIFIER_ERR_RUNTIME_ENTRY_POINT_UNALIGNED
  Checked.failIf (svn_check_required env ∧ verify_info.svn > MAX_RUNTIME_SVN)
    IMAGE_VERIFIER_ERR_RUNTIME_SVN_GREATER_THAN_MAX_SUPPORTED
  Checked.failIf (svn_check_required env ∧ verify_info.svn < env.runtime_fuse_svn)
    IMAGE_VERIFIER_ERR_RUNTIME_SVN_LESS_THAN_FUSE
  return exe_info env verify_info env.runtime_fuse_svn

/-- `ImageVerifier::verify`. -/
def verify (manifest : ImageManifest) (img_bundle_sz : UInt32) (reason : ResetReason) :
    Checked CaliptraError ImageVerificationInfo := do
  Checked.failIf (manifest.marker ≠ MANIFEST_MARKER) IMAGE_VERIFIER_ERR_MANIFEST_MARKER_MISMATCH
  Checked.failIf (manifest.size.toNat ≠ IMAGE_MANIFEST_BYTE_SIZE)
    IMAGE_VERIFIER_ERR_MANIFEST_SIZE_MISMATCH
  let header_info ← verify_preamble env manifest.preamble reason
  let toc_info ← verify_header env manifest.header header_info
  let image_info ← verify_toc env manifest toc_info img_bundle_sz
  let (fmc_info, fmc_log_info) ← verify_fmc env image_info.fmc reason
  let (runtime_info, rt_log_info) ← verify_runtime env image_info.runtime
  return {
    vendor_ecc_pub_key_idx := header_info.vendor_ecc_pub_key_idx
    vendor_lms_pub_key_idx := header_info.vendor_lms_pub_key_idx
    owner_pub_keys_digest := header_info.owner_pub_keys_digest
    owner_pub_keys_digest_in_fuses := header_info.owner_pub_keys_digest_in_fuses
    fmc := fmc_info
    runtime := runtime_info
    log_info := {
      vendor_ecc_pub_key_idx := header_info.vendor_ecc_pub_key_idx
      fuse_vendor_ecc_pub_key_revocation := header_info.vendor_ecc_pub_key_revocation
      fmc_log_info := fmc_log_info
      rt_log_info := rt_log_info
      fuse_vendor_lms_pub_key_revocation := header_info.vendor_lms_pub_key_revocation
      vendor_lms_pub_key_idx := header_info.vendor_lms_pub_key_idx } }

end ImageVerifier

end Caliptra
