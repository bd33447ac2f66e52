import Caliptra.Image.Verifier
import Caliptra.MemoryLayout

/-!
# The environments of the image verifier

The repository gives `ImageVerificationEnv` two implementations:

* `FirmwareImageVerificationEnv` (`common/src/verifier.rs`), the ROM's: it hashes slices of
  the mailbox SRAM with the SHA-384 engine and reads the fuses and the data vault. The crypto
  engines, the fuses and the data vault are fields of the model.
* `TestEnv` (`image/verify/fuzz/src/fuzz_target_common.rs`), the fuzzing harness's: every hash
  is one fixed digest and every signature verifies.

Both are written as records of the values they answer with, and `env` turns each into an
`ImageVerificationEnv`.
-/

namespace Caliptra

open CaliptraError

/-! ## The ROM's environment -/

/-- `FirmwareImageVerificationEnv`: the mailbox SRAM the image was received in, the crypto
engines, and the fuse and data-vault values its queries return. -/
structure FirmwareImageVerificationEnv where
  /-- `raw_mailbox_contents()`: the whole mailbox SRAM. -/
  image : List UInt8
  image_size : image.length = MBOX_SIZE.toNat
  /-- The SHA-384 engine's `digest`. -/
  sha384 : List UInt8 → CaliptraResult ImageDigest
  /-- The ECC-384 engine's `verify_r`. -/
  ecc384_verify_r : ImageEccPubKey → ImageDigest → ImageEccSignature → CaliptraResult ImageScalar
  /-- `Lms::verify_lms_signature_cfi` over the SHA-256 engine. -/
  verify_lms_signature : List UInt8 → ImageLmsPublicKey → ImageLmsSignature →
    CaliptraResult (HashValue SHA192_DIGEST_WORD_SIZE)
  vendor_pub_key_hash : ImageDigest
  vendor_ecc_pub_key_revocation : VendorPubKeyRevocation
  vendor_lms_pub_key_revocation : UInt32
  owner_pub_key_hash : ImageDigest
  anti_rollback_disable : Bool
  lifecycle : Lifecycle
  fmc_fuse_svn : UInt32
  runtime_fuse_svn : UInt32
  /-- The fuse `lms_verify` is `RomVerifyConfig::EcdsaAndLms`. -/
  lms_verify_ecdsa_and_lms : Bool
  ecc_vendor_pk_index : UInt32
  lms_vendor_pk_index : UInt32
  owner_pk_hash : ImageDigest
  fmc_tci : ImageDigest

namespace FirmwareImageVerificationEnv

/-- `sha384_digest`: the digest of `image[offset..][..len]`, when that slice exists. -/
def sha384_digest (self : FirmwareImageVerificationEnv) (offset len : UInt32) :
    CaliptraResult ImageDigest :=
  let err := IMAGE_VERIFIER_ERR_DIGEST_OUT_OF_BOUNDS
  if offset.toNat ≤ self.image.length then
    let rest := self.image.drop offset.toNat
    if len.toNat ≤ rest.length then self.sha384 (rest.take len.toNat) else .error err
  else .error err

/-- The `ImageVerificationEnv` implementation. `lms_verify` signs the big-endian bytes of the
digest. -/
def env (self : FirmwareImageVerificationEnv) : ImageVerificationEnv where
  sha384_digest := self.sha384_digest
  ecc384_verify digest pub_key sig := self.ecc384_verify_r pub_key digest sig
  lms_verify digest pub_key sig :=
    self.verify_lms_signature (digest.toList.flatMap Bytes.be32) pub_key sig
  vendor_pub_key_digest := self.vendor_pub_key_hash
  vendor_ecc_pub_key_revocation := self.vendor_ecc_pub_key_revocation
  vendor_lms_pub_key_revocation := self.vendor_lms_pub_key_revocation
  owner_pub_key_digest_fuses := self.owner_pub_key_hash
  anti_rollback_disable := self.anti_rollback_disable
  dev_lifecycle := self.lifecycle
  vendor_ecc_pub_key_idx_dv := self.ecc_vendor_pk_index
  vendor_lms_pub_key_idx_dv := self.lms_vendor_pk_index
  owner_pub_key_digest_dv := self.owner_pk_hash
  get_fmc_digest_dv := self.fmc_tci
  fmc_fuse_svn := self.fmc_fuse_svn
  runtime_fuse_svn := self.runtime_fuse_svn
  iccm_range := ICCM_RANGE
  lms_verify_enabled := self.lms_verify_ecdsa_and_lms

/-- The digest of a slice is the engine's digest of the slice's bytes. -/
theorem sha384_digest_eq_ok {self : FirmwareImageVerificationEnv} {offset len : UInt32}
    {d : ImageDigest} (H : self.sha384_digest offset len = .ok d) :
    self.sha384 (self.image.extract offset.toNat (offset.toNat + len.toNat)) = .ok d := by
  unfold sha384_digest at H
  dsimp only at H
  split at H
  · split at H
    · rw [List.extract_eq_take_drop, Nat.add_sub_cancel_left]
      exact H
    · cases H
  · cases H

/-- A slice the ROM hashes lies inside the mailbox. -/
theorem sha384_digest_ok_bound {self : FirmwareImageVerificationEnv} {offset len : UInt32}
    {d : ImageDigest} (H : self.sha384_digest offset len = .ok d) :
    offset.toNat + len.toNat ≤ MBOX_SIZE.toNat := by
  unfold sha384_digest at H
  dsimp only at H
  split at H
  · split at H
    · next hoff hlen =>
      rw [List.length_drop, self.image_size] at hlen
      rw [self.image_size] at hoff
      omega
    · cases H
  · cases H

end FirmwareImageVerificationEnv

/-! ## The fuzzing environment -/

/-- `IMAGE_BUNDLE_SIZE`: the bundle size the structure-aware harness verifies with. -/
def IMAGE_BUNDLE_SIZE : UInt32 := 131072

/-- `TestEnv` of the fuzzing harness. -/
structure TestEnv where
  digest : ImageDigest
  fmc_digest : ImageDigest
  verify_result : Bool
  verify_lms_result : Bool
  vendor_pub_key_digest : ImageDigest
  vendor_ecc_pub_key_revocation : VendorPubKeyRevocation
  vendor_lms_pub_key_revocation : UInt32
  owner_pub_key_digest : ImageDigest
  lifecycle : Lifecycle

namespace TestEnv

/-- `TestEnv::default()`: all digests zero, every signature verifies, an unprovisioned part. -/
def default : TestEnv where
  digest := ZERO_DIGEST
  fmc_digest := ZERO_DIGEST
  verify_result := true
  verify_lms_result := true
  vendor_pub_key_digest := ZERO_DIGEST
  vendor_ecc_pub_key_revocation := VendorPubKeyRevocation.from_bits_truncate 0
  vendor_lms_pub_key_revocation := 0
  owner_pub_key_digest := ZERO_DIGEST
  lifecycle := .Unprovisioned

/-- The `ImageVerificationEnv` implementation of `TestEnv`. -/
def env (self : TestEnv) : ImageVerificationEnv where
  sha384_digest _ _ := .ok self.digest
  ecc384_verify _ _ sig :=
    if self.verify_result then .ok sig.r else .ok (Vector.replicate _ 0xFFFFFFFF)
  lms_verify _ pub_key _ :=
    if self.verify_lms_result then .ok (HashValue.ofLe pub_key.digest)
    else .ok ⟨Vector.replicate _ 0xDEADBEEF⟩
  vendor_pub_key_digest := self.vendor_pub_key_digest
  vendor_ecc_pub_key_revocation := self.vendor_ecc_pub_key_revocation
  vendor_lms_pub_key_revocation := self.vendor_lms_pub_key_revocation
  owner_pub_key_digest_fuses := self.owner_pub_key_digest
  anti_rollback_disable := false
  dev_lifecycle := self.lifecycle
  vendor_ecc_pub_key_idx_dv := 0
  vendor_lms_pub_key_idx_dv := 0
  owner_pub_key_digest_dv := self.owner_pub_key_digest
  get_fmc_digest_dv := self.fmc_digest
  fmc_fuse_svn := 0
  runtime_fuse_svn := 0
  iccm_range := ⟨ICCM_ORG, ICCM_ORG + ICCM_SIZE⟩
  lms_verify_enabled := true

end TestEnv

end Caliptra
