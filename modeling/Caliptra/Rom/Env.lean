import Caliptra.Image.Envs
import Caliptra.Image.Layout
import Caliptra.Drivers.Mailbox
import Caliptra.Lib.Memory

/-!
# The ROM's environment (`rom/dev/src/rom_env.rs`)

The part of `RomEnv` that the firmware-load flows read and write: the fuses the verifier
consults, the crypto engines, the mailbox, the data vault, the two manifest buffers of the
persistent data, and the memory the images are loaded into. The PCR bank and its log are not
modelled; `extend_pcrs` stands for the result of extending them.

`RomEnv.venv` is the `FirmwareImageVerificationEnv` that both flows build over the mailbox SRAM
(`common/src/verifier.rs`): fuse queries read the fuse bank, data-vault queries the data vault.
-/

namespace Caliptra

/-- The fuse values the verifier reads through `SocIfc`. -/
structure FuseBank where
  vendor_pub_key_hash : ImageDigest
  vendor_ecc_pub_key_revocation : VendorPubKeyRevocation
  vendor_lms_pub_key_revocation : UInt32
  owner_pub_key_hash : ImageDigest
  anti_rollback_disable : Bool
  lifecycle : Lifecycle
  fmc_fuse_svn : UInt32
  runtime_fuse_svn : UInt32
  /-- `lms_verify() == RomVerifyConfig::EcdsaAndLms`. -/
  lms_verify_ecdsa_and_lms : Bool

/-- `DataVault`: the entries the firmware-load flows write and the verifier reads. The first six
are cold-reset entries, written once per cold boot; the others are warm-reset entries. -/
structure DataVault where
  fmc_tci : ImageDigest
  fmc_svn : UInt32
  fmc_entry_point : UInt32
  owner_pk_hash : ImageDigest
  ecc_vendor_pk_index : UInt32
  lms_vendor_pk_index : UInt32
  rt_tci : ImageDigest
  rt_svn : UInt32
  rt_entry_point : UInt32
  rom_update_reset_status : UInt32
  deriving DecidableEq

/-- The cold-reset entries, which only a cold boot writes. -/
def DataVault.cold_entries (dv : DataVault) :
    ImageDigest × UInt32 × UInt32 × ImageDigest × UInt32 × UInt32 :=
  (dv.fmc_tci, dv.fmc_svn, dv.fmc_entry_point, dv.owner_pk_hash, dv.ecc_vendor_pk_index,
    dv.lms_vendor_pk_index)

/-- The manifest buffers of `PersistentData`, as the bytes they hold. -/
structure PersistentData where
  manifest1 : Vector UInt8 IMAGE_MANIFEST_BYTE_SIZE
  manifest2 : Vector UInt8 IMAGE_MANIFEST_BYTE_SIZE

structure RomEnv where
  fuse_bank : FuseBank
  /-- The SHA-384 engine's `digest`. -/
  sha384 : List UInt8 → CaliptraResult ImageDigest
  /-- The ECC-384 engine's `verify_r`. -/
  ecc384_verify_r : ImageEccPubKey → ImageDigest → ImageEccSignature → CaliptraResult ImageScalar
  /-- `Lms::verify_lms_signature_cfi` over the SHA-256 engine. -/
  verify_lms_signature : List UInt8 → ImageLmsPublicKey → ImageLmsSignature →
    CaliptraResult (HashValue SHA192_DIGEST_WORD_SIZE)
  mbox : Mbox
  data_vault : DataVault
  persistent_data : PersistentData
  /-- The memory the images are loaded into, by address. -/
  iccm : Memory
  /-- `pcr::extend_pcrs`: its result for the verified image. -/
  extend_pcrs : ImageVerificationInfo → CaliptraResult Unit

namespace RomEnv

/-- `FirmwareImageVerificationEnv { .., image: txn.raw_mailbox_contents() }`. -/
def venv (env : RomEnv) (txn : MailboxRecvTxn) : FirmwareImageVerificationEnv where
  image := txn.raw_mailbox_contents
  image_size := txn.mbox.ram_size
  sha384 := env.sha384
  ecc384_verify_r := env.ecc384_verify_r
  verify_lms_signature := env.verify_lms_signature
  vendor_pub_key_hash := env.fuse_bank.vendor_pub_key_hash
  vendor_ecc_pub_key_revocation := env.fuse_bank.vendor_ecc_pub_key_revocation
  vendor_lms_pub_key_revocation := env.fuse_bank.vendor_lms_pub_key_revocation
  owner_pub_key_hash := env.fuse_bank.owner_pub_key_hash
  anti_rollback_disable := env.fuse_bank.anti_rollback_disable
  lifecycle := env.fuse_bank.lifecycle
  fmc_fuse_svn := env.fuse_bank.fmc_fuse_svn
  runtime_fuse_svn := env.fuse_bank.runtime_fuse_svn
  lms_verify_ecdsa_and_lms := env.fuse_bank.lms_verify_ecdsa_and_lms
  ecc_vendor_pk_index := env.data_vault.ecc_vendor_pk_index
  lms_vendor_pk_index := env.data_vault.lms_vendor_pk_index
  owner_pk_hash := env.data_vault.owner_pk_hash
  fmc_tci := env.data_vault.fmc_tci

/-- The verifier's environment reads the SRAM, not the FIFO. -/
theorem venv_advance (env : RomEnv) (state : MailboxOpState) (m : Mbox) (k : Nat) :
    env.venv ⟨state, m.advance k⟩ = env.venv ⟨.Execute, m⟩ := rfl

@[simp] theorem venv_image (env : RomEnv) (txn : MailboxRecvTxn) :
    (env.venv txn).image = txn.mbox.ram := rfl

@[simp] theorem venv_vendor_ecc_pub_key_idx_dv (env : RomEnv) (txn : MailboxRecvTxn) :
    (env.venv txn).env.vendor_ecc_pub_key_idx_dv = env.data_vault.ecc_vendor_pk_index := rfl

@[simp] theorem venv_vendor_lms_pub_key_idx_dv (env : RomEnv) (txn : MailboxRecvTxn) :
    (env.venv txn).env.vendor_lms_pub_key_idx_dv = env.data_vault.lms_vendor_pk_index := rfl

@[simp] theorem venv_owner_pub_key_digest_dv (env : RomEnv) (txn : MailboxRecvTxn) :
    (env.venv txn).env.owner_pub_key_digest_dv = env.data_vault.owner_pk_hash := rfl

@[simp] theorem venv_get_fmc_digest_dv (env : RomEnv) (txn : MailboxRecvTxn) :
    (env.venv txn).env.get_fmc_digest_dv = env.data_vault.fmc_tci := rfl

@[simp] theorem venv_iccm_range (env : RomEnv) (txn : MailboxRecvTxn) :
    (env.venv txn).env.iccm_range = ICCM_RANGE := rfl

end RomEnv

end Caliptra
