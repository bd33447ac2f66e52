import Caliptra.Error
import Caliptra.LmsTypes

/-!
# The firmware image bundle (`image/types`)

The manifest of a firmware image bundle: preamble (vendor and owner keys and signatures),
header, and the two table-of-contents entries for the FMC and the runtime. The fields are those
the image verifier, the ROM and the runtime read; the byte offsets of the hashed regions
(`vendor_pub_keys_range`, `header_range`, `toc_range`, ...) are the ones `memoffset` computes
from the `#[repr(C)]` layout, with `size_of::<ImageManifest>() = 5884`.
-/

namespace Caliptra

def MANIFEST_MARKER : UInt32 := 0x4E414D43
def VENDOR_ECC_KEY_COUNT : UInt32 := 4
def VENDOR_LMS_KEY_COUNT : UInt32 := 32
def MAX_TOC_ENTRY_COUNT : UInt32 := 2
abbrev ECC384_SCALAR_WORD_SIZE : Nat := 12
abbrev SHA384_DIGEST_WORD_SIZE : Nat := 12
abbrev SHA192_DIGEST_WORD_SIZE : Nat := 6
abbrev IMAGE_LMS_OTS_P_PARAM : Nat := 51
abbrev IMAGE_LMS_KEY_HEIGHT : Nat := 15

/-- `IMAGE_BYTE_SIZE`: the largest image bundle the ROM accepts. -/
def IMAGE_BYTE_SIZE : Nat := 128 * 1024

/-- `size_of::<ImageManifest>()`. -/
def IMAGE_MANIFEST_BYTE_SIZE : Nat := 5884

/-- `ImageScalar = [u32; 12]`. -/
abbrev ImageScalar := Vector UInt32 ECC384_SCALAR_WORD_SIZE

/-- `ImageDigest = [u32; SHA384_DIGEST_WORD_SIZE]`. -/
abbrev ImageDigest := Vector UInt32 SHA384_DIGEST_WORD_SIZE

/-- `ZERO_DIGEST`. -/
def ZERO_DIGEST : ImageDigest := Vector.replicate _ 0

structure ImageEccPubKey where
  x : ImageScalar
  y : ImageScalar
  deriving DecidableEq

structure ImageEccSignature where
  r : ImageScalar
  s : ImageScalar
  deriving DecidableEq

abbrev ImageLmsPublicKey := LmsPublicKey SHA192_DIGEST_WORD_SIZE
abbrev ImageLmsSignature :=
  LmsSignature SHA192_DIGEST_WORD_SIZE IMAGE_LMS_OTS_P_PARAM IMAGE_LMS_KEY_HEIGHT

structure ImageVendorPubKeys where
  ecc_pub_keys : Vector ImageEccPubKey VENDOR_ECC_KEY_COUNT.toNat
  lms_pub_keys : Vector ImageLmsPublicKey VENDOR_LMS_KEY_COUNT.toNat
  deriving DecidableEq

structure ImageOwnerPubKeys where
  ecc_pub_key : ImageEccPubKey
  lms_pub_key : ImageLmsPublicKey
  deriving DecidableEq

structure ImageSignatures where
  ecc_sig : ImageEccSignature
  lms_sig : ImageLmsSignature
  deriving DecidableEq

structure ImagePreamble where
  vendor_pub_keys : ImageVendorPubKeys
  vendor_ecc_pub_key_idx : UInt32
  vendor_lms_pub_key_idx : UInt32
  vendor_sigs : ImageSignatures
  owner_pub_keys : ImageOwnerPubKeys
  owner_sigs : ImageSignatures
  deriving DecidableEq

structure ImageHeader where
  vendor_ecc_pub_key_idx : UInt32
  vendor_lms_pub_key_idx : UInt32
  /-- Bit 0: interpret the `pl0_pauser` field. If not set, all PAUSERs are PL1. -/
  flags : UInt32
  toc_len : UInt32
  pl0_pauser : UInt32
  toc_digest : ImageDigest
  deriving DecidableEq

structure ImageTocEntry where
  id : UInt32
  image_type : UInt32
  version : UInt32
  svn : UInt32
  reserved : UInt32
  load_addr : UInt32
  entry_point : UInt32
  offset : UInt32
  size : UInt32
  digest : ImageDigest
  deriving DecidableEq

structure ImageManifest where
  marker : UInt32
  size : UInt32
  preamble : ImagePreamble
  header : ImageHeader
  fmc : ImageTocEntry
  runtime : ImageTocEntry
  deriving DecidableEq

namespace ImageTocEntry

/-- `ImageTocEntry::image_range`: the half-open offset range of the image in the bundle. -/
def image_range (e : ImageTocEntry) : CaliptraResult RangeU32 :=
  if e.offset.toNat + e.size.toNat < 2 ^ 32 then .ok ⟨e.offset, e.offset + e.size⟩
  else .error CaliptraError.IMAGE_VERIFIER_ERR_TOC_ENTRY_RANGE_ARITHMETIC_OVERFLOW

/-- `ImageTocEntry::image_size`. -/
def image_size (e : ImageTocEntry) : UInt32 := e.size

theorem image_range_eq_ok {e : ImageTocEntry} {r : RangeU32} :
    e.image_range = .ok r ↔
      e.offset.toNat + e.size.toNat < 2 ^ 32 ∧ r = ⟨e.offset, e.offset + e.size⟩ := by
  unfold image_range
  split <;> simp_all [eq_comm]

end ImageTocEntry

namespace ImageManifest

/-- `ImageManifest::vendor_pub_keys_range`: the vendor keys, at offset 8 of the manifest. -/
def vendor_pub_keys_range : RangeU32 := ⟨8, 1928⟩

/-- `ImageManifest::owner_pub_key_range`. -/
def owner_pub_key_range : RangeU32 := ⟨3652, 3796⟩

/-- `ImageManifest::header_range`. -/
def header_range : RangeU32 := ⟨5520, 5676⟩

/-- `offset_of!(ImageHeader, owner_data)`: the vendor-signed part of the header. -/
def vendor_header_len : UInt32 := 116

/-- `ImageManifest::toc_range`: both TOC entries. -/
def toc_range : RangeU32 := ⟨5676, 5884⟩

end ImageManifest

/-- `ResetReason`. -/
inductive ResetReason where
  | ColdReset
  | WarmReset
  | UpdateReset
  | Unknown
  deriving DecidableEq, Repr

/-- `Lifecycle`. -/
inductive Lifecycle where
  | Unprovisioned
  | Manufacturing
  | Reserved2
  | Production
  deriving DecidableEq, Repr

/-- `VendorPubKeyRevocation`: the bitflags `KEY0..KEY3` of a `u32`; no other bit is set. -/
structure VendorPubKeyRevocation where
  bits : UInt32
  bits_lt : bits.toNat < 16
  deriving DecidableEq

namespace VendorPubKeyRevocation

/-- `from_bits_truncate`: the bits outside `KEY0..KEY3` are dropped. -/
def from_bits_truncate (b : UInt32) : VendorPubKeyRevocation :=
  ⟨b &&& 0xF, by
    rw [UInt32.toNat_and]
    exact Nat.lt_of_le_of_lt Nat.and_le_right (by decide)⟩

/-- `contains`: every flag of `other` is set in `self`. -/
def contains (self other : VendorPubKeyRevocation) : Bool :=
  self.bits &&& other.bits == other.bits

theorem from_bits_truncate_one_shl {k : UInt32} (hk : k.toNat < 4) :
    (from_bits_truncate (1 <<< k)).bits = 1 <<< k := by
  have h15 : (UInt32.toNat 0xF).testBit k.toNat = true := by
    rw [show UInt32.toNat 0xF = 2 ^ 4 - 1 from rfl, Nat.testBit_two_pow_sub_one]
    simpa using hk
  rw [from_bits_truncate, ← UInt32.toNat_inj, UInt32.toNat_and, Bytes.toNat_one_shl (by omega),
    Nat.two_pow_and, h15, Bool.toNat_true, mul_one]

/-- The flag `1 << k` of one key is in the revocation mask exactly when bit `k` is set. -/
theorem contains_one_shl (self : VendorPubKeyRevocation) {k : UInt32} (hk : k.toNat < 4) :
    self.contains (from_bits_truncate (1 <<< k)) = self.bits.toNat.testBit k.toNat := by
  rw [contains, from_bits_truncate_one_shl hk, Bytes.and_one_shl_beq (by omega)]

end VendorPubKeyRevocation

/-- `ImageVerificationExeInfo`. -/
structure ImageVerificationExeInfo where
  load_addr : UInt32
  size : UInt32
  entry_point : UInt32
  svn : UInt32
  effective_fuse_svn : UInt32
  digest : ImageDigest
  deriving DecidableEq

/-- `ImageSvnLogInfo`. -/
structure ImageSvnLogInfo where
  manifest_svn : UInt32
  reserved : UInt32
  fuse_svn : UInt32
  deriving DecidableEq

/-- `ImageVerificationLogInfo`. -/
structure ImageVerificationLogInfo where
  vendor_ecc_pub_key_idx : UInt32
  fuse_vendor_ecc_pub_key_revocation : VendorPubKeyRevocation
  vendor_lms_pub_key_idx : Option UInt32
  fuse_vendor_lms_pub_key_revocation : Option UInt32
  fmc_log_info : ImageSvnLogInfo
  rt_log_info : ImageSvnLogInfo
  deriving DecidableEq

/-- `ImageVerificationInfo`. -/
structure ImageVerificationInfo where
  vendor_ecc_pub_key_idx : UInt32
  vendor_lms_pub_key_idx : Option UInt32
  owner_pub_keys_digest : ImageDigest
  owner_pub_keys_digest_in_fuses : Bool
  fmc : ImageVerificationExeInfo
  runtime : ImageVerificationExeInfo
  log_info : ImageVerificationLogInfo
  deriving DecidableEq

end Caliptra
