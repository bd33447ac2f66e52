import Caliptra.Lib.RustCore

/-!
# Error codes

`caliptra_error::CaliptraError` is a `NonZeroU32`. The constants below are the codes that the
modelled functions return, with the values of `error/src/lib.rs`; codes that no modelled
function returns are left out.
-/

namespace Caliptra

/-- `CaliptraError(NonZeroU32)`. -/
structure CaliptraError where
  code : UInt32
  code_ne_zero : code ≠ 0
  deriving DecidableEq

/-- `CaliptraResult<T>`. -/
abbrev CaliptraResult (α : Type) := Except CaliptraError α

namespace CaliptraError

/-- `CaliptraError::new_const`. -/
def new_const (code : UInt32) (h : code ≠ 0 := by decide) : CaliptraError := ⟨code, h⟩

/-! ## Image verifier -/

def IMAGE_VERIFIER_ERR_MANIFEST_MARKER_MISMATCH := new_const 0x000b0001
def IMAGE_VERIFIER_ERR_MANIFEST_SIZE_MISMATCH := new_const 0x000b0002
def IMAGE_VERIFIER_ERR_VENDOR_PUB_KEY_DIGEST_INVALID := new_const 0x000b0003
def IMAGE_VERIFIER_ERR_VENDOR_PUB_KEY_DIGEST_FAILURE := new_const 0x000b0004
def IMAGE_VERIFIER_ERR_VENDOR_PUB_KEY_DIGEST_MISMATCH := new_const 0x000b0005
def IMAGE_VERIFIER_ERR_OWNER_PUB_KEY_DIGEST_FAILURE := new_const 0x000b0006
def IMAGE_VERIFIER_ERR_OWNER_PUB_KEY_DIGEST_MISMATCH := new_const 0x000b0007
def IMAGE_VERIFIER_ERR_VENDOR_ECC_PUB_KEY_INDEX_OUT_OF_BOUNDS := new_const 0x000b0008
def IMAGE_VERIFIER_ERR_VENDOR_ECC_PUB_KEY_REVOKED := new_const 0x000b0009
def IMAGE_VERIFIER_ERR_HEADER_DIGEST_FAILURE := new_const 0x000b000a
def IMAGE_VERIFIER_ERR_VENDOR_ECC_VERIFY_FAILURE := new_const 0x000b000b
def IMAGE_VERIFIER_ERR_VENDOR_ECC_SIGNATURE_INVALID := new_const 0x000b000c
def IMAGE_VERIFIER_ERR_VENDOR_ECC_PUB_KEY_INDEX_MISMATCH := new_const 0x000b000d
def IMAGE_VERIFIER_ERR_OWNER_ECC_VERIFY_FAILURE := new_const 0x000b000e
def IMAGE_VERIFIER_ERR_OWNER_ECC_SIGNATURE_INVALID := new_const 0x000b000f
def IMAGE_VERIFIER_ERR_TOC_ENTRY_COUNT_INVALID := new_const 0x000b0010
def IMAGE_VERIFIER_ERR_TOC_DIGEST_FAILURE := new_const 0x000b0011
def IMAGE_VERIFIER_ERR_TOC_DIGEST_MISMATCH := new_const 0x000b0012
def IMAGE_VERIFIER_ERR_FMC_DIGEST_FAILURE := new_const 0x000b0013
def IMAGE_VERIFIER_ERR_FMC_DIGEST_MISMATCH := new_const 0x000b0014
def IMAGE_VERIFIER_ERR_RUNTIME_DIGEST_FAILURE := new_const 0x000b0015
def IMAGE_VERIFIER_ERR_RUNTIME_DIGEST_MISMATCH := new_const 0x000b0016
def IMAGE_VERIFIER_ERR_FMC_RUNTIME_OVERLAP := new_const 0x000b0017
def IMAGE_VERIFIER_ERR_FMC_RUNTIME_INCORRECT_ORDER := new_const 0x000b0018
def IMAGE_VERIFIER_ERR_OWNER_ECC_PUB_KEY_INVALID_ARG := new_const 0x000b0019
def IMAGE_VERIFIER_ERR_OWNER_ECC_SIGNATURE_INVALID_ARG := new_const 0x000b001a
def IMAGE_VERIFIER_ERR_VENDOR_PUB_KEY_DIGEST_INVALID_ARG := new_const 0x000b001b
def IMAGE_VERIFIER_ERR_VENDOR_ECC_SIGNATURE_INVALID_ARG := new_const 0x000b001c
def IMAGE_VERIFIER_ERR_UPDATE_RESET_OWNER_DIGEST_FAILURE := new_const 0x000b001d
def IMAGE_VERIFIER_ERR_UPDATE_RESET_VENDOR_ECC_PUB_KEY_IDX_MISMATCH := new_const 0x000b001e
def IMAGE_VERIFIER_ERR_UPDATE_RESET_FMC_DIGEST_MISMATCH := new_const 0x000b001f
def IMAGE_VERIFIER_ERR_FMC_LOAD_ADDR_INVALID := new_const 0x000b0021
def IMAGE_VERIFIER_ERR_FMC_LOAD_ADDR_UNALIGNED := new_const 0x000b0022
def IMAGE_VERIFIER_ERR_FMC_ENTRY_POINT_INVALID := new_const 0x000b0023
def IMAGE_VERIFIER_ERR_FMC_ENTRY_POINT_UNALIGNED := new_const 0x000b0024
def IMAGE_VERIFIER_ERR_FMC_SVN_GREATER_THAN_MAX_SUPPORTED := new_const 0x000b0025
def IMAGE_VERIFIER_ERR_FMC_SVN_LESS_THAN_FUSE := new_const 0x000b0027
def IMAGE_VERIFIER_ERR_RUNTIME_LOAD_ADDR_INVALID := new_const 0x000b0028
def IMAGE_VERIFIER_ERR_RUNTIME_LOAD_ADDR_UNALIGNED := new_const 0x000b0029
def IMAGE_VERIFIER_ERR_RUNTIME_ENTRY_POINT_INVALID := new_const 0x000b002a
def IMAGE_VERIFIER_ERR_RUNTIME_ENTRY_POINT_UNALIGNED := new_const 0x000b002b
def IMAGE_VERIFIER_ERR_RUNTIME_SVN_GREATER_THAN_MAX_SUPPORTED := new_const 0x000b002c
def IMAGE_VERIFIER_ERR_RUNTIME_SVN_LESS_THAN_FUSE := new_const 0x000b002e
def IMAGE_VERIFIER_ERR_IMAGE_LEN_MORE_THAN_BUNDLE_SIZE := new_const 0x000b002f
def IMAGE_VERIFIER_ERR_VENDOR_LMS_PUB_KEY_INDEX_MISMATCH := new_const 0x000b0030
def IMAGE_VERIFIER_ERR_VENDOR_LMS_VERIFY_FAILURE := new_const 0x000b0031
def IMAGE_VERIFIER_ERR_VENDOR_LMS_PUB_KEY_INDEX_OUT_OF_BOUNDS := new_const 0x000b0032
def IMAGE_VERIFIER_ERR_VENDOR_LMS_SIGNATURE_INVALID := new_const 0x000b0033
def IMAGE_VERIFIER_ERR_FMC_RUNTIME_LOAD_ADDR_OVERLAP := new_const 0x000b0034
def IMAGE_VERIFIER_ERR_OWNER_LMS_VERIFY_FAILURE := new_const 0x000b0036
def IMAGE_VERIFIER_ERR_OWNER_LMS_SIGNATURE_INVALID := new_const 0x000b0038
def IMAGE_VERIFIER_ERR_VENDOR_LMS_PUB_KEY_REVOKED := new_const 0x000b003a
def IMAGE_VERIFIER_ERR_FMC_SIZE_ZERO := new_const 0x000b003b
def IMAGE_VERIFIER_ERR_RUNTIME_SIZE_ZERO := new_const 0x000b003c
def IMAGE_VERIFIER_ERR_UPDATE_RESET_VENDOR_LMS_PUB_KEY_IDX_MISMATCH := new_const 0x000b003d
def IMAGE_VERIFIER_ERR_FMC_LOAD_ADDRESS_IMAGE_SIZE_ARITHMETIC_OVERFLOW := new_const 0x000b003e
def IMAGE_VERIFIER_ERR_RUNTIME_LOAD_ADDRESS_IMAGE_SIZE_ARITHMETIC_OVERFLOW := new_const 0x000b003f
def IMAGE_VERIFIER_ERR_TOC_ENTRY_RANGE_ARITHMETIC_OVERFLOW := new_const 0x000b0040
def IMAGE_VERIFIER_ERR_DIGEST_OUT_OF_BOUNDS := new_const 0x000b0041

/-! ## LMS driver -/

def DRIVER_LMS_INVALID_LMS_ALGO_TYPE := new_const 0x000c0001
def DRIVER_LMS_INVALID_LMOTS_ALGO_TYPE := new_const 0x000c0002
def DRIVER_LMS_INVALID_WINTERNITS_PARAM := new_const 0x000c0003
def DRIVER_LMS_INVALID_PVALUE := new_const 0x000c0004
def DRIVER_LMS_INVALID_HASH_WIDTH := new_const 0x000c0005
def DRIVER_LMS_INVALID_TREE_HEIGHT := new_const 0x000c0006
def DRIVER_LMS_INVALID_Q_VALUE := new_const 0x000c0007
def DRIVER_LMS_INVALID_INDEX := new_const 0x000c0008
def DRIVER_LMS_PATH_OUT_OF_BOUNDS := new_const 0x000c0009
def DRIVER_LMS_SIGNATURE_LMOTS_DOESNT_MATCH_PUBKEY_LMOTS := new_const 0x000c000d

/-! ## Mailbox driver and ROM flows -/

def DRIVER_MAILBOX_INVALID_STATE := new_const 0x00080001
def DRIVER_MAILBOX_UNCORRECTABLE_ECC := new_const 0x00080005
def FW_PROC_INVALID_IMAGE_SIZE := new_const 0x01020002
def FW_PROC_MAILBOX_RESERVED_PAUSER := new_const 0x01020009
def ROM_UPDATE_RESET_FLOW_INVALID_FIRMWARE_COMMAND := new_const 0x01040003
def ROM_UPDATE_RESET_FLOW_MAILBOX_ACCESS_FAILURE := new_const 0x01040004

/-! ## Runtime -/

def RUNTIME_INTERNAL := new_const 0x000E0001
def RUNTIME_INSUFFICIENT_MEMORY := new_const 0x000E0003
def RUNTIME_MAILBOX_INVALID_PARAMS := new_const 0x000E0009
def RUNTIME_INITIALIZE_DPE_FAILED := new_const 0x000E000E
def RUNTIME_INCORRECT_PAUSER_PRIVILEGE_LEVEL := new_const 0x000E0016
def RUNTIME_UNKNOWN_RESET_FLOW := new_const 0x000E0018
def RUNTIME_PL0_USED_DPE_CONTEXT_THRESHOLD_EXCEEDED := new_const 0x000E0019
def RUNTIME_PL1_USED_DPE_CONTEXT_THRESHOLD_EXCEEDED := new_const 0x000E001A
def RUNTIME_ADD_ROM_MEASUREMENTS_TO_DPE_FAILED := new_const 0x000E001D
def RUNTIME_TAGGING_FAILURE := new_const 0x000E001E
def RUNTIME_DUPLICATE_TAG := new_const 0x000E001F
def RUNTIME_CONTEXT_ALREADY_TAGGED := new_const 0x000E0020
def RUNTIME_ADD_VALID_PAUSER_MEASUREMENT_TO_DPE_FAILED := new_const 0x000E0021
def RUNTIME_CONTEXT_TAGS_VALIDATION_FAILED := new_const 0x000E0025
def RUNTIME_COULD_NOT_GET_DPE_PROFILE := new_const 0x000E0026
def RUNTIME_DPE_COMMAND_DESERIALIZATION_FAILED := new_const 0x000E0027
def RUNTIME_CONTEXT_HAS_TAG_VALIDATION_FAILED := new_const 0x000E002F
def RUNTIME_UNABLE_TO_FIND_DPE_ROOT_CONTEXT := new_const 0x000E0035
def RUNTIME_PL0_USED_DPE_CONTEXT_THRESHOLD_REACHED := new_const 0x000E0037
def RUNTIME_PL1_USED_DPE_CONTEXT_THRESHOLD_REACHED := new_const 0x000E0038
def RUNTIME_INVALID_AUTH_MANIFEST_MARKER := new_const 0x000E0045
def RUNTIME_AUTH_MANIFEST_PREAMBLE_SIZE_MISMATCH := new_const 0x000E0046
def RUNTIME_AUTH_MANIFEST_VENDOR_ECC_SIGNATURE_INVALID := new_const 0x000E0047
def RUNTIME_AUTH_MANIFEST_VENDOR_LMS_SIGNATURE_INVALID := new_const 0x000E0048
def RUNTIME_AUTH_MANIFEST_OWNER_ECC_SIGNATURE_INVALID := new_const 0x000E0049
def RUNTIME_AUTH_MANIFEST_OWNER_LMS_SIGNATURE_INVALID := new_const 0x000E004A
def RUNTIME_AUTH_MANIFEST_PREAMBLE_SIZE_LT_MIN := new_const 0x000E004B
def RUNTIME_AUTH_MANIFEST_IMAGE_METADATA_LIST_INVALID_SIZE := new_const 0x000E004C
def RUNTIME_AUTH_MANIFEST_IMAGE_METADATA_LIST_INVALID_ENTRY_COUNT := new_const 0x000E004D
def RUNTIME_AUTH_AND_STASH_UNSUPPORTED_IMAGE_SOURCE := new_const 0x000E004E
def RUNTIME_CMD_RESERVED_PAUSER := new_const 0x000E004F
def RUNTIME_AUTH_AND_STASH_MEASUREMENT_DPE_ERROR := new_const 0x000E0050
def RUNTIME_AUTH_MANIFEST_IMAGE_METADATA_LIST_DUPLICATE_FIRMWARE_ID := new_const 0x000E0053

end CaliptraError

end Caliptra
