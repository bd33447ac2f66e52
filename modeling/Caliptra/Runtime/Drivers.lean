import Caliptra.Runtime.AuthManifest
import Caliptra.Lib.EStateM

/-!
# The runtime's drivers and persistent data (`runtime/src/drivers.rs`)

The state the runtime's mailbox commands read and write: the persistent data (the manifest the
ROM verified, the image metadata collection of the last `SET_AUTH_MANIFEST`, the DPE instance
and the context tags), and the drivers the commands call, which do not change during a run.

The DPE submodule (`dpe`) is not part of the repository. It is a parameter, `Dpe n`, with
`n = MAX_HANDLES` contexts: the runtime reads a context's state, locality, parent, type and TCI
values, constructs `DeriveContext` commands, inspects the flags of the commands it receives, and
otherwise hands them to the submodule. The facts of the submodule that a result needs are its
hypotheses.

The runtime's own parts of `drivers.rs` are here: the privilege level of a PAUSER and the
per-level active-context check, the check of the context tags and the root context's journey
measurement on a warm or update reset, and `initialize_dpe` on a cold reset.
-/

namespace Caliptra.Runtime

open CaliptraError

/-! ## The DPE submodule, as the runtime sees it -/

inductive ContextState
  | Inactive
  | Active
  | Retired
  deriving DecidableEq, Repr

inductive ContextType
  | Normal
  | Simulation
  deriving DecidableEq, Repr

/-- `TciMeasurement([u8; 48])`. -/
abbrev TciMeasurement := Vector UInt8 48

/-- `dpe::context::Context`: the fields the runtime reads. -/
structure Context where
  state : ContextState
  locality : UInt32
  parent_idx : UInt8
  context_type : ContextType
  tci_cumulative : TciMeasurement
  tci_current : TciMeasurement
  deriving DecidableEq

/-- `Context::ROOT_INDEX`: the parent index of a root context. -/
def Context.ROOT_INDEX : UInt8 := 0xFF

/-- `DpeInstance`, with its `MAX_HANDLES` contexts. -/
structure DpeInstance (n : Nat) where
  contexts : Vector Context n
  deriving DecidableEq

/-- `ContextHandle([u8; 16])`. -/
abbrev ContextHandle := Vector UInt8 16

/-- `DeriveContextFlags`: the flags the runtime sets or tests. -/
structure DeriveContextFlags where
  make_default : Bool
  change_locality : Bool
  input_allow_ca : Bool
  input_allow_x509 : Bool
  recursive : Bool
  export_cdi : Bool
  deriving DecidableEq

/-- `DeriveContextCmd`. -/
structure DeriveContextCmd where
  handle : ContextHandle
  data : TciMeasurement
  flags : DeriveContextFlags
  tci_type : UInt32
  target_locality : UInt32
  deriving DecidableEq

/-- `dpe::commands::Command`, as far as the runtime looks into it; the arguments the runtime does
not read are the submodule's. -/
inductive DpeCommand
  | GetProfile
  | InitCtx (simulation : Bool)
  | DeriveContext (cmd : DeriveContextCmd)
  /-- `CertifyKey`; `format_x509` is `format == CertifyKeyCmd::FORMAT_X509`. -/
  | CertifyKey (format_x509 : Bool) (args : List UInt8)
  | DestroyCtx (args : List UInt8)
  | Sign (args : List UInt8)
  | RotateCtx (args : List UInt8)
  | GetCertificateChain (args : List UInt8)
  deriving DecidableEq

/-- `DpeErrorCode`, by its `get_error_code()`; `NoError` is `0`. -/
abbrev DpeErrorCode := UInt32

/-- The operations of the DPE submodule that the runtime calls. A command runs in the locality
of the caller and returns the bytes of its response. -/
structure Dpe (n : Nat) where
  /-- `DpeInstance::new_auto_init(env, support, tci_type, measurement, flags)`, with the
  auto-init locality of the platform first. -/
  new_auto_init : UInt32 → UInt32 → TciMeasurement → Except DpeErrorCode (DpeInstance n)
  /-- `Command::deserialize`. -/
  deserialize : List UInt8 → Option DpeCommand
  /-- `dpe.get_profile(platform)`. -/
  get_profile : DpeInstance n → Except DpeErrorCode (List UInt8)
  /-- `cmd.execute(dpe, env, locality)`. -/
  execute : DpeCommand → UInt32 → DpeInstance n → Except DpeErrorCode (List UInt8) × DpeInstance n
  /-- `DpeInstance::get_active_context_pos(handle, locality)`. -/
  get_active_context_pos : DpeInstance n → ContextHandle → UInt32 → Option (Fin n)

/-! ## Persistent data and drivers -/

/-- The runtime's part of `PersistentData`. -/
structure PersistentData (n : Nat) where
  manifest1 : ImageManifest
  auth_manifest_image_metadata_col : AuthManifestImageMetadataCollection
  dpe : DpeInstance n
  context_tags : Vector UInt32 n
  context_has_tag : Vector Bool n

/-- A context as a cleared DCCM holds it. -/
def Context.zeroed : Context :=
  ⟨.Inactive, 0, 0, .Normal, Vector.replicate 48 0, Vector.replicate 48 0⟩

/-- The persistent data a cold boot hands to the runtime: the DCCM cleared by the ROM's start-up
code, with the manifest the ROM verified written into it. -/
def cold_boot_persistent_data (n : Nat) (manifest1 : ImageManifest) : PersistentData n where
  manifest1 := manifest1
  auth_manifest_image_metadata_col := .zeroize
  dpe := ⟨Vector.replicate n Context.zeroed⟩
  context_tags := Vector.replicate n 0
  context_has_tag := Vector.replicate n false

/-- The drivers the modelled commands call; none of them changes during a run. -/
structure Drivers (n : Nat) where
  /-- `Sha384::digest`. -/
  sha384 : List UInt8 → CaliptraResult ImageDigest
  /-- `Ecc384::verify_r`. -/
  ecc384_verify_r : ImageEccPubKey → ImageDigest → ImageEccSignature → CaliptraResult ImageScalar
  /-- `Lms::verify_lms_signature_cfi` over the SHA-256 engine. -/
  verify_lms_signature : List UInt8 → ImageLmsPublicKey → ImageLmsSignature →
    CaliptraResult (HashValue SHA192_DIGEST_WORD_SIZE)
  /-- `soc_ifc.fuse_bank().lms_verify() == RomVerifyConfig::EcdsaAndLms`. -/
  lms_verify_enabled : Bool
  /-- `compute_rt_alias_sn`, `get_key_id_rt_cdi` and `get_key_id_rt_priv_key`: the crypto
  environment of a DPE command, or the driver error that stops building it. -/
  dpe_env : CaliptraResult Unit
  /-- `pcr_bank.extend_pcr(PCR_ID_STASH_MEASUREMENT, sha384, measurement)`. -/
  extend_pcr : TciMeasurement → CaliptraResult Unit
  /-- `pcr_bank.read_pcr(RT_FW_JOURNEY_PCR)`. -/
  rt_journey_pcr : TciMeasurement
  /-- The SHA-384 of the locked mailbox valid PAUSERs. -/
  valid_pauser_hash : CaliptraResult TciMeasurement
  /-- The first `meas_log_index` entries of the measurement log: each entry's measured data and
  metadata. -/
  measurement_log : List (List UInt8 × Vector UInt8 4)
  dpe : Dpe n

/-- A mailbox command of the runtime: it changes the persistent data in place and may fail after
some of its changes. -/
abbrev RtM (n : Nat) := EStateM CaliptraError (PersistentData n)

/-- `MailboxResp`, for the modelled commands. -/
inductive MailboxResp
  | default
  | AuthorizeAndStash (auth_req_result : UInt32)
  | StashMeasurement (dpe_result : UInt32)
  /-- The DPE response, or the error code a failed DPE command puts in the response header. -/
  | InvokeDpeCommand (resp : Except DpeErrorCode (List UInt8))
  | GetTaggedTci (tci_cumulative tci_current : TciMeasurement)
  deriving DecidableEq

/-! ## Privilege levels and the active-context limits -/

inductive PauserPrivileges
  | PL0
  | PL1
  deriving DecidableEq, Repr

def PL0_PAUSER_FLAG : UInt32 := 1

def PL0_DPE_ACTIVE_CONTEXT_THRESHOLD : Nat := 16

def PL1_DPE_ACTIVE_CONTEXT_THRESHOLD : Nat := 16

/-- `caller_privilege_level` for the PAUSER `user` of the command. -/
def caller_privilege_level {n : Nat} (pdata : PersistentData n) (user : UInt32) :
    PauserPrivileges :=
  -- when the PL0_PAUSER_FLAG bit is not set there can be no PL0 PAUSER
  if pdata.manifest1.header.flags &&& PL0_PAUSER_FLAG = 0 then .PL1
  else if user = pdata.manifest1.header.pl0_pauser then .PL0
  else .PL1

/-- `DpeInstance::count_contexts`. -/
def DpeInstance.count_contexts {n : Nat} (dpe : DpeInstance n) (p : Context → Bool) : Nat :=
  (dpe.contexts.toList.filter p).length

/-- The used contexts in the locality of the PL0 PAUSER. -/
def used_pl0_dpe_context_count {n : Nat} (pl0_pauser : UInt32) (dpe : DpeInstance n) : Nat :=
  dpe.count_contexts fun c => c.state ≠ .Inactive ∧ c.locality = pl0_pauser

/-- The other used contexts: all used contexts minus the PL0 ones. -/
def used_pl1_dpe_context_count {n : Nat} (pl0_pauser : UInt32) (dpe : DpeInstance n) : Nat :=
  dpe.count_contexts (fun c => c.state ≠ .Inactive) - used_pl0_dpe_context_count pl0_pauser dpe

/-- `is_dpe_context_threshold_exceeded_helper`: only the bucket of the caller's level is
checked. -/
def is_dpe_context_threshold_exceeded_helper {n : Nat} (pl0_pauser : UInt32)
    (caller_privilege_level : PauserPrivileges) (dpe : DpeInstance n) : CaliptraResult Unit :=
  match caller_privilege_level,
      compare (used_pl1_dpe_context_count pl0_pauser dpe) PL1_DPE_ACTIVE_CONTEXT_THRESHOLD,
      compare (used_pl0_dpe_context_count pl0_pauser dpe) PL0_DPE_ACTIVE_CONTEXT_THRESHOLD with
  | .PL1, .eq, _ => .error RUNTIME_PL1_USED_DPE_CONTEXT_THRESHOLD_REACHED
  | .PL1, .gt, _ => .error RUNTIME_PL1_USED_DPE_CONTEXT_THRESHOLD_EXCEEDED
  | .PL0, _, .eq => .error RUNTIME_PL0_USED_DPE_CONTEXT_THRESHOLD_REACHED
  | .PL0, _, .gt => .error RUNTIME_PL0_USED_DPE_CONTEXT_THRESHOLD_EXCEEDED
  | _, _, _ => .ok ()

/-- `is_dpe_context_threshold_exceeded`, for a command from `user`. -/
def is_dpe_context_threshold_exceeded {n : Nat} (pdata : PersistentData n) (user : UInt32) :
    CaliptraResult Unit :=
  is_dpe_context_threshold_exceeded_helper pdata.manifest1.header.pl0_pauser
    (caller_privilege_level pdata user) pdata.dpe

/-- The check passes exactly when the caller's bucket is below its limit. -/
theorem is_dpe_context_threshold_exceeded_helper_eq_ok {n : Nat} {pl0_pauser : UInt32}
    {lvl : PauserPrivileges} {dpe : DpeInstance n} :
    is_dpe_context_threshold_exceeded_helper pl0_pauser lvl dpe = .ok () ↔
      match lvl with
      | .PL0 => used_pl0_dpe_context_count pl0_pauser dpe < PL0_DPE_ACTIVE_CONTEXT_THRESHOLD
      | .PL1 => used_pl1_dpe_context_count pl0_pauser dpe < PL1_DPE_ACTIVE_CONTEXT_THRESHOLD := by
  unfold is_dpe_context_threshold_exceeded_helper
  cases lvl <;> split <;> simp_all [Nat.compare_eq_gt] <;>
    omega

/-! ## Resets -/

/-- `get_dpe_root_context_idx`: the first used normal context whose parent is the root index. -/
def get_dpe_root_context_idx {n : Nat} (dpe : DpeInstance n) : CaliptraResult (Fin n) :=
  match (List.finRange n).find? (fun i => dpe.contexts[i].state ≠ .Inactive ∧
      dpe.contexts[i].parent_idx = Context.ROOT_INDEX ∧
      dpe.contexts[i].context_type = .Normal) with
  | some i => .ok i
  | none => .error RUNTIME_UNABLE_TO_FIND_DPE_ROOT_CONTEXT

/-- `validate_context_tags`: an inactive context has neither a tag value nor a tag. -/
def validate_context_tags {n : Nat} (pdata : PersistentData n) : CaliptraResult Unit :=
  (List.finRange n).forM fun i =>
    if pdata.dpe.contexts[i].state = .Inactive then
      if pdata.context_tags[i] ≠ 0 then .error RUNTIME_CONTEXT_TAGS_VALIDATION_FAILED
      else if pdata.context_has_tag[i] then .error RUNTIME_CONTEXT_HAS_TAG_VALIDATION_FAILED
      else .ok ()
    else .ok ()

/-- `update_dpe_rt_journey`: the root context's TCI values become the journey PCR. -/
def update_dpe_rt_journey {n : Nat} (drivers : Drivers n) : RtM n Unit := do
  let pdata ← get
  let root_idx ← EStateM.ofExcept (get_dpe_root_context_idx pdata.dpe)
  let latest_pcr := drivers.rt_journey_pcr
  let root := pdata.dpe.contexts[root_idx]
  set { pdata with dpe := ⟨pdata.dpe.contexts.set root_idx
    { root with tci_current := latest_pcr, tci_cumulative := latest_pcr }⟩ }

/-- `check_dpe_rt_journey_unchanged`: a mismatch only disables attestation; a missing root
context fails. -/
def check_dpe_rt_journey_unchanged {n : Nat} : RtM n Unit := do
  let pdata ← get
  let _ ← EStateM.ofExcept (get_dpe_root_context_idx pdata.dpe)

/-- The flags of the contexts the runtime derives itself: `MAKE_DEFAULT | CHANGE_LOCALITY |
INPUT_ALLOW_CA | INPUT_ALLOW_X509`. -/
def measurement_flags : DeriveContextFlags :=
  ⟨true, true, true, true, false, false⟩

/-- One step of the loop of `initialize_dpe` over the ROM's measurements. -/
def add_rom_measurement {n : Nat} (drivers : Drivers n) (pl0_pauser_locality : UInt32)
    (privilege_level : PauserPrivileges) (dpe : DpeInstance n)
    (measurement_log_entry : List UInt8 × Vector UInt8 4) : CaliptraResult (DpeInstance n) := do
  is_dpe_context_threshold_exceeded_helper pl0_pauser_locality privilege_level dpe
  let some data := Vector.try_from measurement_log_entry.1 48
    | throw RUNTIME_ADD_ROM_MEASUREMENTS_TO_DPE_FAILED
  let tci_type := Codec.u32le.decode measurement_log_entry.2.toList
  let (derive_context_resp, dpe) := drivers.dpe.execute (.DeriveContext
    ⟨Vector.replicate 16 0, data, measurement_flags, tci_type, pl0_pauser_locality⟩)
    pl0_pauser_locality dpe
  let _ ← derive_context_resp.mapError fun _ => RUNTIME_ADD_ROM_MEASUREMENTS_TO_DPE_FAILED
  pure dpe

/-- `initialize_dpe` on a cold reset; `user` is the mailbox user when it runs. -/
def initialize_dpe {n : Nat} (drivers : Drivers n) (user : UInt32) : RtM n Unit := do
  let caliptra_locality : UInt32 := 0xFFFFFFFF
  let pdata ← get
  let pl0_pauser_locality := pdata.manifest1.header.pl0_pauser
  EStateM.ofExcept drivers.dpe_env
  let privilege_level := caller_privilege_level pdata user
  let valid_pauser_hash ← EStateM.ofExcept drivers.valid_pauser_hash
  -- `u32::from_be_bytes(*b"RTJM")`
  let dpe ← EStateM.ofExcept ((drivers.dpe.new_auto_init caliptra_locality 0x52544A4D
    drivers.rt_journey_pcr).mapError fun _ => RUNTIME_INITIALIZE_DPE_FAILED)
  -- `u32::from_be_bytes(*b"MBVP")`
  let (derive_context_resp, dpe) := drivers.dpe.execute (.DeriveContext
    ⟨Vector.replicate 16 0, valid_pauser_hash, measurement_flags, 0x4D425650,
      pl0_pauser_locality⟩) caliptra_locality dpe
  let _ ← EStateM.ofExcept
    (derive_context_resp.mapError fun _ => RUNTIME_ADD_VALID_PAUSER_MEASUREMENT_TO_DPE_FAILED)
  let dpe ← EStateM.ofExcept (drivers.measurement_log.foldlM
    (add_rom_measurement drivers pl0_pauser_locality privilege_level) dpe)
  modify fun pdata => { pdata with dpe := dpe }

/-- `run_reset_flow`, for the persistent data modelled here. -/
def run_reset_flow {n : Nat} (drivers : Drivers n) (user : UInt32) :
    ResetReason → RtM n Unit
  | .ColdReset => initialize_dpe drivers user
  | .UpdateReset => do
    EStateM.ofExcept (validate_context_tags (← get))
    update_dpe_rt_journey drivers
  | .WarmReset => do
    EStateM.ofExcept (validate_context_tags (← get))
    check_dpe_rt_journey_unchanged
  | .Unknown => throw RUNTIME_UNKNOWN_RESET_FLOW

end Caliptra.Runtime
