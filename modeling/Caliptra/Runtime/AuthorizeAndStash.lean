import Caliptra.Runtime.Drivers

/-!
# `STASH_MEASUREMENT` and `AUTHORIZE_AND_STASH` (`runtime/src/stash_measurement.rs`,
`runtime/src/authorize_and_stash.rs`)

`AUTHORIZE_AND_STASH` looks the requested firmware id up in the image metadata collection of the
persistent data with `binary_search_by` over all `AUTH_MANIFEST_IMAGE_METADATA_MAX_COUNT` slots,
compares the digest of the entry it finds with the request's measurement (unless the entry's
flags say to skip the check), and stashes an authorized measurement into DPE as
`STASH_MEASUREMENT` does.

The search is run over every slot, not over the first `entry_count`: at a cold boot the
persistent data is zero (the ROM clears the DCCM), so every slot holds an entry with `fw_id` 0,
flags 0 and a zero digest, and `fw_id_zero_authorized` shows that a request for firmware id 0
with a zero measurement is authorized with no manifest ever set.
-/

namespace Caliptra

open CaliptraError Caliptra.Runtime

/-! ## `STASH_MEASUREMENT` -/

/-- `StashMeasurementReq`, after its header: `context` and `svn` are not read. -/
structure StashMeasurementReq where
  metadata : Vector UInt8 4
  measurement : TciMeasurement
  deriving DecidableEq

def StashMeasurementReq.codec : Codec StashMeasurementReq :=
  ((Codec.pad 4).prod ((Codec.u8.vector 4).prod ((Codec.u8.vector 48).prod (Codec.pad 52)))).map
    (fun p => ⟨p.2.1, p.2.2.1⟩) (fun r => ((), r.metadata, r.measurement, ())) (fun _ => rfl)

namespace StashMeasurementCmd

variable {n : Nat}

/-- `stash_measurement` for a command from `user`: a default context derived for the measurement
in the caller's locality, and the measurement extended into the stash PCR when DPE accepted
it. -/
def stash_measurement (drivers : Drivers n) (user : UInt32) (metadata : Vector UInt8 4)
    (measurement : TciMeasurement) : RtM n DpeErrorCode := do
  let pdata ← get
  EStateM.failIf (caller_privilege_level pdata user = .PL1)
    RUNTIME_INCORRECT_PAUSER_PRIVILEGE_LEVEL
  EStateM.ofExcept (is_dpe_context_threshold_exceeded pdata user)
  EStateM.ofExcept drivers.dpe_env
  let locality := user
  let (derive_context_resp, dpe) := drivers.dpe.execute (.DeriveContext
    ⟨Vector.replicate 16 0, measurement, measurement_flags, Codec.u32le.decode metadata.toList,
      locality⟩) locality pdata.dpe
  set { pdata with dpe := dpe }
  let dpe_result : DpeErrorCode := match derive_context_resp with
    | .ok _ => 0
    | .error e => e
  if dpe_result = 0 then EStateM.ofExcept (drivers.extend_pcr measurement)
  pure dpe_result

def execute (drivers : Drivers n) (user : UInt32) (cmd_args : List UInt8) :
    RtM n MailboxResp := do
  let some cmd := StashMeasurementReq.codec.ref_from_bytes cmd_args
    | throw RUNTIME_INSUFFICIENT_MEMORY
  let dpe_result ← stash_measurement drivers user cmd.metadata cmd.measurement
  pure (.StashMeasurement dpe_result)

end StashMeasurementCmd

/-! ## `AUTHORIZE_AND_STASH` -/

/-- Either the firmware id and the digest matched, or `ignore_auth_check` is set for the id. -/
def IMAGE_AUTHORIZED : UInt32 := 0xDEADC0DE

/-- The firmware id is not in the image metadata collection. -/
def IMAGE_NOT_AUTHORIZED : UInt32 := 0x21523F21

/-- The firmware id matched, but the digest did not. -/
def IMAGE_HASH_MISMATCH : UInt32 := 0x8BFB95CB

inductive ImageHashSource
  | Invalid
  | InRequest
  | ShaAcc
  deriving DecidableEq, Repr

/-- `ImageHashSource::from(u32)`. -/
def ImageHashSource.from (val : UInt32) : ImageHashSource :=
  if val = 1 then .InRequest else if val = 2 then .ShaAcc else .Invalid

/-- `AuthAndStashFlags::SKIP_STASH`. -/
def SKIP_STASH : UInt32 := 1

/-- `AuthorizeAndStashReq`, after its header: `context` and `svn` are not read. -/
structure AuthorizeAndStashReq where
  fw_id : Vector UInt8 4
  measurement : TciMeasurement
  flags : UInt32
  source : UInt32
  deriving DecidableEq

def AuthorizeAndStashReq.codec : Codec AuthorizeAndStashReq :=
  ((Codec.pad 4).prod ((Codec.u8.vector 4).prod ((Codec.u8.vector 48).prod
      ((Codec.pad 52).prod (Codec.u32le.prod Codec.u32le))))).map
    (fun p => ⟨p.2.1, p.2.2.1, p.2.2.2.2.1, p.2.2.2.2.2⟩)
    (fun r => ((), r.fw_id, r.measurement, (), r.flags, r.source)) (fun _ => rfl)

namespace AuthorizeAndStashCmd

variable {n : Nat}

/-- `find_metadata_entry`: a binary search of all the collection's slots for `cmd_fw_id`. -/
def find_metadata_entry (auth_manifest_image_metadata_col : AuthManifestImageMetadataCollection)
    (cmd_fw_id : UInt32) : Option AuthManifestImageMetadata :=
  let list := auth_manifest_image_metadata_col.image_metadata_list.toList
  match list.binary_search_by (fun metadata => compare metadata.fw_id cmd_fw_id) with
  | .ok index => list[index]?
  | .error _ => none

/-- The `auth_result` that `execute` computes from the stored collection. -/
def auth_result (auth_manifest_image_metadata_col : AuthManifestImageMetadataCollection)
    (cmd : AuthorizeAndStashReq) : UInt32 :=
  let cmd_fw_id := Codec.u32le.decode cmd.fw_id.toList
  match find_metadata_entry auth_manifest_image_metadata_col cmd_fw_id with
  | some metadata_entry =>
    if ImageMetadataFlags.ignore_auth_check metadata_entry.flags then IMAGE_AUTHORIZED
    else if metadata_entry.digest = cmd.measurement then IMAGE_AUTHORIZED
    else IMAGE_HASH_MISMATCH
  | none => IMAGE_NOT_AUTHORIZED

def execute (drivers : Drivers n) (user : UInt32) (cmd_args : List UInt8) :
    RtM n MailboxResp := do
  let some cmd := AuthorizeAndStashReq.codec.ref_from_bytes cmd_args
    | throw RUNTIME_INSUFFICIENT_MEMORY
  EStateM.failIf (ImageHashSource.from cmd.source ≠ .InRequest)
    RUNTIME_AUTH_AND_STASH_UNSUPPORTED_IMAGE_SOURCE
  let persistent_data ← get
  let auth_result := auth_result persistent_data.auth_manifest_image_metadata_col cmd
  if auth_result = IMAGE_AUTHORIZED then
    if cmd.flags &&& SKIP_STASH = 0 then
      let dpe_result ← StashMeasurementCmd.stash_measurement drivers user cmd.fw_id
        cmd.measurement
      EStateM.failIf (dpe_result ≠ 0) RUNTIME_AUTH_AND_STASH_MEASUREMENT_DPE_ERROR
  pure (.AuthorizeAndStash auth_result)

/-! ## Lookups in the collection a cold boot leaves -/

/-- The search of a zeroed collection for firmware id 0 stops at its first probe, whose entry is
all zero. -/
theorem find_metadata_entry_zeroize :
    find_metadata_entry AuthManifestImageMetadataCollection.zeroize 0 =
      some ⟨0, 0, Vector.replicate 48 0⟩ := by
  unfold find_metadata_entry List.binary_search_by List.binary_search_by_loop
  simp [AuthManifestImageMetadataCollection.zeroize, AUTH_MANIFEST_IMAGE_METADATA_MAX_COUNT]

/-- A request for firmware id 0 with a zero measurement, from the request's hash, without
stashing. -/
def fw_id_zero_req : AuthorizeAndStashReq :=
  ⟨Vector.replicate 4 0, Vector.replicate 48 0, SKIP_STASH, 1⟩

theorem auth_result_zeroize :
    auth_result AuthManifestImageMetadataCollection.zeroize fw_id_zero_req = IMAGE_AUTHORIZED := by
  have hid : Codec.u32le.decode fw_id_zero_req.fw_id.toList = 0 := by decide
  simp only [auth_result, hid, find_metadata_entry_zeroize]
  decide

/-- Whatever the drivers and the caller, a state whose collection is zero authorizes firmware
id 0 with a zero measurement. -/
theorem fw_id_zero_authorized (drivers : Drivers n) (user : UInt32) (pd : Runtime.PersistentData n)
    (hcol : pd.auth_manifest_image_metadata_col = AuthManifestImageMetadataCollection.zeroize) :
    (execute drivers user (AuthorizeAndStashReq.codec.encode fw_id_zero_req)).run pd =
      .ok (.AuthorizeAndStash IMAGE_AUTHORIZED) pd := by
  have hsrc : (EStateM.failIf (ImageHashSource.from fw_id_zero_req.source ≠ .InRequest)
      RUNTIME_AUTH_AND_STASH_UNSUPPORTED_IMAGE_SOURCE : RtM n PUnit).run pd = .ok () pd :=
    EStateM.failIf_eq_ok.mpr ⟨by decide, rfl⟩
  have hskip : fw_id_zero_req.flags &&& SKIP_STASH ≠ 0 := by decide
  simp [execute, hsrc, hcol, auth_result_zeroize, hskip]

theorem fw_id_zero_authorized_at_cold_boot (drivers : Drivers n) (user : UInt32)
    (manifest1 : ImageManifest) :
    (execute drivers user (AuthorizeAndStashReq.codec.encode fw_id_zero_req)).run
        (cold_boot_persistent_data n manifest1) =
      .ok (.AuthorizeAndStash IMAGE_AUTHORIZED) (cold_boot_persistent_data n manifest1) :=
  fw_id_zero_authorized drivers user _ rfl

end AuthorizeAndStashCmd

end Caliptra
