import Caliptra.Runtime.Drivers

/-!
# `SET_AUTH_MANIFEST` (`runtime/src/set_auth_manifest.rs`)

The command that replaces the image metadata collection in the persistent data. It checks the
size and marker of the authorization manifest's preamble, the vendor's signature over the
preamble's vendor data and the owner's over its owner keys (both with the keys of the firmware
manifest the ROM verified), then the signatures of the preamble's own keys over the SHA-384 of
the metadata bytes; it sorts the entries by `fw_id` in place in the mailbox buffer, rejecting a
duplicate, and only then clears the stored collection and copies the buffer over it.

`execute_atomic`: a request that fails leaves the stored collection as it was, and one that
succeeds stores a collection whose first `entry_count` entries are the request's, sorted, over
bytes whose digest the owner (and, when the flags ask for it, the vendor) signed. Such a request
also carries, in its preamble, keys signed by the firmware's vendor and owner keys
(`execute_eq_ok`, `PreambleSigned`).
-/

namespace Caliptra

open CaliptraError Caliptra.Runtime

namespace SetAuthManifestCmd

variable {n : Nat}

/-- `SetAuthManifestReq::MAX_MAN_SIZE`. -/
def MAX_MAN_SIZE : Nat := 14 * 1024

/-- `sha384_digest`: the digest of `buf[offset..][..len]`, when that slice exists. -/
def sha384_digest (drivers : Drivers n) (buf : List UInt8) (offset len : UInt32) :
    CaliptraResult ImageDigest :=
  let err := IMAGE_VERIFIER_ERR_DIGEST_OUT_OF_BOUNDS
  if offset.toNat ≤ buf.length then
    let rest := buf.drop offset.toNat
    if len.toNat ≤ rest.length then drivers.sha384 (rest.take len.toNat) else .error err
  else .error err

def ecc384_verify (drivers : Drivers n) (digest : ImageDigest) (pub_key : ImageEccPubKey)
    (sig : ImageEccSignature) : CaliptraResult ImageScalar :=
  drivers.ecc384_verify_r pub_key digest sig

/-- `lms_verify`: the LMS signature is over the digest's words as big-endian bytes. -/
def lms_verify (drivers : Drivers n) (digest : ImageDigest) (pub_key : ImageLmsPublicKey)
    (sig : ImageLmsSignature) : CaliptraResult (HashValue SHA192_DIGEST_WORD_SIZE) :=
  drivers.verify_lms_signature (digest.toList.flatMap Bytes.be32) pub_key sig

/-- The body of the four `verify_*` functions: the ECC signature over `digest`, then the LMS
signature when the fuses ask for it. A key looked up in the firmware's preamble may be missing
(`.ok_or(err)?`); every failure is reported as the algorithm's error. -/
def verify_signatures (drivers : Drivers n) (digest : ImageDigest)
    (ecc_key : Option ImageEccPubKey) (lms_key : Option ImageLmsPublicKey)
    (sigs : AuthManifestSignatures) (ecc_err lms_err : CaliptraError) : CaliptraResult Unit := do
  let some ecc_key := ecc_key | throw ecc_err
  let verify_r ← (ecc384_verify drivers digest ecc_key sigs.ecc_sig).mapError fun _ => ecc_err
  Except.failIf (verify_r ≠ sigs.ecc_sig.r) ecc_err
  if drivers.lms_verify_enabled then
    let some lms_key := lms_key | throw lms_err
    let candidate_key ← (lms_verify drivers digest lms_key sigs.lms_sig).mapError fun _ => lms_err
    Except.failIf (candidate_key ≠ HashValue.ofLe lms_key.digest) lms_err

/-- `verify_vendor_signed_data`: the firmware's vendor keys, at the indices its manifest names,
sign the version, flags and vendor keys of the preamble. -/
def verify_vendor_signed_data (drivers : Drivers n) (preamble_bytes : List UInt8)
    (auth_manifest_preamble : AuthManifestPreamble) (fw_preamble : ImagePreamble) :
    CaliptraResult Unit := do
  let range := AuthManifestPreamble.vendor_signed_data_range
  let digest_vendor ← sha384_digest drivers preamble_bytes range.start range.len
  verify_signatures drivers digest_vendor
    fw_preamble.vendor_pub_keys.ecc_pub_keys[fw_preamble.vendor_ecc_pub_key_idx.toNat]?
    fw_preamble.vendor_pub_keys.lms_pub_keys[fw_preamble.vendor_lms_pub_key_idx.toNat]?
    auth_manifest_preamble.vendor_pub_keys_signatures
    RUNTIME_AUTH_MANIFEST_VENDOR_ECC_SIGNATURE_INVALID
    RUNTIME_AUTH_MANIFEST_VENDOR_LMS_SIGNATURE_INVALID

/-- `verify_owner_pub_keys`: the firmware's owner keys sign the preamble's owner keys. -/
def verify_owner_pub_keys (drivers : Drivers n) (preamble_bytes : List UInt8)
    (auth_manifest_preamble : AuthManifestPreamble) (fw_preamble : ImagePreamble) :
    CaliptraResult Unit := do
  let range := AuthManifestPreamble.owner_pub_keys_range
  let digest_owner ← sha384_digest drivers preamble_bytes range.start range.len
  verify_signatures drivers digest_owner
    (some fw_preamble.owner_pub_keys.ecc_pub_key) (some fw_preamble.owner_pub_keys.lms_pub_key)
    auth_manifest_preamble.owner_pub_keys_signatures
    RUNTIME_AUTH_MANIFEST_OWNER_ECC_SIGNATURE_INVALID
    RUNTIME_AUTH_MANIFEST_OWNER_LMS_SIGNATURE_INVALID

/-- `verify_vendor_image_metadata_col`: skipped unless the flags require the vendor's
signature. -/
def verify_vendor_image_metadata_col (drivers : Drivers n)
    (auth_manifest_preamble : AuthManifestPreamble) (image_metadata_col_digest : ImageDigest) :
    CaliptraResult Unit :=
  if auth_manifest_preamble.flags &&& VENDOR_SIGNATURE_REQUIRED = 0 then .ok ()
  else
    verify_signatures drivers image_metadata_col_digest
      (some auth_manifest_preamble.vendor_pub_keys.ecc_pub_key)
      (some auth_manifest_preamble.vendor_pub_keys.lms_pub_key)
      auth_manifest_preamble.vendor_image_metdata_signatures
      RUNTIME_AUTH_MANIFEST_VENDOR_ECC_SIGNATURE_INVALID
      RUNTIME_AUTH_MANIFEST_VENDOR_LMS_SIGNATURE_INVALID

def verify_owner_image_metadata_col (drivers : Drivers n)
    (auth_manifest_preamble : AuthManifestPreamble) (image_metadata_col_digest : ImageDigest) :
    CaliptraResult Unit :=
  verify_signatures drivers image_metadata_col_digest
    (some auth_manifest_preamble.owner_pub_keys.ecc_pub_key)
    (some auth_manifest_preamble.owner_pub_keys.lms_pub_key)
    auth_manifest_preamble.owner_image_metdata_signatures
    RUNTIME_AUTH_MANIFEST_OWNER_ECC_SIGNATURE_INVALID
    RUNTIME_AUTH_MANIFEST_OWNER_LMS_SIGNATURE_INVALID

/-- `process_image_metadata_col`. The mailbox buffer is read as a collection in place; the sort
rewrites its first `entry_count` entries, and the buffer is copied over the cleared collection
after the last check. -/
def process_image_metadata_col (drivers : Drivers n) (cmd_buf : List UInt8)
    (auth_manifest_preamble : AuthManifestPreamble) : RtM n Unit := do
  EStateM.failIf (cmd_buf.length < 4) RUNTIME_AUTH_MANIFEST_IMAGE_METADATA_LIST_INVALID_SIZE
  let metadata_size := min cmd_buf.length AuthManifestImageMetadataCollection.codec.size
  let buf := cmd_buf.take metadata_size
  let metadata_mailbox := AuthManifestImageMetadataCollection.codec.decode buf
  let entry_count := metadata_mailbox.entry_count.toNat
  EStateM.failIf (entry_count = 0 ∨ entry_count > AUTH_MANIFEST_IMAGE_METADATA_MAX_COUNT)
    RUNTIME_AUTH_MANIFEST_IMAGE_METADATA_LIST_INVALID_ENTRY_COUNT
  EStateM.failIf (buf.length < 4 + entry_count * AuthManifestImageMetadata.codec.size)
    RUNTIME_AUTH_MANIFEST_IMAGE_METADATA_LIST_INVALID_SIZE
  let digest_metadata_col ← EStateM.ofExcept (sha384_digest drivers buf 0 metadata_size.toUInt32)
  EStateM.ofExcept
    (verify_vendor_image_metadata_col drivers auth_manifest_preamble digest_metadata_col)
  EStateM.ofExcept
    (verify_owner_image_metadata_col drivers auth_manifest_preamble digest_metadata_col)
  let slice ← EStateM.ofExcept
    (sort_and_check_duplicate_fwid (metadata_mailbox.image_metadata_list.toList.take entry_count))
  let buf := buf.take 4 ++ slice.flatMap AuthManifestImageMetadata.codec.encode ++
    buf.drop (4 + entry_count * AuthManifestImageMetadata.codec.size)
  modify fun pd => { pd with auth_manifest_image_metadata_col := .zeroize }
  modify fun pd => { pd with
    auth_manifest_image_metadata_col := pd.auth_manifest_image_metadata_col.copy_from_slice buf }

/-- `SetAuthManifestCmd::execute`. The request is the header word, `manifest_size` and the
manifest; the manifest's preamble is read in place from its first bytes. -/
def execute (drivers : Drivers n) (cmd_args : List UInt8) : RtM n MailboxResp := do
  let err := RUNTIME_MAILBOX_INVALID_PARAMS
  EStateM.failIf (cmd_args.length < 8) err
  let manifest_size := (Codec.u32le.decode (cmd_args.drop 4)).toNat
  EStateM.failIf (manifest_size > MAX_MAN_SIZE) err
  EStateM.failIf (cmd_args.length < 8 + manifest_size) err
  let manifest_buf := (cmd_args.drop 8).take manifest_size
  let preamble_size := AuthManifestPreamble.codec.size
  EStateM.failIf (manifest_buf.length < preamble_size) RUNTIME_AUTH_MANIFEST_PREAMBLE_SIZE_LT_MIN
  let preamble_bytes := manifest_buf.take preamble_size
  let auth_manifest_preamble := AuthManifestPreamble.codec.decode preamble_bytes
  EStateM.failIf (auth_manifest_preamble.marker ≠ AUTH_MANIFEST_MARKER)
    RUNTIME_INVALID_AUTH_MANIFEST_MARKER
  EStateM.failIf (auth_manifest_preamble.size.toNat ≠ preamble_size)
    RUNTIME_AUTH_MANIFEST_PREAMBLE_SIZE_MISMATCH
  let persistent_data ← get
  EStateM.ofExcept (verify_vendor_signed_data drivers preamble_bytes auth_manifest_preamble
    persistent_data.manifest1.preamble)
  EStateM.ofExcept (verify_owner_pub_keys drivers preamble_bytes auth_manifest_preamble
    persistent_data.manifest1.preamble)
  process_image_metadata_col drivers (manifest_buf.drop preamble_size) auth_manifest_preamble
  pure .default

/-! ## The signature checks -/

/-- A signature pair over `digest` that `verify_signatures` accepts: the ECC engine returns the
signature's `r`, and, when the fuses ask for LMS, the LMS candidate key is the key's digest. -/
structure SignaturesVerified (drivers : Drivers n) (digest : ImageDigest)
    (ecc_key : ImageEccPubKey) (lms_key : ImageLmsPublicKey) (sigs : AuthManifestSignatures) :
    Prop where
  ecc : ecc384_verify drivers digest ecc_key sigs.ecc_sig = .ok sigs.ecc_sig.r
  lms : drivers.lms_verify_enabled = true →
    lms_verify drivers digest lms_key sigs.lms_sig = .ok (HashValue.ofLe lms_key.digest)

theorem sha384_digest_eq_ok {drivers : Drivers n} {buf : List UInt8} {offset len : UInt32}
    {d : ImageDigest} (H : sha384_digest drivers buf offset len = .ok d) :
    drivers.sha384 ((buf.drop offset.toNat).take len.toNat) = .ok d := by
  unfold sha384_digest at H
  dsimp only at H
  split at H
  · split at H
    · exact H
    · cases H
  · cases H

theorem verify_signatures_eq_ok {drivers : Drivers n} {digest : ImageDigest}
    {ecc_key : ImageEccPubKey} {lms_key : ImageLmsPublicKey} {sigs : AuthManifestSignatures}
    {ecc_err lms_err : CaliptraError} :
    verify_signatures drivers digest (some ecc_key) (some lms_key) sigs ecc_err lms_err = .ok () ↔
      SignaturesVerified drivers digest ecc_key lms_key sigs := by
  unfold verify_signatures
  cases hlms : drivers.lms_verify_enabled
  · simp [Except.bind_eq_ok]
    exact ⟨fun h => ⟨h, by simp [hlms]⟩, fun h => h.ecc⟩
  · simp [Except.bind_eq_ok]
    exact ⟨fun h => ⟨h.1, fun _ => h.2⟩, fun h => ⟨h.ecc, h.lms hlms⟩⟩

/-- The vendor's signature over the metadata is checked exactly when the flags require it. -/
theorem verify_vendor_image_metadata_col_eq_ok {drivers : Drivers n} {p : AuthManifestPreamble}
    {digest : ImageDigest} (H : verify_vendor_image_metadata_col drivers p digest = .ok ())
    (hflag : p.flags &&& VENDOR_SIGNATURE_REQUIRED ≠ 0) :
    SignaturesVerified drivers digest p.vendor_pub_keys.ecc_pub_key p.vendor_pub_keys.lms_pub_key
      p.vendor_image_metdata_signatures := by
  rw [verify_vendor_image_metadata_col, if_neg hflag] at H
  exact verify_signatures_eq_ok.mp H

theorem verify_owner_image_metadata_col_eq_ok {drivers : Drivers n} {p : AuthManifestPreamble}
    {digest : ImageDigest} (H : verify_owner_image_metadata_col drivers p digest = .ok ()) :
    SignaturesVerified drivers digest p.owner_pub_keys.ecc_pub_key p.owner_pub_keys.lms_pub_key
      p.owner_image_metdata_signatures :=
  verify_signatures_eq_ok.mp H

/-- `verify_signatures` with keys that may be missing: the ECC key is there and its signature
verifies, and, when the fuses ask for LMS, so are the LMS key and its signature. -/
theorem verify_signatures_keys_eq_ok {drivers : Drivers n} {digest : ImageDigest}
    {ecc_key : Option ImageEccPubKey} {lms_key : Option ImageLmsPublicKey}
    {sigs : AuthManifestSignatures} {ecc_err lms_err : CaliptraError}
    (H : verify_signatures drivers digest ecc_key lms_key sigs ecc_err lms_err = .ok ()) :
    ∃ ecc, ecc_key = some ecc ∧ ecc384_verify drivers digest ecc sigs.ecc_sig = .ok sigs.ecc_sig.r ∧
      (drivers.lms_verify_enabled = true → ∃ lms, lms_key = some lms ∧
        lms_verify drivers digest lms sigs.lms_sig = .ok (HashValue.ofLe lms.digest)) := by
  unfold verify_signatures at H
  cases ecc_key with
  | none => cases H
  | some ecc =>
    refine ⟨ecc, rfl, ?_⟩
    cases hlms : drivers.lms_verify_enabled
    · simp [hlms, Except.bind_eq_ok] at H
      exact ⟨H, nofun⟩
    · cases lms_key with
      | none => simp [hlms, Except.bind_eq_ok] at H
      | some lms =>
        simp [hlms, Except.bind_eq_ok] at H
        exact ⟨H.1, fun _ => ⟨lms, rfl, H.2⟩⟩

/-- What the two checks of the preamble bytes establish with the keys of the firmware's preamble
`fw`: the preamble's vendor-signed data carries a signature by the vendor keys at the indices
`fw` names, and its owner keys carry one by `fw`'s owner keys. -/
structure PreambleSigned (drivers : Drivers n) (preamble_bytes : List UInt8)
    (p : AuthManifestPreamble) (fw : ImagePreamble) : Prop where
  vendor : ∃ digest, drivers.sha384 ((preamble_bytes.drop
      AuthManifestPreamble.vendor_signed_data_range.start.toNat).take
        AuthManifestPreamble.vendor_signed_data_range.len.toNat) = .ok digest ∧
    ∃ ecc, fw.vendor_pub_keys.ecc_pub_keys[fw.vendor_ecc_pub_key_idx.toNat]? = some ecc ∧
      ecc384_verify drivers digest ecc p.vendor_pub_keys_signatures.ecc_sig =
        .ok p.vendor_pub_keys_signatures.ecc_sig.r ∧
      (drivers.lms_verify_enabled = true →
        ∃ lms, fw.vendor_pub_keys.lms_pub_keys[fw.vendor_lms_pub_key_idx.toNat]? = some lms ∧
          lms_verify drivers digest lms p.vendor_pub_keys_signatures.lms_sig =
            .ok (HashValue.ofLe lms.digest))
  owner : ∃ digest, drivers.sha384 ((preamble_bytes.drop
      AuthManifestPreamble.owner_pub_keys_range.start.toNat).take
        AuthManifestPreamble.owner_pub_keys_range.len.toNat) = .ok digest ∧
    SignaturesVerified drivers digest fw.owner_pub_keys.ecc_pub_key fw.owner_pub_keys.lms_pub_key
      p.owner_pub_keys_signatures

theorem preambleSigned_of_eq_ok {drivers : Drivers n} {preamble_bytes : List UInt8}
    {p : AuthManifestPreamble} {fw : ImagePreamble}
    (hvendor : verify_vendor_signed_data drivers preamble_bytes p fw = .ok ())
    (howner : verify_owner_pub_keys drivers preamble_bytes p fw = .ok ()) :
    PreambleSigned drivers preamble_bytes p fw := by
  unfold verify_vendor_signed_data at hvendor
  unfold verify_owner_pub_keys at howner
  obtain ⟨dv, hdv, hv⟩ := Except.bind_eq_ok.mp hvendor
  obtain ⟨dow, hdo, ho⟩ := Except.bind_eq_ok.mp howner
  exact ⟨⟨dv, sha384_digest_eq_ok hdv, verify_signatures_keys_eq_ok hv⟩,
    ⟨dow, sha384_digest_eq_ok hdo, verify_signatures_eq_ok.mp ho⟩⟩

/-! ## Storing the collection -/

/-- What the stored collection `col` is after `process_image_metadata_col` accepted the metadata
bytes `buf` of a request under the preamble `p`: its first `entry_count` entries are the
request's, sorted, and the digest of `buf` carries the owner's signature and, when the flags ask
for it, the vendor's. -/
structure MetadataStored (drivers : Drivers n) (p : AuthManifestPreamble) (buf : List UInt8)
    (col : AuthManifestImageMetadataCollection) : Prop where
  entry_count_eq : col.entry_count = (AuthManifestImageMetadataCollection.codec.decode buf).entry_count
  entry_count_pos : 0 < col.entry_count.toNat
  entry_count_le : col.entry_count.toNat ≤ AUTH_MANIFEST_IMAGE_METADATA_MAX_COUNT
  perm : (col.image_metadata_list.toList.take col.entry_count.toNat).Perm
    ((AuthManifestImageMetadataCollection.codec.decode buf).image_metadata_list.toList.take
      col.entry_count.toNat)
  sorted : FwIdSorted (col.image_metadata_list.toList.take col.entry_count.toNat)
  signed : ∃ digest, drivers.sha384 buf = .ok digest ∧
    SignaturesVerified drivers digest p.owner_pub_keys.ecc_pub_key p.owner_pub_keys.lms_pub_key
      p.owner_image_metdata_signatures ∧
    (p.flags &&& VENDOR_SIGNATURE_REQUIRED ≠ 0 →
      SignaturesVerified drivers digest p.vendor_pub_keys.ecc_pub_key p.vendor_pub_keys.lms_pub_key
        p.vendor_image_metdata_signatures)

/-- Every failure of `process_image_metadata_col` comes before its first write. -/
theorem process_image_metadata_col_eq_error {drivers : Drivers n} {cmd_buf : List UInt8}
    {p : AuthManifestPreamble} {s s' : Runtime.PersistentData n} {e : CaliptraError}
    (H : (process_image_metadata_col drivers cmd_buf p).run s = .error e s') : s' = s := by
  simp only [process_image_metadata_col, EStateM.bind_eq_error, EStateM.failIf_eq_error,
    EStateM.failIf_eq_ok, EStateM.ofExcept_eq_error, EStateM.ofExcept_eq_ok,
    EStateM.run_modify] at H
  grind

theorem process_image_metadata_col_eq_ok {drivers : Drivers n} {cmd_buf : List UInt8}
    {p : AuthManifestPreamble} {s s' : Runtime.PersistentData n} {u : PUnit}
    (H : (process_image_metadata_col drivers cmd_buf p).run s = .ok u s') :
    MetadataStored drivers p (cmd_buf.take (min cmd_buf.length
        AuthManifestImageMetadataCollection.codec.size)) s'.auth_manifest_image_metadata_col ∧
      s' = { s with auth_manifest_image_metadata_col := s'.auth_manifest_image_metadata_col } := by
  simp only [process_image_metadata_col, EStateM.bind_eq_ok, EStateM.failIf_eq_ok,
    EStateM.ofExcept_eq_ok, EStateM.run_modify, EStateM.Result.ok.injEq] at H
  set buf := cmd_buf.take (min cmd_buf.length AuthManifestImageMetadataCollection.codec.size)
    with hbuf
  set k := (AuthManifestImageMetadataCollection.codec.decode buf).entry_count.toNat with hk
  obtain ⟨-, _, ⟨hlen, rfl⟩, -, _, ⟨hcount, rfl⟩, -, _, ⟨hsize, rfl⟩, digest, _, ⟨hdigest, rfl⟩,
    ⟨⟩, _, ⟨hvendor, rfl⟩, ⟨⟩, _, ⟨howner, rfl⟩, slice, _, ⟨hsort, rfl⟩, -, _, ⟨-, rfl⟩, -, rfl⟩ := H
  refine ⟨?_, rfl⟩
  dsimp only
  have hbuf_len : buf.length = min cmd_buf.length AuthManifestImageMetadataCollection.codec.size := by
    simp [hbuf]
  -- the sorted entries are the request's first `k`, and the stored collection begins with them
  obtain ⟨hperm, hsorted⟩ := sort_and_check_duplicate_fwid_sorted hsort
  have hslice_len : slice.length = k := by rw [hperm.length_eq]; simp; omega
  have hhd : (buf.take 4).length = 4 := by simp; omega
  obtain ⟨hcount_eq, htake⟩ := @AuthManifestImageMetadataCollection.copy_from_slice_entries .zeroize
    (buf.take 4) (buf.drop (4 + k * AuthManifestImageMetadata.codec.size)) slice hhd (by omega)
  have hreq_count : (AuthManifestImageMetadataCollection.codec.decode buf).entry_count =
      Codec.u32le.decode (buf.take 4) := by
    conv_lhs => rw [← List.take_append_drop 4 buf]
    exact AuthManifestImageMetadataCollection.entry_count_decode_append hhd
  set col := AuthManifestImageMetadataCollection.zeroize.copy_from_slice (buf.take 4 ++
    slice.flatMap AuthManifestImageMetadata.codec.encode ++
    buf.drop (4 + k * AuthManifestImageMetadata.codec.size))
  have hcol_k : col.entry_count.toNat = k := by rw [hcount_eq, ← hreq_count]
  have hcol_take : col.image_metadata_list.toList.take k = slice := by
    rw [← hslice_len]
    exact htake
  refine ⟨by rw [hcount_eq, hreq_count], by omega, by omega, by rw [hcol_k, hcol_take]; exact hperm,
    by rw [hcol_k, hcol_take]; exact hsorted, ?_⟩
  -- the digest is of the whole metadata buffer
  have hdig := sha384_digest_eq_ok hdigest
  have hm : (min cmd_buf.length AuthManifestImageMetadataCollection.codec.size).toUInt32.toNat =
      buf.length := by
    have hsz := AuthManifestImageMetadataCollection.codec_size
    simp only [Nat.toUInt32_eq, UInt32.toNat_ofNat', hbuf_len]
    omega
  rw [UInt32.toNat_zero, List.drop_zero, hm, List.take_length] at hdig
  exact ⟨digest, hdig, verify_owner_image_metadata_col_eq_ok howner,
    verify_vendor_image_metadata_col_eq_ok hvendor⟩

/-! ## The command -/

/-- A request that fails leaves the persistent data as it was. -/
theorem execute_eq_error {drivers : Drivers n} {cmd_args : List UInt8} {s s' : Runtime.PersistentData n}
    {e : CaliptraError} (H : (execute drivers cmd_args).run s = .error e s') : s' = s := by
  simp only [execute, EStateM.bind_eq_error, EStateM.failIf_eq_error, EStateM.failIf_eq_ok,
    EStateM.ofExcept_eq_error, EStateM.ofExcept_eq_ok, EStateM.run_get, EStateM.run_pure,
    EStateM.Result.ok.injEq, reduceCtorEq] at H
  grind [process_image_metadata_col_eq_error]

theorem execute_eq_ok {drivers : Drivers n} {cmd_args : List UInt8} {s s' : Runtime.PersistentData n}
    {r : MailboxResp} (H : (execute drivers cmd_args).run s = .ok r s') :
    let manifest_buf := (cmd_args.drop 8).take (Codec.u32le.decode (cmd_args.drop 4)).toNat
    let cmd_buf := manifest_buf.drop AuthManifestPreamble.codec.size
    MetadataStored drivers
        (AuthManifestPreamble.codec.decode (manifest_buf.take AuthManifestPreamble.codec.size))
        (cmd_buf.take (min cmd_buf.length AuthManifestImageMetadataCollection.codec.size))
        s'.auth_manifest_image_metadata_col ∧
      s' = { s with auth_manifest_image_metadata_col := s'.auth_manifest_image_metadata_col } ∧
      PreambleSigned drivers (manifest_buf.take AuthManifestPreamble.codec.size)
        (AuthManifestPreamble.codec.decode (manifest_buf.take AuthManifestPreamble.codec.size))
        s.manifest1.preamble := by
  simp only [execute, EStateM.bind_eq_ok, EStateM.failIf_eq_ok, EStateM.ofExcept_eq_ok,
    EStateM.run_get, EStateM.run_pure, EStateM.Result.ok.injEq] at H
  obtain ⟨⟨⟩, _, ⟨-, rfl⟩, ⟨⟩, _, ⟨-, rfl⟩, ⟨⟩, _, ⟨-, rfl⟩, ⟨⟩, _, ⟨-, rfl⟩, ⟨⟩, _, ⟨-, rfl⟩,
    ⟨⟩, _, ⟨-, rfl⟩, _, _, ⟨rfl, rfl⟩, ⟨⟩, _, ⟨hvendor, rfl⟩, ⟨⟩, _, ⟨howner, rfl⟩, ⟨⟩, _, hproc,
    -, rfl⟩ := H
  obtain ⟨hstored, hframe⟩ := process_image_metadata_col_eq_ok hproc
  exact ⟨hstored, hframe, preambleSigned_of_eq_ok hvendor howner⟩

theorem execute_atomic (drivers : Drivers n) (cmd_args : List UInt8) (pd : Runtime.PersistentData n) :
    (∀ e pd', (execute drivers cmd_args).run pd = .error e pd' →
      pd'.auth_manifest_image_metadata_col = pd.auth_manifest_image_metadata_col) ∧
    (∀ r pd', (execute drivers cmd_args).run pd = .ok r pd' →
      let manifest_buf := (cmd_args.drop 8).take (Codec.u32le.decode (cmd_args.drop 4)).toNat
      let cmd_buf := manifest_buf.drop AuthManifestPreamble.codec.size
      MetadataStored drivers
        (AuthManifestPreamble.codec.decode (manifest_buf.take AuthManifestPreamble.codec.size))
        (cmd_buf.take (min cmd_buf.length AuthManifestImageMetadataCollection.codec.size))
        pd'.auth_manifest_image_metadata_col) := by
  refine ⟨fun e pd' H => ?_, fun r pd' H => (execute_eq_ok H).1⟩
  rw [execute_eq_error H]

end SetAuthManifestCmd

end Caliptra
