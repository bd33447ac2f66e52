import Caliptra.Rom.Env
import Caliptra.Image.VerifierSpec
import Caliptra.Image.Guarantees

/-!
# Loading the firmware at cold reset (`rom/dev/src/flow/cold_reset/fw_processor.rs`)

`FirmwareProcessor::process` from the moment the mailbox holds a `FIRMWARE_LOAD` request: the
request's size check, `load_manifest` (the first 5884 bytes of the FIFO, copied over
`manifest1`), `verify_image` over the whole mailbox SRAM, `populate_data_vault`,
`extend_pcrs`, `load_image` (the FIFO's next `fmc.size / 4` words to `fmc.load_addr`, then
`runtime.size / 4` words to `runtime.load_addr`) and `complete`. The commands the ROM serves
before the firmware arrives, the fuse log and the version registers are not modelled.

The verifier and the loader read the request differently: the verifier hashes the SRAM at the
offsets of the TOC, the loader consumes the FIFO in order. `process_eq_ok` says what a
successful run does; `process_iccm` reads from it which bytes end up in the ICCM: the FIFO's,
wherever the TOC places its sections. They are the sections the verifier hashed exactly when
the bundle is laid out contiguously in whole words (`process_iccm_of_contiguous`).
-/

namespace Caliptra

open CaliptraError ImageVerifier

namespace FirmwareProcessor

def RESERVED_PAUSER : UInt32 := 0xFFFFFFFF

/-- `FwProcInfo`, without the certificate validity dates (read from header fields the model
leaves out). -/
structure FwProcInfo where
  fmc_effective_fuse_svn : UInt32
  owner_pub_keys_digest_in_fuses : Bool
  deriving DecidableEq

/-- `load_manifest`: the request's first bytes copied over `manifest1`. -/
def load_manifest (persistent_data : PersistentData) (txn : MailboxRecvTxn) :
    CaliptraResult (ImageManifest × PersistentData × MailboxRecvTxn) := do
  let (manifest1, txn) ← txn.copy_request_into persistent_data.manifest1
  return (ImageManifest.codec.decode manifest1.toList, { persistent_data with manifest1 }, txn)

def verify_image (venv : FirmwareImageVerificationEnv) (manifest : ImageManifest)
    (img_bundle_sz : UInt32) : Checked CaliptraError ImageVerificationInfo :=
  verify venv.env manifest img_bundle_sz .ColdReset

/-- `populate_data_vault`. An image verified without LMS leaves `u32::MAX` as its LMS index. -/
def populate_data_vault (data_vault : DataVault) (info : ImageVerificationInfo) : DataVault :=
  { data_vault with
    fmc_tci := info.fmc.digest
    fmc_svn := info.fmc.svn
    fmc_entry_point := info.fmc.entry_point
    owner_pk_hash := info.owner_pub_keys_digest
    ecc_vendor_pk_index := info.vendor_ecc_pub_key_idx
    lms_vendor_pk_index := info.vendor_lms_pub_key_idx.getD 0xFFFFFFFF
    rt_tci := info.runtime.digest
    rt_svn := info.runtime.svn
    rt_entry_point := info.runtime.entry_point }

/-- `load_image`: the FMC and then the runtime, each `size / 4` words from the FIFO. -/
def load_image (manifest : ImageManifest) (txn : MailboxRecvTxn) (iccm : Memory) :
    CaliptraResult (Memory × MailboxRecvTxn) := do
  let (iccm, txn) ← txn.copy_request_words iccm manifest.fmc.load_addr.toNat
    (manifest.fmc.size.toNat / 4)
  txn.copy_request_words iccm manifest.runtime.load_addr.toNat (manifest.runtime.size.toNat / 4)

/-- `process`, from the receipt of the `FIRMWARE_LOAD` command. -/
def process (env : RomEnv) : Checked CaliptraError (FwProcInfo × RomEnv) := do
  Checked.failIf (env.mbox.user = RESERVED_PAUSER) FW_PROC_MAILBOX_RESERVED_PAUSER
  let txn : MailboxRecvTxn := ⟨.Execute, env.mbox⟩
  Checked.failIf (txn.dlen = 0 ∨ txn.dlen.toNat > IMAGE_BYTE_SIZE) FW_PROC_INVALID_IMAGE_SIZE
  let (manifest, persistent_data, txn) ← Checked.ofExcept (load_manifest env.persistent_data txn)
  let info ← verify_image (env.venv txn) manifest txn.dlen
  let data_vault := populate_data_vault env.data_vault info
  Checked.ofExcept (env.extend_pcrs info)
  let (iccm, txn) ← Checked.ofExcept (load_image manifest txn env.iccm)
  let txn ← Checked.ofExcept (txn.complete true)
  return (⟨info.fmc.effective_fuse_svn, info.owner_pub_keys_digest_in_fuses⟩,
    { env with mbox := txn.mbox, data_vault, persistent_data, iccm })

/-! ## The stages -/

theorem load_manifest_eq_ok {pd pd' : PersistentData} {txn txn' : MailboxRecvTxn}
    {manifest : ImageManifest} (H : load_manifest pd txn = .ok (manifest, pd', txn')) :
    txn.state = .Execute ∧ txn.mbox.uncorrectable_ecc = false ∧
      manifest = ImageManifest.codec.decode pd'.manifest1.toList ∧
      pd'.manifest1.toList = (fifo.dequeue txn.mbox pd.manifest1.toList).1 ∧
      pd'.manifest2 = pd.manifest2 ∧
      txn' = { txn with mbox := (fifo.dequeue txn.mbox pd.manifest1.toList).2 } := by
  simp only [load_manifest, bind, Except.bind] at H
  split at H
  · cases H
  · next r hr =>
    obtain ⟨v, t⟩ := r
    cases H
    obtain ⟨hst, hecc, hres⟩ :=
      MailboxRecvTxn.copy_request_eq_ok.mp (MailboxRecvTxn.copy_request_into_eq_ok.mp hr)
    simp only [Prod.mk.injEq] at hres
    exact ⟨hst, hecc, rfl, hres.1, rfl, hres.2⟩

/-- The manifest is the reinterpretation of the request's first 5884 bytes, when the request
holds that many. -/
theorem load_manifest_of_le {pd pd' : PersistentData} {txn txn' : MailboxRecvTxn}
    {manifest : ImageManifest} (H : load_manifest pd txn = .ok (manifest, pd', txn'))
    (h : txn.mbox.read_index + IMAGE_MANIFEST_BYTE_SIZE ≤ txn.mbox.latched_dlen) :
    manifest = ImageManifest.codec.decode
        ((txn.mbox.ram.drop txn.mbox.read_index).take IMAGE_MANIFEST_BYTE_SIZE) ∧
      pd'.manifest1.toList =
        (txn.mbox.ram.drop txn.mbox.read_index).take IMAGE_MANIFEST_BYTE_SIZE ∧
      pd'.manifest2 = pd.manifest2 ∧
      txn' = { txn with mbox := txn.mbox.advance IMAGE_MANIFEST_BYTE_SIZE } := by
  obtain ⟨-, -, rfl, h1, h2, rfl⟩ := load_manifest_eq_ok H
  have hdq := @fifo.dequeue_of_le txn.mbox pd.manifest1.toList (by simp; rfl)
    (by simpa using h)
  simp only [Vector.length_toList] at hdq
  rw [hdq] at h1 ⊢
  exact ⟨by rw [h1], h1, h2, rfl⟩

/-- `load_image` of two sections that the FIFO holds. -/
theorem load_image_of_le {manifest : ImageManifest} {txn : MailboxRecvTxn} {iccm : Memory}
    (hst : txn.state = .Execute) (hecc : txn.mbox.uncorrectable_ecc = false)
    (h : txn.mbox.read_index + 4 * (manifest.fmc.size.toNat / 4) +
      4 * (manifest.runtime.size.toNat / 4) ≤ txn.mbox.latched_dlen) :
    load_image manifest txn iccm = .ok
      ((iccm.write manifest.fmc.load_addr.toNat
          ((txn.mbox.ram.drop txn.mbox.read_index).take (4 * (manifest.fmc.size.toNat / 4)))).write
        manifest.runtime.load_addr.toNat
          ((txn.mbox.ram.drop (txn.mbox.read_index + 4 * (manifest.fmc.size.toNat / 4))).take
            (4 * (manifest.runtime.size.toNat / 4))),
        { txn with mbox := txn.mbox.advance (4 * (manifest.fmc.size.toNat / 4) +
          4 * (manifest.runtime.size.toNat / 4)) }) := by
  rw [load_image, MailboxRecvTxn.copy_request_words_of_le hst hecc (by omega)]
  simp only [bind, Except.bind]
  -- the runtime is copied by the transaction the FMC copy left behind
  rw [@MailboxRecvTxn.copy_request_words_of_le
    ⟨txn.state, txn.mbox.advance (4 * (manifest.fmc.size.toNat / 4))⟩ _ _ _ hst hecc
    (by simp only [Mbox.advance_read_index, Mbox.latched_dlen_advance]; omega)]
  simp [Mbox.advance_advance]

/-! ## A whole run -/

/-- The memory after the FMC and then the runtime are copied from the FIFO in order, from the
end of the manifest on: each section is `size / 4` words. -/
def sequential_load (iccm : Memory) (ram : List UInt8) (manifest : ImageManifest) : Memory :=
  let fmc_len := 4 * (manifest.fmc.size.toNat / 4)
  let runtime_len := 4 * (manifest.runtime.size.toNat / 4)
  (iccm.write manifest.fmc.load_addr.toNat ((ram.drop IMAGE_MANIFEST_BYTE_SIZE).take fmc_len)).write
    manifest.runtime.load_addr.toNat ((ram.drop (IMAGE_MANIFEST_BYTE_SIZE + fmc_len)).take runtime_len)

/-- What a successful firmware load does, for a request read from the start of the FIFO: the
manifest is the request's first 5884 bytes, the verifier accepts it over the SRAM, and the
sections are loaded from the FIFO in order; the request is consumed up to the runtime's end. -/
theorem process_eq_ok {env : RomEnv} {pi : FwProcInfo} {env' : RomEnv}
    (h0 : env.mbox.read_index = 0) (H : process env = .ok (pi, env')) :
    let manifest := ImageManifest.codec.decode (env.mbox.ram.take IMAGE_MANIFEST_BYTE_SIZE)
    env.mbox.user ≠ RESERVED_PAUSER ∧ env.mbox.uncorrectable_ecc = false ∧
    env.mbox.dlen.toNat ≤ IMAGE_BYTE_SIZE ∧
    ∃ info pd, verify (env.venv ⟨.Execute, env.mbox⟩).env manifest env.mbox.dlen .ColdReset =
        .ok info ∧ env.extend_pcrs info = .ok () ∧
      pd.manifest1.toList = env.mbox.ram.take IMAGE_MANIFEST_BYTE_SIZE ∧
      pd.manifest2 = env.persistent_data.manifest2 ∧
      pi = ⟨info.fmc.effective_fuse_svn, info.owner_pub_keys_digest_in_fuses⟩ ∧
      env' = { env with
        mbox := env.mbox.advance (IMAGE_MANIFEST_BYTE_SIZE + 4 * (manifest.fmc.size.toNat / 4) +
          4 * (manifest.runtime.size.toNat / 4))
        data_vault := populate_data_vault env.data_vault info
        persistent_data := pd
        iccm := sequential_load env.iccm env.mbox.ram manifest } := by
  intro manifest0
  simp only [process, Checked.bind_eq_ok, Checked.failIf_eq_ok, exists_const,
    Checked.ofExcept_eq_ok, Checked.pure_eq_ok] at H
  obtain ⟨huser, hdlen, ⟨manifest, pd, txn1⟩, hload, info, hv, ⟨⟩, hpcr, ⟨iccm, txn2⟩, hli, txn3,
    hcomp, hres⟩ := H
  dsimp only at hv hli hres
  simp only [MailboxRecvTxn.dlen, not_or, gt_iff_lt, not_lt] at hdlen
  obtain ⟨hst, hecc, hm, -, -, htxn1⟩ := load_manifest_eq_ok hload
  -- the verifier reads the SRAM, which the manifest copy left as it was
  obtain ⟨k, hk⟩ := fifo.dequeue_snd env.mbox env.persistent_data.manifest1.toList
  rw [htxn1, hk, RomEnv.venv_advance] at hv
  have hver := verify_ok hv
  -- the request holds the whole bundle, and the FIFO all of the request
  have hfits := hver.toc.fits_bundle
  rw [hver.size_eq] at hfits
  simp only [MailboxRecvTxn.dlen, Mbox.advance_dlen] at hfits
  have hlatched : env.mbox.latched_dlen = env.mbox.dlen.toNat :=
    Mbox.latched_dlen_of_le (by rw [show MBOX_SIZE.toNat = IMAGE_BYTE_SIZE from rfl]; omega)
  obtain ⟨hmanifest, hpd1, hpd2, htxn1'⟩ :=
    load_manifest_of_le hload (by simp only [h0, hlatched]; omega)
  simp only [h0, List.drop_zero] at hmanifest hpd1 htxn1'
  have hmanifest0 : manifest = manifest0 := hmanifest
  subst hmanifest0 htxn1'
  have hst1 : (⟨.Execute, env.mbox.advance IMAGE_MANIFEST_BYTE_SIZE⟩ : MailboxRecvTxn).state =
    .Execute := rfl
  rw [load_image_of_le hst1 hecc (by simp only [Mbox.advance_read_index, h0,
    Mbox.latched_dlen_advance, hlatched]; omega)] at hli
  obtain ⟨rfl, rfl⟩ := Prod.mk.inj (Except.ok.inj hli)
  dsimp only at hcomp
  rw [MailboxRecvTxn.complete_of_execute rfl] at hcomp
  cases hcomp
  obtain ⟨rfl, rfl⟩ := Prod.mk.inj (Except.ok.inj hres)
  refine ⟨huser, hecc, hdlen.2, info, pd, hv, hpcr, hpd1, hpd2, rfl, ?_⟩
  simp only [Mbox.advance_read_index, h0, Nat.zero_add, Mbox.advance_ram, Mbox.advance_advance,
    sequential_load, Nat.add_assoc]

/-- A manifest read from the start of the FIFO, verified over the SRAM, is loaded. -/
theorem process_of_verify {env : RomEnv} {info : ImageVerificationInfo}
    (h0 : env.mbox.read_index = 0) (huser : env.mbox.user ≠ RESERVED_PAUSER)
    (hecc : env.mbox.uncorrectable_ecc = false) (hdlen : env.mbox.dlen.toNat ≤ IMAGE_BYTE_SIZE)
    (hv : verify (env.venv ⟨.Execute, env.mbox⟩).env
      (ImageManifest.codec.decode (env.mbox.ram.take IMAGE_MANIFEST_BYTE_SIZE)) env.mbox.dlen
      .ColdReset = .ok info)
    (hpcr : env.extend_pcrs info = .ok ()) :
    let manifest := ImageManifest.codec.decode (env.mbox.ram.take IMAGE_MANIFEST_BYTE_SIZE)
    ∃ pd, process env = .ok (⟨info.fmc.effective_fuse_svn, info.owner_pub_keys_digest_in_fuses⟩,
      { env with
        mbox := env.mbox.advance (IMAGE_MANIFEST_BYTE_SIZE + 4 * (manifest.fmc.size.toNat / 4) +
          4 * (manifest.runtime.size.toNat / 4))
        data_vault := populate_data_vault env.data_vault info
        persistent_data := pd
        iccm := sequential_load env.iccm env.mbox.ram manifest }) := by
  intro manifest
  have hver := verify_ok hv
  have hfits : IMAGE_MANIFEST_BYTE_SIZE + manifest.fmc.size.toNat +
      manifest.runtime.size.toNat ≤ env.mbox.dlen.toNat := by
    have h := hver.toc.fits_bundle
    rwa [hver.size_eq] at h
  have hlatched : env.mbox.latched_dlen = env.mbox.dlen.toNat :=
    Mbox.latched_dlen_of_le (by rw [show MBOX_SIZE.toNat = IMAGE_BYTE_SIZE from rfl]; omega)
  -- the manifest copy, then the two sections
  obtain ⟨v, hcopy, hv1⟩ := @MailboxRecvTxn.copy_request_into_of_le _ ⟨.Execute, env.mbox⟩
    env.persistent_data.manifest1 rfl hecc rfl (by simp only [h0, hlatched]; omega)
  simp only [h0, List.drop_zero] at hv1
  have hload : load_manifest env.persistent_data ⟨.Execute, env.mbox⟩ =
      .ok (manifest, { env.persistent_data with manifest1 := v },
        ⟨.Execute, env.mbox.advance IMAGE_MANIFEST_BYTE_SIZE⟩) := by
    simp only [load_manifest, hcopy, bind, Except.bind, pure, Except.pure, hv1]
    rfl
  have hroom : (env.mbox.advance IMAGE_MANIFEST_BYTE_SIZE).read_index +
      4 * (manifest.fmc.size.toNat / 4) + 4 * (manifest.runtime.size.toNat / 4) ≤
      (env.mbox.advance IMAGE_MANIFEST_BYTE_SIZE).latched_dlen := by
    simp only [Mbox.advance_read_index, h0, Mbox.latched_dlen_advance, hlatched]
    omega
  have hli := @load_image_of_le manifest ⟨.Execute, env.mbox.advance IMAGE_MANIFEST_BYTE_SIZE⟩
    env.iccm rfl hecc hroom
  refine ⟨{ env.persistent_data with manifest1 := v }, ?_⟩
  have hdlen' : ¬(env.mbox.dlen = 0 ∨ env.mbox.dlen.toNat > IMAGE_BYTE_SIZE) := by
    have : env.mbox.dlen.toNat ≠ 0 := by
      rw [show IMAGE_MANIFEST_BYTE_SIZE = 5884 from rfl] at hfits
      omega
    simp only [not_or, gt_iff_lt, not_lt]
    exact ⟨fun h => this (by simp [h]), hdlen⟩
  have hv' : verify_image (env.venv ⟨.Execute, env.mbox.advance IMAGE_MANIFEST_BYTE_SIZE⟩)
    manifest env.mbox.dlen = .ok info := hv
  simp only [process, Checked.bind_eq_ok, Checked.failIf_eq_ok, exists_const,
    Checked.ofExcept_eq_ok, Checked.pure_eq_ok]
  refine ⟨huser, hdlen', _, hload, info, hv', (), hpcr, _, hli, _,
    MailboxRecvTxn.complete_of_execute rfl true, ?_⟩
  simp only [Mbox.advance_advance, Mbox.advance_read_index, Mbox.advance_ram, h0, Nat.zero_add,
    sequential_load, Nat.add_assoc]

/-- Which bytes a successful firmware load leaves at the two load addresses: the FIFO's, in
order after the manifest, `size / 4` words of each section, wherever the TOC says the sections
are. -/
theorem process_iccm {env : RomEnv} {pi : FwProcInfo} {env' : RomEnv}
    (h0 : env.mbox.read_index = 0) (H : process env = .ok (pi, env')) :
    let manifest := ImageManifest.codec.decode (env.mbox.ram.take IMAGE_MANIFEST_BYTE_SIZE)
    let fmc_len := 4 * (manifest.fmc.size.toNat / 4)
    let runtime_len := 4 * (manifest.runtime.size.toNat / 4)
    env'.iccm.read manifest.fmc.load_addr.toNat fmc_len =
        env.mbox.ram.extract IMAGE_MANIFEST_BYTE_SIZE (IMAGE_MANIFEST_BYTE_SIZE + fmc_len) ∧
      env'.iccm.read manifest.runtime.load_addr.toNat runtime_len =
        env.mbox.ram.extract (IMAGE_MANIFEST_BYTE_SIZE + fmc_len)
          (IMAGE_MANIFEST_BYTE_SIZE + fmc_len + runtime_len) := by
  obtain ⟨-, -, hdlen, info, pd, hv, -, -, -, -, rfl⟩ := process_eq_ok h0 H
  dsimp only
  -- name the decoded manifest: only its fields matter below
  generalize ImageManifest.codec.decode (env.mbox.ram.take IMAGE_MANIFEST_BYTE_SIZE) = manifest
    at hv ⊢
  have hver := verify_ok hv
  have hfits := hver.toc.fits_bundle
  rw [hver.size_eq] at hfits
  have hram : env.mbox.ram.length = IMAGE_BYTE_SIZE := env.mbox.ram_size
  -- each section the FIFO yields is whole: the bundle lies inside the SRAM
  have hf : ((env.mbox.ram.drop IMAGE_MANIFEST_BYTE_SIZE).take
      (4 * (manifest.fmc.size.toNat / 4))).length = 4 * (manifest.fmc.size.toNat / 4) := by
    simp only [List.length_take, List.length_drop, hram]
    omega
  have hr : ((env.mbox.ram.drop (IMAGE_MANIFEST_BYTE_SIZE + 4 * (manifest.fmc.size.toNat / 4))).take
      (4 * (manifest.runtime.size.toNat / 4))).length = 4 * (manifest.runtime.size.toNat / 4) := by
    simp only [List.length_take, List.length_drop, hram]
    omega
  -- the runtime is written where the FMC is not
  have hapart : manifest.fmc.load_addr.toNat + 4 * (manifest.fmc.size.toNat / 4) ≤
        manifest.runtime.load_addr.toNat ∨
      manifest.runtime.load_addr.toNat + 4 * (manifest.runtime.size.toNat / 4) ≤
        manifest.fmc.load_addr.toNat := by
    have := hver.toc.loads_apart
    have := hver.toc.fmc_size_pos
    have := hver.toc.runtime_size_pos
    omega
  have hfmc := Memory.read_write_self env.iccm manifest.fmc.load_addr.toNat
    ((env.mbox.ram.drop IMAGE_MANIFEST_BYTE_SIZE).take (4 * (manifest.fmc.size.toNat / 4)))
  have hrt := Memory.read_write_self
    (env.iccm.write manifest.fmc.load_addr.toNat
      ((env.mbox.ram.drop IMAGE_MANIFEST_BYTE_SIZE).take (4 * (manifest.fmc.size.toNat / 4))))
    manifest.runtime.load_addr.toNat
    ((env.mbox.ram.drop (IMAGE_MANIFEST_BYTE_SIZE + 4 * (manifest.fmc.size.toNat / 4))).take
      (4 * (manifest.runtime.size.toNat / 4)))
  rw [hf] at hfmc
  rw [hr] at hrt
  simp only [List.extract_eq_take_drop, Nat.add_sub_cancel_left]
  refine ⟨?_, hrt⟩
  rw [sequential_load, Memory.read_write_of_disjoint (by rw [hr]; omega), hfmc]

/-- When the bundle is laid out as one stream, the FMC right after the manifest and the runtime
right after the FMC, both in whole words, a successful load puts exactly the sections the
verifier hashed at the two load addresses. -/
theorem process_iccm_of_contiguous {env : RomEnv} {pi : FwProcInfo} {env' : RomEnv}
    {manifest : ImageManifest} (h0 : env.mbox.read_index = 0) (H : process env = .ok (pi, env'))
    (hm : ImageManifest.codec.decode (env.mbox.ram.take IMAGE_MANIFEST_BYTE_SIZE) = manifest)
    (hfmc : manifest.fmc.offset.toNat = IMAGE_MANIFEST_BYTE_SIZE)
    (hfmc4 : manifest.fmc.size.toNat % 4 = 0)
    (hrt : manifest.runtime.offset.toNat = manifest.fmc.offset.toNat + manifest.fmc.size.toNat)
    (hrt4 : manifest.runtime.size.toNat % 4 = 0) :
    env'.iccm.read manifest.fmc.load_addr.toNat manifest.fmc.size.toNat =
        env.mbox.ram.extract manifest.fmc.offset.toNat
          (manifest.fmc.offset.toNat + manifest.fmc.size.toNat) ∧
      env'.iccm.read manifest.runtime.load_addr.toNat manifest.runtime.size.toNat =
        env.mbox.ram.extract manifest.runtime.offset.toNat
          (manifest.runtime.offset.toNat + manifest.runtime.size.toNat) := by
  obtain ⟨hf, hr⟩ := process_iccm h0 H
  rw [hm] at hf hr
  have hf4 : 4 * (manifest.fmc.size.toNat / 4) = manifest.fmc.size.toNat := by omega
  have hr4 : 4 * (manifest.runtime.size.toNat / 4) = manifest.runtime.size.toNat := by omega
  rw [hf4] at hf hr
  rw [hr4] at hr
  rw [hrt, hfmc]
  exact ⟨hf, hr⟩

/-! ## A bundle the ROM loads from the wrong place -/

/-- The fuzzing harness's bundle with the FMC four bytes after the end of the manifest: an 8-byte
FMC at offset 5888 and an 8-byte runtime right after it. -/
def gap_manifest : ImageManifest :=
  { test_manifest with
    fmc := ⟨1, 1, 0, 0, 0, 0x40000000, 0x40000000, 5888, 8, ZERO_DIGEST⟩
    runtime := ⟨2, 2, 0, 0, 0, 0x40010000, 0x40010000, 5896, 8, ZERO_DIGEST⟩ }

/-- The mailbox SRAM holding that bundle: the manifest, four bytes of padding, the FMC, the
runtime, and zeros. -/
def gap_sram : List UInt8 :=
  ImageManifest.codec.encode gap_manifest ++ [0xAA, 0xAA, 0xAA, 0xAA] ++
    [1, 2, 3, 4, 5, 6, 7, 8] ++ [9, 10, 11, 12, 13, 14, 15, 16] ++
    List.replicate (131072 - 5904) 0

theorem gap_sram_length : gap_sram.length = MBOX_SIZE.toNat := by
  simp only [gap_sram, List.length_append, Codec.length_encode, List.length_replicate]
  rfl

/-- A ROM that receives the bundle as a 5904-byte `FIRMWARE_LOAD` request, with engines that
answer as the fuzzing harness's `TestEnv::default()`: every digest is zero and every signature
verifies, on an unprovisioned part. -/
def gap_env : RomEnv where
  fuse_bank := ⟨ZERO_DIGEST, VendorPubKeyRevocation.from_bits_truncate 0, 0, ZERO_DIGEST, false,
    .Unprovisioned, 0, 0, true⟩
  sha384 _ := .ok ZERO_DIGEST
  ecc384_verify_r _ _ sig := .ok sig.r
  verify_lms_signature _ pub_key _ := .ok (HashValue.ofLe pub_key.digest)
  mbox := ⟨.MboxExecuteUc, CommandId.FIRMWARE_LOAD, 0, 5904, gap_sram, gap_sram_length, 0, false⟩
  data_vault := ⟨ZERO_DIGEST, 0, 0, ZERO_DIGEST, 0, 0, ZERO_DIGEST, 0, 0, 0⟩
  persistent_data := ⟨Vector.replicate _ 0, Vector.replicate _ 0⟩
  iccm _ := 0
  extend_pcrs _ := .ok ()

/-- What the verifier returns for `gap_manifest`. -/
def gap_info : ImageVerificationInfo :=
  { test_info with
    fmc := ⟨0x40000000, 8, 0x40000000, 0, 0, ZERO_DIGEST⟩
    runtime := ⟨0x40010000, 8, 0x40010000, 0, 0, ZERO_DIGEST⟩ }

/-- The ROM accepts the bundle and loads, at the FMC's load address, the padding and half of
the FMC: not the bytes at the FMC's offset, whose digest the verifier compared with the TOC. -/
theorem process_loads_unhashed_bytes :
    ∃ r, process gap_env = .ok r ∧
      r.2.iccm.read gap_manifest.fmc.load_addr.toNat gap_manifest.fmc.size.toNat ≠
        gap_env.mbox.ram.extract gap_manifest.fmc.offset.toNat
          (gap_manifest.fmc.offset.toNat + gap_manifest.fmc.size.toNat) := by
  have hdec : ImageManifest.codec.decode (gap_env.mbox.ram.take IMAGE_MANIFEST_BYTE_SIZE) =
      gap_manifest := by
    rw [show gap_env.mbox.ram = gap_sram from rfl, gap_sram, List.append_assoc, List.append_assoc,
      List.append_assoc, ← ImageManifest.codec_size,
      List.take_left' (ImageManifest.codec.length_encode _), Codec.decode_encode_self]
  have hv : verify (gap_env.venv ⟨.Execute, gap_env.mbox⟩).env gap_manifest 5904 .ColdReset =
      .ok gap_info := by
    decide +kernel
  obtain ⟨pd, hp⟩ := @process_of_verify gap_env gap_info rfl (by decide) rfl (by decide)
    (by rw [hdec]; exact hv) rfl
  -- what was loaded is the FIFO's run after the manifest
  obtain ⟨hf, -⟩ := process_iccm rfl hp
  rw [hdec] at hf hp
  refine ⟨_, hp, ?_⟩
  have hf' : (sequential_load gap_env.iccm gap_env.mbox.ram gap_manifest).read
      gap_manifest.fmc.load_addr.toNat gap_manifest.fmc.size.toNat =
      gap_sram.extract 5884 5892 := hf
  rw [hf']
  decide +kernel

end FirmwareProcessor

end Caliptra
