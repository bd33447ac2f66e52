import Caliptra.Rom.FwProcessor

/-!
# Update reset (`rom/dev/src/flow/update_reset.rs`)

`UpdateResetFlow::run`: a new bundle arrives in the mailbox while the FMC loaded at cold boot
stays in place. The manifest is copied over `manifest2`, verified with reason `UpdateReset`
(the vendor key indices, the owner key digest and the FMC digest must match the data vault),
the runtime's data-vault entries are written, and `load_image` drops the FMC's words from the
FIFO and copies the runtime to its load address. On success `manifest2` becomes `manifest1`.

`run_eq_ok` says what a successful run does. From it, `run_guarantees` collects what update
reset enforces: the only bytes written are the new runtime's, away from the new manifest's FMC,
the new FMC section hashes to the digest recorded at cold boot, and the cold-boot data-vault
entries are unchanged. The new FMC's TOC entry is not compared with the cold-boot one, so the
new runtime may be loaded over the FMC that is running (`run_overwrites_cold_fmc`).
-/

namespace Caliptra

open CaliptraError ImageVerifier

/-- The bytes `copy_request` writes for an image: `size / 4` whole words from `load_addr`. -/
def ImageTocEntry.copy_interval (e : ImageTocEntry) : Set ℕ :=
  Set.Ico e.load_addr.toNat (e.load_addr.toNat + 4 * (e.size.toNat / 4))

namespace UpdateResetFlow

/-- `RomBootStatus::UpdateResetStarted`. -/
def UpdateResetStarted : UInt32 := 321

/-- `RomBootStatus::UpdateResetComplete`. -/
def UpdateResetComplete : UInt32 := 328

/-- `load_manifest`: the request's first bytes copied over `manifest2`. -/
def load_manifest (persistent_data : PersistentData) (txn : MailboxRecvTxn) :
    CaliptraResult (PersistentData × MailboxRecvTxn) := do
  let (manifest2, txn) ← txn.copy_request_into persistent_data.manifest2
  return ({ persistent_data with manifest2 }, txn)

def verify_image (venv : FirmwareImageVerificationEnv) (manifest : ImageManifest)
    (img_bundle_sz : UInt32) : Checked CaliptraError ImageVerificationInfo :=
  verify venv.env manifest img_bundle_sz .UpdateReset

/-- `populate_data_vault`: the runtime's warm-reset entries only. -/
def populate_data_vault (data_vault : DataVault) (info : ImageVerificationInfo) : DataVault :=
  { data_vault with
    rt_tci := info.runtime.digest
    rt_svn := info.runtime.svn
    rt_entry_point := info.runtime.entry_point }

/-- `load_image`: the FMC's words are thrown away, the runtime's copied to its load address. -/
def load_image (manifest : ImageManifest) (txn : MailboxRecvTxn) (iccm : Memory) :
    CaliptraResult (Memory × MailboxRecvTxn) := do
  let txn ← txn.drop_words (manifest.fmc.size.toNat / 4)
  let (iccm, txn) ← txn.copy_request_words iccm manifest.runtime.load_addr.toNat
    (manifest.runtime.size.toNat / 4)
  let txn ← txn.complete true
  return (iccm, txn)

/-- `run`. -/
def run (env : RomEnv) : Checked CaliptraError RomEnv := do
  let data_vault := { env.data_vault with rom_update_reset_status := UpdateResetStarted }
  let some txn := Mailbox.try_start_recv_txn env.mbox
    | Checked.fail ROM_UPDATE_RESET_FLOW_MAILBOX_ACCESS_FAILURE
  Checked.failIf (txn.cmd ≠ CommandId.FIRMWARE_LOAD) ROM_UPDATE_RESET_FLOW_INVALID_FIRMWARE_COMMAND
  let (persistent_data, txn) ← Checked.ofExcept (load_manifest env.persistent_data txn)
  let manifest := ImageManifest.codec.decode persistent_data.manifest2.toList
  let info ← verify_image ({ env with data_vault }.venv txn) manifest txn.dlen
  let data_vault := populate_data_vault data_vault info
  Checked.ofExcept (env.extend_pcrs info)
  let (iccm, txn) ← Checked.ofExcept (load_image manifest txn env.iccm)
  let persistent_data := { persistent_data with manifest1 := persistent_data.manifest2 }
  return { env with
    mbox := txn.mbox
    data_vault := { data_vault with rom_update_reset_status := UpdateResetComplete }
    persistent_data
    iccm }

/-! ## The stages -/

theorem load_manifest_eq_ok {pd pd' : PersistentData} {txn txn' : MailboxRecvTxn}
    (H : load_manifest pd txn = .ok (pd', txn')) :
    ∃ v, txn.copy_request_into pd.manifest2 = .ok (v, txn') ∧ pd' = { pd with manifest2 := v } := by
  simp only [load_manifest, bind, Except.bind] at H
  split at H
  · cases H
  · next r hr =>
    obtain ⟨v, t⟩ := r
    cases H
    exact ⟨v, hr, rfl⟩

/-- Only the runtime's words are written: `size / 4` of them, at its load address. -/
theorem load_image_eq_ok {manifest : ImageManifest} {txn txn' : MailboxRecvTxn}
    {iccm iccm' : Memory} (H : load_image manifest txn iccm = .ok (iccm', txn')) :
    ∃ data : List UInt8, data.length = 4 * (manifest.runtime.size.toNat / 4) ∧
      iccm' = iccm.write manifest.runtime.load_addr.toNat data := by
  simp only [load_image, MailboxRecvTxn.drop_words, bind, Except.bind] at H
  split at H
  · cases H
  · next r hr =>
    obtain ⟨mem, t⟩ := r
    obtain ⟨data, hlen, rfl, -, -⟩ := MailboxRecvTxn.copy_request_words_eq_ok hr
    split at H
    · cases H
    · cases H
      exact ⟨data, hlen, rfl⟩

/-- `load_image` over a FIFO that holds both sections: the FMC's words are skipped and the
runtime's copied. -/
theorem load_image_of_le {manifest : ImageManifest} {txn : MailboxRecvTxn} {iccm : Memory}
    (hst : txn.state = .Execute) (hecc : txn.mbox.uncorrectable_ecc = false)
    (hd : txn.mbox.dlen.toNat + 3 < 2 ^ 32)
    (h : txn.mbox.read_index + 4 * (manifest.fmc.size.toNat / 4) +
      4 * (manifest.runtime.size.toNat / 4) ≤ txn.mbox.latched_dlen) :
    load_image manifest txn iccm = .ok
      (iccm.write manifest.runtime.load_addr.toNat
          ((txn.mbox.ram.drop (txn.mbox.read_index + 4 * (manifest.fmc.size.toNat / 4))).take
            (4 * (manifest.runtime.size.toNat / 4))),
        ⟨.Idle, txn.mbox.advance (4 * (manifest.fmc.size.toNat / 4) +
          4 * (manifest.runtime.size.toNat / 4))⟩) := by
  rw [load_image, MailboxRecvTxn.drop_words_of_le hd (by omega)]
  simp only [bind, Except.bind]
  rw [@MailboxRecvTxn.copy_request_words_of_le
    ⟨txn.state, txn.mbox.advance (4 * (manifest.fmc.size.toNat / 4))⟩ _ _ _ hst hecc
    (by simp only [Mbox.advance_read_index, Mbox.latched_dlen_advance]; omega)]
  simp only [Mbox.advance_read_index, Mbox.advance_ram, Mbox.advance_advance]
  simp [MailboxRecvTxn.complete, hst, pure, Except.pure]

/-! ## A whole run -/

/-- What a successful update reset does: the mailbox held a `FIRMWARE_LOAD` request, the
manifest it records was verified with reason `UpdateReset` over the SRAM, and the only bytes
written to memory are the runtime's `size / 4` words at its load address. -/
theorem run_eq_ok {env env' : RomEnv} (H : run env = .ok env') :
    env.mbox.mbox_fsm_ps = .MboxExecuteUc ∧ env.mbox.cmd = CommandId.FIRMWARE_LOAD ∧
    ∃ info data mbox pd,
      let manifest := ImageManifest.codec.decode pd.manifest1.toList
      verify (env.venv ⟨.Execute, env.mbox⟩).env manifest env.mbox.dlen .UpdateReset = .ok info ∧
      env.extend_pcrs info = .ok () ∧
      data.length = 4 * (manifest.runtime.size.toNat / 4) ∧
      pd.manifest2 = pd.manifest1 ∧
      env' = { env with
        mbox
        data_vault := { populate_data_vault env.data_vault info with
          rom_update_reset_status := UpdateResetComplete }
        persistent_data := pd
        iccm := env.iccm.write manifest.runtime.load_addr.toNat data } := by
  unfold run at H
  split at H
  · next txn htxn =>
    obtain ⟨hfsm, rfl⟩ := Mailbox.try_start_recv_txn_eq_some.mp htxn
    simp only [Checked.bind_eq_ok, Checked.failIf_eq_ok, exists_const, Checked.ofExcept_eq_ok,
      Checked.pure_eq_ok] at H
    obtain ⟨hcmd, ⟨pd, txn1⟩, hload, info, hv, ⟨⟩, hpcr, ⟨iccm, txn2⟩, hli, H⟩ := H
    cases H
    obtain ⟨v, hcopy, rfl⟩ := load_manifest_eq_ok hload
    obtain ⟨-, -, hres⟩ := MailboxRecvTxn.copy_request_eq_ok.mp
      (MailboxRecvTxn.copy_request_into_eq_ok.mp hcopy)
    -- the verifier reads the SRAM, which the manifest copy left as it was
    obtain ⟨k, hk⟩ := fifo.dequeue_snd env.mbox env.persistent_data.manifest2.toList
    rw [(Prod.mk.inj hres).2, hk] at hv
    obtain ⟨data, hlen, rfl⟩ := load_image_eq_ok hli
    refine ⟨hfsm, not_not.mp hcmd, info, data, txn2.mbox,
      { env.persistent_data with manifest1 := v, manifest2 := v }, ?_⟩
    dsimp only at hv hlen ⊢
    -- name the decoded manifest: only its fields matter below
    generalize ImageManifest.codec.decode v.toList = manifest at hv hlen ⊢
    exact ⟨hv, hpcr, hlen, rfl, rfl⟩
  · exact absurd H (Checked.fail_ne_ok _ _)

/-- A manifest read from the start of the FIFO, verified over the SRAM with reason
`UpdateReset`, is accepted: its runtime is copied from the FIFO, after the FMC's words. -/
theorem run_of_verify {env : RomEnv} {info : ImageVerificationInfo}
    (hfsm : env.mbox.mbox_fsm_ps = .MboxExecuteUc) (hcmd : env.mbox.cmd = CommandId.FIRMWARE_LOAD)
    (h0 : env.mbox.read_index = 0) (hecc : env.mbox.uncorrectable_ecc = false)
    (hdlen : env.mbox.dlen.toNat ≤ IMAGE_BYTE_SIZE)
    (hv : verify (env.venv ⟨.Execute, env.mbox⟩).env
      (ImageManifest.codec.decode (env.mbox.ram.take IMAGE_MANIFEST_BYTE_SIZE)) env.mbox.dlen
      .UpdateReset = .ok info)
    (hpcr : env.extend_pcrs info = .ok ()) :
    let manifest := ImageManifest.codec.decode (env.mbox.ram.take IMAGE_MANIFEST_BYTE_SIZE)
    ∃ pd : PersistentData, pd.manifest1.toList = env.mbox.ram.take IMAGE_MANIFEST_BYTE_SIZE ∧
      run env = .ok { env with
        mbox := env.mbox.advance (IMAGE_MANIFEST_BYTE_SIZE + 4 * (manifest.fmc.size.toNat / 4) +
          4 * (manifest.runtime.size.toNat / 4))
        data_vault := { populate_data_vault env.data_vault info with
          rom_update_reset_status := UpdateResetComplete }
        persistent_data := pd
        iccm := env.iccm.write manifest.runtime.load_addr.toNat
          ((env.mbox.ram.drop (IMAGE_MANIFEST_BYTE_SIZE + 4 * (manifest.fmc.size.toNat / 4))).take
            (4 * (manifest.runtime.size.toNat / 4))) } := by
  dsimp only
  generalize hM : ImageManifest.codec.decode (env.mbox.ram.take IMAGE_MANIFEST_BYTE_SIZE) =
    manifest at hv ⊢
  have hver := verify_ok hv
  have hfits : IMAGE_MANIFEST_BYTE_SIZE + manifest.fmc.size.toNat +
      manifest.runtime.size.toNat ≤ env.mbox.dlen.toNat := by
    have h := hver.toc.fits_bundle
    rwa [hver.size_eq] at h
  have hlatched : env.mbox.latched_dlen = env.mbox.dlen.toNat :=
    Mbox.latched_dlen_of_le (by rw [show MBOX_SIZE.toNat = IMAGE_BYTE_SIZE from rfl]; omega)
  -- the manifest copy, then the FMC's words dropped and the runtime's copied
  obtain ⟨v, hcopy, hv1⟩ := @MailboxRecvTxn.copy_request_into_of_le _ ⟨.Execute, env.mbox⟩
    env.persistent_data.manifest2 rfl hecc rfl (by simp only [h0, hlatched]; omega)
  simp only [h0, List.drop_zero] at hv1
  have hdec : ImageManifest.codec.decode v.toList = manifest := by rw [hv1, hM]
  have hload : load_manifest env.persistent_data ⟨.Execute, env.mbox⟩ =
      .ok ({ env.persistent_data with manifest2 := v },
        ⟨.Execute, env.mbox.advance IMAGE_MANIFEST_BYTE_SIZE⟩) := by
    simp only [load_manifest, hcopy, bind, Except.bind, pure, Except.pure]
  have hroom : (env.mbox.advance IMAGE_MANIFEST_BYTE_SIZE).read_index +
      4 * (manifest.fmc.size.toNat / 4) + 4 * (manifest.runtime.size.toNat / 4) ≤
      (env.mbox.advance IMAGE_MANIFEST_BYTE_SIZE).latched_dlen := by
    simp only [Mbox.advance_read_index, h0, Mbox.latched_dlen_advance, hlatched]
    omega
  have hli := @load_image_of_le manifest ⟨.Execute, env.mbox.advance IMAGE_MANIFEST_BYTE_SIZE⟩
    env.iccm rfl hecc (by simp only [Mbox.advance_dlen]; unfold IMAGE_BYTE_SIZE at hdlen; omega)
    hroom
  have hv' : verify_image (env.venv ⟨.Execute, env.mbox.advance IMAGE_MANIFEST_BYTE_SIZE⟩)
    manifest env.mbox.dlen = .ok info := hv
  refine ⟨{ env.persistent_data with manifest1 := v, manifest2 := v }, hv1, ?_⟩
  unfold run
  simp only [Mailbox.try_start_recv_txn, hfsm, Checked.bind_eq_ok, Checked.failIf_eq_ok,
    exists_const, Checked.ofExcept_eq_ok, Checked.pure_eq_ok]
  refine ⟨not_not.mpr hcmd, ({ env.persistent_data with manifest2 := v },
    ⟨.Execute, env.mbox.advance IMAGE_MANIFEST_BYTE_SIZE⟩), hload, ?_⟩
  dsimp only
  rw [hdec]
  refine ⟨info, hv', (), hpcr, _, hli, ?_⟩
  simp only [Mbox.advance_advance, Mbox.advance_read_index, Mbox.advance_ram, h0, Nat.zero_add,
    Nat.add_assoc]
  rfl

/-- What a successful update reset enforces, for the manifest `manifest` it verified and
records: it writes only the new runtime's words, away from the new FMC's load interval; the new
FMC section and owner keys hash to the digests recorded at cold boot, the vendor key is the
recorded one; and the cold-reset entries of the data vault are kept. Nothing relates `manifest`
to the manifest loaded at cold boot beyond these digests and the key index. -/
structure UpdateResetChecked (env env' : RomEnv) (manifest : ImageManifest) : Prop where
  iccm_frame : ∀ a ∉ manifest.runtime.copy_interval, env'.iccm a = env.iccm a
  runtime_apart_from_fmc : Disjoint manifest.runtime.copy_interval manifest.fmc.load_interval
  fmc_digest : env.sha384 (env.mbox.ram.extract manifest.fmc.offset.toNat
    (manifest.fmc.offset.toNat + manifest.fmc.size.toNat)) = .ok env.data_vault.fmc_tci
  owner_digest : env.sha384 (env.mbox.ram.extract ImageManifest.owner_pub_key_range.start.toNat
    ImageManifest.owner_pub_key_range.end_.toNat) = .ok env.data_vault.owner_pk_hash
  ecc_idx : manifest.preamble.vendor_ecc_pub_key_idx = env.data_vault.ecc_vendor_pk_index
  cold_entries : env'.data_vault.cold_entries = env.data_vault.cold_entries

theorem run_guarantees {env env' : RomEnv} (H : run env = .ok env') :
    UpdateResetChecked env env' (ImageManifest.codec.decode env'.persistent_data.manifest1.toList) := by
  obtain ⟨-, -, info, data, mbox, pd, hv, -, hlen, -, rfl⟩ := run_eq_ok H
  dsimp only at hv hlen ⊢
  generalize ImageManifest.codec.decode pd.manifest1.toList = manifest at hv hlen ⊢
  have hver := verify_ok hv
  obtain ⟨hi, pre, -, -, -, hown, -⟩ := hver.header_info
  obtain ⟨hd, -, hdv, -⟩ := verify_owner_pk_digest_ok pre.owner_pk_digest_ok
  refine ⟨fun a ha => ?_, Set.disjoint_left.mpr fun a ha hb => ?_, ?_, ?_, ?_, rfl⟩
  · -- the runtime's words are the only bytes written
    simp only [ImageTocEntry.copy_interval, Set.mem_Ico, not_and_or, not_le, not_lt] at ha
    exact Memory.write_apply_of_not_mem (by omega)
  · -- the TOC check keeps the new runtime's load interval off the new FMC's
    simp only [ImageTocEntry.copy_interval, ImageTocEntry.load_interval, Set.mem_Ico,
      Set.mem_Icc] at ha hb
    have := hver.toc.loads_apart
    have := hver.toc.fmc_size_pos
    omega
  · have h := sha384_section_of_verified hver.fmc
    rwa [hver.fmc_digest_dv rfl, RomEnv.venv_get_fmc_digest_dv] at h
  · have h := FirmwareImageVerificationEnv.sha384_digest_eq_ok hd
    rwa [← hdv rfl, RomEnv.venv_owner_pub_key_digest_dv] at h
  · have h := pre.ecc_idx_dv rfl
    rwa [RomEnv.venv_vendor_ecc_pub_key_idx_dv, eq_comm] at h

/-! ## An update that loads its runtime over the running FMC -/

/-- A mailbox handed to the ROM with a `FIRMWARE_LOAD` request of `dlen` bytes. -/
def firmware_load_mbox (ram : List UInt8) (h : ram.length = MBOX_SIZE.toNat) (dlen : UInt32) :
    Mbox :=
  ⟨.MboxExecuteUc, CommandId.FIRMWARE_LOAD, 0, dlen, ram, h, 0, false⟩

/-- The mailbox SRAM holding a bundle: the manifest, the images `body`, then zeros. -/
def bundle_sram (manifest : ImageManifest) (body : List UInt8) : List UInt8 :=
  ImageManifest.codec.encode manifest ++ body ++
    List.replicate (MBOX_SIZE.toNat - IMAGE_MANIFEST_BYTE_SIZE - body.length) 0

theorem length_bundle_sram {manifest : ImageManifest} {body : List UInt8}
    (h : body.length ≤ MBOX_SIZE.toNat - IMAGE_MANIFEST_BYTE_SIZE) :
    (bundle_sram manifest body).length = MBOX_SIZE.toNat := by
  have hm : IMAGE_MANIFEST_BYTE_SIZE ≤ MBOX_SIZE.toNat := by decide
  simp only [bundle_sram, List.length_append, Codec.length_encode, List.length_replicate]
  rw [ImageManifest.codec_size]
  omega

theorem decode_bundle_sram (manifest : ImageManifest) (body : List UInt8) :
    ImageManifest.codec.decode ((bundle_sram manifest body).take IMAGE_MANIFEST_BYTE_SIZE) =
      manifest := by
  rw [bundle_sram, List.append_assoc, ← ImageManifest.codec_size,
    List.take_left' (ImageManifest.codec.length_encode _), Codec.decode_encode_self]

/-- A bundle laid out as one stream: an 8-byte FMC loaded at the start of the ICCM and an 8-byte
runtime 64 KiB further on. -/
def cold_manifest : ImageManifest :=
  { test_manifest with
    fmc := ⟨1, 1, 0, 0, 0, 0x40000000, 0x40000000, 5884, 8, ZERO_DIGEST⟩
    runtime := ⟨2, 2, 0, 0, 0, 0x40010000, 0x40010000, 5892, 8, ZERO_DIGEST⟩ }

/-- The same FMC section, and so the same FMC digest, with the two load addresses exchanged. -/
def swap_manifest : ImageManifest :=
  { cold_manifest with
    fmc := { cold_manifest.fmc with load_addr := 0x40010000, entry_point := 0x40010000 }
    runtime := { cold_manifest.runtime with load_addr := 0x40000000, entry_point := 0x40000000 } }

def cold_sram : List UInt8 := bundle_sram cold_manifest (List.range' 1 16 |>.map Nat.toUInt8)

def swap_sram : List UInt8 :=
  bundle_sram swap_manifest ((List.range' 1 8 ++ List.range' 17 8).map Nat.toUInt8)

/-- The ROM at cold boot, with `cold_manifest`'s bundle in the mailbox and the engines of the
fuzzing harness (`gap_env`). -/
def cold_env : RomEnv :=
  { FirmwareProcessor.gap_env with
    mbox := firmware_load_mbox cold_sram (length_bundle_sram (by decide)) 5900 }

/-- The request of the update reset. -/
def swap_mbox : Mbox := firmware_load_mbox swap_sram (length_bundle_sram (by decide)) 5900

/-- The environment the update reset's verifier sees: the cold boot's data vault. -/
def swap_env : RomEnv :=
  { cold_env with
    mbox := swap_mbox
    data_vault := FirmwareProcessor.populate_data_vault cold_env.data_vault
      FirmwareProcessor.gap_info }

/-- What the verifier returns for `swap_manifest`. -/
def swap_info : ImageVerificationInfo :=
  { test_info with
    fmc := ⟨0x40010000, 8, 0x40010000, 0, 0, ZERO_DIGEST⟩
    runtime := ⟨0x40000000, 8, 0x40000000, 0, 0, ZERO_DIGEST⟩ }

/-- A cold boot loads `cold_manifest`'s FMC at `0x40000000`; an update reset then accepts
`swap_manifest`, whose FMC section hashes to the recorded digest, and copies its runtime to
`0x40000000`, over the FMC that is running. -/
theorem run_overwrites_cold_fmc :
    ∃ r env', FirmwareProcessor.process cold_env = .ok r ∧
      run { r.2 with mbox := swap_mbox } = .ok env' ∧
      ImageManifest.codec.decode r.2.persistent_data.manifest1.toList = cold_manifest ∧
      ImageManifest.codec.decode env'.persistent_data.manifest1.toList = swap_manifest ∧
      swap_manifest.fmc.load_addr ≠ cold_manifest.fmc.load_addr ∧
      ¬Disjoint swap_manifest.runtime.copy_interval cold_manifest.fmc.load_interval ∧
      env'.iccm.read cold_manifest.fmc.load_addr.toNat cold_manifest.fmc.size.toNat ≠
        r.2.iccm.read cold_manifest.fmc.load_addr.toNat cold_manifest.fmc.size.toNat := by
  have hcold : ImageManifest.codec.decode (cold_env.mbox.ram.take IMAGE_MANIFEST_BYTE_SIZE) =
      cold_manifest := decode_bundle_sram _ _
  have hswap : ImageManifest.codec.decode (swap_mbox.ram.take IMAGE_MANIFEST_BYTE_SIZE) =
      swap_manifest := decode_bundle_sram _ _
  have hv1 : verify (cold_env.venv ⟨.Execute, cold_env.mbox⟩).env cold_manifest
      cold_env.mbox.dlen .ColdReset = .ok FirmwareProcessor.gap_info := by
    decide +kernel
  have hv2 : verify (swap_env.venv ⟨.Execute, swap_mbox⟩).env swap_manifest swap_mbox.dlen
      .UpdateReset = .ok swap_info := by
    decide +kernel
  -- the cold boot
  obtain ⟨pd, hp⟩ := @FirmwareProcessor.process_of_verify cold_env FirmwareProcessor.gap_info
    rfl (by decide) rfl (by decide) (by rw [hcold]; exact hv1) rfl
  obtain ⟨⟨pi, env1⟩, hp1⟩ : ∃ r, FirmwareProcessor.process cold_env = .ok r := ⟨_, hp⟩
  obtain ⟨-, -, -, info, pd1, hv1', -, hpd1, -, -, henv1⟩ := FirmwareProcessor.process_eq_ok rfl hp1
  obtain ⟨hf, -⟩ := FirmwareProcessor.process_iccm rfl hp1
  rw [hcold] at hv1' hf
  rw [hv1] at hv1'
  cases hv1'
  -- the update reset, over what the cold boot left
  have hvenv : ({ env1 with mbox := swap_mbox } : RomEnv).venv ⟨.Execute, swap_mbox⟩ =
      swap_env.venv ⟨.Execute, swap_mbox⟩ := by
    rw [henv1]
    rfl
  obtain ⟨pd2, hpd2, hr⟩ := @run_of_verify { env1 with mbox := swap_mbox } swap_info rfl rfl rfl
    rfl (show swap_mbox.dlen.toNat ≤ IMAGE_BYTE_SIZE by decide) (by rw [hswap, hvenv]; exact hv2)
    (by rw [henv1]; rfl)
  refine ⟨_, _, hp1, hr, ?_, ?_, by decide, ?_, ?_⟩
  · rw [henv1]
    exact (congrArg _ hpd1).trans hcold
  · exact (congrArg _ hpd2).trans hswap
  · rw [Set.not_disjoint_iff]
    exact ⟨0x40000000, by simp only [ImageTocEntry.copy_interval, Set.mem_Ico]; decide,
      by simp only [ImageTocEntry.load_interval, Set.mem_Icc]; decide⟩
  · -- the cold boot put the FMC's bytes 1..8 there; the update writes the new runtime's 17..24
    dsimp only
    rw [hswap]
    have hnew : (swap_mbox.ram.drop (IMAGE_MANIFEST_BYTE_SIZE +
        4 * (swap_manifest.fmc.size.toNat / 4))).take (4 * (swap_manifest.runtime.size.toNat / 4)) =
        (List.range' 17 8).map Nat.toUInt8 := by
      decide +kernel
    have hold : cold_env.mbox.ram.extract IMAGE_MANIFEST_BYTE_SIZE
        (IMAGE_MANIFEST_BYTE_SIZE + 4 * (cold_manifest.fmc.size.toNat / 4)) =
        (List.range' 1 8).map Nat.toUInt8 := by
      decide +kernel
    have hw := Memory.read_write_self env1.iccm swap_manifest.runtime.load_addr.toNat
      ((List.range' 17 8).map Nat.toUInt8)
    rw [hnew]
    change (env1.iccm.write swap_manifest.runtime.load_addr.toNat _).read
      swap_manifest.runtime.load_addr.toNat ((List.range' 17 8).map Nat.toUInt8).length ≠
      env1.iccm.read cold_manifest.fmc.load_addr.toNat (4 * (cold_manifest.fmc.size.toNat / 4))
    rw [hw, hf, hold]
    decide

end UpdateResetFlow

end Caliptra
