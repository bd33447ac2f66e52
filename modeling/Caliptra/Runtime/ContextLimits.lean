import Caliptra.Runtime.ContextTags

/-!
# The active-context limits of the PAUSER privilege levels

The runtime splits the used DPE contexts into two buckets by locality: those in the locality of
the PL0 PAUSER named by the manifest, and the others. Each bucket has a limit, and before a
command that may activate a context the runtime checks the bucket of the caller's privilege
level (`is_dpe_context_threshold_exceeded`).

The bucket checked is the caller's, while the new context goes where the command puts it. A
`DeriveContext` with `CHANGE_LOCALITY` from the PL0 PAUSER into another locality is checked
against the PL0 bucket and lands in the PL1 one (`invoke_dpe_pl0_derive`), so the PL1 bucket
grows past its limit (`pl1_context_limit_exceeded`), with a DPE that activates contexts exactly
as the runtime assumes (`ref_dpe_activatesAsAssumed`) and requests laid out as the runtime tests
lay out a `DeriveContext`.
-/

namespace Caliptra.Runtime

open CaliptraError

variable {n : Nat}

/-! ## How the DPE submodule may activate contexts -/

/-- The locality a DPE command may activate a context in, if any: a `DeriveContext` without
`RECURSIVE` in its target locality when it changes locality and in the caller's otherwise, an
`InitCtx` of a simulation context in the caller's; no other command activates one. -/
def may_activate_in (command : DpeCommand) (locality : UInt32) : Option UInt32 :=
  match command with
  | .DeriveContext derive =>
    if derive.flags.recursive then none
    else some (if derive.flags.change_locality then derive.target_locality else locality)
  | .InitCtx simulation => if simulation then some locality else none
  | _ => none

/-- Context `i` is inactive in `inst` and used in `inst'`. -/
def Activated (inst inst' : DpeInstance n) (i : Fin n) : Prop :=
  (getElem inst.contexts i i.isLt).state = .Inactive ∧
    (getElem inst'.contexts i i.isLt).state ≠ .Inactive

/-- From `inst` to `inst'` no context is activated, or (`some loc`) at most one, in `loc`. -/
def ActivatesAtMost (inst inst' : DpeInstance n) : Option UInt32 → Prop
  | none => ∀ i, ¬Activated inst inst' i
  | some loc => ∀ i j, Activated inst inst' i → Activated inst inst' j →
    i = j ∧ (getElem inst'.contexts i i.isLt).locality = loc

/-- Every DPE command activates contexts as `may_activate_in` allows. -/
def Dpe.ActivatesAsAssumed (dpe : Dpe n) : Prop :=
  ∀ command locality inst,
    ActivatesAtMost inst (dpe.execute command locality inst).2 (may_activate_in command locality)

/-! ## A DPE that reads `DeriveContext` requests -/

/-- `DPE_COMMAND_MAGIC`: the bytes `DPEC` read as a big-endian word. -/
def DPE_COMMAND_MAGIC : UInt32 := 0x44504543

/-- The command id of `DeriveContext`. -/
def DERIVE_CONTEXT : UInt32 := 0x8

/-- The profile `P384Sha384`. -/
def DPE_PROFILE_P384_SHA384 : UInt32 := 4

/-- `CommandHdr`: the magic, the command id and the profile. -/
def CommandHdr.codec : Codec (UInt32 × UInt32 × UInt32) :=
  Codec.u32le.prod (Codec.u32le.prod Codec.u32le)

/-- The fields of `DeriveContextCmd` in their order: the handle, the data, the flags word, the
TCI type and the target locality. -/
def DeriveContextCmd.layout : Codec (ContextHandle × TciMeasurement × UInt32 × UInt32 × UInt32) :=
  (Codec.u8.vector 16).prod ((Codec.u8.vector 48).prod (Codec.u32le.prod (Codec.u32le.prod Codec.u32le)))

namespace DeriveContextFlags

/-- The bits of `DeriveContextFlags` in the flags word. -/
def RETAIN_PARENT_CONTEXT : UInt32 := (1 : UInt32) <<< 29
def MAKE_DEFAULT : UInt32 := (1 : UInt32) <<< 28
def CHANGE_LOCALITY : UInt32 := (1 : UInt32) <<< 27
def INPUT_ALLOW_CA : UInt32 := (1 : UInt32) <<< 26
def INPUT_ALLOW_X509 : UInt32 := (1 : UInt32) <<< 25
def RECURSIVE : UInt32 := (1 : UInt32) <<< 24
def EXPORT_CDI : UInt32 := (1 : UInt32) <<< 23

/-- The flags the runtime reads, out of a flags word. -/
def of_bits (bits : UInt32) : DeriveContextFlags :=
  ⟨bits &&& MAKE_DEFAULT != 0, bits &&& CHANGE_LOCALITY != 0, bits &&& INPUT_ALLOW_CA != 0,
    bits &&& INPUT_ALLOW_X509 != 0, bits &&& RECURSIVE != 0, bits &&& EXPORT_CDI != 0⟩

end DeriveContextFlags

/-- `Command::deserialize`, for the one command `ref_dpe` reads: a `DeriveContext` of the
P-384 profile, its header and then its fields, and nothing after them. -/
def ref_deserialize (bytes : List UInt8) : Option DpeCommand :=
  match (CommandHdr.codec.prod DeriveContextCmd.layout).ref_from_bytes bytes with
  | some ((magic, cmd_id, profile), (handle, data, flags, tci_type, target_locality)) =>
    if magic = DPE_COMMAND_MAGIC ∧ cmd_id = DERIVE_CONTEXT ∧ profile = DPE_PROFILE_P384_SHA384 then
      some (.DeriveContext
        ⟨handle, data, DeriveContextFlags.of_bits flags, tci_type, target_locality⟩)
    else none
  | none => none

/-- A DPE submodule that reads `DeriveContext` requests and activates contexts as the runtime
assumes: `new_auto_init` makes context 0 the active root in the auto-init locality, and a command
that may activate a context activates the first inactive one, or fails when there is none. -/
def ref_dpe (n : Nat) : Dpe n where
  new_auto_init locality _ measurement := .ok ⟨Vector.ofFn fun i =>
    if i.val = 0 then ⟨.Active, locality, Context.ROOT_INDEX, .Normal, measurement, measurement⟩
    else Context.zeroed⟩
  deserialize := ref_deserialize
  get_profile _ := .ok []
  execute c locality inst :=
    match may_activate_in c locality with
    | none => (.ok [], inst)
    | some loc =>
      match (List.finRange n).find? (fun i => (getElem inst.contexts i i.isLt).state = .Inactive)
        with
      | some i =>
        (.ok [], ⟨inst.contexts.set i { Context.zeroed with state := .Active, locality := loc } i.isLt⟩)
      | none => (.error 1, inst)
  get_active_context_pos _ _ _ := none

theorem ref_dpe_activatesAsAssumed (n : Nat) : (ref_dpe n).ActivatesAsAssumed := by
  intro c locality inst
  have hsame : ∀ i, ¬Activated inst inst i := fun i h => h.2 h.1
  simp only [ref_dpe]
  cases may_activate_in c locality with
  | none => exact hsame
  | some loc =>
    simp only
    split
    · next k _ =>
      -- only context `k` changes, and it becomes active in `loc`
      have hk : ∀ i, Activated inst ⟨inst.contexts.set k
          { Context.zeroed with state := .Active, locality := loc }⟩ i → i = k := by
        intro i hi
        by_contra hne
        simp only [Activated, Vector.getElem_set_fin, if_neg (Ne.symm hne)] at hi
        exact hi.2 hi.1
      intro i j hi hj
      obtain rfl := hk i hi
      obtain rfl := hk j hj
      simp
    · intro i _ hi
      exact absurd hi (hsame i)

/-! ## What the runtime checks -/

/-- A `DeriveContext` from the PL0 PAUSER passes every check of the runtime when the PL0 bucket
is below its limit, whatever its target locality and whatever the PL1 bucket holds, and the DPE
runs it. -/
theorem invoke_dpe_pl0_derive {drivers : Drivers n} {pdata : PersistentData n} {user : UInt32}
    {req : InvokeDpeReq} {derive : DeriveContextCmd}
    (hsize : req.data_size.toNat ≤ InvokeDpeCmd.DATA_MAX_SIZE) (henv : drivers.dpe_env = .ok ())
    (hcmd : drivers.dpe.deserialize (req.data.toList.take req.data_size.toNat) =
      some (.DeriveContext derive))
    (hpl0 : caller_privilege_level pdata user = .PL0)
    (hbelow : used_pl0_dpe_context_count pdata.manifest1.header.pl0_pauser pdata.dpe <
      PL0_DPE_ACTIVE_CONTEXT_THRESHOLD)
    (hexport : derive.flags.export_cdi = false) :
    (InvokeDpeCmd.execute drivers user (InvokeDpeReq.codec.encode req)).run pdata =
      .ok (.InvokeDpeCommand (drivers.dpe.execute (.DeriveContext derive) user pdata.dpe).1)
        { pdata with dpe := (drivers.dpe.execute (.DeriveContext derive) user pdata.dpe).2 } := by
  have hok : is_dpe_context_threshold_exceeded pdata user = .ok () := by
    rw [is_dpe_context_threshold_exceeded, hpl0, is_dpe_context_threshold_exceeded_helper_eq_ok]
    exact hbelow
  have hdec : InvokeDpeReq.codec.decode (InvokeDpeReq.codec.encode req ++ List.replicate
      (InvokeDpeReq.codec.size - (InvokeDpeReq.codec.encode req).length) 0) = req := by
    rw [Codec.length_encode, Nat.sub_self, List.replicate_zero, List.append_nil,
      Codec.decode_encode_self]
  have hlen : ¬(InvokeDpeReq.codec.encode req).length > InvokeDpeReq.codec.size := by
    rw [Codec.length_encode]
    exact lt_irrefl _
  simp only [InvokeDpeCmd.execute, InvokeDpeCmd.execute_dpe_command, hdec, EStateM.failIf, hlen,
    if_false, gt_iff_lt, Nat.not_lt.mpr hsize, EStateM.run_bind, EStateM.run_get, henv,
    EStateM.run_ofExcept_ok, hcmd, hpl0, hok, hexport, ne_eq, not_true_eq_false, and_false,
    Bool.false_eq_true, false_and, pure_bind]
  -- with or without `RECURSIVE`, the threshold check passes
  split <;> rfl

/-! ## A run past the PL1 limit -/

/-- A manifest with the PL0 PAUSER flag set and PAUSER 1 as the PL0 PAUSER. -/
def pl0_manifest : ImageManifest :=
  let blank := ImageManifest.codec.decode (List.replicate IMAGE_MANIFEST_BYTE_SIZE 0)
  { blank with header := { blank.header with flags := PL0_PAUSER_FLAG, pl0_pauser := 1 } }

/-- The `INVOKE_DPE` request of a `DeriveContext` from the default handle with
`RETAIN_PARENT_CONTEXT` and `CHANGE_LOCALITY` into `target_locality`, as `execute_dpe_cmd` of the
runtime tests builds it: the command at the front of a zeroed 512-byte buffer, and its length as
`data_size`. -/
def derive_request (target_locality : UInt32) : InvokeDpeReq :=
  let command := (CommandHdr.codec.prod DeriveContextCmd.layout).encode
    ((DPE_COMMAND_MAGIC, DERIVE_CONTEXT, DPE_PROFILE_P384_SHA384),
      (Vector.replicate 16 0, Vector.replicate 48 0,
        DeriveContextFlags.RETAIN_PARENT_CONTEXT ||| DeriveContextFlags.CHANGE_LOCALITY, 0,
        target_locality))
  ⟨UInt32.ofNat command.length, Vector.ofFn fun i => command.getD i.val 0⟩

theorem pl1_context_limit_exceeded :
    (ref_dpe 32).ActivatesAsAssumed ∧
      (ref_dpe 32).deserialize
          ((derive_request 2).data.toList.take (derive_request 2).data_size.toNat) =
        some (.DeriveContext ⟨Vector.replicate 16 0, Vector.replicate 48 0,
          ⟨false, true, false, false, false, false⟩, 0, 2⟩) ∧
      let drivers := quiet_drivers (ref_dpe 32)
      ∃ pdata, (initialize_dpe drivers 1).run (cold_boot_persistent_data 32 pl0_manifest) =
          .ok () pdata ∧
        PL1_DPE_ACTIVE_CONTEXT_THRESHOLD < used_pl1_dpe_context_count
          pl0_manifest.header.pl0_pauser (run drivers pdata (List.replicate 16
            (.command .INVOKE_DPE 1 (InvokeDpeReq.codec.encode (derive_request 2))))).dpe :=
  ⟨ref_dpe_activatesAsAssumed 32, by decide +kernel, _, rfl, by decide +kernel⟩

end Caliptra.Runtime
