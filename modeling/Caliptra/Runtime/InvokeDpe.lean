import Caliptra.Runtime.Drivers

/-!
# `INVOKE_DPE` (`runtime/src/invoke_dpe.rs`)

The command that hands a DPE command from the SoC to the DPE submodule, in the locality of the
caller's PAUSER. Before it does, the runtime applies its own policy to the command: a command
that may activate a context (`InitCtx` of a simulation context, `DeriveContext` without
`RECURSIVE`) fails when the caller's privilege level has used its contexts; a PL1 caller may not
derive into the PL0 locality, export a CDI or certify a key as X.509. After `DestroyCtx` the
tags of every inactive context are cleared.

A DPE command that fails does not fail the mailbox command: its error is returned in the
response header.
-/

namespace Caliptra

open CaliptraError Caliptra.Runtime

/-- `InvokeDpeReq`, after its header word. -/
structure InvokeDpeReq where
  data_size : UInt32
  data : Vector UInt8 512
  deriving DecidableEq

def InvokeDpeReq.codec : Codec InvokeDpeReq :=
  ((Codec.pad 4).prod (Codec.u32le.prod (Codec.u8.vector 512))).map
    (fun p => ⟨p.2.1, p.2.2⟩) (fun r => ((), r.data_size, r.data)) (fun _ => rfl)

namespace InvokeDpeCmd

variable {n : Nat}

/-- `InvokeDpeReq::DATA_MAX_SIZE`. -/
def DATA_MAX_SIZE : Nat := 512

/-- `clear_tags_for_inactive_contexts`: the loop over the contexts clears the tag of each inactive
one. -/
def clear_tags_for_inactive_contexts (dpe : DpeInstance n) (context_has_tag : Vector Bool n)
    (context_tags : Vector UInt32 n) : Vector Bool n × Vector UInt32 n :=
  (Vector.ofFn fun i =>
      if (getElem dpe.contexts i i.isLt).state = .Inactive then false
      else getElem context_has_tag i i.isLt,
    Vector.ofFn fun i =>
      if (getElem dpe.contexts i i.isLt).state = .Inactive then 0
      else getElem context_tags i i.isLt)

/-- `cmd.execute(dpe, env, locality)` on the persistent DPE instance. -/
def execute_dpe_command (drivers : Drivers n) (command : DpeCommand) (locality : UInt32) :
    RtM n (Except DpeErrorCode (List UInt8)) :=
  modifyGet fun pdata =>
    let (resp, dpe) := drivers.dpe.execute command locality pdata.dpe
    (resp, { pdata with dpe := dpe })

/-- `InvokeDpeCmd::execute` for a command from `user`. -/
def execute (drivers : Drivers n) (user : UInt32) (cmd_args : List UInt8) :
    RtM n MailboxResp := do
  EStateM.failIf (cmd_args.length > InvokeDpeReq.codec.size) RUNTIME_INSUFFICIENT_MEMORY
  -- the request is copied over a zeroed `InvokeDpeReq`
  let cmd := InvokeDpeReq.codec.decode
    (cmd_args ++ List.replicate (InvokeDpeReq.codec.size - cmd_args.length) 0)
  EStateM.failIf (cmd.data_size.toNat > DATA_MAX_SIZE) RUNTIME_MAILBOX_INVALID_PARAMS
  EStateM.ofExcept drivers.dpe_env
  let pdata ← get
  let caller_privilege_level := caller_privilege_level pdata user
  let dpe_context_threshold_err := is_dpe_context_threshold_exceeded pdata user
  let pl0_pauser := pdata.manifest1.header.pl0_pauser
  let locality := user
  let some command := drivers.dpe.deserialize (cmd.data.toList.take cmd.data_size.toNat)
    | throw RUNTIME_DPE_COMMAND_DESERIALIZATION_FAILED
  let resp ← match command with
    | .GetProfile =>
      .ok <$> EStateM.ofExcept ((drivers.dpe.get_profile pdata.dpe).mapError
        fun _ => RUNTIME_COULD_NOT_GET_DPE_PROFILE)
    | .InitCtx simulation => do
      -- only a simulation context is a new context
      if simulation then EStateM.ofExcept dpe_context_threshold_err
      execute_dpe_command drivers command locality
    | .DeriveContext derive => do
      -- a recursive derivation extends an existing context
      if !derive.flags.recursive then EStateM.ofExcept dpe_context_threshold_err
      EStateM.failIf (derive.flags.change_locality ∧ derive.target_locality = pl0_pauser ∧
        caller_privilege_level ≠ .PL0) RUNTIME_INCORRECT_PAUSER_PRIVILEGE_LEVEL
      EStateM.failIf (derive.flags.export_cdi ∧ caller_privilege_level ≠ .PL0)
        RUNTIME_INCORRECT_PAUSER_PRIVILEGE_LEVEL
      execute_dpe_command drivers command locality
    | .CertifyKey format_x509 _ => do
      EStateM.failIf (format_x509 ∧ caller_privilege_level ≠ .PL0)
        RUNTIME_INCORRECT_PAUSER_PRIVILEGE_LEVEL
      execute_dpe_command drivers command locality
    | .DestroyCtx _ => do
      let destroy_ctx_resp ← execute_dpe_command drivers command locality
      modify fun pdata =>
        let (context_has_tag, context_tags) := clear_tags_for_inactive_contexts pdata.dpe
          pdata.context_has_tag pdata.context_tags
        { pdata with context_has_tag := context_has_tag, context_tags := context_tags }
      pure destroy_ctx_resp
    | .Sign _ | .RotateCtx _ | .GetCertificateChain _ =>
      execute_dpe_command drivers command locality
  pure (.InvokeDpeCommand resp)

end InvokeDpeCmd

end Caliptra
