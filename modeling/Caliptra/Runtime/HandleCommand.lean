import Caliptra.Runtime.SetAuthManifest
import Caliptra.Runtime.AuthorizeAndStash
import Caliptra.Runtime.InvokeDpe
import Caliptra.Runtime.Tagging

/-!
# The runtime's command loop (`runtime/src/lib.rs`)

`handle_command` drops every command from the reserved PAUSER and dispatches the others by their
id. A run of the runtime starts with `run_reset_flow` on a cold reset, over the DCCM the ROM has
cleared, and goes on with mailbox commands and update and warm resets in any order.

A command that fails leaves the persistent data as far as it got, and the runtime takes the next
command. A reset flow that fails is a fatal error and the runtime stops there; a run here goes on
from the state it left, which only adds runs.
-/

namespace Caliptra.Runtime

open CaliptraError

variable {n : Nat}

/-- `CommandId`, for the commands that read or change the modelled persistent data. -/
inductive CommandId
  | INVOKE_DPE
  | STASH_MEASUREMENT
  | DPE_TAG_TCI
  | DPE_GET_TAGGED_TCI
  | SET_AUTH_MANIFEST
  | AUTHORIZE_AND_STASH
  deriving DecidableEq, Repr

/-- The PAUSER no requester may use. -/
def RESERVED_PAUSER : UInt32 := 0xFFFFFFFF

/-- `handle_command`, for a command from `user` whose payload after the checksum word is
`cmd_bytes`. -/
def handle_command (drivers : Drivers n) (cmd : CommandId) (user : UInt32)
    (cmd_bytes : List UInt8) : RtM n MailboxResp := do
  EStateM.failIf (user = RESERVED_PAUSER) RUNTIME_CMD_RESERVED_PAUSER
  match cmd with
  | .INVOKE_DPE => InvokeDpeCmd.execute drivers user cmd_bytes
  | .STASH_MEASUREMENT => StashMeasurementCmd.execute drivers user cmd_bytes
  | .DPE_TAG_TCI => TagTciCmd.execute drivers user cmd_bytes
  | .DPE_GET_TAGGED_TCI => GetTaggedTciCmd.execute cmd_bytes
  | .SET_AUTH_MANIFEST => SetAuthManifestCmd.execute drivers cmd_bytes
  | .AUTHORIZE_AND_STASH => AuthorizeAndStashCmd.execute drivers user cmd_bytes

/-- What happens to the runtime between two states. -/
inductive RtEvent
  /-- A mailbox command from the PAUSER `user`. -/
  | command (cmd : CommandId) (user : UInt32) (cmd_bytes : List UInt8)
  /-- An update reset: the ROM has verified a new image, whose manifest becomes `manifest1`. -/
  | update_reset (manifest1 : ImageManifest)
  | warm_reset

/-- One event. The mailbox user is read by the reset flow only on a cold reset. -/
def step (drivers : Drivers n) (pdata : PersistentData n) : RtEvent → PersistentData n
  | .command cmd user cmd_bytes => ((handle_command drivers cmd user cmd_bytes).run pdata).state
  | .update_reset manifest1 =>
    ((run_reset_flow drivers 0 .UpdateReset).run { pdata with manifest1 := manifest1 }).state
  | .warm_reset => ((run_reset_flow drivers 0 .WarmReset).run pdata).state

/-- The persistent data after a cold reset, the mailbox user then being `user`. -/
def cold_boot (drivers : Drivers n) (user : UInt32) (manifest1 : ImageManifest) :
    PersistentData n :=
  ((run_reset_flow drivers user .ColdReset).run (cold_boot_persistent_data n manifest1)).state

/-- A run of events from `pdata`. -/
def run (drivers : Drivers n) (pdata : PersistentData n) (events : List RtEvent) :
    PersistentData n :=
  events.foldl (step drivers) pdata

/-- An invariant of every event is one of every run. -/
theorem run_invariant {drivers : Drivers n} {inv : PersistentData n → Prop}
    (hstep : ∀ pdata ev, inv pdata → inv (step drivers pdata ev)) :
    ∀ (events : List RtEvent) (pdata : PersistentData n), inv pdata →
      inv (run drivers pdata events)
  | [], _, h => h
  | ev :: events, pdata, h => run_invariant hstep events _ (hstep pdata ev h)

end Caliptra.Runtime
