import Caliptra.Runtime.Drivers

/-!
# `DPE_TAG_TCI` and `DPE_GET_TAGGED_TCI` (`runtime/src/tagging.rs`)

The runtime keeps a tag next to each DPE context: `context_has_tag[i]` says whether context `i`
has one and `context_tags[i]` holds it. `DPE_TAG_TCI` gives a tag that no context has to the
active context a handle names in the caller's locality, when that context has none;
`DPE_GET_TAGGED_TCI` returns the TCI values of the first context that has the tag.
-/

namespace Caliptra

open CaliptraError Caliptra.Runtime

/-- `TagTciReq`, after its header. -/
structure TagTciReq where
  handle : ContextHandle
  tag : UInt32
  deriving DecidableEq

def TagTciReq.codec : Codec TagTciReq :=
  ((Codec.pad 4).prod ((Codec.u8.vector 16).prod Codec.u32le)).map
    (fun p => ⟨p.2.1, p.2.2⟩) (fun r => ((), r.handle, r.tag)) (fun _ => rfl)

/-- `GetTaggedTciReq`, after its header. -/
structure GetTaggedTciReq where
  tag : UInt32
  deriving DecidableEq

def GetTaggedTciReq.codec : Codec GetTaggedTciReq :=
  ((Codec.pad 4).prod Codec.u32le).map (fun p => ⟨p.2⟩) (fun r => ((), r.tag)) (fun _ => rfl)

namespace Runtime

variable {n : Nat}

/-- Some context has the tag `tag`. -/
def tag_in_use (pdata : Runtime.PersistentData n) (tag : UInt32) : Bool :=
  (List.finRange n).any fun i =>
    getElem pdata.context_has_tag i i.isLt && getElem pdata.context_tags i i.isLt == tag

theorem tag_in_use_eq_false {pdata : Runtime.PersistentData n} {tag : UInt32} :
    tag_in_use pdata tag = false ↔
      ∀ i : Fin n, getElem pdata.context_has_tag i i.isLt = true →
        getElem pdata.context_tags i i.isLt ≠ tag := by
  simp [tag_in_use]

end Runtime

namespace TagTciCmd

variable {n : Nat}

/-- `TagTciCmd::execute` for a command from `user`. -/
def execute (drivers : Drivers n) (user : UInt32) (cmd_args : List UInt8) :
    RtM n MailboxResp := do
  let some cmd := TagTciReq.codec.ref_from_bytes cmd_args | throw RUNTIME_INSUFFICIENT_MEMORY
  let pdata ← get
  EStateM.failIf (tag_in_use pdata cmd.tag) RUNTIME_DUPLICATE_TAG
  let locality := user
  let some idx := drivers.dpe.get_active_context_pos pdata.dpe cmd.handle locality
    | throw RUNTIME_TAGGING_FAILURE
  EStateM.failIf (getElem pdata.context_has_tag idx idx.isLt) RUNTIME_CONTEXT_ALREADY_TAGGED
  set { pdata with
    context_has_tag := pdata.context_has_tag.set idx true idx.isLt
    context_tags := pdata.context_tags.set idx cmd.tag idx.isLt }
  pure .default

end TagTciCmd

namespace GetTaggedTciCmd

variable {n : Nat}

/-- `GetTaggedTciCmd::execute`: it only reads the persistent data. -/
def execute (cmd_args : List UInt8) : RtM n MailboxResp := do
  let some cmd := GetTaggedTciReq.codec.ref_from_bytes cmd_args
    | throw RUNTIME_INSUFFICIENT_MEMORY
  let persistent_data ← get
  let some idx := (List.finRange n).find? (fun i =>
      getElem persistent_data.context_has_tag i i.isLt &&
        getElem persistent_data.context_tags i i.isLt == cmd.tag)
    | throw RUNTIME_TAGGING_FAILURE
  let context := getElem persistent_data.dpe.contexts idx idx.isLt
  pure (.GetTaggedTci context.tci_cumulative context.tci_current)

end GetTaggedTciCmd

end Caliptra
