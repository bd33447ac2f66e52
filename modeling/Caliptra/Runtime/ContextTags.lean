import Caliptra.Runtime.HandleCommand

/-!
# The context-tag table over every run

The runtime keeps a tag table beside the DPE contexts and relies on three facts about it: a
tagged context is in use, an untagged one has tag `0`, and no two contexts share a tag.
`validate_context_tags` checks the first two again at every update and warm reset, and
`DPE_GET_TAGGED_TCI` trusts the third when it returns the first context with a tag.

Three places write the table: `DPE_TAG_TCI` gives a context a tag, `INVOKE_DPE` clears the tags of
the inactive contexts after a `DestroyCtx`, and the cold boot starts it empty. The other commands
leave it alone but run DPE commands, which must not make a tagged context inactive behind its
back. `TagsConsistent` is the invariant; each command keeps it (`handle_command_tagsConsistent`)
and so does every run (`context_tags_consistent`).

Two facts of the DPE submodule carry the proof: only `DestroyCtx` makes a used context inactive,
and `get_active_context_pos` returns an active context. The second is what the DPE crate's lookup
does, and the runtime's tagging tests rely on it: `DPE_TAG_TCI` of an inactive, destroyed or
retired context fails with `RUNTIME_TAGGING_FAILURE` because the lookup finds no active context.
-/

namespace Caliptra.Runtime

open CaliptraError EStateM

variable {n : Nat}

/-! ## What the runtime relies on in the DPE submodule -/

/-- Of the DPE commands, only `DestroyCtx` turns a used context inactive. -/
def Dpe.OnlyDestroyDeactivates (dpe : Dpe n) : Prop :=
  ∀ (command : DpeCommand) (locality : UInt32) (inst : DpeInstance n) (i : Fin n),
    (∀ args, command ≠ .DestroyCtx args) →
      (getElem inst.contexts i i.isLt).state ≠ .Inactive →
      (getElem (dpe.execute command locality inst).2.contexts i i.isLt).state ≠ .Inactive

/-- `get_active_context_pos` finds an active context. -/
def Dpe.FindsActive (dpe : Dpe n) : Prop :=
  ∀ (inst : DpeInstance n) (handle : ContextHandle) (locality : UInt32) (i : Fin n),
    dpe.get_active_context_pos inst handle locality = some i →
      (getElem inst.contexts i i.isLt).state = .Active

/-- The used contexts of `dpe` are used in `dpe'`. -/
def StaysUsed (dpe dpe' : DpeInstance n) : Prop :=
  ∀ i : Fin n, (getElem dpe.contexts i i.isLt).state ≠ .Inactive →
    (getElem dpe'.contexts i i.isLt).state ≠ .Inactive

theorem Dpe.OnlyDestroyDeactivates.stays_used {dpe : Dpe n} (hdpe : dpe.OnlyDestroyDeactivates)
    {command : DpeCommand} (hc : ∀ args, command ≠ .DestroyCtx args) (locality : UInt32)
    (inst : DpeInstance n) : StaysUsed inst (dpe.execute command locality inst).2 :=
  fun i => hdpe command locality inst i hc

/-! ## The invariant -/

structure TagsConsistent (pdata : PersistentData n) : Prop where
  tagged_used : ∀ i : Fin n, getElem pdata.context_has_tag i i.isLt = true →
    (getElem pdata.dpe.contexts i i.isLt).state ≠ .Inactive
  untagged_zero : ∀ i : Fin n, getElem pdata.context_has_tag i i.isLt = false →
    getElem pdata.context_tags i i.isLt = 0
  tags_distinct : ∀ i j : Fin n, getElem pdata.context_has_tag i i.isLt = true →
    getElem pdata.context_has_tag j j.isLt = true →
    getElem pdata.context_tags i i.isLt = getElem pdata.context_tags j j.isLt → i = j

theorem TagsConsistent.of_untagged {pdata : PersistentData n}
    (h : ∀ i : Fin n, getElem pdata.context_has_tag i i.isLt = false ∧
      getElem pdata.context_tags i i.isLt = 0) :
    TagsConsistent pdata where
  tagged_used i hi := by simp [(h i).1] at hi
  untagged_zero i _ := (h i).2
  tags_distinct i _ hi := by simp [(h i).1] at hi

/-- `t` has the tag table of `s`, and the contexts `s` uses are still used. -/
structure KeepsTags (s t : PersistentData n) : Prop where
  has_tag_eq : t.context_has_tag = s.context_has_tag
  tags_eq : t.context_tags = s.context_tags
  stays_used : StaysUsed s.dpe t.dpe

@[simp] theorem KeepsTags.refl (s : PersistentData n) : KeepsTags s s :=
  ⟨rfl, rfl, fun _ h => h⟩

theorem KeepsTags.of_dpe {s : PersistentData n} {dpe : DpeInstance n} (h : StaysUsed s.dpe dpe) :
    KeepsTags s { s with dpe := dpe } :=
  ⟨rfl, rfl, h⟩

theorem TagsConsistent.of_keepsTags {s t : PersistentData n} (h : TagsConsistent s)
    (hk : KeepsTags s t) : TagsConsistent t where
  tagged_used i hi := hk.stays_used i (h.tagged_used i (by rw [← hk.has_tag_eq]; exact hi))
  untagged_zero i hi := by
    rw [hk.tags_eq]
    exact h.untagged_zero i (by rw [← hk.has_tag_eq]; exact hi)
  tags_distinct i j hi hj hij := by
    rw [hk.has_tag_eq] at hi hj
    rw [hk.tags_eq] at hij
    exact h.tags_distinct i j hi hj hij

/-! ## The two writers of the table

Tagging an active context with a tag no context has keeps the table consistent, whether or not
the context had a tag: the `RUNTIME_CONTEXT_ALREADY_TAGGED` check is not needed for it. -/

theorem TagsConsistent.tag {s : PersistentData n} (h : TagsConsistent s) {idx : Fin n}
    {tag : UInt32} (hfree : tag_in_use s tag = false)
    (hactive : (getElem s.dpe.contexts idx idx.isLt).state = .Active) :
    TagsConsistent { s with
      context_has_tag := s.context_has_tag.set idx true idx.isLt
      context_tags := s.context_tags.set idx tag idx.isLt } where
  tagged_used i hi := by
    obtain rfl | hi' := eq_or_ne idx i
    · show s.dpe.contexts[idx].state ≠ .Inactive
      rw [hactive]
      decide
    · simp only [Vector.getElem_set_fin, if_neg hi'] at hi
      exact h.tagged_used i hi
  untagged_zero i hi := by
    obtain rfl | hi' := eq_or_ne idx i
    · simp at hi
    · simp only [Vector.getElem_set_fin, if_neg hi'] at hi ⊢
      exact h.untagged_zero i hi
  tags_distinct i j hi hj hij := by
    rw [tag_in_use_eq_false] at hfree
    simp only [Vector.getElem_set_fin] at hi hj hij
    -- the new tag is on `idx` only, and no other context had it
    by_cases hi' : idx = i <;> by_cases hj' : idx = j
    · exact hi'.symm.trans hj'
    · rw [if_pos hi', if_neg hj'] at hij
      rw [if_neg hj'] at hj
      exact absurd hij.symm (hfree j hj)
    · rw [if_neg hi', if_pos hj'] at hij
      rw [if_neg hi'] at hi
      exact absurd hij (hfree i hi)
    · rw [if_neg hi', if_neg hj'] at hij
      rw [if_neg hi'] at hi
      rw [if_neg hj'] at hj
      exact h.tags_distinct i j hi hj hij

/-- Clearing the tags of the inactive contexts restores the invariant after any change of the
contexts. -/
theorem TagsConsistent.clear_tags {s : PersistentData n} (h : TagsConsistent s)
    (dpe : DpeInstance n) :
    TagsConsistent { s with
      dpe := dpe
      context_has_tag :=
        (InvokeDpeCmd.clear_tags_for_inactive_contexts dpe s.context_has_tag s.context_tags).1
      context_tags :=
        (InvokeDpeCmd.clear_tags_for_inactive_contexts dpe s.context_has_tag s.context_tags).2 } where
  tagged_used i hi := by
    simp only [InvokeDpeCmd.clear_tags_for_inactive_contexts, Vector.getElem_ofFn_fin] at hi ⊢
    split at hi
    · simp at hi
    · assumption
  untagged_zero i hi := by
    simp only [InvokeDpeCmd.clear_tags_for_inactive_contexts, Vector.getElem_ofFn_fin] at hi ⊢
    split
    · rfl
    · rw [if_neg ‹_›] at hi
      exact h.untagged_zero i hi
  tags_distinct i j hi hj hij := by
    simp only [InvokeDpeCmd.clear_tags_for_inactive_contexts, Vector.getElem_ofFn_fin] at hi hj hij
    split at hi
    · simp at hi
    · split at hj
      · simp at hj
      · rw [if_neg ‹_›, if_neg ‹_›] at hij
        exact h.tags_distinct i j hi hj hij

/-! ## Each command -/

section Commands

variable {drivers : Drivers n} {s : PersistentData n}

theorem stash_measurement_keepsTags (hdpe : drivers.dpe.OnlyDestroyDeactivates) (user : UInt32)
    (metadata : Vector UInt8 4) (measurement : TciMeasurement) :
    Ends (KeepsTags s)
      (StashMeasurementCmd.stash_measurement drivers user metadata measurement) s := by
  have hk : KeepsTags s { s with dpe := (drivers.dpe.execute (.DeriveContext
      ⟨Vector.replicate 16 0, measurement, measurement_flags, Codec.u32le.decode metadata.toList,
        user⟩) user s.dpe).2 } :=
    .of_dpe (hdpe.stays_used (by simp) user s.dpe)
  simp only [StashMeasurementCmd.stash_measurement, ends_get_bind, ends_failIf_bind,
    ends_ofExcept_bind, ends_set_bind, ends_ite, ends_pure]
  simp [hk]

theorem stash_measurement_execute_keepsTags (hdpe : drivers.dpe.OnlyDestroyDeactivates)
    (user : UInt32) (cmd_args : List UInt8) :
    Ends (KeepsTags s) (StashMeasurementCmd.execute drivers user cmd_args) s := by
  unfold StashMeasurementCmd.execute
  split
  · exact (stash_measurement_keepsTags hdpe _ _ _).bind fun _ _ h => h
  · simp

theorem authorize_and_stash_keepsTags (hdpe : drivers.dpe.OnlyDestroyDeactivates)
    (user : UInt32) (cmd_args : List UInt8) :
    Ends (KeepsTags s) (AuthorizeAndStashCmd.execute drivers user cmd_args) s := by
  unfold AuthorizeAndStashCmd.execute
  split
  · simp only [ends_get_bind, ends_failIf_bind, ends_ite, ends_pure, KeepsTags.refl,
      implies_true, and_true, true_and]
    intro _ _ _
    exact (stash_measurement_keepsTags hdpe _ _ _).bind fun _ _ h => by simpa using h
  · simp

theorem set_auth_manifest_keepsTags (cmd_args : List UInt8) :
    Ends (KeepsTags s) (SetAuthManifestCmd.execute drivers cmd_args) s := by
  refine ends_iff.2 ⟨fun e t H => ?_, fun r t H => ?_⟩
  · rw [SetAuthManifestCmd.execute_eq_error H]
    exact .refl s
  · rw [(SetAuthManifestCmd.execute_eq_ok H).2.1]
    exact ⟨rfl, rfl, fun _ h => h⟩

theorem get_tagged_tci_keepsTags (cmd_args : List UInt8) :
    Ends (KeepsTags s) (GetTaggedTciCmd.execute cmd_args : RtM n MailboxResp) s := by
  unfold GetTaggedTciCmd.execute
  split
  · simp only [ends_get_bind]
    split <;> simp
  · simp

theorem tag_tci_tagsConsistent (hdpe : drivers.dpe.FindsActive) (h : TagsConsistent s)
    (user : UInt32) (cmd_args : List UInt8) :
    Ends TagsConsistent (TagTciCmd.execute drivers user cmd_args) s := by
  unfold TagTciCmd.execute
  split
  · simp only [ends_get_bind, ends_failIf_bind]
    refine ⟨fun _ => h, fun hfree => ?_⟩
    split
    · next idx hpos =>
      simp only [ends_failIf_bind, ends_set_bind, ends_pure]
      exact ⟨fun _ => h, fun _ => h.tag (by simpa using hfree) (hdpe _ _ _ _ hpos)⟩
    · exact h
  · exact h

theorem invoke_dpe_tagsConsistent (hdpe : drivers.dpe.OnlyDestroyDeactivates)
    (h : TagsConsistent s) (user : UInt32) (cmd_args : List UInt8) :
    Ends TagsConsistent (InvokeDpeCmd.execute drivers user cmd_args) s := by
  unfold InvokeDpeCmd.execute
  simp only [ends_failIf_bind, ends_ofExcept_bind, ends_get_bind]
  refine ⟨fun _ => h, fun _ => ⟨fun _ => h, fun _ => ⟨fun _ _ => h, fun _ _ => ?_⟩⟩⟩
  split
  · next command _ =>
    -- every command but `DestroyCtx` keeps the tags and the used contexts
    have hkeep : ∀ c, (∀ args, c ≠ .DestroyCtx args) →
        TagsConsistent { s with dpe := (drivers.dpe.execute c user s.dpe).2 } :=
      fun c hc => h.of_keepsTags (.of_dpe (hdpe.stays_used hc user s.dpe))
    cases command <;> simp [InvokeDpeCmd.execute_dpe_command, h, hkeep, h.clear_tags]
  · exact h

theorem update_dpe_rt_journey_keepsTags :
    Ends (KeepsTags s) (update_dpe_rt_journey drivers) s := by
  simp only [update_dpe_rt_journey, ends_get_bind, ends_ofExcept_bind, ends_set, KeepsTags.refl,
    implies_true, true_and]
  intro root_idx _
  -- only the TCI values of the root context change
  refine .of_dpe fun i hi => ?_
  simp only [Vector.getElem_set_fin]
  split
  · next h => subst h; exact hi
  · exact hi

theorem run_reset_flow_keepsTags (user : UInt32) {reason : ResetReason}
    (hreason : reason ≠ .ColdReset) : Ends (KeepsTags s) (run_reset_flow drivers user reason) s := by
  cases reason with
  | ColdReset => exact absurd rfl hreason
  | UpdateReset =>
    simp only [run_reset_flow, ends_get_bind, ends_ofExcept_bind, KeepsTags.refl, implies_true,
      true_and]
    exact fun _ _ => update_dpe_rt_journey_keepsTags
  | WarmReset => simp [run_reset_flow, check_dpe_rt_journey_unchanged]
  | Unknown => simp [run_reset_flow]

theorem handle_command_tagsConsistent (hdestroy : drivers.dpe.OnlyDestroyDeactivates)
    (hactive : drivers.dpe.FindsActive) (h : TagsConsistent s) (cmd : CommandId) (user : UInt32)
    (cmd_bytes : List UInt8) :
    Ends TagsConsistent (handle_command drivers cmd user cmd_bytes) s := by
  simp only [handle_command, ends_failIf_bind]
  refine ⟨fun _ => h, fun _ => ?_⟩
  cases cmd with
  | INVOKE_DPE => exact invoke_dpe_tagsConsistent hdestroy h user cmd_bytes
  | STASH_MEASUREMENT =>
    exact (stash_measurement_execute_keepsTags hdestroy user cmd_bytes).mono fun _ =>
      h.of_keepsTags
  | DPE_TAG_TCI => exact tag_tci_tagsConsistent hactive h user cmd_bytes
  | DPE_GET_TAGGED_TCI => exact (get_tagged_tci_keepsTags cmd_bytes).mono fun _ => h.of_keepsTags
  | SET_AUTH_MANIFEST => exact (set_auth_manifest_keepsTags cmd_bytes).mono fun _ => h.of_keepsTags
  | AUTHORIZE_AND_STASH =>
    exact (authorize_and_stash_keepsTags hdestroy user cmd_bytes).mono fun _ => h.of_keepsTags

theorem step_tagsConsistent (hdestroy : drivers.dpe.OnlyDestroyDeactivates)
    (hactive : drivers.dpe.FindsActive) (h : TagsConsistent s) :
    ∀ ev : RtEvent, TagsConsistent (step drivers s ev)
  | .command cmd user cmd_bytes =>
    handle_command_tagsConsistent hdestroy hactive h cmd user cmd_bytes
  | .update_reset manifest1 =>
    -- the new manifest is not part of the invariant
    have h' : TagsConsistent { s with manifest1 := manifest1 } :=
      h.of_keepsTags ⟨rfl, rfl, fun _ hi => hi⟩
    (run_reset_flow_keepsTags 0 (by decide)).mono fun _ => h'.of_keepsTags
  | .warm_reset => (run_reset_flow_keepsTags 0 (by decide)).mono fun _ => h.of_keepsTags

end Commands

/-- The cold boot only builds the DPE instance: the table stays empty. -/
theorem initialize_dpe_tagsConsistent (drivers : Drivers n) (user : UInt32)
    (manifest1 : ImageManifest) :
    Ends TagsConsistent (initialize_dpe drivers user) (cold_boot_persistent_data n manifest1) := by
  simp only [initialize_dpe, ends_get_bind, ends_ofExcept_bind, ends_modify]
  simp [TagsConsistent.of_untagged, cold_boot_persistent_data]

/-! ## What the invariant gives -/

theorem validate_context_tags_eq_ok {pdata : PersistentData n} (h : TagsConsistent pdata) :
    validate_context_tags pdata = .ok () := by
  refine Except.forM_eq_ok.2 fun i _ => ?_
  split
  · next hinactive =>
    have huntagged : pdata.context_has_tag[i] = false := by
      cases hi : pdata.context_has_tag[i]
      · rfl
      · exact absurd hinactive (h.tagged_used i hi)
    simp [h.untagged_zero i huntagged, huntagged]
  · rfl

theorem get_tagged_tci_eq_ok {pdata : PersistentData n} (h : TagsConsistent pdata) {i : Fin n}
    {cmd_args : List UInt8} {req : GetTaggedTciReq}
    (hreq : GetTaggedTciReq.codec.ref_from_bytes cmd_args = some req)
    (htagged : getElem pdata.context_has_tag i i.isLt = true)
    (htag : getElem pdata.context_tags i i.isLt = req.tag) :
    (GetTaggedTciCmd.execute cmd_args).run pdata =
      .ok (.GetTaggedTci (getElem pdata.dpe.contexts i i.isLt).tci_cumulative
        (getElem pdata.dpe.contexts i i.isLt).tci_current) pdata := by
  -- the search finds a tagged context with the tag, which the invariant makes `i`
  have hfind : (List.finRange n).find? (fun x =>
      pdata.context_has_tag[x.val] && pdata.context_tags[x.val] == req.tag) = some i := by
    have hsome : ((List.finRange n).find? fun x =>
        pdata.context_has_tag[x.val] && pdata.context_tags[x.val] == req.tag).isSome :=
      List.find?_isSome.mpr ⟨i, List.mem_finRange i, by simpa using ⟨htagged, htag⟩⟩
    obtain ⟨j, hj⟩ := Option.isSome_iff_exists.mp hsome
    have hpj := List.find?_some hj
    simp only [Bool.and_eq_true, beq_iff_eq] at hpj
    rw [hj, h.tags_distinct j i hpj.1 htagged (hpj.2.trans htag.symm)]
  simp [GetTaggedTciCmd.execute, hreq, hfind]

/-! ## Every run -/

/-- A DPE of one context that `new_auto_init` makes the active root, that no command changes, and
whose `get_active_context_pos` finds that context while it is active. -/
def single_dpe : Dpe 1 where
  new_auto_init locality _ measurement :=
    .ok ⟨Vector.replicate 1 ⟨.Active, locality, Context.ROOT_INDEX, .Normal, measurement, measurement⟩⟩
  deserialize _ := none
  get_profile _ := .ok []
  execute _ _ inst := (.ok [], inst)
  get_active_context_pos inst _ _ :=
    if (getElem inst.contexts 0 Nat.one_pos).state = .Active then some ⟨0, Nat.one_pos⟩ else none

/-- Drivers whose DPE is `dpe`, whose crypto environment builds, and whose ROM left no
measurement. -/
def quiet_drivers (dpe : Dpe n) : Drivers n where
  sha384 _ := .error RUNTIME_INTERNAL
  ecc384_verify_r _ _ _ := .error RUNTIME_INTERNAL
  verify_lms_signature _ _ _ := .error RUNTIME_INTERNAL
  lms_verify_enabled := false
  dpe_env := .ok ()
  extend_pcr _ := .ok ()
  rt_journey_pcr := Vector.replicate 48 0
  valid_pauser_hash := .ok (Vector.replicate 48 0)
  measurement_log := []
  dpe := dpe

theorem single_dpe_findsActive : single_dpe.FindsActive := by
  intro inst _ _ i h
  simp only [single_dpe] at h
  split at h
  · next hactive =>
    obtain rfl : (⟨0, Nat.one_pos⟩ : Fin 1) = i := Option.some.inj h
    exact hactive
  · cases h

end Caliptra.Runtime
