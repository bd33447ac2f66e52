import Caliptra.Image.Layout
import Caliptra.Lib.Slice

/-!
# Image authorization manifests (`auth-manifest/types`, `runtime/src/set_auth_manifest.rs`)

The image metadata collection that `SET_AUTH_MANIFEST` stores in the persistent data and that
`AUTHORIZE_AND_STASH` searches, with its `#[repr(C)]` layout, and
`SetAuthManifestCmd::sort_and_check_duplicate_fwid`, the in-place insertion sort run over the
first `entry_count` entries of a request.

`sort_and_check_duplicate_fwid_spec`: the sort succeeds exactly when the `fw_id`s are distinct,
and then it has permuted the slice into strictly increasing `fw_id` order. The insertion step
moves the entry at `j` left past every greater `fw_id` and stops at a smaller one, failing at an
equal one; it meets every entry of the sorted prefix with its `fw_id` on the way, so a duplicate
is always found (`insert_entry_ok`). The outer loop keeps the prefix it has sorted strictly
increasing and the rest of the slice untouched.
-/

namespace Caliptra

open CaliptraError

def AUTH_MANIFEST_IMAGE_METADATA_MAX_COUNT : Nat := 127

/-- `AuthManifestImageMetadata`; `flags` is `ImageMetadataFlags(image_source, ignore_auth_check)`. -/
structure AuthManifestImageMetadata where
  fw_id : UInt32
  flags : UInt32
  digest : Vector UInt8 48
  deriving DecidableEq

def AuthManifestImageMetadata.codec : Codec AuthManifestImageMetadata :=
  (Codec.u32le.prod (Codec.u32le.prod (Codec.u8.vector 48))).map
    (fun p => ⟨p.1, p.2.1, p.2.2⟩) (fun m => (m.fw_id, m.flags, m.digest)) (fun _ => rfl)

/-- `ImageMetadataFlags::ignore_auth_check`: bit 2. -/
def ImageMetadataFlags.ignore_auth_check (flags : UInt32) : Bool := (flags >>> 2) &&& 1 = 1

/-- `AuthManifestImageMetadataCollection`. -/
structure AuthManifestImageMetadataCollection where
  entry_count : UInt32
  image_metadata_list :
    Vector AuthManifestImageMetadata AUTH_MANIFEST_IMAGE_METADATA_MAX_COUNT
  deriving DecidableEq

def AuthManifestImageMetadataCollection.codec : Codec AuthManifestImageMetadataCollection :=
  (Codec.u32le.prod (AuthManifestImageMetadata.codec.vector _)).map
    (fun p => ⟨p.1, p.2⟩) (fun c => (c.entry_count, c.image_metadata_list)) (fun _ => rfl)

/-- `size_of::<AuthManifestImageMetadataCollection>()`. -/
theorem AuthManifestImageMetadataCollection.codec_size :
    AuthManifestImageMetadataCollection.codec.size = 7116 := rfl

namespace AuthManifestImageMetadataCollection

/-- `zeroize()`: every byte of the collection cleared. -/
def zeroize : AuthManifestImageMetadataCollection :=
  ⟨0, Vector.replicate _ ⟨0, 0, Vector.replicate _ 0⟩⟩

/-- `as_mut_bytes()[..buf.len()].copy_from_slice(buf)`: the first `buf.len()` bytes of the
collection overwritten with `buf`, the rest kept. -/
def copy_from_slice (self : AuthManifestImageMetadataCollection) (buf : List UInt8) :
    AuthManifestImageMetadataCollection :=
  codec.decode (buf ++ (codec.encode self).drop buf.length)

theorem image_metadata_list_decode (bs : List UInt8) : (codec.decode bs).image_metadata_list =
    (AuthManifestImageMetadata.codec.vector _).decode (bs.drop 4) := rfl

/-- The entry count of a collection is read from its first four bytes. -/
theorem entry_count_decode_append {hd rest : List UInt8} (hhd : hd.length = 4) :
    (codec.decode (hd ++ rest)).entry_count = Codec.u32le.decode hd := by
  match hd, hhd with
  | [_, _, _, _], _ => rfl

/-- Entries laid out one after the other behind the entry count are read back in order. -/
theorem getElem_decode_append {hd rest : List UInt8} {l : List AuthManifestImageMetadata}
    (hhd : hd.length = 4) {i : Nat} (hi : i < l.length)
    (hmax : i < AUTH_MANIFEST_IMAGE_METADATA_MAX_COUNT) :
    (codec.decode (hd ++ l.flatMap AuthManifestImageMetadata.codec.encode ++ rest)).image_metadata_list[i] = l[i] := by
  have hdrop : (hd ++ l.flatMap AuthManifestImageMetadata.codec.encode ++ rest).drop 4 =
      l.flatMap AuthManifestImageMetadata.codec.encode ++ rest := by
    rw [List.append_assoc, List.drop_left' hhd]
  rw [image_metadata_list_decode, Codec.getElem_decode_vector _ _ hmax, hdrop,
    Codec.drop_flatMap_encode _ l rest i hi, Codec.decode_encode]

/-- A buffer that holds an entry count and then the entries `l`, copied over any collection,
stores that count and has `l` as its first entries. -/
theorem copy_from_slice_entries (c : AuthManifestImageMetadataCollection) {hd rest : List UInt8}
    {l : List AuthManifestImageMetadata} (hhd : hd.length = 4)
    (hl : l.length ≤ AUTH_MANIFEST_IMAGE_METADATA_MAX_COUNT) :
    (c.copy_from_slice (hd ++ l.flatMap AuthManifestImageMetadata.codec.encode ++ rest)).entry_count =
        Codec.u32le.decode hd ∧
      (c.copy_from_slice (hd ++ l.flatMap AuthManifestImageMetadata.codec.encode ++
        rest)).image_metadata_list.toList.take l.length = l := by
  unfold copy_from_slice
  generalize (codec.encode c).drop _ = tail
  rw [List.append_assoc _ rest tail]
  refine ⟨by rw [List.append_assoc, entry_count_decode_append hhd], ?_⟩
  apply List.ext_getElem (by simp; omega)
  intro i hi _
  have hi' : i < l.length ∧ i < AUTH_MANIFEST_IMAGE_METADATA_MAX_COUNT := by simpa using hi
  rw [List.getElem_take, Vector.getElem_toList, getElem_decode_append hhd hi'.1 hi'.2]

end AuthManifestImageMetadataCollection

/-! ## The preamble -/

def AUTH_MANIFEST_MARKER : UInt32 := 0x41544D4E

/-- `AuthManifestFlags::VENDOR_SIGNATURE_REQUIRED`. -/
def VENDOR_SIGNATURE_REQUIRED : UInt32 := 1

structure AuthManifestPubKeys where
  ecc_pub_key : ImageEccPubKey
  lms_pub_key : ImageLmsPublicKey
  deriving DecidableEq

def AuthManifestPubKeys.codec : Codec AuthManifestPubKeys :=
  (ImageEccPubKey.codec.prod (LmsPublicKey.codec _)).map
    (fun p => ⟨p.1, p.2⟩) (fun k => (k.ecc_pub_key, k.lms_pub_key)) (fun _ => rfl)

structure AuthManifestSignatures where
  ecc_sig : ImageEccSignature
  lms_sig : ImageLmsSignature
  deriving DecidableEq

def AuthManifestSignatures.codec : Codec AuthManifestSignatures :=
  (ImageEccSignature.codec.prod (LmsSignature.codec _ _ _)).map
    (fun p => ⟨p.1, p.2⟩) (fun s => (s.ecc_sig, s.lms_sig)) (fun _ => rfl)

/-- `AuthManifestPreamble`. `version` is only hashed, as part of the vendor-signed bytes, and is
read as raw bytes. -/
structure AuthManifestPreamble where
  marker : UInt32
  size : UInt32
  /-- `AuthManifestFlags(VENDOR_SIGNATURE_REQUIRED)`. -/
  flags : UInt32
  vendor_pub_keys : AuthManifestPubKeys
  vendor_pub_keys_signatures : AuthManifestSignatures
  owner_pub_keys : AuthManifestPubKeys
  owner_pub_keys_signatures : AuthManifestSignatures
  vendor_image_metdata_signatures : AuthManifestSignatures
  owner_image_metdata_signatures : AuthManifestSignatures
  deriving DecidableEq

def AuthManifestPreamble.codec : Codec AuthManifestPreamble :=
  (Codec.u32le.prod (Codec.u32le.prod ((Codec.pad 4).prod (Codec.u32le.prod
      (AuthManifestPubKeys.codec.prod (AuthManifestSignatures.codec.prod
        (AuthManifestPubKeys.codec.prod (AuthManifestSignatures.codec.prod
          (AuthManifestSignatures.codec.prod AuthManifestSignatures.codec))))))))).map
    (fun p => ⟨p.1, p.2.1, p.2.2.2.1, p.2.2.2.2.1, p.2.2.2.2.2.1, p.2.2.2.2.2.2.1,
      p.2.2.2.2.2.2.2.1, p.2.2.2.2.2.2.2.2.1, p.2.2.2.2.2.2.2.2.2⟩)
    (fun m => (m.marker, m.size, (), m.flags, m.vendor_pub_keys, m.vendor_pub_keys_signatures,
      m.owner_pub_keys, m.owner_pub_keys_signatures, m.vendor_image_metdata_signatures,
      m.owner_image_metdata_signatures)) (fun _ => rfl)

namespace AuthManifestPreamble

/-- `size_of::<AuthManifestPreamble>()`. -/
theorem codec_size : codec.size = 7168 := rfl

/-- `vendor_signed_data_range`: `version..=vendor_pub_keys`. -/
def vendor_signed_data_range : RangeU32 := ⟨8, 160⟩

/-- `owner_pub_keys_range`. -/
def owner_pub_keys_range : RangeU32 := ⟨1876, 2020⟩

end AuthManifestPreamble

namespace SetAuthManifestCmd

/-- One run of the inner `while j > 0` loop: the entry at `j` is swapped left while its left
neighbour has a greater `fw_id`. -/
def insert_entry (slice : List AuthManifestImageMetadata) :
    Nat → CaliptraResult (List AuthManifestImageMetadata)
  | 0 => .ok slice
  | j + 1 =>
    if h : j + 1 < slice.length then
      match compare slice[j].fw_id slice[j + 1].fw_id with
      | .gt => insert_entry (slice.swapNext j) j
      | .eq => .error RUNTIME_AUTH_MANIFEST_IMAGE_METADATA_LIST_DUPLICATE_FIRMWARE_ID
      | .lt => .ok slice
    else .ok slice

/-- `sort_and_check_duplicate_fwid`: `for i in 1..slice.len()`, the inner loop from `j = i`. The
sorted slice is returned; on an error the half-sorted slice is dropped by every caller. -/
def sort_and_check_duplicate_fwid (slice : List AuthManifestImageMetadata) :
    CaliptraResult (List AuthManifestImageMetadata) :=
  (List.range' 1 (slice.length - 1)).foldlM insert_entry slice

/-! ## The insertion step -/

/-- Strictly increasing by `fw_id`. -/
def FwIdSorted (l : List AuthManifestImageMetadata) : Prop := l.Pairwise (·.fw_id < ·.fw_id)

theorem FwIdSorted.append_single {l : List AuthManifestImageMetadata} {a : AuthManifestImageMetadata}
    (hl : FwIdSorted l) (ha : ∀ e ∈ l, e.fw_id < a.fw_id) : FwIdSorted (l ++ [a]) :=
  List.pairwise_append.mpr ⟨hl, List.pairwise_singleton _ _, fun e he b hb => by
    rw [List.mem_singleton.mp hb]
    exact ha e he⟩

/-- Two lists with the same suffix from `k` on are permutations of each other exactly on their
first `k` entries. -/
theorem perm_take_of_drop_eq {l l' : List AuthManifestImageMetadata} {k : Nat} (hp : l.Perm l')
    (hd : l.drop k = l'.drop k) : (l.take k).Perm (l'.take k) := by
  rw [← List.take_append_drop k l, ← List.take_append_drop k l', hd] at hp
  exact List.perm_append_right_iff _ |>.mp hp

/-- The insertion step on a slice whose first `j` entries are strictly increasing, none with the
`fw_id` of the entry at `j`: it succeeds, permutes the slice, leaves the first `j + 1` entries
strictly increasing and the rest untouched. -/
theorem insert_entry_ok {slice : List AuthManifestImageMetadata} {j : Nat} (hj : j < slice.length)
    (hsorted : FwIdSorted (slice.take j))
    (hfresh : ∀ e ∈ slice.take j, e.fw_id ≠ slice[j].fw_id) :
    ∃ s', insert_entry slice j = .ok s' ∧ s'.Perm slice ∧ FwIdSorted (s'.take (j + 1)) ∧
      s'.drop (j + 1) = slice.drop (j + 1) := by
  induction j generalizing slice with
  | zero =>
    refine ⟨slice, rfl, List.Perm.refl _, ?_, rfl⟩
    rw [List.take_one]
    cases slice.head? <;> simp [FwIdSorted]
  | succ j ih =>
    have htake_succ : slice.take (j + 1) = slice.take j ++ [slice[j]] := by
      rw [List.take_succ_eq_append_getElem (by omega)]
    -- the left neighbour is above everything before it
    have hbelow : ∀ e ∈ slice.take j, e.fw_id < slice[j].fw_id := by
      rw [htake_succ] at hsorted
      intro e he
      exact (List.pairwise_append.mp hsorted).2.2 e he _ (List.mem_singleton_self _)
    simp only [insert_entry, dif_pos hj]
    cases hcmp : compare slice[j].fw_id slice[j + 1].fw_id with
    | gt =>
      -- the entry moves one place left and the step continues from `j`
      have hgt : slice[j + 1].fw_id < slice[j].fw_id := Std.compare_eq_gt.mp hcmp
      have hlen := List.length_swapNext hj
      have htake := List.take_swapNext hj
      obtain ⟨s', hs', hperm, hsorted', hdrop⟩ := @ih (slice.swapNext j) (by omega)
        (by rw [htake]; exact hsorted.sublist (List.take_sublist_take_left (by omega)))
        (by
          rw [htake, List.getElem_swapNext hj]
          intro e he
          exact hfresh e (List.take_sublist_take_left (by omega) |>.subset he))
      have hs'drop : s'.drop (j + 1) = slice[j] :: slice.drop (j + 2) := by
        rw [hdrop, List.drop_swapNext hj]
      refine ⟨s', hs', hperm.trans (List.swapNext_perm hj), ?_, ?_⟩
      · -- everything the step left before the moved entry is below it
        have hs'take : s'.take (j + 2) = s'.take (j + 1) ++ [slice[j]] := by
          rw [show s'.take (j + 2) = s'.take (j + 1 + 1) from rfl, List.take_add, hs'drop]
          rfl
        have hts : (slice.swapNext j).take (j + 1) = slice.take j ++ [slice[j + 1]] := by
          rw [List.take_succ_eq_append_getElem (by omega), htake, List.getElem_swapNext hj]
        have hbefore : (s'.take (j + 1)).Perm (slice.take j ++ [slice[j + 1]]) := by
          rw [← hts]
          exact perm_take_of_drop_eq hperm hdrop
        rw [hs'take]
        apply FwIdSorted.append_single hsorted'
        intro e he
        rcases List.mem_append.mp (hbefore.subset he) with he | he
        · exact hbelow e he
        · rw [List.mem_singleton.mp he]
          exact hgt
      · rw [← List.drop_drop, hs'drop]
        rfl
    | eq =>
      exact absurd (Std.LawfulEqCmp.eq_of_compare hcmp)
        (hfresh _ (by rw [htake_succ]; exact List.mem_append_right _ (List.mem_singleton_self _)))
    | lt =>
      have hlt : slice[j].fw_id < slice[j + 1].fw_id := Std.compare_eq_lt.mp hcmp
      refine ⟨slice, rfl, List.Perm.refl _, ?_, rfl⟩
      rw [List.take_succ_eq_append_getElem hj]
      apply FwIdSorted.append_single hsorted
      intro e he
      rw [htake_succ] at he
      rcases List.mem_append.mp he with he | he
      · exact UInt32.lt_trans (hbelow e he) hlt
      · rw [List.mem_singleton.mp he]
        exact hlt

/-- The insertion step on a slice with a strictly increasing prefix fails when an entry of the
prefix has the `fw_id` of the entry at `j`: the entry moves left past the greater ones and meets
it. -/
theorem insert_entry_error {slice : List AuthManifestImageMetadata} {j : Nat}
    (hj : j < slice.length) (hsorted : FwIdSorted (slice.take j))
    (hdup : ∃ e ∈ slice.take j, e.fw_id = slice[j].fw_id) :
    ∃ err, insert_entry slice j = .error err := by
  induction j generalizing slice with
  | zero =>
    obtain ⟨e, he, -⟩ := hdup
    simp at he
  | succ j ih =>
    obtain ⟨e, he, heq⟩ := hdup
    have htake_succ : slice.take (j + 1) = slice.take j ++ [slice[j]] := by
      rw [List.take_succ_eq_append_getElem (by omega)]
    have hbelow : ∀ e ∈ slice.take j, e.fw_id < slice[j].fw_id := by
      rw [htake_succ] at hsorted
      intro e he
      exact (List.pairwise_append.mp hsorted).2.2 e he _ (List.mem_singleton_self _)
    rw [htake_succ] at he
    simp only [insert_entry, dif_pos hj]
    cases hcmp : compare slice[j].fw_id slice[j + 1].fw_id with
    | gt =>
      -- the equal entry is not the greater neighbour, so it lies further left
      have hgt : slice[j + 1].fw_id < slice[j].fw_id := Std.compare_eq_gt.mp hcmp
      have htake := List.take_swapNext hj
      rcases List.mem_append.mp he with he | he
      · exact @ih (slice.swapNext j) (by rw [List.length_swapNext hj]; omega)
          (by rw [htake]; exact hsorted.sublist (List.take_sublist_take_left (by omega)))
          ⟨e, by rw [htake]; exact he, by rw [List.getElem_swapNext hj]; exact heq⟩
      · rw [List.mem_singleton.mp he] at heq
        exact absurd heq (UInt32.ne_of_lt hgt).symm
    | eq => exact ⟨_, rfl⟩
    | lt =>
      -- every entry of the prefix is below the neighbour, which is below the entry
      have hlt : slice[j].fw_id < slice[j + 1].fw_id := Std.compare_eq_lt.mp hcmp
      rcases List.mem_append.mp he with he | he
      · exact absurd heq (UInt32.ne_of_lt (UInt32.lt_trans (hbelow e he) hlt))
      · rw [List.mem_singleton.mp he] at heq
        exact absurd heq (UInt32.ne_of_lt hlt)

/-- A successful insertion step found no duplicate of the entry at `j` in the prefix. -/
theorem fresh_of_insert_entry_ok {slice s' : List AuthManifestImageMetadata} {j : Nat}
    (hj : j < slice.length) (hsorted : FwIdSorted (slice.take j))
    (H : insert_entry slice j = .ok s') : ∀ e ∈ slice.take j, e.fw_id ≠ slice[j].fw_id := by
  intro e he heq
  obtain ⟨err, herr⟩ := insert_entry_error hj hsorted ⟨e, he, heq⟩
  rw [H] at herr
  cases herr

/-! ## The outer loop -/

/-- The outer loop's invariant before step `k`: a permutation of the input whose first `k`
entries are strictly increasing, with the entries from `k` on untouched. -/
structure SortedUpTo (slice s : List AuthManifestImageMetadata) (k : Nat) : Prop where
  perm : s.Perm slice
  sorted : FwIdSorted (s.take k)
  rest : s.drop k = slice.drop k

/-- One step of the outer loop keeps the invariant. -/
theorem SortedUpTo.step {slice s s' : List AuthManifestImageMetadata} {k : Nat}
    (hk : k < slice.length) (inv : SortedUpTo slice s k) (H : insert_entry s k = .ok s') :
    SortedUpTo slice s' (k + 1) := by
  have hks : k < s.length := by rw [inv.perm.length_eq]; exact hk
  obtain ⟨s'', hs'', hperm, hsorted, hdrop⟩ :=
    insert_entry_ok hks inv.sorted (fresh_of_insert_entry_ok hks inv.sorted H)
  rw [H] at hs''
  cases hs''
  refine ⟨hperm.trans inv.perm, hsorted, ?_⟩
  rw [hdrop, ← List.drop_drop, inv.rest, List.drop_drop]

/-- Entries at different places of a slice with distinct `fw_id`s have different `fw_id`s. -/
theorem fw_id_ne_of_mem_take {s : List AuthManifestImageMetadata}
    (hnodup : (s.map (·.fw_id)).Nodup) {k : Nat} (hk : k < s.length) :
    ∀ e ∈ s.take k, e.fw_id ≠ s[k].fw_id := by
  intro e he heq
  obtain ⟨i, hi, rfl⟩ := List.getElem_of_mem he
  have hik : i < k := by simp at hi; omega
  have hi' : i < (s.map (·.fw_id)).length := by simp; omega
  have hk' : k < (s.map (·.fw_id)).length := by simp; omega
  have hmap : (s.map (·.fw_id))[i] = (s.map (·.fw_id))[k] := by
    simpa [List.getElem_take] using heq
  have := (List.Nodup.getElem_inj_iff hnodup).mp hmap
  omega

theorem sort_loop_ok {slice : List AuthManifestImageMetadata}
    (hnodup : (slice.map (·.fw_id)).Nodup) (m : Nat) :
    ∀ k s, (m = 0 ∨ k + m ≤ slice.length) → SortedUpTo slice s k →
      ∃ s', (List.range' k m).foldlM insert_entry s = .ok s' ∧ SortedUpTo slice s' (k + m) := by
  induction m with
  | zero => exact fun k s _ inv => ⟨s, rfl, inv⟩
  | succ m ih =>
    intro k s hkm inv
    have hks : k < s.length := by rw [inv.perm.length_eq]; omega
    have hnd : (s.map (·.fw_id)).Nodup := (inv.perm.map _).nodup_iff.mpr hnodup
    obtain ⟨s1, hs1, -, -, -⟩ :=
      insert_entry_ok hks inv.sorted (fw_id_ne_of_mem_take hnd hks)
    obtain ⟨s', hs', inv'⟩ := ih (k + 1) s1 (.inr (by omega)) (inv.step (by omega) hs1)
    refine ⟨s', ?_, by rwa [show k + (m + 1) = k + 1 + m by omega]⟩
    rw [List.range'_succ, List.foldlM_cons, hs1]
    exact hs'

theorem sort_loop_inv {slice : List AuthManifestImageMetadata} (m : Nat) :
    ∀ k s s', (m = 0 ∨ k + m ≤ slice.length) → SortedUpTo slice s k →
      (List.range' k m).foldlM insert_entry s = .ok s' → SortedUpTo slice s' (k + m) := by
  induction m with
  | zero =>
    intro k s s' _ inv H
    cases H
    exact inv
  | succ m ih =>
    intro k s s' hkm inv H
    rw [List.range'_succ, List.foldlM_cons] at H
    obtain ⟨s1, hs1, H⟩ := Except.bind_eq_ok.mp H
    rw [show k + (m + 1) = k + 1 + m by omega]
    exact ih (k + 1) s1 s' (.inr (by omega)) (inv.step (by omega) hs1) H

/-- The loop starts with the first entry as its sorted prefix and ends with the whole slice. -/
theorem sortedUpTo_start (slice : List AuthManifestImageMetadata) : SortedUpTo slice slice 1 := by
  refine ⟨List.Perm.refl _, ?_, rfl⟩
  rw [List.take_one]
  cases slice.head? <;> simp [FwIdSorted]

theorem SortedUpTo.whole {slice s : List AuthManifestImageMetadata}
    (inv : SortedUpTo slice s (1 + (slice.length - 1))) : s.Perm slice ∧ FwIdSorted s := by
  have h := inv.sorted
  rw [List.take_of_length_le (by rw [inv.perm.length_eq]; omega)] at h
  exact ⟨inv.perm, h⟩

/-- A sort that succeeds has permuted the slice into strictly increasing `fw_id` order. -/
theorem sort_and_check_duplicate_fwid_sorted {slice s' : List AuthManifestImageMetadata}
    (H : sort_and_check_duplicate_fwid slice = .ok s') : s'.Perm slice ∧ FwIdSorted s' :=
  (sort_loop_inv (slice.length - 1) 1 slice s' (by omega) (sortedUpTo_start slice) H).whole

theorem sort_and_check_duplicate_fwid_spec (slice : List AuthManifestImageMetadata) :
    ((∃ s', sort_and_check_duplicate_fwid slice = .ok s') ↔ (slice.map (·.fw_id)).Nodup) ∧
      ∀ s', sort_and_check_duplicate_fwid slice = .ok s' → s'.Perm slice ∧ FwIdSorted s' := by
  refine ⟨⟨fun ⟨s', H⟩ => ?_, fun hnodup => ?_⟩, fun s' => sort_and_check_duplicate_fwid_sorted⟩
  · -- a strictly increasing permutation has distinct `fw_id`s
    obtain ⟨hperm, hsorted⟩ := sort_and_check_duplicate_fwid_sorted H
    have hnd : (s'.map (·.fw_id)).Nodup :=
      (List.pairwise_map.mpr hsorted).imp UInt32.ne_of_lt
    exact (hperm.map _).nodup_iff.mp hnd
  · obtain ⟨s', H, -⟩ :=
      sort_loop_ok hnodup (slice.length - 1) 1 slice (by omega) (sortedUpTo_start slice)
    exact ⟨s', H⟩

end SetAuthManifestCmd

end Caliptra
