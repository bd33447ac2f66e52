import Caliptra.Image.Types
import Caliptra.Lib.Codec

/-!
# The in-memory layout of the manifest

The manifest types are `#[repr(C)]` with no padding, and the ROM reads a manifest by copying the
mailbox bytes over it (`copy_request(manifest.as_mut_bytes())`): the manifest is the
reinterpretation of 5884 bytes. `ImageManifest.codec` is that layout, built field by field from
the types of `image/types` and `lms-types`. Words are little-endian, as the hart stores a `u32`;
the LMS algorithm types and `q` are `U32<BigEndian>`.

The fields that the model leaves out (the header's `revision`, `vendor_data` and `owner_data`,
the TOC entries' `revision`, the preamble's `_rsvd`) keep their place in the layout as bytes
that are skipped on reading and written as zeros.
-/

namespace Caliptra

/-! ## LMS types -/

def LmsAlgorithmType.codec : Codec LmsAlgorithmType :=
  Codec.u32be.map (fun v => ⟨v⟩) LmsAlgorithmType.val (fun _ => rfl)

def LmotsAlgorithmType.codec : Codec LmotsAlgorithmType :=
  Codec.u32be.map (fun v => ⟨v⟩) LmotsAlgorithmType.val (fun _ => rfl)

/-- `[U32<LittleEndian>; N]`, and also `[u32; N]` as the hart stores it. -/
def words (n : Nat) : Codec (Vector UInt32 n) := Codec.u32le.vector n

def LmsPublicKey.codec (N : Nat) : Codec (LmsPublicKey N) :=
  (LmsAlgorithmType.codec.prod (LmotsAlgorithmType.codec.prod
      ((Codec.u8.vector 16).prod (words N)))).map
    (fun p => ⟨p.1, p.2.1, p.2.2.1, p.2.2.2⟩)
    (fun k => (k.tree_type, k.otstype, k.id, k.digest)) (fun _ => rfl)

def LmotsSignature.codec (N P : Nat) : Codec (LmotsSignature N P) :=
  (LmotsAlgorithmType.codec.prod ((words N).prod ((words N).vector P))).map
    (fun p => ⟨p.1, p.2.1, p.2.2⟩) (fun s => (s.ots_type, s.nonce, s.y)) (fun _ => rfl)

def LmsSignature.codec (N P H : Nat) : Codec (LmsSignature N P H) :=
  (Codec.u32be.prod ((LmotsSignature.codec N P).prod
      (LmsAlgorithmType.codec.prod ((words N).vector H)))).map
    (fun p => ⟨p.1, p.2.1, p.2.2.1, p.2.2.2⟩)
    (fun s => (s.q, s.ots, s.tree_type, s.tree_path)) (fun _ => rfl)

/-! ## The manifest -/

def ImageEccPubKey.codec : Codec ImageEccPubKey :=
  ((words _).prod (words _)).map (fun p => ⟨p.1, p.2⟩) (fun k => (k.x, k.y)) (fun _ => rfl)

def ImageEccSignature.codec : Codec ImageEccSignature :=
  ((words _).prod (words _)).map (fun p => ⟨p.1, p.2⟩) (fun s => (s.r, s.s)) (fun _ => rfl)

def ImageVendorPubKeys.codec : Codec ImageVendorPubKeys :=
  ((ImageEccPubKey.codec.vector _).prod ((LmsPublicKey.codec _).vector _)).map
    (fun p => ⟨p.1, p.2⟩) (fun k => (k.ecc_pub_keys, k.lms_pub_keys)) (fun _ => rfl)

def ImageOwnerPubKeys.codec : Codec ImageOwnerPubKeys :=
  (ImageEccPubKey.codec.prod (LmsPublicKey.codec _)).map
    (fun p => ⟨p.1, p.2⟩) (fun k => (k.ecc_pub_key, k.lms_pub_key)) (fun _ => rfl)

def ImageSignatures.codec : Codec ImageSignatures :=
  (ImageEccSignature.codec.prod (LmsSignature.codec _ _ _)).map
    (fun p => ⟨p.1, p.2⟩) (fun s => (s.ecc_sig, s.lms_sig)) (fun _ => rfl)

/-- `ImagePreamble`, with its trailing `_rsvd: [u32; 2]`. -/
def ImagePreamble.codec : Codec ImagePreamble :=
  (ImageVendorPubKeys.codec.prod (Codec.u32le.prod (Codec.u32le.prod (ImageSignatures.codec.prod
      (ImageOwnerPubKeys.codec.prod (ImageSignatures.codec.prod (Codec.pad 8))))))).map
    (fun p => ⟨p.1, p.2.1, p.2.2.1, p.2.2.2.1, p.2.2.2.2.1, p.2.2.2.2.2.1⟩)
    (fun h => (h.vendor_pub_keys, h.vendor_ecc_pub_key_idx, h.vendor_lms_pub_key_idx,
      h.vendor_sigs, h.owner_pub_keys, h.owner_sigs, ())) (fun _ => rfl)

/-- `ImageHeader`: `revision: [u32; 2]` first, and the 40-byte `VendorSignedData` and
`OwnerSignedData` last. -/
def ImageHeader.codec : Codec ImageHeader :=
  ((Codec.pad 8).prod (Codec.u32le.prod (Codec.u32le.prod (Codec.u32le.prod (Codec.u32le.prod
      (Codec.u32le.prod ((words _).prod ((Codec.pad 40).prod (Codec.pad 40))))))))).map
    (fun p => ⟨p.2.1, p.2.2.1, p.2.2.2.1, p.2.2.2.2.1, p.2.2.2.2.2.1, p.2.2.2.2.2.2.1⟩)
    (fun h => ((), h.vendor_ecc_pub_key_idx, h.vendor_lms_pub_key_idx, h.flags, h.toc_len,
      h.pl0_pauser, h.toc_digest, (), ())) (fun _ => rfl)

/-- `ImageTocEntry`, with `revision: [u8; 20]` after `image_type`. -/
def ImageTocEntry.codec : Codec ImageTocEntry :=
  (Codec.u32le.prod (Codec.u32le.prod ((Codec.pad 20).prod (Codec.u32le.prod (Codec.u32le.prod
      (Codec.u32le.prod (Codec.u32le.prod (Codec.u32le.prod (Codec.u32le.prod (Codec.u32le.prod
        (words _))))))))))).map
    (fun p => ⟨p.1, p.2.1, p.2.2.2.1, p.2.2.2.2.1, p.2.2.2.2.2.1, p.2.2.2.2.2.2.1,
      p.2.2.2.2.2.2.2.1, p.2.2.2.2.2.2.2.2.1, p.2.2.2.2.2.2.2.2.2.1, p.2.2.2.2.2.2.2.2.2.2⟩)
    (fun e => (e.id, e.image_type, (), e.version, e.svn, e.reserved, e.load_addr,
      e.entry_point, e.offset, e.size, e.digest)) (fun _ => rfl)

def ImageManifest.codec : Codec ImageManifest :=
  (Codec.u32le.prod (Codec.u32le.prod (ImagePreamble.codec.prod (ImageHeader.codec.prod
      (ImageTocEntry.codec.prod ImageTocEntry.codec))))).map
    (fun p => ⟨p.1, p.2.1, p.2.2.1, p.2.2.2.1, p.2.2.2.2.1, p.2.2.2.2.2⟩)
    (fun m => (m.marker, m.size, m.preamble, m.header, m.fmc, m.runtime)) (fun _ => rfl)

namespace ImageManifest

/-- The layout has the size of the Rust type. -/
theorem codec_size : codec.size = IMAGE_MANIFEST_BYTE_SIZE := rfl

theorem extract_append_middle {α : Type} (a b c : List α) {i j : Nat} (hi : i = a.length)
    (hj : j = a.length + b.length) : (a ++ b ++ c).extract i j = b := by
  subst hi hj
  simp

/-- The byte ranges the verifier hashes (`vendor_pub_keys_range`, `owner_pub_key_range`,
`toc_range`) hold the fields they are named after. -/
theorem extract_encode_ranges (m : ImageManifest) :
    (codec.encode m).extract vendor_pub_keys_range.start.toNat vendor_pub_keys_range.end_.toNat =
        ImageVendorPubKeys.codec.encode m.preamble.vendor_pub_keys ∧
      (codec.encode m).extract owner_pub_key_range.start.toNat owner_pub_key_range.end_.toNat =
        ImageOwnerPubKeys.codec.encode m.preamble.owner_pub_keys ∧
      (codec.encode m).extract header_range.start.toNat header_range.end_.toNat =
        ImageHeader.codec.encode m.header ∧
      (codec.encode m).extract toc_range.start.toNat toc_range.end_.toNat =
        ImageTocEntry.codec.encode m.fmc ++ ImageTocEntry.codec.encode m.runtime := by
  -- the encoding cut where each range starts and ends
  have hv : codec.encode m = (Codec.u32le.encode m.marker ++ Codec.u32le.encode m.size) ++
      ImageVendorPubKeys.codec.encode m.preamble.vendor_pub_keys ++
      (Codec.u32le.encode m.preamble.vendor_ecc_pub_key_idx ++
        Codec.u32le.encode m.preamble.vendor_lms_pub_key_idx ++
        ImageSignatures.codec.encode m.preamble.vendor_sigs ++
        ImageOwnerPubKeys.codec.encode m.preamble.owner_pub_keys ++
        ImageSignatures.codec.encode m.preamble.owner_sigs ++ (Codec.pad 8).encode () ++
        ImageHeader.codec.encode m.header ++ ImageTocEntry.codec.encode m.fmc ++
        ImageTocEntry.codec.encode m.runtime) := by
    simp [codec, ImagePreamble.codec]
  have ho : codec.encode m = (Codec.u32le.encode m.marker ++ Codec.u32le.encode m.size ++
      ImageVendorPubKeys.codec.encode m.preamble.vendor_pub_keys ++
      Codec.u32le.encode m.preamble.vendor_ecc_pub_key_idx ++
      Codec.u32le.encode m.preamble.vendor_lms_pub_key_idx ++
      ImageSignatures.codec.encode m.preamble.vendor_sigs) ++
      ImageOwnerPubKeys.codec.encode m.preamble.owner_pub_keys ++
      (ImageSignatures.codec.encode m.preamble.owner_sigs ++ (Codec.pad 8).encode () ++
        ImageHeader.codec.encode m.header ++ ImageTocEntry.codec.encode m.fmc ++
        ImageTocEntry.codec.encode m.runtime) := by
    simp [codec, ImagePreamble.codec]
  have hh : codec.encode m = (Codec.u32le.encode m.marker ++ Codec.u32le.encode m.size ++
      ImagePreamble.codec.encode m.preamble) ++ ImageHeader.codec.encode m.header ++
      (ImageTocEntry.codec.encode m.fmc ++ ImageTocEntry.codec.encode m.runtime) := by
    simp [codec]
  have ht : codec.encode m = (Codec.u32le.encode m.marker ++ Codec.u32le.encode m.size ++
      ImagePreamble.codec.encode m.preamble ++ ImageHeader.codec.encode m.header) ++
      (ImageTocEntry.codec.encode m.fmc ++ ImageTocEntry.codec.encode m.runtime) ++ [] := by
    simp [codec]
  refine ⟨?_, ?_, ?_, ?_⟩
  · rw [hv, extract_append_middle] <;> simp <;> rfl
  · rw [ho, extract_append_middle] <;> simp <;> rfl
  · rw [hh, extract_append_middle] <;> simp <;> rfl
  · rw [ht, extract_append_middle] <;> simp <;> rfl

end ImageManifest

end Caliptra
