import Caliptra.Lib.Bytes

/-!
# Fixed-size byte layouts

A `Codec α` lays each value of `α` out as a byte string of one fixed length, the way a
`#[repr(C)]` type with no padding lies in memory, and reads it back. Reading (`decode`) looks
at the front of a buffer only, so that a value can be read from a longer buffer; the laws say
that every encoding has the layout's length and that reading an encoding back, whatever
follows it, gives the value.

The combinators follow the shapes of such types: bytes and 32-bit words of either byte order,
consecutive fields (`prod`), arrays (`vector`), a record read through its fields (`map`), and
bytes that the reader skips (`pad`).
-/

/-- A fixed-size byte layout of the values of `α`. -/
structure Codec (α : Type) where
  size : Nat
  encode : α → List UInt8
  decode : List UInt8 → α
  length_encode : ∀ a, (encode a).length = size
  decode_encode : ∀ a rest, decode (encode a ++ rest) = a

namespace Codec

variable {α β : Type}

attribute [simp] length_encode decode_encode

@[simp] theorem decode_encode_self (c : Codec α) (a : α) : c.decode (c.encode a) = a := by
  simpa using c.decode_encode a []

theorem encode_injective (c : Codec α) : Function.Injective c.encode := fun a b h => by
  rw [← c.decode_encode_self a, h, c.decode_encode_self]

/-! ## Scalars -/

/-- One byte. -/
def u8 : Codec UInt8 where
  size := 1
  encode b := [b]
  decode bs := bs.headD 0
  length_encode _ := rfl
  decode_encode _ _ := rfl

/-- A 32-bit word, least significant byte first. -/
def u32le : Codec UInt32 where
  size := 4
  encode := Bytes.le32
  decode bs := Bytes.ofLe32 (bs.getD 0 0) (bs.getD 1 0) (bs.getD 2 0) (bs.getD 3 0)
  length_encode _ := rfl
  decode_encode w _ := Bytes.ofLe32_le32 w

/-- A 32-bit word, most significant byte first. -/
def u32be : Codec UInt32 where
  size := 4
  encode := Bytes.be32
  decode bs := Bytes.ofBe32 (bs.getD 0 0) (bs.getD 1 0) (bs.getD 2 0) (bs.getD 3 0)
  length_encode _ := rfl
  decode_encode w _ := Bytes.ofBe32_be32 w

/-- `n` bytes the reader skips; they are written as zeros. -/
def pad (n : Nat) : Codec Unit where
  size := n
  encode _ := List.replicate n 0
  decode _ := ()
  length_encode _ := List.length_replicate
  decode_encode _ _ := rfl

/-! ## Records and arrays -/

/-- Two consecutive fields. -/
def prod (c : Codec α) (d : Codec β) : Codec (α × β) where
  size := c.size + d.size
  encode p := c.encode p.1 ++ d.encode p.2
  decode bs := (c.decode bs, d.decode (bs.drop c.size))
  length_encode p := by simp
  decode_encode p rest := by
    rw [List.append_assoc, c.decode_encode, List.drop_left' (c.length_encode p.1),
      d.decode_encode]

/-- A layout read through an isomorphism: a record laid out as the tuple of its fields. -/
def map (c : Codec α) (f : α → β) (g : β → α) (hfg : ∀ b, f (g b) = b) : Codec β where
  size := c.size
  encode b := c.encode (g b)
  decode bs := f (c.decode bs)
  length_encode b := c.length_encode (g b)
  decode_encode b rest := by rw [c.decode_encode, hfg]

/-- Element `i` of an array's encoding starts `i * size` bytes in. -/
theorem drop_flatMap_encode (c : Codec α) (l : List α) (rest : List UInt8) :
    ∀ i (hi : i < l.length), (l.flatMap c.encode ++ rest).drop (i * c.size) =
      c.encode l[i] ++ ((l.drop (i + 1)).flatMap c.encode ++ rest) := by
  induction l with
  | nil => intro i hi; simp at hi
  | cons a l ih =>
    intro i hi
    cases i with
    | zero => simp
    | succ i =>
      have hi' : i < l.length := by simpa using hi
      rw [List.flatMap_cons, List.append_assoc, Nat.succ_mul, Nat.add_comm, ← List.drop_drop,
        List.drop_left' (c.length_encode a), ih i hi']
      simp

/-- An array of `n` elements, one after the other. -/
def vector (c : Codec α) (n : Nat) : Codec (Vector α n) where
  size := n * c.size
  encode v := v.toList.flatMap c.encode
  decode bs := Vector.ofFn fun i => c.decode (bs.drop (i * c.size))
  length_encode v := by simp [List.length_flatMap]
  decode_encode v rest := by
    ext i hi
    rw [Vector.getElem_ofFn, drop_flatMap_encode c v.toList rest i (by simpa using hi),
      c.decode_encode, Vector.getElem_toList]

@[simp] theorem getElem_decode_vector (c : Codec α) {n : Nat} (bs : List UInt8) {i : Nat}
    (hi : i < n) : ((c.vector n).decode bs)[i] = c.decode (bs.drop (i * c.size)) :=
  Vector.getElem_ofFn hi

/-- `T::ref_from_bytes(bytes)`: the bytes read in place as a `T`, when there are exactly as many
as the layout has. -/
def ref_from_bytes (c : Codec α) (bs : List UInt8) : Option α :=
  if bs.length = c.size then some (c.decode bs) else none

@[simp] theorem ref_from_bytes_encode (c : Codec α) (a : α) :
    c.ref_from_bytes (c.encode a) = some a := by
  simp [ref_from_bytes]

@[simp] theorem size_prod (c : Codec α) (d : Codec β) : (c.prod d).size = c.size + d.size := rfl

@[simp] theorem size_map (c : Codec α) (f : α → β) (g hfg) : (c.map f g hfg).size = c.size := rfl

@[simp] theorem size_vector (c : Codec α) (n : Nat) : (c.vector n).size = n * c.size := rfl

@[simp] theorem encode_prod (c : Codec α) (d : Codec β) (p : α × β) :
    (c.prod d).encode p = c.encode p.1 ++ d.encode p.2 := rfl

@[simp] theorem encode_map (c : Codec α) (f : α → β) (g hfg) (b : β) :
    (c.map f g hfg).encode b = c.encode (g b) := rfl

end Codec
