import Caliptra.Lib.Bytes

/-!
# LMS key and signature types (`lms-types`)

The algorithm types are `U32<BigEndian>` newtypes, so every 32-bit value is a possible
algorithm type; the named ones are constants. An array `[U32<LittleEndian>; N]` is kept as
the values of its words: its bytes in memory are the little-endian bytes of each value
(`Bytes.le32`), and `HashValue::from` reads them big-endian by swapping each word.
-/

namespace Caliptra

/-- `LmsAlgorithmType(U32<BigEndian>)`. -/
structure LmsAlgorithmType where
  val : UInt32
  deriving DecidableEq, Repr

namespace LmsAlgorithmType

def LmsReserved : LmsAlgorithmType := ⟨0⟩
def LmsSha256N32H5 : LmsAlgorithmType := ⟨5⟩
def LmsSha256N32H10 : LmsAlgorithmType := ⟨6⟩
def LmsSha256N32H15 : LmsAlgorithmType := ⟨7⟩
def LmsSha256N32H20 : LmsAlgorithmType := ⟨8⟩
def LmsSha256N32H25 : LmsAlgorithmType := ⟨9⟩
def LmsSha256N24H5 : LmsAlgorithmType := ⟨10⟩
def LmsSha256N24H10 : LmsAlgorithmType := ⟨11⟩
def LmsSha256N24H15 : LmsAlgorithmType := ⟨12⟩
def LmsSha256N24H20 : LmsAlgorithmType := ⟨13⟩
def LmsSha256N24H25 : LmsAlgorithmType := ⟨14⟩

end LmsAlgorithmType

/-- `LmotsAlgorithmType(U32<BigEndian>)`. -/
structure LmotsAlgorithmType where
  val : UInt32
  deriving DecidableEq, Repr

namespace LmotsAlgorithmType

def LmotsReserved : LmotsAlgorithmType := ⟨0⟩
def LmotsSha256N32W1 : LmotsAlgorithmType := ⟨1⟩
def LmotsSha256N32W2 : LmotsAlgorithmType := ⟨2⟩
def LmotsSha256N32W4 : LmotsAlgorithmType := ⟨3⟩
def LmotsSha256N32W8 : LmotsAlgorithmType := ⟨4⟩
def LmotsSha256N24W1 : LmotsAlgorithmType := ⟨5⟩
def LmotsSha256N24W2 : LmotsAlgorithmType := ⟨6⟩
def LmotsSha256N24W4 : LmotsAlgorithmType := ⟨7⟩
def LmotsSha256N24W8 : LmotsAlgorithmType := ⟨8⟩

end LmotsAlgorithmType

/-- `LmsIdentifier = [u8; 16]`. -/
abbrev LmsIdentifier := Vector UInt8 16

/-- `LmsPublicKey<N>`. -/
structure LmsPublicKey (N : Nat) where
  tree_type : LmsAlgorithmType
  otstype : LmotsAlgorithmType
  id : LmsIdentifier
  digest : Vector UInt32 N
  deriving DecidableEq

/-- `LmotsSignature<N, P>`. -/
structure LmotsSignature (N P : Nat) where
  ots_type : LmotsAlgorithmType
  nonce : Vector UInt32 N
  y : Vector (Vector UInt32 N) P
  deriving DecidableEq

/-- `LmsSignature<N, P, H>`; `q` is the value of the big-endian field. -/
structure LmsSignature (N P H : Nat) where
  q : UInt32
  ots : LmotsSignature N P
  tree_type : LmsAlgorithmType
  tree_path : Vector (Vector UInt32 N) H
  deriving DecidableEq

/-- `HashValue<N>([u32; N])`: a digest truncated to `N` big-endian words. -/
structure HashValue (N : Nat) where
  val : Vector UInt32 N
  deriving DecidableEq

namespace HashValue

/-- `HashValue::from([U32<LittleEndian>; N])`: each word is byte-swapped. -/
def ofLe {N : Nat} (d : Vector UInt32 N) : HashValue N := ⟨d.map Bytes.swap32⟩

end HashValue

end Caliptra
