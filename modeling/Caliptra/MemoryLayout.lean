import Caliptra.Lib.RustCore

/-!
# Memory layout (`drivers/src/memory_layout.rs`)

The regions the ROM reads images from and loads them into.
-/

namespace Caliptra

def MBOX_ORG : UInt32 := 0x30000000
def ICCM_ORG : UInt32 := 0x40000000
def MBOX_SIZE : UInt32 := 128 * 1024
def ICCM_SIZE : UInt32 := 128 * 1024

/-- `ICCM_RANGE`. -/
def ICCM_RANGE : RangeU32 := ⟨ICCM_ORG, ICCM_ORG + ICCM_SIZE⟩

end Caliptra
