import Caliptra.Lib.RustCore
import Caliptra.Lib.Bytes
import Caliptra.Lib.Codec
import Caliptra.Lib.Memory
import Caliptra.Error
import Caliptra.MemoryLayout
import Caliptra.LmsTypes
import Caliptra.Image.Types
import Caliptra.Image.Layout
import Caliptra.Image.Verifier
import Caliptra.Image.VerifierSpec
import Caliptra.Image.Envs
import Caliptra.Image.Guarantees
import Caliptra.Image.Panic
import Caliptra.Drivers.Mailbox
import Caliptra.Rom.Env
import Caliptra.Rom.FwProcessor
import Caliptra.Rom.UpdateReset
import Caliptra.Lib.Slice
import Caliptra.Runtime.AuthManifest
import Caliptra.Lib.EStateM
import Caliptra.Runtime.Drivers
import Caliptra.Runtime.SetAuthManifest
import Caliptra.Runtime.AuthorizeAndStash
import Caliptra.Runtime.InvokeDpe
import Caliptra.Runtime.Tagging
import Caliptra.Runtime.HandleCommand
import Caliptra.Runtime.ContextTags
import Caliptra.Runtime.ContextLimits
import Caliptra.Spec.Rfc8554
import Caliptra.Drivers.Lms
import Caliptra.Drivers.LmsVerify
import Caliptra.Cfi.Xoshiro
import Caliptra.Lib.Bits
import Caliptra.Lib.Lookup
import Caliptra.Emulator.Bus
import Caliptra.Emulator.Mailbox
import Caliptra.Emulator.Pic
import Caliptra.Emulator.PicCache
import Caliptra.Lib.OrdSet
import Caliptra.Lib.Simulation
import Caliptra.Emulator.Clock
import Caliptra.Emulator.ClockSpec
import Caliptra.Emulator.KeyVault
import Caliptra.Emulator.KeyVaultLocks
import Caliptra.Emulator.KeyVaultSecrecy
