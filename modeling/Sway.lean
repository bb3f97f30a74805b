import Sway.Ir.Data
import Sway.Ir.Context
import Sway.Ir.Irtype
import Sway.Ir.Constant
import Sway.Ir.Proofs.WellFormed
import Sway.Ir.Proofs.Equality
import Sway.Ir.Proofs.Enum
import Sway.Ir.Proofs.Bytes
import Sway.Ir.Proofs.Arena
import Sway.E2eVmTests.Toml
import Sway.E2eVmTests.Description
import Sway.E2eVmTests.Discover
import Sway.E2eVmTests.Proofs.Hex
import Sway.E2eVmTests.Proofs.Parse
import Sway.E2eVmTests.Run
import Sway.E2eVmTests.Proofs.Run
import Sway.E2eVmTests.Proofs.Contracts
import Sway.E2eVmTests.Proofs.Loop
import Sway.E2eVmTests.Proofs.Discover
