import CircuitScribe.Proofs.Circuit.Failure
import CircuitScribe.Proofs.Session.Growth
import CircuitScribe.Proofs.Session.Names
import CircuitScribe.Proofs.Session.Settle
import CircuitScribe.Proofs.Settings.Refused

namespace CircuitScribe

namespace Circuit

variable {values : List Value} {rs : List Register} {c : Circuit} {count : Nat} {name spacing : Value}

end Circuit

namespace Session

/-- A register that is given twice, and two registers of different kinds with one name, are refused; so a
    circuit comes to count. -/
example :
    let q : Register := ⟨0, .quantum, "a", 1, by decide, by decide⟩
    let c : Register := ⟨1, .classical, "a", 1, by decide, by decide⟩
    (run {} [.createCircuit [.register q, .register q] .null .null,
      .createCircuit [.register q, .register c] .null .null]).1.circuitCount = 2 := by
  rfl

end Session

end CircuitScribe
