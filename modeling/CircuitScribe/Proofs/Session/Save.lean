import CircuitScribe.Proofs.Files.Directories
import CircuitScribe.Proofs.Session.Generate
import CircuitScribe.Proofs.Session.Settle

namespace CircuitScribe.Session

variable {s : Session} {id : Nat} {c : Circuit} {path : Value} {a : Action} {name : String} {names : List String}
  {program : String} {fault : Fault}

end CircuitScribe.Session
