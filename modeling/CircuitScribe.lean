import CircuitScribe.Text.Quoted
import CircuitScribe.Text.LetterCase
import CircuitScribe.Value.Printing
import CircuitScribe.Value.Equality
import CircuitScribe.Files
import CircuitScribe.Document.Interpolation
import CircuitScribe.Settings.Store
import CircuitScribe.Log
import CircuitScribe.GateRecord
import CircuitScribe.Circuit.Gate
import CircuitScribe.Log.Format
import CircuitScribe.Fault.Family
import CircuitScribe.Session.Action
import CircuitScribe.Proofs.Session.Generate
import CircuitScribe.Proofs.Session.Refusal
import CircuitScribe.Proofs.Session.Store
import CircuitScribe.Proofs.Document.Writable
import CircuitScribe.Proofs.Document.Unreadable
import CircuitScribe.Proofs.Session.Section
import CircuitScribe.Proofs.Session.Growth
import CircuitScribe.Proofs.Value.Bare
import CircuitScribe.Proofs.Circuit.Bare
import CircuitScribe.Proofs.Session.Exchange
import CircuitScribe.Proofs.Session.Isolation
import CircuitScribe.Proofs.Session.Logger
import CircuitScribe.Proofs.Circuit.Validation
import CircuitScribe.Proofs.Session.Spacing
import CircuitScribe.Proofs.Circuit.Replay
import CircuitScribe.Proofs.Session.Replay
import CircuitScribe.Proofs.Circuit.Rejection
import CircuitScribe.Proofs.Value.Settled
import CircuitScribe.Proofs.Session.Twin
import CircuitScribe.Proofs.Session.Interchange
import CircuitScribe.Proofs.Settings.Refused
import CircuitScribe.Proofs.Session.Defaults
import CircuitScribe.Proofs.Session.Faults
import CircuitScribe.Proofs.Register.Name
import CircuitScribe.Proofs.Session.Names
import CircuitScribe.Proofs.Circuit.Regular
import CircuitScribe.Proofs.Session.Regular
import CircuitScribe.Proofs.Circuit.Report
import CircuitScribe.Proofs.Session.Trail
import CircuitScribe.Proofs.Session.Settle
import CircuitScribe.Proofs.Circuit.Verdict
import CircuitScribe.Proofs.Session.Verdict
import CircuitScribe.Proofs.Session.Loop
import CircuitScribe.Proofs.Session.Save
import CircuitScribe.Proofs.Circuit.Failure
import CircuitScribe.Proofs.Session.Failure
import CircuitScribe.Proofs.Session.Rejection
import CircuitScribe.Proofs.Register.Pattern
import CircuitScribe.Proofs.Session.Registers
import CircuitScribe.Proofs.Session.FailedReading
import CircuitScribe.Proofs.Writes
import CircuitScribe.Proofs.Document.Edits
import CircuitScribe.Proofs.Document.Repeated
import CircuitScribe.Proofs.Settings.Writes
import CircuitScribe.Proofs.Session.SecondReading
import CircuitScribe.Proofs.Session.Construction
import CircuitScribe.Proofs.Session.Membership
import CircuitScribe.Proofs.Session.Positions
