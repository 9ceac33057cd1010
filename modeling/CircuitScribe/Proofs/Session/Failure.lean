import CircuitScribe.Proofs.Circuit.Failure
import CircuitScribe.Proofs.Session.Verdict

namespace CircuitScribe

namespace Session

variable {s : Session} {id : Nat} {c : Circuit} {call : GateCall} {fault : Fault} {p : Placement}

/-- A gate call fails as it fails on its circuit. -/
theorem failsWith_of_perform_gate (hc : s.circuits[id]? = some c)
    (h : (s.perform (.gate (.circuit id) call)).2.result = .error fault) :
    (s.circuitNow c).FailsWith s.surroundings (call.map s.settle) fault := by
  have hafter := congrArg Prod.snd (perform_gate_result hc call)
  rw [h] at hafter
  apply Circuit.failsWith_of_call
  cases hresult : ((s.circuitNow c).call s.surroundings (call.map s.settle)).result with
  | ok applied =>
    rw [hresult] at hafter
    cases applied <;> cases hafter
  | error f =>
    rw [hresult] at hafter
    cases hafter
    rfl

end Session

end CircuitScribe
