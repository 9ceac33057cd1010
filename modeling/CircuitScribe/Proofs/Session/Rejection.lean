import CircuitScribe.Proofs.Session.Failure
import CircuitScribe.Proofs.Session.Trail

namespace CircuitScribe

namespace Circuit

variable {c : Circuit} {call : GateCall} {fault : OperandFault}

/-- With an operand that it rejects, a call gives the one report of that. Only a barrier does not. -/
theorem callFailure_operand (hcall : call ≠ .barrier) :
    c.callFailure call (.operand fault) =
      [(Report.rejected c.name call.kind.label fault.reason).message] := by
  cases call with
  | place p => rfl
  | barrier => exact absurd rfl hcall

end Circuit

namespace Session

variable {s : Session} {id : Nat} {c : Circuit} {call : GateCall} {fault : OperandFault}

/-- A call that rejects an operand has come to its circuit, and leaves all as it was. -/
theorem perform_gate_of_operand (hc : s.circuits[id]? = some c)
    (hfault : (s.perform (.gate (.circuit id) call)).2.result = .error (.operand fault)) :
    s.perform (.gate (.circuit id) call) =
      (s, ⟨.error (.operand fault), (s.circuitNow c).callFailure call (.operand fault)⟩) := by
  rcases s.perform_gate_reported (.circuit id) call with
    ⟨_, _, _, _, _, _, _, hreply⟩ | ⟨_, d, f, ⟨⟩, hd, hperform⟩ | hperform
  · rw [hreply] at hfault
    cases hfault
  · obtain rfl : c = d := Option.some.inj (hc.symm.trans hd)
    rw [hperform] at hfault
    cases hfault
    exact hperform
  · rw [hperform] at hfault
    cases hfault

/-- A barrier rejects nothing but that there are no quantum registers. -/
theorem qregs_of_perform_barrier (hc : s.circuits[id]? = some c)
    (hfault : (s.perform (.gate (.circuit id) .barrier)).2.result = .error (.operand fault)) :
    c.qregs = [] := by
  cases failsWith_of_perform_gate hc hfault with
  | barrier hnone _ => exact hnone
  | name hnone _ => exact hnone

/-- Whatever operand a gate call rejects, while debugging is on the log gets one message and no other:
    that an operand for this gate, under its label, was rejected on this circuit, and why. Nothing is
    appended then. Only a barrier is rejected without a word, which takes a circuit without quantum
    registers. -/
theorem perform_gate_rejected (hc : s.circuits[id]? = some c) (hdebug : s.Debugging)
    (hfault : (s.perform (.gate (.circuit id) call)).2.result = .error (.operand fault))
    (hqregs : call = .barrier → c.qregs ≠ []) :
    let report := Report.rejected (s.nameOf id) call.kind.label fault.reason
    (s.perform (.gate (.circuit id) call)).2.messages = [report.message] ∧
      s.logger.lets report.message = true ∧ (s.perform (.gate (.circuit id) call)).1 = s := by
  intro report
  have hcall : call ≠ .barrier := by
    rintro rfl
    exact hqregs rfl (qregs_of_perform_barrier hc hfault)
  rw [perform_gate_of_operand hc hfault, Circuit.callFailure_operand hcall]
  refine ⟨?_, hdebug.lets_message report, rfl⟩
  simp only [report, nameOf_eq hc]

/-- A session in which debugging has been turned on, and nothing else has happened. -/
def debugged : Session where
  logger := { level := .number Severity.debug.number, handlers := [.standard] }
  collections := { tables := #[[("level", .int Severity.debug.number), ("handlers", .int 1)]] }

theorem perform_setLogger_debug : (perform {} (.setLogger (.int Severity.debug.number))).1 = debugged := rfl

theorem debugging_debugged : debugged.Debugging :=
  show debugged.logger.threshold Circuit.source ≤ Severity.debug.number by decide +kernel

/-- A broadcast over a register that the circuit does not have is rejected at its first qubit. -/
theorem perform_gate_rejected_foreign :
    let q : Register := ⟨0, .quantum, "q", 1, by decide, by decide⟩
    let r : Register := ⟨1, .quantum, "r", 2, by decide, by decide⟩
    let c : Circuit := { name := .str "c", qregs := [q], cregs := [], spacing := none }
    let s : Session := { debugged with registerCount := 2, circuitCount := 1, circuits := [c] }
    let call : GateCall := .place (.single .h (.register r))
    let fault : OperandFault := .foreign r (.bit r 0)
    let report := Report.rejected (s.nameOf 0) GateKind.h.label fault.reason
    (run {} [.setLogger (.int Severity.debug.number), .createRegister .quantum (.int 1) (.str "q"),
      .createRegister .quantum (.int 2) (.str "r"), .createCircuit [.register q] (.str "c") .null]).1 = s ∧
    s.Debugging ∧ (s.perform (.gate (.circuit 0) call)).2.result = .error (.operand fault) ∧
      report.message.text = "circuit 'c': Hadamard rejected: register 'r' not in this circuit" ∧
      (s.perform (.gate (.circuit 0) call)).2.messages = [report.message] ∧
      s.logger.lets report.message = true := by
  intro q r c s call fault report
  have hrun : (run {} [.setLogger (.int Severity.debug.number), .createRegister .quantum (.int 1) (.str "q"),
      .createRegister .quantum (.int 2) (.str "r"), .createCircuit [.register q] (.str "c") .null]).1 = s := by
    have hq : (perform debugged (.createRegister .quantum (.int 1) (.str "q"))).1 =
        { debugged with registerCount := 1 } := rfl
    have hr : (perform { debugged with registerCount := 1 } (.createRegister .quantum (.int 2) (.str "r"))).1 =
        { debugged with registerCount := 2 } := rfl
    rw [run_cons, perform_setLogger_debug, run_cons, hq, run_cons, hr]
    rfl
  have hdebug : s.Debugging := debugging_debugged
  have hfault : (s.perform (.gate (.circuit 0) call)).2.result = .error (.operand fault) := rfl
  obtain ⟨hmessages, hlets, _⟩ := perform_gate_rejected (s := s) (c := c) rfl hdebug hfault nofun
  exact ⟨hrun, hdebug, hfault, by decide +kernel, hmessages, hlets⟩

/-- A barrier on a circuit without quantum registers is rejected without a word. -/
theorem perform_barrier_silent :
    let c : Circuit := { name := .str "c", qregs := [], cregs := [], spacing := none }
    let s : Session := { debugged with circuitCount := 1, circuits := [c] }
    (run {} [.setLogger (.int Severity.debug.number), .createCircuit [] (.str "c") .null]).1 = s ∧ s.Debugging ∧
      s.perform (.gate (.circuit 0) .barrier) =
        (s, ⟨.error (.operand (.noRegisters "c" .quantum .null)), []⟩) := by
  intro c s
  have hrun : (run {} [.setLogger (.int Severity.debug.number), .createCircuit [] (.str "c") .null]).1 = s := by
    rw [run_cons, perform_setLogger_debug]
    rfl
  exact ⟨hrun, debugging_debugged, rfl⟩

end Session

end CircuitScribe
