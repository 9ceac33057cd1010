import CircuitScribe.Proofs.Session.Interchange
import CircuitScribe.Proofs.Session.Loop
import CircuitScribe.Proofs.Session.Verdict

namespace CircuitScribe

namespace Circuit

variable {kw : Keywords} {c : Circuit} {kind : RegisterKind} {r : Register} {n : Int}

end Circuit

namespace Session

variable {s : Session} {id : Nat} {c : Circuit} {p : Placement} {gate : SingleGate} {r : Register} {n : Int}
  {qubit : Value}

/-- A call on a circuit gives something back. -/
def Succeeds (s : Session) (id : Nat) (p : Placement) : Prop :=
  ∃ v, (s.perform (.gate (.circuit id) (.place p))).2.result = .ok v

/-- A circuit accepts a qubit: some gate on it succeeds. A register as a whole is no qubit. -/
def AcceptsQubit (s : Session) (id : Nat) (qubit : Value) : Prop :=
  (∀ q, qubit ≠ .register q) ∧ ∃ gate, s.Succeeds id (.single gate qubit)

/-- A gate on a pair succeeds exactly if the circuit takes the pair, and its position can be printed. -/
theorem succeeds_single_iff (hc : s.circuits[id]? = some c) :
    s.Succeeds id (.single gate (.tuple [.register r, .int n])) ↔
      c.Takes s.words .quantum (.tuple [.register r, .int n]) ∧ n.natAbs < 10 ^ maxDigits := by
  have hone : ¬ (Placement.single gate (.tuple [.register r, .int n])).Broadcasts := by
    rintro ⟨_, ⟨⟩, _⟩
  have hccx : (Placement.single gate (.tuple [.register r, .int n])).kind ≠ .ccx := by
    cases gate <;> exact nofun
  rw [Succeeds, exists_result_place_iff hc hone (absurd · hccx)]
  simp [Placement.operands, Placement.PositionsPrint]

theorem AcceptsQubit.takes (hc : s.circuits[id]? = some c) (h : s.AcceptsQubit id qubit) :
    c.Takes s.words .quantum qubit ∧ qubit.PositionPrints := by
  obtain ⟨hbit, gate, hgate⟩ := h
  have hone : ¬ (Placement.single gate qubit).Broadcasts := by
    rintro ⟨q, rfl, _⟩
    exact hbit q rfl
  have hccx : (Placement.single gate qubit).kind ≠ .ccx := by
    cases gate <;> exact nofun
  obtain ⟨htakes, hprint⟩ := (exists_result_place_iff hc hone (absurd · hccx)).mp hgate
  simp only [Placement.operands, List.forall_mem_singleton] at htakes
  simp only [Placement.PositionsPrint, Placement.operands, List.forall_mem_singleton] at hprint
  exact ⟨htakes, hprint⟩

/-- A qubit that the circuit accepts is measured into what the circuit takes for a classical bit. -/
theorem succeeds_measure_iff (hc : s.circuits[id]? = some c) (hqubit : s.AcceptsQubit id qubit) :
    s.Succeeds id (.measure qubit (.tuple [.register r, .int n])) ↔
      c.Takes s.words .classical (.tuple [.register r, .int n]) ∧ n.natAbs < 10 ^ maxDigits := by
  have hone : ¬ (Placement.measure qubit (.tuple [.register r, .int n])).Broadcasts := by
    rintro ⟨_, _, _, ⟨⟩, _⟩
  obtain ⟨htakes, hprint⟩ := hqubit.takes hc
  rw [Succeeds, exists_result_place_iff hc hone nofun]
  simp [Placement.operands, Placement.PositionsPrint, htakes, hprint]

end Session

end CircuitScribe
