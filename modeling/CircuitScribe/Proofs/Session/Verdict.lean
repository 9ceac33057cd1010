import CircuitScribe.Proofs.Circuit.Verdict
import CircuitScribe.Proofs.Session.Generate
import CircuitScribe.Proofs.Session.Settle

namespace CircuitScribe

namespace Circuit

variable {kw : Keywords} {c : Circuit} {kind : RegisterKind} {s : Session} {v : Value}

/-- An operand that leads to something is taken no more than what it leads to. -/
theorem takes_settle_iff : c.Takes kw kind (s.settle v) ↔ c.Takes kw kind v := by
  simp only [Takes, Session.settle_eq_pair_iff]

end Circuit

theorem Placement.broadcasts_map_settle {p : Placement} (s : Session) :
    (p.map s.settle).Broadcasts ↔ p.Broadcasts := by
  cases p <;> simp only [map, Broadcasts, Session.settle_eq_register_iff]

theorem Placement.positionsPrint_map_settle {p : Placement} (s : Session) :
    (p.map s.settle).PositionsPrint ↔ p.PositionsPrint := by
  simp only [PositionsPrint, Value.PositionPrints, map_operands, List.forall_mem_map, Session.settle_eq_pair_iff]

namespace Session

variable {s : Session} {id : Nat} {c : Circuit} {p : Placement}

/-- What a circuit takes and what it refuses operands with is up to its registers. -/
theorem takes_circuitNow_iff {kw : Keywords} {kind : RegisterKind} {v : Value} :
    (s.circuitNow c).Takes kw kind (s.settle v) ↔ c.Takes kw kind v := by
  rw [Circuit.takes_settle_iff]
  cases kind <;> rfl

/-- A call on single bits is one for the instruction that the placement asks for. -/
theorem call_place_settle (hone : ¬ p.Broadcasts) :
    (s.circuitNow c).call s.surroundings ((GateCall.place p).map s.settle) =
      ((s.circuitNow c).append s.surroundings (p.map s.settle)).map .one := by
  rw [GateCall.map_place]
  exact Circuit.call_place ((Placement.broadcasts_map_settle s).not.mpr hone)

/-- No operand is at fault exactly if the circuit takes all of them. -/
theorem firstFault?_settle_eq_none_iff :
    (s.circuitNow c).firstFault? s.words (p.map s.settle).operands = none ↔
      ∀ o ∈ p.operands, c.Takes s.words o.1 o.2 := by
  rw [Circuit.firstFault?_eq_none_iff, Placement.map_operands, List.forall_mem_map]
  exact forall₂_congr fun o _ => takes_circuitNow_iff

/-- A call on single bits that fails because of an operand. -/
theorem result_place_of_firstFault? (hc : s.circuits[id]? = some c) (hone : ¬ p.Broadcasts) {fault : Fault}
    (h : (s.circuitNow c).firstFault? s.words (p.map s.settle).operands = some fault) :
    (s.perform (.gate (.circuit id) (.place p))).2.result = .error fault :=
  (perform_gate_of_error hc (call_place_settle hone) (Circuit.instruction_of_firstFault? h)).2

/-- A call on single bits that succeeds is on operands that are all taken. -/
theorem takes_of_result_place (hc : s.circuits[id]? = some c) (hone : ¬ p.Broadcasts) {v : Value}
    (h : (s.perform (.gate (.circuit id) (.place p))).2.result = .ok v) :
    ∀ o ∈ p.operands, c.Takes s.words o.1 o.2 := by
  cases hfirst : (s.circuitNow c).firstFault? s.words (p.map s.settle).operands with
  | none => exact firstFault?_settle_eq_none_iff.mp hfirst
  | some fault => cases (result_place_of_firstFault? hc hone hfirst).symm.trans h

/-- A call on operands that are all taken comes to a record, if the positions in them can be printed. -/
theorem result_place_of_takes (hc : s.circuits[id]? = some c) (hone : ¬ p.Broadcasts)
    (hspacing : p.kind = .ccx → c.spacing.isSome = true) (htakes : ∀ o ∈ p.operands, c.Takes s.words o.1 o.2) :
    (p.PositionsPrint ∧ ∃ v, (s.perform (.gate (.circuit id) (.place p))).2.result = .ok v) ∨
    (¬ p.PositionsPrint ∧
      (s.perform (.gate (.circuit id) (.place p))).2.result = .error (.value .tooManyDigits)) := by
  obtain ⟨i, hi⟩ : ∃ i, (s.circuitNow c).instruction s.surroundings (p.map s.settle) = .ok i :=
    Circuit.exists_instruction (fun h => hspacing (p.map_kind _ ▸ h)) (firstFault?_settle_eq_none_iff.mpr htakes)
  have hcall := call_place_settle (s := s) (c := c) hone
  rw [Circuit.append, hi] at hcall
  have hprint : i.checkLine = .ok () ↔ p.PositionsPrint :=
    (Circuit.checkLine_eq_ok_iff_positions hi).trans (Placement.positionsPrint_map_settle s)
  rcases perform_gate_of_attach hc hcall with ⟨hline, _, hresult⟩ | ⟨hline, _, hresult⟩
  · exact .inl ⟨hprint.mp hline, _, hresult⟩
  · exact .inr ⟨hprint.not.mp hline, hresult⟩

/-- So it succeeds exactly on such operands. -/
theorem exists_result_place_iff (hc : s.circuits[id]? = some c) (hone : ¬ p.Broadcasts)
    (hspacing : p.kind = .ccx → c.spacing.isSome = true) :
    (∃ v, (s.perform (.gate (.circuit id) (.place p))).2.result = .ok v) ↔
      (∀ o ∈ p.operands, c.Takes s.words o.1 o.2) ∧ p.PositionsPrint := by
  constructor
  · rintro ⟨v, hv⟩
    have htakes := takes_of_result_place hc hone hv
    rcases result_place_of_takes hc hone hspacing htakes with ⟨hprint, _⟩ | ⟨_, herror⟩
    · exact ⟨htakes, hprint⟩
    · cases herror.symm.trans hv
  · rintro ⟨htakes, hprint⟩
    exact ((result_place_of_takes hc hone hspacing htakes).resolve_right fun h => h.1 hprint).2

end Session

end CircuitScribe
