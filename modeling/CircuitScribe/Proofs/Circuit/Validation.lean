import CircuitScribe.Proofs.Circuit.Bare

namespace CircuitScribe.Circuit

/-- The fault of the first of several operands that a circuit does not accept. -/
def firstFault? (kw : Keywords) (c : Circuit) : List (RegisterKind × Value) → Option Fault
  | [] => none
  | (kind, operand) :: rest =>
    match c.bit kw kind operand with
    | .error fault => some fault
    | .ok _ => firstFault? kw c rest

variable {env : Surroundings} {kw : Keywords} {c : Circuit} {kind : RegisterKind} {operand : Value}
  {rest : List (RegisterKind × Value)} {p : Placement} {fault : Fault}

theorem firstFault?_nil : c.firstFault? kw [] = none := rfl

/-- Operands are looked at from left to right. -/
theorem firstFault?_cons_eq_some : c.firstFault? kw ((kind, operand) :: rest) = some fault ↔
    c.bit kw kind operand = .error fault ∨
      ∃ b, c.bit kw kind operand = .ok b ∧ c.firstFault? kw rest = some fault := by
  rw [firstFault?]
  cases c.bit kw kind operand <;> simp

theorem firstFault?_cons_eq_none : c.firstFault? kw ((kind, operand) :: rest) = none ↔
    ∃ b, c.bit kw kind operand = .ok b ∧ c.firstFault? kw rest = none := by
  rw [firstFault?]
  cases c.bit kw kind operand <;> simp

/-- A placement with an operand that is not accepted fails as the first of these does, before
    anything else is looked at. -/
theorem instruction_of_firstFault? (h : c.firstFault? env.keywords p.operands = some fault) :
    c.instruction env p = .error fault := by
  cases p with
  | single gate target =>
    simp only [Placement.operands, firstFault?_cons_eq_some, firstFault?_nil, reduceCtorEq, and_false,
      exists_false, or_false] at h
    simp only [instruction, h]
    rfl
  | controlled gate control target =>
    simp only [Placement.operands, firstFault?_cons_eq_some, firstFault?_nil, reduceCtorEq, and_false,
      exists_false, or_false] at h
    rcases h with h | ⟨b, hb, h⟩
    · simp only [instruction, h]
      rfl
    · simp only [instruction, hb, h]
      rfl
  | toffoli control₁ control₂ target =>
    simp only [Placement.operands, firstFault?_cons_eq_some, firstFault?_nil, reduceCtorEq, and_false,
      exists_false, or_false] at h
    rcases h with h | ⟨b₁, hb₁, h | ⟨b₂, hb₂, h⟩⟩
    · simp only [instruction, h]
      rfl
    · simp only [instruction, hb₁, h]
      rfl
    · simp only [instruction, hb₁, hb₂, h]
      rfl
  | measure source target =>
    simp only [Placement.operands, firstFault?_cons_eq_some, firstFault?_nil, reduceCtorEq, and_false,
      exists_false, or_false] at h
    rcases h with h | ⟨b, hb, h⟩
    · simp only [instruction, h]
      rfl
    · simp only [instruction, hb, h]
      rfl

/-- A Toffoli on operands that are all accepted depends on the spacing of its line alone. -/
theorem instruction_toffoli {control₁ control₂ target : Value}
    (h : c.firstFault? env.keywords (Placement.toffoli control₁ control₂ target).operands = none) :
    ∃ b₁ b₂ b₃ : Bit, control₁ = b₁.value ∧ control₂ = b₂.value ∧ target = b₃.value ∧
      c.instruction env (.toffoli control₁ control₂ target) =
        (c.legacySpacing env).map fun legacy => .toffoli legacy b₁ b₂ b₃ := by
  simp only [Placement.operands, firstFault?_cons_eq_none] at h
  obtain ⟨b₁, h₁, b₂, h₂, b₃, h₃, _⟩ := h
  refine ⟨b₁, b₂, b₃, (bit_eq_ok_iff.mp h₁).1, (bit_eq_ok_iff.mp h₂).1, (bit_eq_ok_iff.mp h₃).1, ?_⟩
  simp only [instruction, h₁, h₂, h₃]
  cases c.legacySpacing env <;> rfl

end CircuitScribe.Circuit
