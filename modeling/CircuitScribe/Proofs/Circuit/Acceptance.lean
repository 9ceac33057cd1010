import CircuitScribe.Circuit.Gate
import CircuitScribe.Proofs.Value.Printing

namespace CircuitScribe

/-- The operands of a placement in their order, each with the kind of register that its
    place requires. -/
def Placement.operands : Placement → List (RegisterKind × Value)
  | .single _ target => [(.quantum, target)]
  | .controlled _ control target => [(.quantum, control), (.quantum, target)]
  | .toffoli control₁ control₂ target =>
    [(.quantum, control₁), (.quantum, control₂), (.quantum, target)]
  | .measure source target => [(.quantum, source), (.classical, target)]

namespace Circuit

/-- A circuit owns a register of a kind if that register, or one equal to it, is among its
    registers of that kind. -/
def Owns (kw : Keywords) (c : Circuit) (kind : RegisterKind) (r : Register) : Prop :=
  r.kind = kind ∧ kw.contains (c.registers kind) r = .ok true

/-- An instruction does what a placement asks for, with bits of registers that the circuit
    owns. -/
structure Performs (kw : Keywords) (c : Circuit) (p : Placement) (i : Instruction) : Prop where
  kind_eq : i.kind = p.kind
  operands_eq : p.operands = i.bits.map fun b => (b.1, b.2.value)
  owns : ∀ b ∈ i.bits, c.Owns kw b.1 b.2.register

/-- An instruction that may stand in the log of a circuit: its line can be printed, its bits are
    of registers that the circuit owns, a barrier stands on all quantum registers, of which there
    is at least one, and a Toffoli has the spacing of the circuit, if this has one of its own. -/
structure Admits (kw : Keywords) (c : Circuit) (i : Instruction) : Prop where
  prints : i.checkLine = .ok ()
  owns : ∀ b ∈ i.bits, c.Owns kw b.1 b.2.register
  barrier_eq : ∀ rs, i = .barrier rs → rs = c.qregs ∧ rs ≠ []
  spacing_eq : ∀ legacy control₁ control₂ target own,
    i = .toffoli legacy control₁ control₂ target → c.spacing = some own → legacy = own

variable {env : Surroundings} {kw : Keywords} {c : Circuit}

/-- What a circuit admits is up to its registers and its spacing. -/
theorem Admits.of_same {d : Circuit} {i : Instruction} (h : c.Admits kw i) (hqregs : d.qregs = c.qregs)
    (hcregs : d.cregs = c.cregs) (hspacing : d.spacing = c.spacing) : d.Admits kw i where
  prints := h.prints
  owns b hb := by
    have hregisters : d.registers b.1 = c.registers b.1 := by
      cases b.1 <;> simp only [registers, hqregs, hcregs]
    rw [Owns, hregisters]
    exact h.owns b hb
  barrier_eq := hqregs ▸ h.barrier_eq
  spacing_eq := hspacing ▸ h.spacing_eq

theorem Owns.registers_ne_nil {kind : RegisterKind} {r : Register} (h : c.Owns kw kind r) :
    c.registers kind ≠ [] := by
  intro hempty
  have hin := h.2
  simp [hempty, Keywords.contains] at hin

/-- An operand is accepted exactly if it is the pair of a register that the circuit owns
    and a position in that register. -/
theorem bit_eq_ok_iff {kind : RegisterKind} {operand : Value} {b : Bit} :
    c.bit kw kind operand = .ok b ↔ operand = b.value ∧ c.Owns kw kind b.register := by
  constructor
  · intro h
    unfold bit at h
    split at h
    · next r n =>
      split at h
      · next hrange =>
        have hn : ((n.toNat : Nat) : Int) = n := Int.toNat_of_nonneg hrange.1
        split at h
        · obtain ⟨_, _, h⟩ := Fault.bind_eq_ok_iff.mp h
          cases h
        · split at h
          · obtain ⟨_, _, h⟩ := Fault.bind_eq_ok_iff.mp h
            cases h
          · next hkind =>
            obtain ⟨found, hin, h⟩ := Fault.bind_eq_ok_iff.mp h
            cases found with
            | false => cases h
            | true =>
              cases h
              exact ⟨by simp [Bit.value, Value.bit, hn], not_not.mp hkind, hin⟩
      · exact absurd h (r.refuse_ne_ok _ _)
    · cases h
    · obtain ⟨_, _, h⟩ := Fault.bind_eq_ok_iff.mp h
      cases h
    · obtain ⟨_, _, h⟩ := Fault.bind_eq_ok_iff.mp h
      cases h
  · rintro ⟨rfl, howns⟩
    have hne := howns.registers_ne_nil
    obtain ⟨hkind, hin⟩ := howns
    simp only [bit, Bit.value, Value.bit, Int.toNat_natCast, b.index_lt, Int.natCast_nonneg, and_self,
      dite_true, List.isEmpty_iff, hne, if_false, hkind, ne_eq, not_true_eq_false, hin]
    rfl

/-- Which position of a register is asked for makes no difference, as long as it is in
    range. -/
theorem bit_eq_ok_of_owns {kind : RegisterKind} {r : Register} (h : c.Owns kw kind r) {j : Nat}
    (hj : j < r.size) : c.bit kw kind (.bit r j) = .ok ⟨r, j, hj⟩ :=
  bit_eq_ok_iff.mpr ⟨rfl, h⟩

theorem owns_of_bit_eq_ok {kind : RegisterKind} {r : Register} {j : Nat} {b : Bit}
    (h : c.bit kw kind (.bit r j) = .ok b) : c.Owns kw kind r := by
  obtain ⟨hvalue, howns⟩ := bit_eq_ok_iff.mp h
  simp only [Value.bit, Bit.value, Value.tuple.injEq, List.cons.injEq, Value.register.injEq] at hvalue
  rw [hvalue.1]
  exact howns

theorem performs_of_instruction {p : Placement} {i : Instruction} (h : c.instruction env p = .ok i) :
    c.Performs env.keywords p i := by
  cases p with
  | single gate target =>
    simp only [instruction, Fault.bind_eq_ok_iff, bit_eq_ok_iff] at h
    obtain ⟨t, ⟨rfl, ht⟩, ⟨⟩⟩ := h
    exact ⟨rfl, rfl, by simpa [Instruction.bits] using ht⟩
  | controlled gate control target =>
    simp only [instruction, Fault.bind_eq_ok_iff, bit_eq_ok_iff] at h
    obtain ⟨k, ⟨rfl, hk⟩, t, ⟨rfl, ht⟩, ⟨⟩⟩ := h
    exact ⟨rfl, rfl, by simpa [Instruction.bits] using ⟨hk, ht⟩⟩
  | toffoli control₁ control₂ target =>
    simp only [instruction, Fault.bind_eq_ok_iff, bit_eq_ok_iff] at h
    obtain ⟨k, ⟨rfl, hk⟩, k', ⟨rfl, hk'⟩, t, ⟨rfl, ht⟩, legacy, _, ⟨⟩⟩ := h
    exact ⟨rfl, rfl, by simpa [Instruction.bits] using ⟨hk, hk', ht⟩⟩
  | measure source target =>
    simp only [instruction, Fault.bind_eq_ok_iff, bit_eq_ok_iff] at h
    obtain ⟨k, ⟨rfl, hk⟩, t, ⟨rfl, ht⟩, ⟨⟩⟩ := h
    exact ⟨rfl, rfl, by simpa [Instruction.bits] using ⟨hk, ht⟩⟩

/-- The spacing of a Toffoli is the one that the circuit has for it. -/
theorem legacySpacing_of_instruction {p : Placement} {legacy : Bool} {control₁ control₂ target : Bit}
    (h : c.instruction env p = .ok (.toffoli legacy control₁ control₂ target)) :
    c.legacySpacing env = .ok legacy := by
  cases p with
  | toffoli =>
    simp only [instruction, Fault.bind_eq_ok_iff] at h
    obtain ⟨_, _, _, _, _, _, _, hlegacy, ⟨⟩⟩ := h
    exact hlegacy
  | _ =>
    have hlength := congrArg List.length (performs_of_instruction h).operands_eq
    simp [Placement.operands, Instruction.bits] at hlength

/-- No placement asks for a barrier. -/
theorem Performs.not_barrier {p : Placement} {i : Instruction} (h : c.Performs kw p i)
    (rs : List Register) : i ≠ .barrier rs := by
  rintro rfl
  have hlength := congrArg List.length h.operands_eq
  cases p <;> simp [Placement.operands, Instruction.bits] at hlength

theorem append_eq_attach {p : Placement} {i : Instruction} (h : c.instruction env p = .ok i) :
    c.append env p = c.attach i := by
  rw [append, h]

theorem attach_of_checkLine {i : Instruction} (h : i.checkLine = .ok ()) :
    c.attach i = ⟨{ c with log := c.log ++ [i] }, [c.appendedMessage i], .ok i⟩ := by
  rw [attach, h]

/-- A barrier names no positions. -/
theorem checkLine_barrier (rs : List Register) : (Instruction.barrier rs).checkLine = .ok () := rfl

/-- A line can be printed if each of its positions can. -/
theorem checkLine_eq_ok_iff {i : Instruction} :
    i.checkLine = .ok () ↔ ∀ b ∈ i.bits, b.2.index < 10 ^ maxDigits := by
  simp only [Instruction.checkLine, Fault.forM_eq_ok_iff, checkDigits_eq_ok_iff]

theorem checkLine_eq_error {i : Instruction} {fault : Fault} (h : i.checkLine = .error fault) :
    fault = .value .tooManyDigits ∧ ∃ b ∈ i.bits, 10 ^ maxDigits ≤ b.2.index := by
  obtain ⟨b, hb, hcheck⟩ := Fault.exists_of_forM_eq_error h
  obtain ⟨hle, rfl⟩ := checkDigits_eq_error hcheck
  exact ⟨rfl, b, hb, hle⟩

/-- What a placement makes can stand in the log, if its line can be printed. -/
theorem admits_of_instruction {p : Placement} {i : Instruction} (h : c.instruction env p = .ok i)
    (hprints : i.checkLine = .ok ()) : c.Admits env.keywords i := by
  have hperforms := performs_of_instruction h
  refine ⟨hprints, hperforms.owns, fun rs hrs => absurd hrs (hperforms.not_barrier rs), ?_⟩
  intro legacy control₁ control₂ target own htoffoli hown
  have hlegacy : c.legacySpacing env = .ok legacy := legacySpacing_of_instruction (htoffoli ▸ h)
  rw [legacySpacing, hown] at hlegacy
  exact (Except.ok.inj hlegacy).symm

end Circuit

end CircuitScribe
