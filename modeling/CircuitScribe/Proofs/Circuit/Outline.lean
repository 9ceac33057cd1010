import CircuitScribe.Circuit
import CircuitScribe.Proofs.Circuit.Sound
import CircuitScribe.Proofs.Program.Scope

namespace CircuitScribe

/-- A register as programs declare it. -/
def Register.declared (r : Register) : Declaration :=
  ⟨r.name, r.size⟩

/-- A bit as programs name it. -/
def Bit.mention (b : Bit) : Mention :=
  ⟨b.register.name, b.index⟩

/-- What programs show of an instruction. -/
def Instruction.statement : Instruction → Statement
  | .single gate target => .single gate target.mention
  | .controlled gate control target => .controlled gate control.mention target.mention
  | .toffoli legacy control₁ control₂ target =>
    .toffoli legacy control₁.mention control₂.mention target.mention
  | .measure source target => .measure source.mention target.mention
  | .barrier registers => .barrier (registers.map (·.name))

/-- The program of a circuit as data. -/
def Circuit.outline (c : Circuit) : Program where
  qregs := c.qregs.map Register.declared
  cregs := c.cregs.map Register.declared
  statements := c.log.map (·.statement)

theorem Register.isName_name (r : Register) : IsName r.name :=
  isName_of_isRegisterName r.isRegisterName_name

theorem Bit.mention_text (b : Bit) : b.mention.text = b.text := rfl

namespace Instruction

/-- The line of an instruction is its statement. -/
theorem line_eq (i : Instruction) : i.line = i.statement.text ++ "\n" := by
  apply String.toList_injective
  cases i with
  | toffoli legacy control₁ control₂ target =>
    cases legacy <;> simp [line, Line.toffoli, Line.toffoliSeparator, statement, Statement.text,
      Bit.mention_text, kind, GateKind.mnemonic]
  | barrier registers => simp [line, Line.registers, statement, Statement.text, kind, GateKind.mnemonic]
  | measure source target =>
    simp [line, Line.measure, statement, Statement.text, Bit.mention_text, kind, GateKind.mnemonic]
  | single gate target =>
    simp [line, Line.single, statement, Statement.text, Bit.mention_text, kind, gate.mnemonic_kind]
  | controlled gate control target =>
    simp [line, Line.controlled, statement, Statement.text, Bit.mention_text, kind, gate.mnemonic_kind]

/-- The names in the line of an instruction are those of registers. -/
theorem exists_register {i : Instruction} {name : String} (h : name ∈ i.statement.names) :
    ∃ r : Register, r.name = name := by
  cases i with
  | barrier registers =>
    obtain ⟨r, _, rfl⟩ := List.mem_map.mp h
    exact ⟨r, rfl⟩
  | _ =>
    simp only [statement, Statement.names, Bit.mention, List.mem_cons, List.not_mem_nil, or_false] at h
    rcases h with rfl | rfl | rfl
    all_goals exact ⟨_, rfl⟩

theorem isName_of_mem_names {i : Instruction} {name : String} (h : name ∈ i.statement.names) :
    IsName name := by
  obtain ⟨r, rfl⟩ := exists_register h
  exact r.isName_name

end Instruction

/-- A register without a word of its own is declared with the word of its kind. -/
theorem Keywords.declaration_nil {r : Register} {word : String} (h : r.kind.keyword? = some word) :
    Keywords.declaration [] r = r.declared.text word := by
  simp [declaration, of, Table.get?, h, Value.text, Register.declared, Declaration.text]

/-- What keeps it from being declared is its size. -/
theorem Keywords.checkDeclaration_nil (r : Register) :
    Keywords.checkDeclaration [] r = checkDigits r.size := by
  have hword : (Keywords.of [] r).checkPrint = .ok () := by
    rw [Keywords.of, Table.get?]
    cases r.kind <;> rfl
  rw [checkDeclaration, hword]
  rfl

namespace Circuit

variable {c d : Circuit}

/-- The names of a circuit's program are names of registers. -/
theorem outline_named (c : Circuit) : c.outline.Named := by
  intro x hx name hname
  simp only [Program.sentences, outline, List.map_map, List.mem_append, List.mem_map] at hx
  rcases hx with (⟨r, _, rfl⟩ | ⟨r, _, rfl⟩) | ⟨i, _, rfl⟩
  · rw [List.mem_singleton.mp hname]
    exact r.isName_name
  · rw [List.mem_singleton.mp hname]
    exact r.isName_name
  · exact Instruction.isName_of_mem_names hname

/-- The declarations of a circuit can be printed if the sizes of its registers can. -/
theorem checkDeclarations_nil_iff {rs : List Register} :
    rs.forM (Keywords.checkDeclaration []) = .ok () ↔ ∀ r ∈ rs, r.size < 10 ^ maxDigits := by
  rw [Fault.forM_eq_ok_iff]
  refine forall₂_congr fun r _ => ?_
  rw [Keywords.checkDeclaration_nil, checkDigits_eq_ok_iff]

/-- The program of a sound circuit with the usual header and include, if the sizes of its registers
    can be printed. -/
theorem Sound.program_eq (h : c.Sound) (hheader : c.header = .str "OPENQASM 2.0;")
    (hlibrary : c.library = .str "qelib1.inc")
    (hsizes : ∀ r ∈ c.qregs ++ c.cregs, r.size < 10 ^ maxDigits) : c.program [] = .ok c.outline.text := by
  have hqregs : c.qregs.map (Keywords.declaration []) = c.outline.qregs.map (·.text "qreg") := by
    rw [outline, List.map_map]
    apply List.map_congr_left
    intro r hr
    apply Keywords.declaration_nil
    rw [h.quantum r hr]
    rfl
  have hcregs : c.cregs.map (Keywords.declaration []) = c.outline.cregs.map (·.text "creg") := by
    rw [outline, List.map_map]
    apply List.map_congr_left
    intro r hr
    apply Keywords.declaration_nil
    rw [h.classical r hr]
    rfl
  have hlines : c.log.map (·.line) = c.outline.statements.map (·.text ++ "\n") := by
    rw [outline, List.map_map]
    exact List.map_congr_left fun i _ => i.line_eq
  have htext : programText "OPENQASM 2.0;" "qelib1.inc" ((c.qregs ++ c.cregs).map (Keywords.declaration []))
      (c.log.map (·.line)) = c.outline.text := by
    apply String.toList_injective
    rw [List.map_append, hqregs, hcregs, hlines]
    simp [programText, Program.text, Program.lines, List.flatMap_map]
  simp only [program, hheader, hlibrary, checkDeclarations_nil_iff.mpr hsizes]
  rw [← htext]
  rfl

/-- A size that cannot be printed keeps the program from being made. -/
theorem program_eq_error (hheader : c.header = .str "OPENQASM 2.0;") (hlibrary : c.library = .str "qelib1.inc")
    {r : Register} (hr : r ∈ c.qregs ++ c.cregs) (hsize : 10 ^ maxDigits ≤ r.size) :
    c.program [] = .error (.value .tooManyDigits) := by
  cases hcheck : (c.qregs ++ c.cregs).forM (Keywords.checkDeclaration []) with
  | ok _ => exact absurd (checkDeclarations_nil_iff.mp hcheck r hr) (Nat.not_lt.mpr hsize)
  | error fault =>
    obtain ⟨s, _, hs⟩ := Fault.exists_of_forM_eq_error hcheck
    rw [Keywords.checkDeclaration_nil] at hs
    rw [(checkDigits_eq_error hs).2] at hcheck
    simp only [program, hheader, hlibrary, hcheck]
    rfl

end Circuit

end CircuitScribe
