import CircuitScribe.Proofs.Circuit.Bare
import CircuitScribe.Proofs.Program.Reading

namespace CircuitScribe

/-- What a call is given, in its order. -/
def GateCall.arguments : GateCall → List Value
  | .place (.single _ target) => [target]
  | .place (.controlled _ control target) => [control, target]
  | .place (.toffoli control₁ control₂ target) => [control₁, control₂, target]
  | .place (.measure source target) => [source, target]
  | .barrier => []

/-- A call asks for a record again: it is that of the gate of its kind, on the record's own
    operands. A barrier takes none. -/
structure GateRecord.AskedBy (r : GateRecord) (call : GateCall) : Prop where
  kind_eq : call.kind = r.kind
  arguments_eq : call.arguments = if r.kind = .barrier then [] else r.qargs ++ r.cargs

/-- The call of the gate of an instruction on its own operands. -/
def Instruction.call : Instruction → GateCall
  | .single gate target => .place (.single gate target.value)
  | .controlled gate control target => .place (.controlled gate control.value target.value)
  | .toffoli _ control₁ control₂ target =>
    .place (.toffoli control₁.value control₂.value target.value)
  | .measure source target => .place (.measure source.value target.value)
  | .barrier _ => .barrier

theorem SingleGate.kind_ne_barrier (gate : SingleGate) : gate.kind ≠ .barrier := by
  cases gate <;> decide

theorem ControlledGate.kind_ne (gate : ControlledGate) : gate.kind ≠ .barrier ∧ gate.kind ≠ .measure := by
  cases gate <;> decide

theorem Instruction.askedBy_call (i : Instruction) : i.record.AskedBy i.call := by
  cases i with
  | single gate target => exact ⟨rfl, (if_neg gate.kind_ne_barrier).symm⟩
  | controlled gate control target => exact ⟨rfl, (if_neg gate.kind_ne.1).symm⟩
  | toffoli legacy control₁ control₂ target => exact ⟨rfl, rfl⟩
  | measure source target => exact ⟨rfl, rfl⟩
  | barrier registers => exact ⟨rfl, rfl⟩

/-- A call is known by its kind and by what it is given. -/
theorem GateCall.eq_of_kind_eq {a b : GateCall} (hkind : a.kind = b.kind)
    (harguments : a.arguments = b.arguments) : a = b := by
  cases a with
  | barrier =>
    cases b with
    | barrier => rfl
    | place q => cases q <;> simp [arguments] at harguments
  | place p =>
    cases b with
    | barrier => cases p <;> simp [arguments] at harguments
    | place q =>
      -- The number of arguments tells placements apart, but for a control and a measurement.
      cases p <;> cases q <;>
        simp only [arguments, List.cons.injEq, and_true, and_false, reduceCtorEq] at harguments
      case single.single gate target gate' target' =>
        rw [SingleGate.kind_inj hkind, harguments]
      case controlled.controlled gate control target gate' control' target' =>
        rw [ControlledGate.kind_inj hkind, harguments.1, harguments.2]
      case toffoli.toffoli =>
        rw [harguments.1, harguments.2.1, harguments.2.2]
      case measure.measure =>
        rw [harguments.1, harguments.2]
      case controlled.measure gate _ _ _ _ => exact absurd hkind gate.kind_ne.2
      case measure.controlled gate _ _ => exact absurd hkind.symm gate.kind_ne.2

/-- No other call asks for a record again. -/
theorem Instruction.call_of_askedBy {i : Instruction} {call : GateCall} (h : i.record.AskedBy call) :
    call = i.call :=
  have hcall := i.askedBy_call
  GateCall.eq_of_kind_eq (h.kind_eq.trans hcall.kind_eq.symm) (h.arguments_eq.trans hcall.arguments_eq.symm)

namespace Circuit

variable {env : Surroundings} {c : Circuit} {i : Instruction} {legacy : Bool}

/-- What stands in the log is appended again when it is asked for again. -/
theorem call_of_admits (h : c.Admits env.keywords i) (hspacing : c.spacing = some legacy) :
    c.call env i.call = (c.attach i).map .one := by
  have hbit {kind : RegisterKind} {b : Bit} (hb : (kind, b) ∈ i.bits) :
      c.bit env.keywords kind b.value = .ok b :=
    bit_eq_ok_iff.mpr ⟨rfl, h.owns _ hb⟩
  cases i with
  | single gate target =>
    have hinstruction : c.instruction env (.single gate target.value) = .ok (.single gate target) := by
      rw [instruction, hbit (by simp [Instruction.bits])]
      rfl
    exact congrArg (Outcome.map Applied.one) (append_eq_attach hinstruction)
  | controlled gate control target =>
    have hinstruction : c.instruction env (.controlled gate control.value target.value) =
        .ok (.controlled gate control target) := by
      rw [instruction, hbit (by simp [Instruction.bits]), hbit (by simp [Instruction.bits])]
      rfl
    exact congrArg (Outcome.map Applied.one) (append_eq_attach hinstruction)
  | toffoli own control₁ control₂ target =>
    have hown : own = legacy := h.spacing_eq own control₁ control₂ target legacy rfl hspacing
    have hinstruction : c.instruction env (.toffoli control₁.value control₂.value target.value) =
        .ok (.toffoli own control₁ control₂ target) := by
      rw [instruction, hbit (by simp [Instruction.bits]), hbit (by simp [Instruction.bits]),
        hbit (by simp [Instruction.bits]), legacySpacing, hspacing, hown]
      rfl
    exact congrArg (Outcome.map Applied.one) (append_eq_attach hinstruction)
  | measure source target =>
    have hinstruction : c.instruction env (.measure source.value target.value) =
        .ok (.measure source target) := by
      rw [instruction, hbit (by simp [Instruction.bits]), hbit (by simp [Instruction.bits])]
      rfl
    exact congrArg (Outcome.map Applied.one) (append_eq_attach hinstruction)
  | barrier registers =>
    obtain ⟨rfl, hsome⟩ := h.barrier_eq registers rfl
    have hbarrier : c.barrier = c.attach (.barrier c.qregs) := by
      rw [barrier, if_neg (by simpa using hsome)]
    exact congrArg (Outcome.map Applied.one) hbarrier

/-- Registers of a circuit are accepted for another one. -/
theorem checkRegisters_register {taken : List String} {rs : List Register} (hkinds : ∀ r ∈ rs, r.kind ≠ .general)
    (htaken : ∀ r ∈ rs, r.name ∉ taken) (hnodup : (rs.map (·.name)).Nodup) :
    checkRegisters taken (rs.map .register) = .ok rs := by
  induction rs generalizing taken with
  | nil => rfl
  | cons r rest ih =>
    obtain ⟨hname, hrest⟩ := List.nodup_cons.mp hnodup
    have hmore : checkRegisters (r.name :: taken) (rest.map .register) = .ok rest := by
      refine ih (fun s hs => hkinds s (List.mem_cons_of_mem r hs)) (fun s hs => ?_) hrest
      rw [List.mem_cons, not_or]
      exact ⟨fun heq => hname (List.mem_map.mpr ⟨s, hs, heq⟩), htaken s (List.mem_cons_of_mem r hs)⟩
    rw [List.map_cons, checkRegisters, if_neg (hkinds r List.mem_cons_self),
      if_neg (htaken r List.mem_cons_self), hmore]
    rfl

/-- A circuit that is made from the registers of another one has the same registers. -/
theorem make_of_wellDeclared (h : c.WellDeclared) {count : Nat} {name : Value} {text : String}
    (hname : chooseName count name = .ok text) (legacy : Bool) :
    make count ((c.qregs ++ c.cregs).map .register) name (.bool legacy) =
      .ok { name := .str text, qregs := c.qregs, cregs := c.cregs, spacing := some legacy } := by
  have hregisters : checkRegisters [] ((c.qregs ++ c.cregs).map .register) = .ok (c.qregs ++ c.cregs) := by
    refine checkRegisters_register (fun r hr => ?_) (by simp) h.names_nodup
    rcases List.mem_append.mp hr with hr | hr
    · simp [h.quantum r hr]
    · simp [h.classical r hr]
  have hqregs : (c.qregs ++ c.cregs).filter (·.kind = .quantum) = c.qregs := by
    rw [List.filter_append, List.filter_eq_self.mpr, List.filter_eq_nil_iff.mpr, List.append_nil]
    · intro r hr
      simp [h.classical r hr]
    · intro r hr
      simp [h.quantum r hr]
  have hcregs : (c.qregs ++ c.cregs).filter (·.kind = .classical) = c.cregs := by
    rw [List.filter_append, List.filter_eq_nil_iff.mpr, List.filter_eq_self.mpr, List.nil_append]
    · intro r hr
      simp [h.classical r hr]
    · intro r hr
      simp [h.quantum r hr]
  simp only [make, hname, hregisters, chooseSpacing]
  exact congrArg Except.ok (by rw [hqregs, hcregs])

end Circuit

end CircuitScribe
