import CircuitScribe.Proofs.Circuit.Atomic
import CircuitScribe.Session.Action

namespace CircuitScribe

namespace Collections

theorem shareAll_of_forall {items : List Value} (h : ∀ v ∈ items, ∀ c, share v c = (v, c)) :
    ∀ (done : List Value) (c : Collections), shareAll items done c = (done.reverse ++ items, c) := by
  induction items with
  | nil =>
    intro done c
    simp [shareAll]
  | cons v vs ih =>
    intro done c
    rw [shareAll, h v List.mem_cons_self]
    simp only
    rw [ih fun w hw => h w (List.mem_cons_of_mem v hw)]
    simp

theorem share_bit (b : Bit) (c : Collections) : share b.value c = (b.value, c) := by
  simp [Bit.value, Value.bit, share, shareAll]

/-- The operands of an instruction hold no list and no table. -/
theorem share_operand {i : Instruction} {v : Value} (h : v ∈ i.qargs ∨ v ∈ i.cargs)
    (c : Collections) : share v c = (v, c) := by
  cases i with
  | single gate target =>
    simp only [Instruction.qargs, Instruction.cargs, List.mem_singleton, List.not_mem_nil, or_false] at h
    rw [h, share_bit]
  | controlled gate control target =>
    simp only [Instruction.qargs, Instruction.cargs, List.mem_cons, List.not_mem_nil, or_false] at h
    rcases h with rfl | rfl <;> exact share_bit _ c
  | toffoli legacy control₁ control₂ target =>
    simp only [Instruction.qargs, Instruction.cargs, List.mem_cons, List.not_mem_nil, or_false] at h
    rcases h with rfl | rfl | rfl <;> exact share_bit _ c
  | measure source target =>
    simp only [Instruction.qargs, Instruction.cargs, List.mem_singleton] at h
    rcases h with rfl | rfl <;> exact share_bit _ c
  | barrier registers =>
    simp only [Instruction.qargs, Instruction.cargs, List.mem_map, List.not_mem_nil, or_false] at h
    obtain ⟨r, _, rfl⟩ := h
    rfl

/-- The record of an instruction is passed on as it is. -/
theorem share_record (i : Instruction) (c : Collections) :
    share i.record.value c = (i.record.value, c) := by
  have hqargs : ∀ v ∈ i.qargs, ∀ c, share v c = (v, c) := fun v hv => share_operand (.inl hv)
  have hcargs : ∀ v ∈ i.cargs, ∀ c, share v c = (v, c) := fun v hv => share_operand (.inr hv)
  simp [GateRecord.value, Instruction.record, share, shareAll_of_forall hqargs, shareAll_of_forall hcargs]

end Collections

namespace Session

/-- A circuit with what has been assigned to it as it is at this moment. -/
def circuitNow (s : Session) (c : Circuit) : Circuit :=
  { c with name := s.settle c.name, header := s.settle c.header, library := s.settle c.library }

/-- The session in which instructions have been appended to the log of a circuit. -/
def extendLog (s : Session) (id : Nat) (is : List Instruction) : Session :=
  { s with circuits := s.circuits.modify id fun c => { c with log := c.log ++ is } }

variable {s : Session} {id : Nat} {c : Circuit}

theorem extendLog_nil (s : Session) (id : Nat) : s.extendLog id [] = s := by
  have hsame : (fun c : Circuit => { c with log := c.log ++ [] }) = fun c => c := by
    funext c
    rw [List.append_nil]
  rw [extendLog, hsame]
  exact congrArg (fun circuits => ({ s with circuits := circuits } : Session)) (List.modify_id _ _)

theorem extendLog_extendLog (s : Session) (id : Nat) (is js : List Instruction) :
    (s.extendLog id is).extendLog id js = s.extendLog id (is ++ js) := by
  simp only [extendLog, List.modify_modify_eq]
  congr 1
  simp [Function.comp_def]

theorem circuit?_eq_some (h : s.circuits[id]? = some c) : s.circuit? id = some (s.circuitNow c) := by
  simp [circuit?, circuitNow, h]

theorem withLog_append (h : s.circuits[id]? = some c) (is : List Instruction) :
    s.withLog id (c.log ++ is) = s.extendLog id is := by
  have hcircuits : (s.circuits.modify id fun d => { d with log := c.log ++ is }) =
      s.circuits.modify id fun d => { d with log := d.log ++ is } := by
    apply List.ext_getElem?
    intro n
    simp only [List.getElem?_modify]
    by_cases hn : id = n
    · subst hn
      simp [h]
    · simp [hn]
  simp only [withLog, extendLog, hcircuits]

theorem withLog_log (h : s.circuits[id]? = some c) : s.withLog id c.log = s := by
  have hcircuits : (s.circuits.modify id fun d => { d with log := c.log }) = s.circuits := by
    apply List.ext_getElem?
    intro n
    simp only [List.getElem?_modify]
    by_cases hn : id = n
    · subst hn
      simp [h]
    · simp [hn]
  simp only [withLog, hcircuits]

/-- A gate call does to the session what it does to the circuit: it appends one instruction and
    gives back its record, or appends several and gives back an instruction set with their
    records, or fails and leaves the session as it was. -/
theorem gate_cases (h : s.circuits[id]? = some c) (call : GateCall) :
    let o := (s.circuitNow c).call s.surroundings call
    (∃ i, o.result = .ok (.one i) ∧ c.Admits s.words i ∧
      o.circuit = { s.circuitNow c with log := c.log ++ [i] } ∧
      s.gate (.circuit id) call = (s.extendLog id [i], ⟨.ok i.record.value, o.messages⟩)) ∨
    (∃ is, o.result = .ok (.each is) ∧ (∀ i ∈ is, c.Admits s.words i) ∧
      o.circuit = { s.circuitNow c with log := c.log ++ is } ∧
      s.gate (.circuit id) call =
        ({ s.extendLog id is with instructionSets := s.instructionSets ++ [is.map (·.record)] },
          ⟨.ok (.instructionSet s.instructionSets.length), o.messages⟩)) ∨
    (∃ fault, o.result = .error fault ∧ o.circuit = s.circuitNow c ∧
      s.gate (.circuit id) call = (s, ⟨.error fault, o.messages⟩)) := by
  intro o
  have hadmits {i : Instruction} (hi : (s.circuitNow c).Admits s.words i) : c.Admits s.words i :=
    hi.of_same rfl rfl rfl
  have hlog : (s.circuitNow c).log = c.log := rfl
  simp only [gate, circuit?_eq_some h]
  rcases (s.circuitNow c).call_allOrNone s.surroundings call with
    ⟨applied, hresult, hall, hcircuit⟩ | ⟨fault, hresult, hcircuit⟩
  · rw [hresult, hcircuit]
    simp only [hlog, withLog_append h]
    cases applied with
    | one i => exact .inl ⟨i, rfl, hadmits (hall i (by simp [Applied.instructions])), rfl, rfl⟩
    | each is => exact .inr (.inl ⟨is, rfl, fun i hi => hadmits (hall i hi), rfl, rfl⟩)
  · rw [hresult, hcircuit]
    simp only [hlog, withLog_log h]
    exact .inr (.inr ⟨fault, rfl, trivial, rfl⟩)

theorem shareReply_error (s : Session) (fault : Fault) (messages : List Message) :
    s.shareReply ⟨.error fault, messages⟩ = (s, ⟨.error fault, messages⟩) := rfl

/-- A value without lists and tables is passed on as it is. -/
theorem shareReply_ok {s : Session} {v : Value} (h : s.collections.share v = (v, s.collections))
    (messages : List Message) :
    s.shareReply ⟨.ok v, messages⟩ = (s, ⟨.ok v, messages⟩) := by
  simp [shareReply, share, h]

/-- What comes of a call on a circuit, by its result: the session after it and what the caller gets. -/
def afterCall (s : Session) (id : Nat) : Except Fault Applied → Session × Except Fault Value
  | .ok (.one i) => (s.extendLog id [i], .ok i.record.value)
  | .ok (.each is) =>
    ({ s.extendLog id is with instructionSets := s.instructionSets ++ [is.map (·.record)] },
      .ok (.instructionSet s.instructionSets.length))
  | .error fault => (s, .error fault)

/-- A call comes to what it comes to on the circuit. -/
theorem perform_gate_result (h : s.circuits[id]? = some c) (call : GateCall) :
    ((s.perform (.gate (.circuit id) call)).1, (s.perform (.gate (.circuit id) call)).2.result) =
      s.afterCall id ((s.circuitNow c).call s.surroundings (call.map s.settle)).result := by
  have hperform : s.perform (.gate (.circuit id) call) =
      (s.gate (.circuit id) (call.map s.settle)).1.shareReply
        (s.gate (.circuit id) (call.map s.settle)).2 := rfl
  rw [hperform]
  rcases gate_cases h (call.map s.settle) with
    ⟨i, hone, _, _, hgate⟩ | ⟨is, heach, _, _, hgate⟩ | ⟨fault, herror, _, hgate⟩
  · rw [hgate, hone, shareReply_ok (Collections.share_record i _)]
    rfl
  · rw [hgate, heach, shareReply_ok rfl]
    rfl
  · rw [hgate, herror]
    rfl

/-- It says what it says on the circuit. -/
theorem perform_gate_eq {call : GateCall} {o : Outcome Applied} (h : s.circuits[id]? = some c)
    (ho : (s.circuitNow c).call s.surroundings (call.map s.settle) = o) :
    s.perform (.gate (.circuit id) call) =
      ((s.afterCall id o.result).1, ⟨(s.afterCall id o.result).2, o.messages⟩) := by
  have hmessages : (s.perform (.gate (.circuit id) call)).2.messages = o.messages := by
    simp only [perform, act, gate, circuit?_eq_some h, ho, shareReply]
    rcases o.result with fault | (i | is) <;> rfl
  have hafter := perform_gate_result h call
  rw [ho, Prod.ext_iff] at hafter
  exact Prod.ext hafter.1 (congrArg₂ Reply.mk hafter.2 hmessages)

/-- A call of a single instruction that is refused leaves the session as it was. -/
theorem perform_gate_of_error {call : GateCall} {p : Placement} (h : s.circuits[id]? = some c)
    (hcall : (s.circuitNow c).call s.surroundings (call.map s.settle) =
      ((s.circuitNow c).append s.surroundings p).map .one)
    {fault : Fault} (hfault : (s.circuitNow c).instruction s.surroundings p = .error fault) :
    (s.perform (.gate (.circuit id) call)).1 = s ∧
      (s.perform (.gate (.circuit id) call)).2.result = .error fault := by
  have hafter := perform_gate_result h call
  rw [hcall, Circuit.append, hfault] at hafter
  exact Prod.mk.inj hafter

/-- A call that attaches an instruction gives back its record, or its line cannot be printed, and
    the session is as it was. -/
theorem perform_gate_of_attach {call : GateCall} {i : Instruction} (h : s.circuits[id]? = some c)
    (hcall : (s.circuitNow c).call s.surroundings (call.map s.settle) =
      ((s.circuitNow c).attach i).map .one) :
    (i.checkLine = .ok () ∧ (s.perform (.gate (.circuit id) call)).1 = s.extendLog id [i] ∧
      (s.perform (.gate (.circuit id) call)).2.result = .ok i.record.value) ∨
    (i.checkLine ≠ .ok () ∧ (s.perform (.gate (.circuit id) call)).1 = s ∧
      (s.perform (.gate (.circuit id) call)).2.result = .error (.value .tooManyDigits)) := by
  have hafter := perform_gate_result h call
  rw [hcall] at hafter
  rcases (s.circuitNow c).attach_cases i with ⟨hline, hattach⟩ | ⟨hline, hattach⟩
  · rw [hattach] at hafter
    exact .inl ⟨hline, Prod.mk.inj hafter⟩
  · rw [hattach] at hafter
    exact .inr ⟨hline, Prod.mk.inj hafter⟩

/-- A call on a circuit that is not there fails. -/
theorem perform_gate_of_missing (h : s.circuits[id]? = none) (call : GateCall) :
    s.perform (.gate (.circuit id) call) = (s, { result := .error (.value .noAttribute) }) := by
  simp only [perform, act, gate, circuit?, h, Option.map_none, shareReply_error]

/-- Other values have no gates. -/
theorem perform_gate_of_other {on : Value} (h : ∀ id, on ≠ .circuit id) (call : GateCall) :
    s.perform (.gate on call) = (s, { result := .error (.value .noAttribute) }) := by
  have hgate : s.gate on (call.map s.settle) = (s, { result := .error (.value .noAttribute) }) := by
    unfold gate
    split
    · exact absurd rfl (h _)
    · rfl
  simp only [perform, act, hgate, shareReply_error]

theorem records_extendLog (h : s.circuits[id]? = some c) (is : List Instruction) :
    ((s.extendLog id is).circuits[id]?).map (·.records) =
      some (c.records ++ is.map (·.record)) := by
  simp [extendLog, h, Circuit.records]

theorem circuits_extendLog_ne {n : Nat} (hn : n ≠ id) (is : List Instruction) :
    (s.extendLog id is).circuits[n]? = s.circuits[n]? := by
  simp [extendLog, Ne.symm hn]

end Session

end CircuitScribe
