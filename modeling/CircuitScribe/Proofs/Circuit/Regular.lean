import CircuitScribe.Circuit
import CircuitScribe.Proofs.Circuit.Atomic

namespace CircuitScribe

namespace Text

/-- A text without its spaces. -/
def unspaced (text : String) : String :=
  String.ofList (text.toList.filter (· ≠ ' '))

theorem unspaced_append (s t : String) : unspaced (s ++ t) = unspaced s ++ unspaced t := by
  simp [unspaced]

theorem unspaced_join (texts : List String) : unspaced (String.join texts) = String.join (texts.map unspaced) := by
  induction texts with
  | nil => rfl
  | cons text rest ih => rw [List.map_cons, String.join_cons, String.join_cons, unspaced_append, ih]

end Text

open Text (unspaced unspaced_append unspaced_join)

/-- The separators of the two spacings are the same comma but for the blank. -/
theorem Line.unspaced_toffoli (word control₁ control₂ target : String) (legacy legacy' : Bool) :
    unspaced (toffoli word legacy control₁ control₂ target) =
      unspaced (toffoli word legacy' control₁ control₂ target) := by
  have hseparator (legacy : Bool) : unspaced (toffoliSeparator legacy) = "," := by cases legacy <;> decide
  simp only [toffoli, unspaced_append, hseparator]

/-- An instruction with the regular spacing. -/
def Instruction.regular : Instruction → Instruction
  | .toffoli _ control₁ control₂ target => .toffoli false control₁ control₂ target
  | i => i

theorem Instruction.regular_checkLine (i : Instruction) : i.regular.checkLine = i.checkLine := by
  cases i <;> rfl

theorem Instruction.unspaced_line_regular (i : Instruction) : unspaced i.regular.line = unspaced i.line := by
  cases i with
  | toffoli legacy control₁ control₂ target => exact Line.unspaced_toffoli _ _ _ _ false legacy
  | _ => rfl

theorem Instruction.regular_eq_self {i : Instruction} (h : i.kind ≠ .ccx) : i.regular = i := by
  cases i with
  | toffoli => exact absurd rfl h
  | _ => rfl

/-- What a caller gets, up to the spaces in the line of a record of a Toffoli. -/
def Value.unspaced : Value → Value
  | .record .ccx qargs cargs rendered => .record .ccx qargs cargs (Text.unspaced rendered)
  | v => v

/-- The records of an instruction in the two spacings differ in the spaces of a Toffoli's line. -/
theorem Instruction.unspaced_record_regular (i : Instruction) :
    i.regular.record.value.unspaced = i.record.value.unspaced := by
  cases i with
  | toffoli legacy control₁ control₂ target =>
    exact congrArg (Value.record .ccx _ _) (Instruction.toffoli legacy control₁ control₂ target).unspaced_line_regular
  | _ => rfl

/-- What a gate call gives back, with the regular spacing of the Toffoli that it may be. -/
def Applied.regular : Applied → Applied
  | .one i => .one i.regular
  | .each is => .each is

namespace Circuit

/-- A circuit as it would be with the regular spacing in place of its own. -/
def regular (c : Circuit) : Circuit :=
  { c with spacing := some false, log := c.log.map Instruction.regular }

variable {env : Surroundings} {c : Circuit} {legacy : Bool} {p : Placement}

theorem bit_regular (kw : Keywords) (c : Circuit) (kind : RegisterKind) (operand : Value) :
    c.regular.bit kw kind operand = c.bit kw kind operand := rfl

/-- The spacing is read for a Toffoli alone. -/
theorem instruction_regular_of_ne (hp : p.kind ≠ .ccx) :
    c.regular.instruction env p = c.instruction env p := by
  cases p with
  | toffoli => exact absurd rfl hp
  | _ => rfl

/-- Acceptance does not depend on the spacing, and no more than the spacing of a Toffoli does. -/
theorem instruction_regular (hspacing : c.spacing = some legacy) (p : Placement) :
    c.regular.instruction env p = (c.instruction env p).map Instruction.regular := by
  by_cases hp : p.kind = .ccx
  · cases p with
    | single gate target => cases gate <;> cases hp
    | controlled gate control target => cases gate <;> cases hp
    | measure source target => cases hp
    | toffoli control₁ control₂ target =>
      have hlegacy : c.legacySpacing env = .ok legacy := by rw [legacySpacing, hspacing]
      have hregular : c.regular.legacySpacing env = .ok false := rfl
      simp only [instruction, bit_regular, hlegacy, hregular]
      rcases c.bit env.keywords .quantum control₁ with fault | b₁
      · rfl
      rcases c.bit env.keywords .quantum control₂ with fault | b₂
      · rfl
      rcases c.bit env.keywords .quantum target with fault | b₃ <;> rfl
  · rw [instruction_regular_of_ne hp]
    cases hi : c.instruction env p with
    | error fault => rfl
    | ok i =>
      have hkind : i.kind ≠ .ccx := (performs_of_instruction hi).kind_eq ▸ hp
      rw [Except.map, Instruction.regular_eq_self hkind]

theorem result_attach_regular (c : Circuit) (i : Instruction) :
    (c.regular.attach i.regular).result = (c.attach i).result.map Instruction.regular := by
  unfold attach
  rw [i.regular_checkLine]
  cases i.checkLine <;> rfl

theorem result_append_regular (hspacing : c.spacing = some legacy) (p : Placement) :
    (c.regular.append env p).result = (c.append env p).result.map Instruction.regular := by
  unfold append
  rw [instruction_regular hspacing]
  cases c.instruction env p with
  | ok i => exact c.result_attach_regular i
  | error fault => rfl

/-- What a circuit with the regular spacing admits has it. -/
theorem Admits.regular_eq_self {i : Instruction} {kw : Keywords} (h : c.Admits kw i)
    (hspacing : c.spacing = some false) :
    i.regular = i := by
  cases i with
  | toffoli own control₁ control₂ target =>
    obtain rfl : own = false := h.spacing_eq own control₁ control₂ target false rfl hspacing
    rfl
  | _ => rfl

/-- What is made for each bit of a register is no Toffoli, and so is the same in both spacings. -/
theorem result_appendEach_regular {place : Nat → Placement} (hplace : ∀ j, (place j).kind ≠ .ccx) (count : Nat) :
    (c.regular.appendEach env place count).result = (c.appendEach env place count).result := by
  have hfrom : ∀ (count start : Nat) (made : List Instruction),
      c.regular.instructionsFrom env place count start made = c.instructionsFrom env place count start made := by
    intro count
    induction count with
    | zero =>
      intro start made
      rfl
    | succ count ih =>
      intro start made
      simp only [instructionsFrom, instruction_regular_of_ne (hplace start), ih]
  unfold appendEach
  rw [hfrom]
  split
  · next is _ =>
    unfold attachAll
    cases is.forM Instruction.checkLine <;> rfl
  · rfl

theorem result_measureEach_regular (q k : Register) :
    (c.regular.measureEach env q k).result = (c.measureEach env q k).result := by
  unfold measureEach
  cases boundedSize q with
  | error fault => rfl
  | ok m =>
    cases boundedSize k with
    | error fault => rfl
    | ok n =>
      by_cases hsizes : m ≠ n
      · simp only [if_pos hsizes]
      · simp only [if_neg hsizes]
        exact result_appendEach_regular (fun _ => by simp [Placement.kind]) q.size

theorem result_barrier_regular (c : Circuit) :
    c.regular.barrier.result = c.barrier.result.map Instruction.regular := by
  have hname : c.regular.name = c.name := rfl
  have hqregs : c.regular.qregs = c.qregs := rfl
  unfold barrier
  rw [hqregs, hname]
  split
  · cases c.name.inserted <;> rfl
  · exact c.result_attach_regular (.barrier c.qregs)

/-- A gate call comes to the same on a circuit with the regular spacing, but for the spacing of a
    Toffoli. -/
theorem result_call_regular (hspacing : c.spacing = some legacy) (call : GateCall) :
    (c.regular.call env call).result = (c.call env call).result.map Applied.regular := by
  have hone {o o' : Outcome Instruction} (h : o'.result = o.result.map Instruction.regular) :
      (o'.map Applied.one).result = (o.map Applied.one).result.map Applied.regular := by
    simp only [Outcome.map, h]
    cases o.result <;> rfl
  have heach {o o' : Outcome (List Instruction)} (h : o'.result = o.result) :
      (o'.map Applied.each).result = (o.map Applied.each).result.map Applied.regular := by
    simp only [Outcome.map, h]
    cases o.result <;> rfl
  have happend (p : Placement) : (c.regular.append env p).result =
      (c.append env p).result.map Instruction.regular :=
    c.result_append_regular hspacing p
  unfold Circuit.call
  split
  · exact hone c.result_barrier_regular
  · next gate r =>
    split
    · exact heach (result_appendEach_regular (fun _ => by cases gate <;> simp [Placement.kind, SingleGate.kind]) r.size)
    · exact hone (happend _)
  · split
    · exact heach (result_measureEach_regular _ _)
    · exact hone (happend _)
  · exact hone (happend _)

/-- What a gate call makes for the bits of registers has no spacing of its own. -/
theorem map_regular_of_each (hspacing : c.spacing = some legacy) {call : GateCall} {is : List Instruction}
    (h : (c.call env call).result = .ok (.each is)) : is.map Instruction.regular = is := by
  have hregular : (c.regular.call env call).result = .ok (.each is) := by
    rw [result_call_regular hspacing, h]
    rfl
  rcases c.regular.call_allOrNone env call with ⟨applied, hresult, hadmits, _⟩ | ⟨fault, hresult, _⟩
  · rw [hregular] at hresult
    obtain rfl : applied = .each is := (Except.ok.inj hresult).symm
    calc
      is.map Instruction.regular = is.map id := List.map_congr_left fun i hi => (hadmits i hi).regular_eq_self rfl
      _ = is := List.map_id is
  · rw [hregular] at hresult
    cases hresult

theorem regular_make (count : Nat) (registers : List Value) (name : Value) (legacy : Bool) :
    (make count registers name (.bool legacy)).map regular = make count registers name (.bool false) := by
  simp only [make]
  rcases chooseName count name with fault | text
  · rfl
  rcases checkRegisters [] registers with fault | rs
  · rfl
  rfl

/-- The programs of a circuit in the two spacings are the same up to their spaces. -/
theorem unspaced_program_regular (kw : Keywords) (c : Circuit) :
    (c.regular.program kw).map Text.unspaced = (c.program kw).map Text.unspaced := by
  have hlines : ((c.log.map Instruction.regular).map (·.line)).map Text.unspaced =
      (c.log.map (·.line)).map Text.unspaced := by
    simp only [List.map_map]
    exact List.map_congr_left fun i _ => i.unspaced_line_regular
  have htext (header library : String) (declarations : List String) :
      Text.unspaced (programText header library declarations ((c.log.map Instruction.regular).map (·.line))) =
        Text.unspaced (programText header library declarations (c.log.map (·.line))) := by
    simp only [programText, unspaced_append, unspaced_join, hlines]
  have hheader : c.regular.header = c.header := rfl
  have hlibrary : c.regular.library = c.library := rfl
  unfold program
  rw [hheader, hlibrary]
  split
  · rcases c.library.inserted with fault | library
    · rfl
    · have hqregs : c.regular.qregs = c.qregs := rfl
      have hcregs : c.regular.cregs = c.cregs := rfl
      rw [hqregs, hcregs]
      rcases (c.qregs ++ c.cregs).forM kw.checkDeclaration with fault | _
      · rfl
      · exact congrArg Except.ok (htext _ library _)
  · rfl

end Circuit

end CircuitScribe
