import CircuitScribe.Proofs.Circuit.Sound
import CircuitScribe.Proofs.Value.Bare

namespace CircuitScribe

namespace Fault

variable {α β α' β' : Type}

/-- A result with the values in it bare, where a fault is one too. -/
def bareWith (f : α → β) : Except Fault α → Except Fault β
  | .ok a => .ok (f a)
  | .error fault => .error fault.bare

/-- Steps that each give the same on bare values give the same together. -/
theorem bareWith_bind {f : α → α'} {g : β → β'} {x : Except Fault α} {x' : Except Fault α'}
    {next : α → Except Fault β} {next' : α' → Except Fault β'} (hx : bareWith f x = x')
    (hnext : ∀ a, x = .ok a → bareWith g (next a) = next' (f a)) :
    bareWith g (x >>= next) = x' >>= next' := by
  subst hx
  cases x with
  | ok a => exact hnext a rfl
  | error fault => rfl

theorem bareWith_map {f : α → α'} {g : β → β'} {make : α → β} {make' : α' → β'} {x : Except Fault α}
    (h : ∀ a, g (make a) = make' (f a)) : bareWith g (x.map make) = (bareWith f x).map make' := by
  cases x with
  | ok a => exact congrArg Except.ok (h a)
  | error fault => rfl

/-- Results that are the same up to what is not bare succeed together or fail together. -/
theorem cases_of_bareWith_eq {f : α → β} {x y : Except Fault α} (h : bareWith f x = bareWith f y) :
    (∃ a b, x = .ok a ∧ y = .ok b ∧ f a = f b) ∨
      ∃ fault fault', x = .error fault ∧ y = .error fault' ∧ fault.bare = fault'.bare := by
  cases x with
  | ok a =>
    cases y with
    | ok b => exact .inl ⟨a, b, rfl, rfl, Except.ok.inj h⟩
    | error fault => cases h
  | error fault =>
    cases y with
    | ok b => cases h
    | error fault' => exact .inr ⟨fault, fault', rfl, rfl, Except.error.inj h⟩

end Fault

open Fault (bareWith bareWith_bind bareWith_map)

/-- The register that an operand is, or that it is a bit of. -/
def Value.onRegister? : Value → Option Register
  | .register r => some r
  | .tuple [.register r, _] => some r
  | _ => none

def Placement.bare : Placement → Placement
  | .single gate target => .single gate target.bare
  | .controlled gate control target => .controlled gate control.bare target.bare
  | .toffoli control₁ control₂ target => .toffoli control₁.bare control₂.bare target.bare
  | .measure source target => .measure source.bare target.bare

@[simp] theorem Placement.bare_kind (p : Placement) : p.bare.kind = p.kind := by
  cases p <;> rfl

namespace GateCall

/-- The kind of the instructions that a call asks for. -/
def kind : GateCall → GateKind
  | .place p => p.kind
  | .barrier => .barrier

/-- The registers of the operands of a call. -/
def registers : GateCall → List Register
  | .place p => p.operands.filterMap (·.2.onRegister?)
  | .barrier => []

end GateCall

/-- What a caller gets from a gate call: a record, or the records for the bits of registers. -/
def Applied.value : Applied → Value
  | .one i => i.record.value
  | .each is => .list ((is.map (·.record)).map (·.value))

/-- A circuit with the values in it bare. -/
def Circuit.bare (c : Circuit) : Circuit where
  name := c.name.bare
  qregs := c.qregs.map Register.bare
  cregs := c.cregs.map Register.bare
  spacing := c.spacing
  header := c.header.bare
  library := c.library.bare
  log := c.log.map Instruction.bare

def Applied.bare : Applied → Applied
  | .one i => .one i.bare
  | .each is => .each (is.map Instruction.bare)

theorem Instruction.qargs_bare (i : Instruction) : i.bare.qargs = i.qargs.map Value.bare := by
  cases i with
  | barrier registers => simp [bare, qargs, Value.bare]
  | _ => rfl

theorem Instruction.cargs_bare (i : Instruction) : i.bare.cargs = i.cargs.map Value.bare := by
  cases i <;> rfl

theorem Instruction.value_record_bare (i : Instruction) : i.bare.record.value = i.record.value.bare := by
  simp only [record, GateRecord.value, Value.bare, Value.bareAll_eq_map, bare_line, bare_kind,
    qargs_bare, cargs_bare]

theorem Applied.value_bare (a : Applied) : a.bare.value = a.value.bare := by
  cases a with
  | one i => exact i.value_record_bare
  | each is => simp [bare, value, Value.bare, Value.bareAll_eq_map, Instruction.value_record_bare]

/-- The second outcome is the first one with its values bare. What is logged may differ. -/
structure Outcome.Mirrors {α β : Type} (f : α → β) (o : Outcome α) (o' : Outcome β) : Prop where
  circuit : o.circuit.bare = o'.circuit
  result : bareWith f o.result = o'.result

theorem Outcome.Mirrors.map {α β α' β' : Type} {f : α → α'} {g : β → β'} {o : Outcome α} {o' : Outcome α'}
    (h : o.Mirrors f o') {make : α → β} {make' : α' → β'} (hmake : ∀ a, g (make a) = make' (f a)) :
    (o.map make).Mirrors g (o'.map make') := by
  refine ⟨h.circuit, ?_⟩
  rw [Outcome.map, Outcome.map, ← h.result]
  exact bareWith_map hmake

/-- Surroundings in which nothing that a call on a circuit depends on has been replaced: no
    declaration word of a register. A circuit whose Toffoli lines follow the settings depends on
    these too. -/
structure Surroundings.Neutral (env : Surroundings) (c : Circuit) (call : GateCall) : Prop where
  words : ∀ r ∈ c.qregs ++ c.cregs ++ call.registers, env.keywords.get? r.id = none
  spacing : call.kind = .ccx → c.spacing.isSome = true

/-- Surroundings in which a call on the bare circuit finds what the call itself finds in others: no
    declaration word of a register, and the same spacing of Toffoli lines. -/
structure Surroundings.Mirrors (env env' : Surroundings) (c : Circuit) (call : GateCall) : Prop where
  words : ∀ r ∈ c.qregs ++ c.cregs ++ call.registers, env.keywords.get? r.id = none
  keywords : env'.keywords = []
  spacing : call.kind = .ccx → bareWith id (c.legacySpacing env) = c.bare.legacySpacing env'

namespace Keywords

variable {kw : Keywords}

theorem of_eq_nil {r : Register} (h : kw.get? r.id = none) : kw.of r = of [] r := by
  rw [of, h]
  rfl

/-- The words that registers have of their own are no registers. -/
theorem equals_of_nil (same same' : Register → Register → Bool) (r s : Register) :
    (of [] r).equals same (of [] s) = (of [] r).equals same' (of [] s) := by
  cases hr : r.kind <;> cases hs : s.kind <;>
    simp [of, Table.get?, hr, hs, RegisterKind.keyword?, Value.equals, Value.agrees]

/-- Registers that have not been given a word are compared by their data. -/
theorem same_eq_nil {r s : Register} (hr : kw.get? r.id = none) (hs : kw.get? s.id = none) :
    kw.same r s = same [] r s := by
  simp only [same, depth, sameWithin, of_eq_nil hr, of_eq_nil hs]
  rw [equals_of_nil]

theorem contains_bare {rs : List Register} {r : Register} (hrs : ∀ s ∈ rs, kw.get? s.id = none)
    (hr : kw.get? r.id = none) : contains [] (rs.map Register.bare) r.bare = kw.contains rs r := by
  have hany : (rs.any fun s => s == r || kw.same s r) = rs.any fun s => s == r || same [] s r := by
    rw [Bool.eq_iff_iff, List.any_eq_true, List.any_eq_true]
    refine exists_congr fun s => and_congr_right fun hs => ?_
    rw [same_eq_nil (hrs s hs) hr]
  have hplain : kw.contains rs r = contains [] rs r := by
    rw [contains_of_get?_eq_none hr, contains_nil, hany]
  have hfound : contains [] (rs.map Register.bare) r.bare = .ok true ↔ contains [] rs r = .ok true := by
    rw [contains_nil_iff, contains_nil_iff]
    simp
  rw [hplain, contains_nil, contains_nil, Except.ok.injEq, Bool.eq_iff_iff]
  simpa only [contains_nil, Except.ok.injEq] using hfound

theorem declaration_bare {r : Register} (h : kw.get? r.id = none) :
    declaration [] r.bare = kw.declaration r := by
  rw [declaration, declaration, of_eq_nil h]
  rfl

theorem checkDeclaration_bare {r : Register} (h : kw.get? r.id = none) :
    checkDeclaration [] r.bare = kw.checkDeclaration r := by
  rw [checkDeclaration, checkDeclaration, of_eq_nil h]
  rfl

end Keywords

/-- A text is made of a bare value or not at all, as it is of the value. -/
theorem Value.bareWith_printed (v : Value) : bareWith id v.printed = v.bare.printed := by
  rw [printed_bare]
  cases hprinted : v.printed with
  | ok text => rfl
  | error fault =>
    have hprinting := isPrinting_of_checkPrint (printed_eq_error_iff.mp hprinted)
    exact congrArg Except.error (Fault.bare_eq_self_of_isPrinting hprinting)

theorem Value.bareWith_printedLiteral (v : Value) : bareWith id v.printedLiteral = v.bare.printedLiteral := by
  rw [printedLiteral_bare]
  cases hprinted : v.printedLiteral with
  | ok text => rfl
  | error fault =>
    have hprinting := isPrinting_of_checkPrint (printedLiteral_eq_error_iff.mp hprinted)
    exact congrArg Except.error (Fault.bare_eq_self_of_isPrinting hprinting)

theorem Register.bareWith_refuse {α β : Type} (f : α → β) (r : Register) (n : Int) :
    bareWith f (r.refuse (.int n)) = r.bare.refuse (.int n) := by
  rw [refuse_int, refuse_int, bare_size]
  split <;> rfl

/-- Surroundings without the words of single registers, in which a fault of the settings is bare. -/
def Surroundings.bare (env : Surroundings) : Surroundings :=
  ⟨[], bareWith id env.settings⟩

namespace Circuit

variable {env env' : Surroundings} {kw : Keywords} {c : Circuit}

theorem registers_bare (c : Circuit) (kind : RegisterKind) :
    c.bare.registers kind = (c.registers kind).map Register.bare := by
  cases kind <;> rfl

theorem mem_of_mem_registers {kind : RegisterKind} {r : Register} (h : r ∈ c.registers kind) :
    r ∈ c.qregs ++ c.cregs := by
  cases kind with
  | quantum => exact List.mem_append_left _ h
  | classical => exact List.mem_append_right _ h
  | general => cases h

/-- Which of several registers with the same data a bit is of does not matter. -/
theorem bit_bare_pair {kind : RegisterKind} {r : Register} {n : Int}
    (hown : ∀ r ∈ c.registers kind, kw.get? r.id = none) (hr : kw.get? r.id = none) :
    bareWith Bit.bare (c.bit kw kind (.tuple [.register r, .int n])) =
      c.bare.bit [] kind (.tuple [.register r.bare, .int n]) := by
  have hof : Keywords.of [] r.bare = kw.of r := by
    rw [Keywords.of_eq_nil hr]
    rfl
  have hcontains : bareWith id (kw.contains (c.registers kind) r) = kw.contains (c.registers kind) r := by
    rw [Keywords.contains_of_get?_eq_none hr]
    rfl
  simp only [bit, registers_bare, List.isEmpty_map, Register.bare_kind, Register.bare_size, hof]
  -- The checks in their order: the position, that there are registers, the kind, the owner.
  split
  · split
    · exact bareWith_bind (Value.bareWith_printed c.name) fun _ _ => rfl
    · split
      · refine bareWith_bind (f := id) ?_ fun _ _ => rfl
        rw [Value.bareWith_printed, Value.printed_bare]
      · refine bareWith_bind (f := id) ?_ fun found _ => ?_
        · rw [hcontains, Keywords.contains_bare hown hr]
        · cases found <;> rfl
  · exact r.bareWith_refuse _ n

/-- An operand that is no pair of a register and a position is shown in a message. -/
theorem bareWith_report {α β : Type} (f : α → β) (v : Value) (report : String → UsageFault)
    (h : ∀ text, (report text).bare = report text) :
    bareWith f (do throw (.usage (report (← v.printed))) : Except Fault α) =
      (do throw (.usage (report (← v.bare.printed))) : Except Fault β) :=
  bareWith_bind v.bareWith_printed fun text _ => congrArg (Except.error ∘ Fault.usage) (h text)

theorem bit_bare {kind : RegisterKind} {operand : Value}
    (hown : ∀ r ∈ c.registers kind, kw.get? r.id = none)
    (hon : ∀ r, operand.onRegister? = some r → kw.get? r.id = none) :
    bareWith Bit.bare (c.bit kw kind operand) = c.bare.bit [] kind operand.bare := by
  have hpair (v : Value) : bareWith Bit.bare (do throw (.usage (.operandNotPair (← v.printed)))) =
      (do throw (.usage (.operandNotPair (← v.bare.printed))) : Except Fault Bit) :=
    bareWith_report Bit.bare v .operandNotPair fun _ => rfl
  have honRegister (v : Value) :
      bareWith Bit.bare (do throw (.usage (.operandNotOnRegister (← v.printed)))) =
        (do throw (.usage (.operandNotOnRegister (← v.bare.printed))) : Except Fault Bit) :=
    bareWith_report Bit.bare v .operandNotOnRegister fun _ => rfl
  cases operand with
  | tuple items =>
    match items with
    | [v, w] =>
      cases v with
      | register r =>
        cases w with
        | int n => exact bit_bare_pair hown (hon r rfl)
        | _ => rfl
      | _ => exact honRegister _
    -- No tuple of another length is a pair, whatever its first items are.
    | [] => exact hpair _
    | [v] => cases v <;> exact hpair _
    | v :: w :: _ :: _ => cases v <;> first | exact hpair _ | cases w <;> exact hpair _
  | _ => exact hpair _

theorem legacySpacing_bare (h : c.spacing.isSome = true) :
    bareWith id (c.legacySpacing env) = c.bare.legacySpacing .plain := by
  obtain ⟨legacy, hlegacy⟩ := Option.isSome_iff_exists.mp h
  have hbare : c.bare.spacing = some legacy := hlegacy
  simp only [legacySpacing, hlegacy, hbare]
  rfl

/-- Where nothing has been replaced, a call finds what it finds in plain surroundings. -/
theorem mirrors_plain {call : GateCall} (h : env.Neutral c call) : env.Mirrors .plain c call where
  words := h.words
  keywords := rfl
  spacing hccx := legacySpacing_bare (h.spacing hccx)

/-- Where no declaration word has been replaced, a call finds what it finds in bare surroundings. -/
theorem mirrors_bare {call : GateCall} (h : ∀ r ∈ c.qregs ++ c.cregs ++ call.registers,
    env.keywords.get? r.id = none) : env.Mirrors env.bare c call where
  words := h
  keywords := rfl
  spacing _ := by
    cases hspacing : c.spacing with
    | some legacy => simp only [legacySpacing, bare, hspacing, bareWith, id]
    | none =>
      simp only [legacySpacing, bare, hspacing, Surroundings.bare]
      exact bareWith_map fun _ => rfl

/-- An operand of a placement is accepted or refused by what is bare in it. -/
theorem mirrored_bit_bare {p : Placement} {kind : RegisterKind} {operand : Value}
    (h : env.Mirrors env' c (.place p)) (hoperand : (kind, operand) ∈ p.operands) :
    bareWith Bit.bare (c.bit env.keywords kind operand) = c.bare.bit env'.keywords kind operand.bare := by
  rw [h.keywords]
  refine Circuit.bit_bare (fun r hr => h.words r ?_) (fun r hr => h.words r ?_)
  · exact List.mem_append_left _ (mem_of_mem_registers hr)
  · exact List.mem_append_right _ (List.mem_filterMap.mpr ⟨_, hoperand, hr⟩)

theorem instruction_bare {p : Placement} (h : env.Mirrors env' c (.place p)) :
    bareWith Instruction.bare (c.instruction env p) = c.bare.instruction env' p.bare := by
  cases p with
  | single gate target => exact bareWith_bind (mirrored_bit_bare h (by simp [Placement.operands])) fun _ _ => rfl
  | controlled gate control target =>
    refine bareWith_bind (mirrored_bit_bare h (by simp [Placement.operands])) fun _ _ => ?_
    exact bareWith_bind (mirrored_bit_bare h (by simp [Placement.operands])) fun _ _ => rfl
  | toffoli control₁ control₂ target =>
    refine bareWith_bind (mirrored_bit_bare h (by simp [Placement.operands])) fun _ _ => ?_
    refine bareWith_bind (mirrored_bit_bare h (by simp [Placement.operands])) fun _ _ => ?_
    refine bareWith_bind (mirrored_bit_bare h (by simp [Placement.operands])) fun _ _ => ?_
    exact bareWith_bind (h.spacing rfl) fun _ _ => rfl
  | measure source target =>
    refine bareWith_bind (mirrored_bit_bare h (by simp [Placement.operands])) fun _ _ => ?_
    exact bareWith_bind (mirrored_bit_bare h (by simp [Placement.operands])) fun _ _ => rfl

theorem attach_mirrors (c : Circuit) (i : Instruction) :
    (c.attach i).Mirrors Instruction.bare (c.bare.attach i.bare) := by
  unfold attach
  rw [Instruction.bare_checkLine]
  cases hprints : i.checkLine with
  | ok _ => exact ⟨by simp [bare], rfl⟩
  | error fault =>
    obtain ⟨rfl, _⟩ := checkLine_eq_error hprints
    exact ⟨rfl, rfl⟩

theorem attachAll_mirrors (c : Circuit) (is : List Instruction) :
    (c.attachAll is).Mirrors (List.map Instruction.bare) (c.bare.attachAll (is.map Instruction.bare)) := by
  have hall : (∀ i ∈ is.map Instruction.bare, i.checkLine = .ok ()) ↔ ∀ i ∈ is, i.checkLine = .ok () := by
    simp
  rcases c.attachAll_cases is with ⟨hprints, h⟩ | ⟨⟨i, hi, hnot⟩, h⟩ <;>
    rcases c.bare.attachAll_cases (is.map Instruction.bare) with ⟨hprints', h'⟩ | ⟨⟨j, hj, hnot'⟩, h'⟩ <;>
    rw [h, h']
  · exact ⟨by simp [bare], rfl⟩
  · exact absurd (hall.mpr hprints j hj) hnot'
  · exact absurd (hall.mp hprints' i hi) hnot
  · exact ⟨rfl, rfl⟩

theorem append_mirrors {p : Placement} (h : env.Mirrors env' c (.place p)) :
    (c.append env p).Mirrors Instruction.bare (c.bare.append env' p.bare) := by
  unfold append
  rw [← instruction_bare h]
  cases c.instruction env p with
  | ok i => exact attach_mirrors c i
  | error fault => exact ⟨rfl, rfl⟩

theorem instructionsFrom_bare {place place' : Nat → Placement}
    (h : ∀ j, bareWith Instruction.bare (c.instruction env (place j)) =
      c.bare.instruction env' (place' j)) :
    ∀ (count start : Nat) (made : List Instruction),
      c.bare.instructionsFrom env' place' count start (made.map Instruction.bare) =
        ((c.instructionsFrom env place count start made).1.map Instruction.bare,
          (c.instructionsFrom env place count start made).2.map Fault.bare) := by
  intro count
  induction count with
  | zero =>
    intro start made
    simp [instructionsFrom]
  | succ count ih =>
    intro start made
    simp only [instructionsFrom, ← h start]
    cases c.instruction env (place start) with
    | ok i => exact ih (start + 1) (i :: made)
    | error fault => simp [bareWith]

theorem appendEach_mirrors {place place' : Nat → Placement} {count : Nat}
    (h : ∀ j, bareWith Instruction.bare (c.instruction env (place j)) =
      c.bare.instruction env' (place' j)) :
    (c.appendEach env place count).Mirrors (List.map Instruction.bare)
      (c.bare.appendEach env' place' count) := by
  have hfrom := instructionsFrom_bare h count 0 []
  rw [List.map_nil] at hfrom
  unfold appendEach
  rw [hfrom]
  cases c.instructionsFrom env place count 0 [] with
  | mk is fault? =>
    cases fault? with
    | none => exact attachAll_mirrors c is
    | some fault => exact ⟨by simp [bare], rfl⟩

theorem measureEach_mirrors {q k : Register}
    (h : ∀ j, env.Mirrors env' c (.place (.measure (.bit q j) (.bit k j)))) :
    (c.measureEach env q k).Mirrors (List.map Instruction.bare)
      (c.bare.measureEach env' q.bare k.bare) := by
  have hq : boundedSize q.bare = boundedSize q := rfl
  have hk : boundedSize k.bare = boundedSize k := rfl
  unfold measureEach
  rw [hq, hk]
  cases hm : boundedSize q with
  | error fault =>
    rw [tooLarge_of_boundedSize hm]
    exact ⟨rfl, rfl⟩
  | ok m =>
    cases hn : boundedSize k with
    | error fault =>
      rw [tooLarge_of_boundedSize hn]
      exact ⟨rfl, rfl⟩
    | ok n =>
      simp only
      split
      · exact ⟨rfl, rfl⟩
      · exact appendEach_mirrors fun j => instruction_bare (h j)

theorem barrier_mirrors (c : Circuit) : c.barrier.Mirrors Instruction.bare c.bare.barrier := by
  have hempty : c.bare.qregs.isEmpty = c.qregs.isEmpty := List.isEmpty_map
  have hname : c.bare.name.inserted = c.name.inserted := Value.inserted_bare c.name
  unfold barrier
  rw [hempty, hname]
  split
  · refine ⟨rfl, ?_⟩
    cases hinserted : c.name.inserted with
    | ok name => rfl
    | error fault =>
      rcases Value.cases_of_inserted_eq_error hinserted with ⟨_, _, _, rfl⟩ | ⟨_, _, hprint⟩
      · rfl
      · exact congrArg Except.error
          (Fault.bare_eq_self_of_isPrinting (Value.isPrinting_of_checkPrint hprint))
  · exact attach_mirrors c _

/-- A call on a circuit depends only on what is bare in the circuit, in its operands and in what it
    finds around it, as long as no declaration word has been replaced. -/
theorem call_mirrors {call : GateCall} (h : env.Mirrors env' c call) :
    (c.call env call).Mirrors Applied.bare (c.bare.call env' (call.map Value.bare)) := by
  cases call with
  | barrier => exact c.barrier_mirrors.map fun _ => rfl
  | place p =>
    have hplace : ((c.append env p).map Applied.one).Mirrors Applied.bare
        ((c.bare.append env' p.bare).map .one) := (append_mirrors h).map fun _ => rfl
    cases p with
    | single gate target =>
      cases target with
      | register r =>
        have heach (j : Nat) : bareWith Instruction.bare (c.instruction env (.single gate (.bit r j))) =
            c.bare.instruction env' (.single gate (.bit r.bare j)) :=
          instruction_bare ⟨h.words, h.keywords, h.spacing⟩
        simp only [call, GateCall.map, Value.bare]
        by_cases hkind : r.kind = .quantum
        · rw [if_pos hkind, if_pos (show r.bare.kind = .quantum from hkind)]
          exact (appendEach_mirrors heach).map fun _ => rfl
        · rw [if_neg hkind, if_neg (show r.bare.kind ≠ .quantum from hkind)]
          exact hplace
      | _ => exact hplace
    | measure source target =>
      cases source with
      | register q =>
        cases target with
        | register k =>
          have heach (j : Nat) : env.Mirrors env' c (.place (.measure (.bit q j) (.bit k j))) :=
            ⟨h.words, h.keywords, h.spacing⟩
          simp only [call, GateCall.map, Value.bare]
          by_cases hkinds : q.kind = .quantum ∧ k.kind = .classical
          · have hkinds' : q.bare.kind = .quantum ∧ k.bare.kind = .classical := hkinds
            rw [if_pos hkinds, if_pos hkinds']
            exact (measureEach_mirrors heach).map fun _ => rfl
          · have hkinds' : ¬(q.bare.kind = .quantum ∧ k.bare.kind = .classical) := hkinds
            rw [if_neg hkinds, if_neg hkinds']
            exact hplace
        | _ => exact hplace
      | _ => exact hplace
    | controlled gate control target => exact hplace
    | toffoli control₁ control₂ target => exact hplace

/-- Calls in turn on a circuit of its own, and what a caller gets from each of them. -/
def replay (c : Circuit) : List GateCall → Circuit × List (Except Fault Value)
  | [] => (c, [])
  | call :: rest =>
    let o := c.call .plain call
    let (c, results) := replay o.circuit rest
    (c, o.result.map Applied.value :: results)

theorem checkRegisters_bare (taken : List String) (values : List Value) :
    bareWith (List.map Register.bare) (checkRegisters taken values) =
      checkRegisters taken (values.map Value.bare) := by
  induction values generalizing taken with
  | nil => rfl
  | cons v rest ih =>
    cases v with
    | register r =>
      simp only [checkRegisters, List.map_cons, Value.bare]
      by_cases hkind : r.kind = .general
      · rw [if_pos hkind, if_pos (show r.bare.kind = .general from hkind)]
        rfl
      · rw [if_neg hkind, if_neg (show r.bare.kind ≠ .general from hkind)]
        by_cases htaken : r.name ∈ taken
        · rw [if_pos htaken, if_pos (show r.bare.name ∈ taken from htaken)]
          rfl
        · rw [if_neg htaken, if_neg (show r.bare.name ∉ taken from htaken), Register.bare_name,
            ← ih (r.name :: taken)]
          exact bareWith_map fun _ => rfl
    | _ => rfl

/-- The program of a circuit with texts for a header and an include shows what is bare in it. -/
theorem program_bare {header library : String} (h : ∀ r ∈ c.qregs ++ c.cregs, kw.get? r.id = none)
    (hheader : c.header = .str header) (hlibrary : c.library = .str library) :
    c.bare.program [] = c.program kw := by
  have hregisters : c.bare.qregs ++ c.bare.cregs = (c.qregs ++ c.cregs).map Register.bare :=
    (List.map_append ..).symm
  have hchecks : (c.bare.qregs ++ c.bare.cregs).forM (Keywords.checkDeclaration []) =
      (c.qregs ++ c.cregs).forM kw.checkDeclaration := by
    rw [hregisters]
    exact Fault.forM_map_congr fun r hr => Keywords.checkDeclaration_bare (h r hr)
  have hdeclarations : (c.bare.qregs ++ c.bare.cregs).map (Keywords.declaration []) =
      (c.qregs ++ c.cregs).map kw.declaration := by
    rw [hregisters, List.map_map]
    exact List.map_congr_left fun r hr => Keywords.declaration_bare (h r hr)
  have hlines : c.bare.log.map (·.line) = c.log.map (·.line) := by
    rw [bare, List.map_map]
    exact List.map_congr_left fun i _ => i.bare_line
  have hheader' : c.bare.header = .str header := congrArg Value.bare hheader
  have hlibrary' : c.bare.library = .str library := congrArg Value.bare hlibrary
  simp only [program, hheader, hlibrary, hheader', hlibrary', hchecks, hdeclarations, hlines]

theorem filter_kind_bare (kind : RegisterKind) (rs : List Register) :
    (rs.filter (·.kind = kind)).map Register.bare = (rs.map Register.bare).filter (·.kind = kind) := by
  rw [List.filter_map]
  rfl

/-- What a circuit with a name is made to be does not depend on how many there are, and only on
    the data of its registers. -/
theorem make_bare (count count' : Nat) (values : List Value) (name : String) (spacing : Value) :
    bareWith Circuit.bare (make count values (.str name) spacing) =
      make count' (values.map Value.bare) (.str name) spacing.bare := by
  have hreport (v : Value) : bareWith id (do throw (.usage (.spacingNotSwitch (← v.printedLiteral)))) =
      (do throw (.usage (.spacingNotSwitch (← v.bare.printedLiteral))) : Except Fault (Option Bool)) :=
    bareWith_bind v.bareWith_printedLiteral fun _ _ => rfl
  have hspacing : bareWith id (chooseSpacing spacing) = chooseSpacing spacing.bare := by
    cases spacing with
    | null | bool _ => rfl
    | _ => exact hreport _
  refine bareWith_bind (f := id) rfl fun _ _ => ?_
  refine bareWith_bind (checkRegisters_bare [] values) fun rs _ => ?_
  refine bareWith_bind hspacing fun _ _ => ?_
  simp only [← filter_kind_bare, id]
  rfl

end Circuit

end CircuitScribe
