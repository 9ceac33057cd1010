import CircuitScribe.Proofs.Circuit.Broadcast
import CircuitScribe.Proofs.Circuit.Verdict

namespace CircuitScribe

theorem Outcome.error_of_map {α β : Type} {f : α → β} {o : Outcome α} {fault : Fault}
    (h : (o.map f).result = .error fault) : o.result = .error fault := by
  cases hresult : o.result with
  | ok a =>
    rw [map, hresult] at h
    cases h
  | error g =>
    rw [map, hresult] at h
    cases h
    rfl

namespace Placement

/-- An operand in a place that requires a kind of register, or the first bit of a register that
    stands there as a whole. -/
def Involves (p : Placement) (kind : RegisterKind) (v : Value) : Prop :=
  (kind, v) ∈ p.operands ∨ ∃ r : Register, (kind, .register r) ∈ p.operands ∧ v = .bit r 0

/-- A position in the operands has too many digits for a line, be it in a pair or in a register that
    stands as a whole. -/
def Overlong (p : Placement) : Prop :=
  ¬ p.PositionsPrint ∨ ∃ o ∈ p.operands, ∃ r : Register, o.2 = .register r ∧ 10 ^ maxDigits < r.size

end Placement

namespace Circuit

/-- What a gate call on a circuit fails with, by what has failed. -/
inductive FailsWith (env : Surroundings) (c : Circuit) : GateCall → Fault → Prop
  /-- The circuit does not take an operand. -/
  | operand {p : Placement} {kind : RegisterKind} {v : Value} {fault : Fault} (hv : p.Involves kind v)
      (h : c.bit env.keywords kind v = .error fault) : FailsWith env c (.place p) fault
  /-- An instruction could be made, but its line cannot be printed. -/
  | position {p : Placement} (h : p.Overlong) : FailsWith env c (.place p) (.value .tooManyDigits)
  /-- A Toffoli needs the settings, and they cannot be read. -/
  | settings {p : Placement} {fault : Fault} (hkind : p.kind = .ccx) (h : env.settings = .error fault) :
      FailsWith env c (.place p) fault
  /-- A register that is to be measured is too long to have a length. -/
  | length {q k : Register} (hq : q.kind = .quantum) (hk : k.kind = .classical)
      (h : maxLength < q.size ∨ maxLength < k.size) :
      FailsWith env c (.place (.measure (.register q) (.register k))) (.value .tooLarge)
  /-- A register is to be measured into one of another size. -/
  | sizes {q k : Register} (hq : q.kind = .quantum) (hk : k.kind = .classical) (h : q.size ≠ k.size) :
      FailsWith env c (.place (.measure (.register q) (.register k))) (.usage (.sizesDiffer q k))
  /-- A barrier has no register to stand on. -/
  | barrier {name : String} (hnone : c.qregs = []) (h : c.name.inserted = .ok name) :
      FailsWith env c .barrier (.operand (.noRegisters name .quantum .null))
  /-- Nor can the name of the circuit be put into the message about that. -/
  | name {fault : Fault} (hnone : c.qregs = []) (h : c.name.inserted = .error fault) :
      FailsWith env c .barrier fault

variable {env : Surroundings} {c : Circuit} {fault : Fault} {p : Placement}

theorem settings_of_legacySpacing (h : c.legacySpacing env = .error fault) : env.settings = .error fault := by
  unfold legacySpacing at h
  split at h
  · cases h
  · cases hload : env.settings with
    | ok settings =>
      rw [hload] at h
      cases h
    | error f =>
      rw [hload] at h
      cases h
      rfl

/-- An instruction may be one of those that a call for its kind comes to. -/
theorem failsWith_of_instruction {p' : Placement} (h : c.instruction env p' = .error fault)
    (hkind : p'.kind = p.kind) (hoperands : ∀ o ∈ p'.operands, p.Involves o.1 o.2) :
    c.FailsWith env (.place p) fault := by
  cases hfirst : c.firstFault? env.keywords p'.operands with
  | some f =>
    obtain ⟨before, o, after, hsplit, _, hbit⟩ := exists_of_firstFault? hfirst
    obtain rfl : f = fault := Except.error.inj ((instruction_of_firstFault? hfirst).symm.trans h)
    exact .operand (hoperands o (by simp [hsplit])) hbit
  | none =>
    by_cases hspacing : p'.kind = .ccx → c.spacing.isSome = true
    · obtain ⟨i, hi⟩ := exists_instruction hspacing hfirst
      cases hi.symm.trans h
    · rw [Classical.not_imp] at hspacing
      cases p' with
      | toffoli control₁ control₂ target =>
        obtain ⟨_, _, _, _, _, _, hinstruction⟩ := instruction_toffoli hfirst
        rw [hinstruction] at h
        cases hlegacy : c.legacySpacing env with
        | ok legacy =>
          rw [hlegacy] at h
          cases h
        | error f =>
          rw [hlegacy] at h
          cases h
          exact .settings hkind.symm (settings_of_legacySpacing hlegacy)
      | single gate _ => cases gate <;> cases hspacing.1
      | controlled gate _ _ => cases gate <;> cases hspacing.1
      | measure => cases hspacing.1

theorem failsWith_of_append (h : ((c.append env p).map Applied.one).result = .error fault) :
    c.FailsWith env (.place p) fault := by
  have h := Outcome.error_of_map h
  cases hinstruction : c.instruction env p with
  | error f =>
    simp only [append, hinstruction, Except.error.injEq] at h
    exact failsWith_of_instruction (h ▸ hinstruction) rfl fun o ho => .inl ho
  | ok i =>
    rw [append_eq_attach hinstruction] at h
    rcases c.attach_cases i with ⟨_, hattach⟩ | ⟨hline, hattach⟩
    · rw [hattach] at h
      cases h
    · rw [hattach] at h
      cases h
      exact .position (.inl ((checkLine_eq_ok_iff_positions hinstruction).not.mp hline))

theorem failsWith_of_appendEach {place : Nat → Placement} {count : Nat} (hcount : 0 < count)
    (halike : ∀ i < count, ∀ j < count, (∃ x, c.instruction env (place i) = .ok x) →
      ∃ y, c.instruction env (place j) = .ok y)
    (h : (c.appendEach env place count).result = .error fault) (hkind : (place 0).kind = p.kind)
    (hfirst : ∀ o ∈ (place 0).operands, p.Involves o.1 o.2)
    (hlong : ∀ j < count, ¬ (place j).PositionsPrint → p.Overlong) : c.FailsWith env (.place p) fault := by
  rcases appendEach_cases hcount halike with
      ⟨_, _, heach⟩ | ⟨_, hrefused, heach⟩ | ⟨⟨j, hj, i, hinstruction, hline⟩, heach⟩ <;> rw [heach] at h
  · cases h
  · cases h
    exact failsWith_of_instruction hrefused hkind hfirst
  · cases h
    exact .position (hlong j hj ((checkLine_eq_ok_iff_positions hinstruction).not.mp hline))

theorem failsWith_of_singleEach {gate : SingleGate} {r : Register}
    (h : (c.appendEach env (fun j => .single gate (.bit r j)) r.size).result = .error fault) :
    c.FailsWith env (.place (.single gate (.register r))) fault := by
  refine failsWith_of_appendEach r.size_pos (fun i _ j hj => instruction_single_alike hj) h rfl ?_ ?_
  · simp [Placement.operands, Placement.Involves]
  · intro j hj hprint
    have hj' : 10 ^ maxDigits ≤ j := by
      simpa [Placement.PositionsPrint, Placement.operands] using hprint
    exact .inr ⟨(.quantum, .register r), by simp [Placement.operands], r, rfl, by omega⟩

theorem failsWith_of_measureEach {q k : Register} (hq : q.kind = .quantum) (hk : k.kind = .classical)
    (h : (c.measureEach env q k).result = .error fault) :
    c.FailsWith env (.place (.measure (.register q) (.register k))) fault := by
  rcases c.measureEach_cases env q k with ⟨hsize, heach⟩ | ⟨_, ⟨hlong, rfl⟩ | ⟨hsizes, rfl⟩, heach⟩ <;> rw [heach] at h
  · refine failsWith_of_appendEach q.size_pos (fun i _ j hj => ?_) h rfl ?_ ?_
    · exact instruction_measure_alike hj (Nat.lt_of_lt_of_eq hj hsize)
    · simp [Placement.operands, Placement.Involves]
    · intro j hj hprint
      have hj' : 10 ^ maxDigits ≤ j := by
        simpa [Placement.PositionsPrint, Placement.operands] using hprint
      exact .inr ⟨(.quantum, .register q), by simp [Placement.operands], q, rfl, by omega⟩
  · cases h
    exact .length hq hk hlong
  · cases h
    exact .sizes hq hk hsizes

theorem failsWith_of_barrier (h : c.barrier.result = .error fault) : c.FailsWith env .barrier fault := by
  unfold barrier at h
  split at h
  · next hnone =>
    rw [List.isEmpty_iff] at hnone
    rcases Fault.bind_eq_error_iff.mp h with hname | ⟨name, hname, ⟨⟩⟩
    · exact .name hnone hname
    · exact .barrier hnone hname
  · rw [attach_of_checkLine (checkLine_barrier _)] at h
    cases h

/-- All that a gate call on a circuit can fail with. -/
theorem failsWith_of_call {call : GateCall} (h : (c.call env call).result = .error fault) :
    c.FailsWith env call fault := by
  unfold Circuit.call at h
  split at h
  · exact failsWith_of_barrier (Outcome.error_of_map h)
  · next gate r =>
    split at h
    · exact failsWith_of_singleEach (Outcome.error_of_map h)
    · exact failsWith_of_append h
  · split at h
    · next hkinds => exact failsWith_of_measureEach hkinds.1 hkinds.2 (Outcome.error_of_map h)
    · exact failsWith_of_append h
  · exact failsWith_of_append h

end Circuit

end CircuitScribe
