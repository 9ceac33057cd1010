import CircuitScribe.Fault.Family
import CircuitScribe.Proofs.Circuit.Validation
import CircuitScribe.Proofs.Register.Comparison

namespace CircuitScribe

/-- If a value designates a bit, its position has not too many digits. -/
def Value.PositionPrints (v : Value) : Prop :=
  ∀ (r : Register) (n : Int), v = .tuple [.register r, .int n] → n.natAbs < 10 ^ maxDigits

@[simp]
theorem Value.positionPrints_pair_iff {r : Register} {n : Int} :
    (Value.tuple [.register r, .int n]).PositionPrints ↔ n.natAbs < 10 ^ maxDigits := by
  constructor
  · intro h
    exact h r n rfl
  · rintro h _ _ ⟨⟩
    exact h

@[simp]
theorem Value.positionPrints_bit_iff {r : Register} {j : Nat} :
    (Value.bit r j).PositionPrints ↔ j < 10 ^ maxDigits :=
  Value.positionPrints_pair_iff

namespace Placement

def map (f : Value → Value) : Placement → Placement
  | .single gate target => .single gate (f target)
  | .controlled gate control target => .controlled gate (f control) (f target)
  | .toffoli control₁ control₂ target => .toffoli (f control₁) (f control₂) (f target)
  | .measure source target => .measure (f source) (f target)

@[simp] theorem map_kind (f : Value → Value) (p : Placement) : (p.map f).kind = p.kind := by
  cases p <;> rfl

theorem map_operands (f : Value → Value) (p : Placement) :
    (p.map f).operands = p.operands.map fun o => (o.1, f o.2) := by
  cases p <;> rfl

/-- Placements that stand for one on each bit of whole registers. -/
def Broadcasts : Placement → Prop
  | .single _ target => ∃ r : Register, target = .register r ∧ r.kind = .quantum
  | .measure source target => ∃ q k : Register, source = .register q ∧ target = .register k ∧
      q.kind = .quantum ∧ k.kind = .classical
  | _ => False

/-- The positions in the operands have not too many digits. -/
def PositionsPrint (p : Placement) : Prop :=
  ∀ o ∈ p.operands, o.2.PositionPrints

end Placement

theorem GateCall.map_place (f : Value → Value) (p : Placement) :
    (GateCall.place p).map f = .place (p.map f) := by
  cases p <;> rfl

namespace Circuit

/-- A circuit takes an operand in a place that requires a kind of register if it is the pair of a
    register of that kind and a position in it, and the circuit has that register or one that is
    equal to it, behind others with which it can be compared. -/
def Takes (kw : Keywords) (c : Circuit) (kind : RegisterKind) (operand : Value) : Prop :=
  ∃ (r : Register) (n : Int), operand = .tuple [.register r, .int n] ∧ 0 ≤ n ∧ n < r.size ∧ r.kind = kind ∧
    ∃ before own after, c.registers kind = before ++ own :: after ∧ (∀ x ∈ before, kw.Comparable x r) ∧
      (own = r ∨ kw.same own r = true)

/-- The family of the fault with which a circuit refuses an operand that it does not take, and the
    operand that the fault names. That it is no pair of a register and an integer comes before all
    else, then that the position is out of range, then that the circuit has no register of the kind
    at all, and last that it does not have this one. -/
def refusal (c : Circuit) (kind : RegisterKind) (operand : Value) : FaultFamily × Option Value :=
  match operand with
  | .tuple [.register r, .int n] =>
    (if ¬ (0 ≤ n ∧ n < r.size) then .outOfRange
      else if (c.registers kind).isEmpty then .noRegisters
      else .unknownRegister, some operand)
  | _ => (.general, none)

/-- A fault with which an operand is refused that comes before the refusal itself: what its message
    is about cannot be printed, which is the operand, the name of the circuit or the declaration
    word of the register, or the register cannot be compared with one of the circuit. -/
inductive Unsaid (kw : Keywords) (c : Circuit) (kind : RegisterKind) : Value → Fault → Prop
  | operand {v : Value} {fault : Fault} (h : v.checkPrint = .error fault) : Unsaid kw c kind v fault
  | name {r : Register} {n : Int} {fault : Fault} (h : c.name.checkPrint = .error fault) :
      Unsaid kw c kind (.tuple [.register r, .int n]) fault
  | word {r : Register} {n : Int} {fault : Fault} (h : (kw.of r).checkPrint = .error fault) :
      Unsaid kw c kind (.tuple [.register r, .int n]) fault
  | endless {r own : Register} {n : Int} (hown : own ∈ c.registers kind) (h : ¬ kw.Comparable own r) :
      Unsaid kw c kind (.tuple [.register r, .int n]) (.value .endlessComparison)

variable {env : Surroundings} {kw : Keywords} {c : Circuit} {kind : RegisterKind} {operand : Value}
  {fault : Fault} {p : Placement} {operands : List (RegisterKind × Value)}

theorem Unsaid.operand?_eq_none (h : c.Unsaid kw kind operand fault) : fault.operand? = none := by
  cases h with
  | operand h | name h | word h => exact (Value.isPrinting_of_checkPrint h).operand?_eq_none
  | endless _ _ => rfl

theorem bit_eq_ok_iff_takes : (∃ b, c.bit kw kind operand = .ok b) ↔ c.Takes kw kind operand := by
  simp only [bit_eq_ok_iff]
  constructor
  · rintro ⟨⟨r, j, hj⟩, rfl, hkind, hcontains⟩
    exact ⟨r, j, rfl, Int.natCast_nonneg j, Int.ofNat_lt.mpr hj, hkind,
      Keywords.contains_eq_ok_true_iff.mp hcontains⟩
  · rintro ⟨r, n, rfl, hlow, hhigh, hkind, hown⟩
    have hn : ((n.toNat : Nat) : Int) = n := Int.toNat_of_nonneg hlow
    exact ⟨⟨r, n.toNat, by omega⟩, by simp [Bit.value, Value.bit, hn], hkind,
      Keywords.contains_eq_ok_true_iff.mpr hown⟩

theorem refusal_of_malformed (h : ∀ r n, operand ≠ .tuple [.register r, .int n]) :
    c.refusal kind operand = (.general, none) := by
  unfold refusal
  split
  · next r n => exact absurd rfl (h r n)
  · rfl

/-- An operand that is no pair of a register and an integer is shown in the message about that. -/
theorem refusal_of_report {report : String → UsageFault}
    (hpair : ∀ r n, operand ≠ .tuple [.register r, .int n])
    (h : (do throw (.usage (report (← operand.printed))) : Except Fault Bit) = .error fault) :
    fault.family? = some (c.refusal kind operand).1 ∧ fault.operand? = (c.refusal kind operand).2 ∨
      c.Unsaid kw kind operand fault := by
  rcases Fault.bind_eq_error_iff.mp h with h | ⟨text, _, ⟨⟩⟩
  · exact .inr (.operand (Value.printed_eq_error_iff.mp h))
  · rw [refusal_of_malformed hpair]
    exact .inl ⟨rfl, rfl⟩

/-- A pair that is out of range is refused as such, if the message about it can be made. -/
theorem refusal_of_refuse {r : Register} {n : Int} (hrange : ¬ (0 ≤ n ∧ n < r.size))
    (h : (r.refuse (.int n) : Except Fault Bit) = .error fault) :
    fault.family? = some (c.refusal kind (.tuple [.register r, .int n])).1 ∧
      fault.operand? = (c.refusal kind (.tuple [.register r, .int n])).2 ∨
      c.Unsaid kw kind (.tuple [.register r, .int n]) fault := by
  rw [Register.refuse_int] at h
  split at h
  · cases h
    rw [refusal, if_pos hrange]
    exact .inl ⟨rfl, rfl⟩
  · next hdigits =>
    cases h
    exact .inr (.operand (by rw [Value.checkPrint_pair, if_neg hdigits]))

/-- An operand that is not taken is refused as such, unless something keeps this from being said. -/
theorem refusal_of_bit (h : c.bit kw kind operand = .error fault) :
    fault.family? = some (c.refusal kind operand).1 ∧ fault.operand? = (c.refusal kind operand).2 ∨
      c.Unsaid kw kind operand fault := by
  unfold bit at h
  split at h
  · next r n =>
    split at h
    · next hrange =>
      have hin : 0 ≤ n ∧ n < r.size := ⟨hrange.1, by omega⟩
      split at h
      · next hnone =>
        rcases Fault.bind_eq_error_iff.mp h with h | ⟨name, _, ⟨⟩⟩
        · exact .inr (.name (Value.printed_eq_error_iff.mp h))
        · rw [refusal, if_neg (not_not.mpr hin), if_pos hnone]
          exact .inl ⟨rfl, rfl⟩
      · next hsome =>
        rw [refusal, if_neg (not_not.mpr hin), if_neg hsome]
        split at h
        · rcases Fault.bind_eq_error_iff.mp h with h | ⟨word, _, ⟨⟩⟩
          · exact .inr (.word (Value.printed_eq_error_iff.mp h))
          · exact .inl ⟨rfl, rfl⟩
        · rcases Fault.bind_eq_error_iff.mp h with h | ⟨found, _, h⟩
          · obtain ⟨rfl, own, hown, hnot⟩ := Keywords.contains_eq_error h
            exact .inr (.endless hown hnot)
          · cases found with
            | true => cases h
            | false =>
              cases h
              exact .inl ⟨rfl, rfl⟩
    · next hrange => exact refusal_of_refuse (fun hin => hrange ⟨hin.1, by omega⟩) h
  · next r index hindex =>
    cases h
    rw [refusal_of_malformed (by rintro _ n ⟨⟩; exact hindex n rfl)]
    exact .inl ⟨rfl, rfl⟩
  · next v index _ hregister =>
    exact refusal_of_report (by rintro r _ ⟨⟩; exact hregister r rfl) h
  · next hpair => exact refusal_of_report (by rintro r n rfl; exact hpair (.register r) (.int n) rfl) h

/-- No fault is found among operands that are all taken, and only among these. -/
theorem firstFault?_eq_none_iff :
    c.firstFault? kw operands = none ↔ ∀ o ∈ operands, c.Takes kw o.1 o.2 := by
  induction operands with
  | nil => simp [firstFault?_nil]
  | cons o rest ih =>
    rw [List.forall_mem_cons, ← ih, ← bit_eq_ok_iff_takes, firstFault?_cons_eq_none]
    constructor
    · rintro ⟨b, hb, hrest⟩
      exact ⟨⟨b, hb⟩, hrest⟩
    · rintro ⟨⟨b, hb⟩, hrest⟩
      exact ⟨b, hb, hrest⟩

/-- The first fault is that of an operand behind others that are all taken. -/
theorem exists_of_firstFault? (h : c.firstFault? kw operands = some fault) :
    ∃ before o after, operands = before ++ o :: after ∧ (∀ x ∈ before, c.Takes kw x.1 x.2) ∧
      c.bit kw o.1 o.2 = .error fault := by
  induction operands with
  | nil => cases h
  | cons o rest ih =>
    rcases firstFault?_cons_eq_some.mp h with hfault | ⟨b, hb, hrest⟩
    · exact ⟨[], o, rest, rfl, by simp, hfault⟩
    · obtain ⟨before, x, after, rfl, hbefore, hfault⟩ := ih hrest
      refine ⟨o :: before, x, after, rfl, List.forall_mem_cons.mpr ⟨?_, hbefore⟩, hfault⟩
      exact bit_eq_ok_iff_takes.mp ⟨b, hb⟩

/-- A placement on operands that are all taken is an instruction, if the spacing of its line is
    settled. -/
theorem exists_instruction (hspacing : p.kind = .ccx → c.spacing.isSome = true)
    (h : c.firstFault? env.keywords p.operands = none) : ∃ i, c.instruction env p = .ok i := by
  cases p with
  | single gate target =>
    simp only [Placement.operands, firstFault?_cons_eq_none] at h
    obtain ⟨b, hb, _⟩ := h
    exact ⟨.single gate b, by rw [instruction, hb]; rfl⟩
  | controlled gate control target =>
    simp only [Placement.operands, firstFault?_cons_eq_none] at h
    obtain ⟨b₁, h₁, b₂, h₂, _⟩ := h
    exact ⟨.controlled gate b₁ b₂, by rw [instruction, h₁, h₂]; rfl⟩
  | toffoli control₁ control₂ target =>
    obtain ⟨b₁, b₂, b₃, _, _, _, hinstruction⟩ := instruction_toffoli h
    obtain ⟨legacy, hlegacy⟩ := Option.isSome_iff_exists.mp (hspacing rfl)
    exact ⟨.toffoli legacy b₁ b₂ b₃, by rw [hinstruction, legacySpacing, hlegacy]; rfl⟩
  | measure source target =>
    simp only [Placement.operands, firstFault?_cons_eq_none] at h
    obtain ⟨b₁, h₁, b₂, h₂, _⟩ := h
    exact ⟨.measure b₁ b₂, by rw [instruction, h₁, h₂]; rfl⟩

/-- The line of an instruction can be printed if the positions in its operands can. -/
theorem checkLine_eq_ok_iff_positions {i : Instruction} (h : c.instruction env p = .ok i) :
    i.checkLine = .ok () ↔ p.PositionsPrint := by
  rw [checkLine_eq_ok_iff, Placement.PositionsPrint, (performs_of_instruction h).operands_eq,
    List.forall_mem_map]
  exact forall₂_congr fun b _ => Value.positionPrints_bit_iff.symm

/-- A call that is no broadcast is for one instruction. -/
theorem call_place (h : ¬ p.Broadcasts) : c.call env (.place p) = (c.append env p).map .one := by
  unfold call
  split
  · next heq => cases heq
  · next gate r heq =>
    cases heq
    exact if_neg fun hkind => h ⟨r, rfl, hkind⟩
  · next q k heq =>
    cases heq
    exact if_neg fun hkinds => h ⟨q, k, rfl, rfl, hkinds.1, hkinds.2⟩
  · next heq =>
    cases heq
    rfl

end Circuit

end CircuitScribe
