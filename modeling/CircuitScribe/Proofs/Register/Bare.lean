import CircuitScribe.Circuit.Gate
import Mathlib.Tactic.Common

namespace CircuitScribe

/-- A register as its data alone, without what tells it apart from others with the same
    data. -/
def Register.bare (r : Register) : Register :=
  { r with id := 0 }

theorem Register.bare_eq_bare_iff {r s : Register} :
    r.bare = s.bare ↔ r.kind = s.kind ∧ r.name = s.name ∧ r.size = s.size := by
  simp [Register.bare]

@[simp] theorem Register.bare_name (r : Register) : r.bare.name = r.name := rfl

@[simp] theorem Register.bare_kind (r : Register) : r.bare.kind = r.kind := rfl

@[simp] theorem Register.bare_size (r : Register) : r.bare.size = r.size := rfl

@[simp] theorem Register.bare_bare (r : Register) : r.bare.bare = r.bare := rfl

def Bit.bare (b : Bit) : Bit :=
  ⟨b.register.bare, b.index, by simpa using b.index_lt⟩

/-- An instruction with its registers as their data alone. -/
def Instruction.bare : Instruction → Instruction
  | .single gate target => .single gate target.bare
  | .controlled gate control target => .controlled gate control.bare target.bare
  | .toffoli legacy control₁ control₂ target =>
    .toffoli legacy control₁.bare control₂.bare target.bare
  | .measure source target => .measure source.bare target.bare
  | .barrier registers => .barrier (registers.map Register.bare)

@[simp] theorem Bit.bare_register (b : Bit) : b.bare.register = b.register.bare := rfl

@[simp] theorem Bit.bare_text (b : Bit) : b.bare.text = b.text := rfl

theorem Bit.bare_eq_bare_iff {a b : Bit} :
    a.bare = b.bare ↔ a.register.bare = b.register.bare ∧ a.index = b.index := by
  simp [Bit.bare]

@[simp] theorem Instruction.bare_kind (i : Instruction) : i.bare.kind = i.kind := by
  cases i <;> rfl

/-- What tells registers apart does not show in a line. -/
@[simp] theorem Instruction.bare_line (i : Instruction) : i.bare.line = i.line := by
  cases i <;> simp [Instruction.bare, Instruction.line, Instruction.kind, Function.comp_def]

/-- Nor does it matter for whether the line can be printed. -/
@[simp] theorem Instruction.bare_checkLine (i : Instruction) : i.bare.checkLine = i.checkLine := by
  cases i <;> rfl

namespace Keywords

/-- Registers to which no declaration word has been given are equal if their data are. -/
theorem same_nil_iff {r s : Register} : same [] r s = true ↔ r.bare = s.bare := by
  rw [Register.bare_eq_bare_iff]
  simp only [same, depth, List.length_nil, Nat.zero_add, sameWithin, Bool.and_eq_true, beq_iff_eq,
    and_assoc]
  cases hr : r.kind <;> cases hs : s.kind <;>
    simp [of, Table.get?, hr, hs, RegisterKind.keyword?, Value.equals, Value.agrees]

/-- A register that has not been given a word can be compared with any other. -/
theorem endless_of_get?_eq_none {kw : Keywords} {r : Register} (h : kw.get? r.id = none) (s : Register) :
    kw.endless s r = false := by
  obtain ⟨depth, hdepth⟩ : ∃ depth, kw.depth * kw.depth = depth + 1 :=
    Nat.exists_eq_succ_of_ne_zero (Nat.mul_ne_zero (Nat.succ_ne_zero _) (Nat.succ_ne_zero _))
  have hword : kw.of r = .null ∨ ∃ word, kw.of r = .str word := by
    rw [of, h]
    cases r.kind <;> simp [RegisterKind.keyword?]
  rw [endless, hdepth, endlessWithin]
  rcases hword with hword | ⟨word, hword⟩ <;> rw [hword] <;> cases kw.of s <;> rfl

/-- So it is compared with all in a list, one after the other. -/
theorem contains_of_get?_eq_none {kw : Keywords} {r : Register} (h : kw.get? r.id = none)
    (rs : List Register) : kw.contains rs r = .ok (rs.any fun s => s == r || kw.same s r) := by
  induction rs with
  | nil => rfl
  | cons s rest ih =>
    simp only [contains, checkComparable, Value.equalsEndlessly, endless_of_get?_eq_none h,
      Bool.false_eq_true, if_false, List.any_cons, ih, bind, Except.bind]
    cases s == r <;> cases kw.same s r <;> rfl

theorem contains_nil (rs : List Register) (r : Register) :
    contains [] rs r = .ok (rs.any fun s => s == r || same [] s r) :=
  contains_of_get?_eq_none rfl rs

theorem contains_nil_iff {rs : List Register} {r : Register} :
    contains [] rs r = .ok true ↔ ∃ s ∈ rs, s.bare = r.bare := by
  simp only [contains_nil, Except.ok.injEq, List.any_eq_true, Bool.or_eq_true, beq_iff_eq, same_nil_iff]
  constructor
  · rintro ⟨s, hs, rfl | hsame⟩
    · exact ⟨s, hs, rfl⟩
    · exact ⟨s, hs, hsame⟩
  · rintro ⟨s, hs, hsame⟩
    exact ⟨s, hs, .inr hsame⟩

end Keywords

end CircuitScribe
