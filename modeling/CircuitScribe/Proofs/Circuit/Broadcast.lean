import CircuitScribe.Proofs.Circuit.Acceptance
import Mathlib.Data.List.Basic

namespace CircuitScribe.Circuit

variable {env : Surroundings} {c : Circuit} {place : Nat → Placement}

/-- Placements that are all accepted are all made, in order. -/
theorem instructionsFrom_eq_map (instr : Nat → Instruction) :
    ∀ (count start : Nat) (made : List Instruction),
      (∀ j, start ≤ j → j < start + count → c.instruction env (place j) = .ok (instr j)) →
      instructionsFrom env c place count start made =
        (made.reverse ++ (List.range' start count).map instr, none) := by
  intro count
  induction count with
  | zero =>
    intro start made _
    simp [instructionsFrom]
  | succ count ih =>
    intro start made haccepted
    have hfirst := haccepted start (Nat.le_refl _) (by omega)
    simp only [instructionsFrom, hfirst]
    rw [ih (start + 1) (instr start :: made) fun j hlo hhi => haccepted j (by omega) (by omega)]
    simp [List.range'_succ]

theorem appendEach_of_accepted {count : Nat} (instr : Nat → Instruction)
    (h : ∀ j < count, c.instruction env (place j) = .ok (instr j)) :
    c.appendEach env place count = c.attachAll ((List.range count).map instr) := by
  unfold appendEach
  rw [instructionsFrom_eq_map instr count 0 [] fun j _ hj => h j (by omega), List.range_eq_range']
  simp

/-- A refusal of the first placement leaves the circuit as it was. -/
theorem appendEach_of_refused {count : Nat} {fault : Fault} (hcount : 0 < count)
    (h : c.instruction env (place 0) = .error fault) :
    c.appendEach env place count = ⟨c, c.failureMessages (place 0).kind fault, .error fault⟩ := by
  obtain ⟨count, rfl⟩ := Nat.exists_eq_add_of_lt hcount
  simp [appendEach, instructionsFrom, h]

/-- Placements that are accepted or refused all alike are all accepted if the first is. -/
theorem exists_instructions {count : Nat} (hcount : 0 < count)
    (halike : ∀ i < count, ∀ j < count, (∃ x, c.instruction env (place i) = .ok x) →
      ∃ y, c.instruction env (place j) = .ok y)
    (hfirst : ∃ x, c.instruction env (place 0) = .ok x) :
    ∃ instr : Nat → Instruction, ∀ j < count, c.instruction env (place j) = .ok (instr j) := by
  obtain ⟨first, _⟩ := id hfirst
  have hall : ∀ j, ∃ y, j < count → c.instruction env (place j) = .ok y := by
    intro j
    by_cases hj : j < count
    · obtain ⟨y, hy⟩ := halike 0 hcount j hj hfirst
      exact ⟨y, fun _ => hy⟩
    · exact ⟨first, fun h => absurd h hj⟩
  choose instr hinstr using hall
  exact ⟨instr, hinstr⟩

/-- Instructions are all appended, or none of them is because a position has too many digits. -/
theorem attachAll_cases (c : Circuit) (is : List Instruction) :
    ((∀ i ∈ is, i.checkLine = .ok ()) ∧
      c.attachAll is = ⟨{ c with log := c.log ++ is }, is.map c.appendedMessage, .ok is⟩) ∨
    ((∃ i ∈ is, i.checkLine ≠ .ok ()) ∧ c.attachAll is = ⟨c, [], .error (.value .tooManyDigits)⟩) := by
  unfold attachAll
  cases hprints : is.forM Instruction.checkLine with
  | ok _ => exact .inl ⟨Fault.forM_eq_ok_iff.mp hprints, rfl⟩
  | error fault =>
    obtain ⟨i, hi, hcheck⟩ := Fault.exists_of_forM_eq_error hprints
    obtain ⟨rfl, _⟩ := checkLine_eq_error hcheck
    exact .inr ⟨⟨i, hi, by simp [hcheck]⟩, rfl⟩

theorem attach_cases (c : Circuit) (i : Instruction) :
    (i.checkLine = .ok () ∧
      c.attach i = ⟨{ c with log := c.log ++ [i] }, [c.appendedMessage i], .ok i⟩) ∨
    (i.checkLine ≠ .ok () ∧ c.attach i = ⟨c, [], .error (.value .tooManyDigits)⟩) := by
  unfold attach
  cases hprints : i.checkLine with
  | ok _ => exact .inl ⟨rfl, rfl⟩
  | error fault =>
    obtain ⟨rfl, _⟩ := checkLine_eq_error hprints
    exact .inr ⟨by simp, rfl⟩

/-- So they are either all made, or the first refusal leaves the circuit as it was, or a position
    that has too many digits does. -/
theorem appendEach_cases {count : Nat} (hcount : 0 < count)
    (halike : ∀ i < count, ∀ j < count, (∃ x, c.instruction env (place i) = .ok x) →
      ∃ y, c.instruction env (place j) = .ok y) :
    (∃ is : List Instruction, (∀ x ∈ is, c.Admits env.keywords x) ∧
      c.appendEach env place count =
        ⟨{ c with log := c.log ++ is }, is.map c.appendedMessage, .ok is⟩) ∨
    (∃ fault, c.instruction env (place 0) = .error fault ∧
      c.appendEach env place count = ⟨c, c.failureMessages (place 0).kind fault, .error fault⟩) ∨
    ((∃ j < count, ∃ i, c.instruction env (place j) = .ok i ∧ i.checkLine ≠ .ok ()) ∧
      c.appendEach env place count = ⟨c, [], .error (.value .tooManyDigits)⟩) := by
  cases hfirst : c.instruction env (place 0) with
  | error fault => exact .inr (.inl ⟨fault, rfl, appendEach_of_refused hcount hfirst⟩)
  | ok first =>
    obtain ⟨instr, hinstr⟩ := exists_instructions hcount halike ⟨first, hfirst⟩
    rw [appendEach_of_accepted instr hinstr]
    rcases c.attachAll_cases ((List.range count).map instr) with ⟨hprints, hattach⟩ | ⟨hprints, hattach⟩
    · refine .inl ⟨_, fun x hx => ?_, hattach⟩
      obtain ⟨j, hj, rfl⟩ := List.mem_map.mp hx
      exact admits_of_instruction (hinstr j (List.mem_range.mp hj)) (hprints _ hx)
    · obtain ⟨i, hi, hcheck⟩ := hprints
      obtain ⟨j, hj, rfl⟩ := List.mem_map.mp hi
      have hj := List.mem_range.mp hj
      exact .inr (.inr ⟨⟨j, hj, instr j, hinstr j hj, hcheck⟩, hattach⟩)

/-- A gate on one bit of a register is accepted or refused for all bits alike. -/
theorem instruction_single_alike {gate : SingleGate} {r : Register} {i j : Nat} (hj : j < r.size)
    (h : ∃ x, c.instruction env (.single gate (.bit r i)) = .ok x) :
    ∃ y, c.instruction env (.single gate (.bit r j)) = .ok y := by
  obtain ⟨x, hx⟩ := h
  simp only [instruction, Fault.bind_eq_ok_iff] at hx
  obtain ⟨b, hbit, ⟨⟩⟩ := hx
  refine ⟨.single gate ⟨r, j, hj⟩, ?_⟩
  rw [instruction, bit_eq_ok_of_owns (owns_of_bit_eq_ok hbit) hj]
  rfl

/-- So is the measurement of the bits of one register into those of another. -/
theorem instruction_measure_alike {q k : Register} {i j : Nat} (hq : j < q.size) (hk : j < k.size)
    (h : ∃ x, c.instruction env (.measure (.bit q i) (.bit k i)) = .ok x) :
    ∃ y, c.instruction env (.measure (.bit q j) (.bit k j)) = .ok y := by
  obtain ⟨x, hx⟩ := h
  simp only [instruction, Fault.bind_eq_ok_iff] at hx
  obtain ⟨source, hsource, target, htarget, ⟨⟩⟩ := hx
  refine ⟨.measure ⟨q, j, hq⟩ ⟨k, j, hk⟩, ?_⟩
  rw [instruction, bit_eq_ok_of_owns (owns_of_bit_eq_ok hsource) hq]
  simp only [bind, Except.bind, bit_eq_ok_of_owns (owns_of_bit_eq_ok htarget) hk]
  rfl

theorem tooLarge_of_boundedSize {r : Register} {fault : Fault} (h : boundedSize r = .error fault) :
    fault = .value .tooLarge := by
  unfold boundedSize at h
  split at h <;> cases h
  rfl

theorem lt_size_of_boundedSize {r : Register} {fault : Fault} (h : boundedSize r = .error fault) :
    maxLength < r.size := by
  unfold boundedSize at h
  split at h
  · assumption
  · cases h

theorem eq_size_of_boundedSize {r : Register} {n : Nat} (h : boundedSize r = .ok n) : n = r.size := by
  unfold boundedSize at h
  split at h <;> cases h
  rfl

/-- Registers of one size are measured bit by bit. Others, and those that are too large, are
    refused without a word. -/
theorem measureEach_cases (env : Surroundings) (c : Circuit) (q k : Register) :
    (q.size = k.size ∧ c.measureEach env q k =
      c.appendEach env (fun j => .measure (.bit q j) (.bit k j)) q.size) ∨
    (∃ fault, ((maxLength < q.size ∨ maxLength < k.size) ∧ fault = .value .tooLarge ∨
        q.size ≠ k.size ∧ fault = .usage (.sizesDiffer q k)) ∧
      c.measureEach env q k = ⟨c, [], .error fault⟩) := by
  unfold measureEach
  cases hq : boundedSize q with
  | error fault => exact .inr ⟨fault, .inl ⟨.inl (lt_size_of_boundedSize hq), tooLarge_of_boundedSize hq⟩, rfl⟩
  | ok m =>
    cases hk : boundedSize k with
    | error fault => exact .inr ⟨fault, .inl ⟨.inr (lt_size_of_boundedSize hk), tooLarge_of_boundedSize hk⟩, rfl⟩
    | ok n =>
      rw [eq_size_of_boundedSize hq, eq_size_of_boundedSize hk]
      by_cases hsize : q.size = k.size
      · exact .inl ⟨hsize, if_neg (not_not.mpr hsize)⟩
      · exact .inr ⟨_, .inr ⟨hsize, rfl⟩, if_pos hsize⟩

end CircuitScribe.Circuit
