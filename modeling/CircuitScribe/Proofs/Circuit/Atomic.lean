import CircuitScribe.Proofs.Circuit.Broadcast

namespace CircuitScribe

/-- An outcome of a call on a circuit in which either all instructions that are given back
    have been appended to the log, each of which the circuit admits, or none has. -/
def Outcome.AllOrNone {α : Type} (kw : Keywords) (c : Circuit) (made : α → List Instruction)
    (o : Outcome α) : Prop :=
  (∃ a, o.result = .ok a ∧ (∀ i ∈ made a, c.Admits kw i) ∧
    o.circuit = { c with log := c.log ++ made a }) ∨
  (∃ fault, o.result = .error fault ∧ o.circuit = c)

variable {env : Surroundings} {kw : Keywords} {c : Circuit}

theorem Outcome.AllOrNone.map {α β : Type} {made : α → List Instruction}
    {made' : β → List Instruction} {o : Outcome α} (h : o.AllOrNone kw c made) {f : α → β}
    (hmade : ∀ a, made' (f a) = made a) : (o.map f).AllOrNone kw c made' := by
  rcases h with ⟨a, hresult, hadmits, hcircuit⟩ | ⟨fault, hresult, hcircuit⟩
  · left
    refine ⟨f a, ?_, ?_, ?_⟩
    · simp [Outcome.map, hresult, Except.map]
    · rw [hmade]
      exact hadmits
    · rw [hmade]
      exact hcircuit
  · right
    refine ⟨fault, ?_, hcircuit⟩
    simp [Outcome.map, hresult, Except.map]

namespace Circuit

theorem attach_allOrNone {i : Instruction} (h : i.checkLine = .ok () → c.Admits kw i) :
    (c.attach i).AllOrNone kw c fun i => [i] := by
  rcases c.attach_cases i with ⟨hprints, hattach⟩ | ⟨_, hattach⟩
  · rw [hattach]
    exact .inl ⟨i, rfl, by simpa using h hprints, rfl⟩
  · rw [hattach]
    exact .inr ⟨_, rfl, rfl⟩

theorem append_allOrNone (env : Surroundings) (c : Circuit) (p : Placement) :
    (c.append env p).AllOrNone env.keywords c fun i => [i] := by
  unfold append
  cases hinstruction : c.instruction env p with
  | ok i => exact attach_allOrNone (admits_of_instruction hinstruction)
  | error fault => exact .inr ⟨fault, rfl, rfl⟩

theorem appendEach_allOrNone {place : Nat → Placement} {count : Nat} (hcount : 0 < count)
    (halike : ∀ i < count, ∀ j < count, (∃ x, c.instruction env (place i) = .ok x) →
      ∃ y, c.instruction env (place j) = .ok y) :
    (c.appendEach env place count).AllOrNone env.keywords c id := by
  rcases appendEach_cases hcount halike with ⟨is, hadmits, heach⟩ | ⟨fault, _, heach⟩ | ⟨_, heach⟩
  · rw [heach]
    exact .inl ⟨is, rfl, hadmits, rfl⟩
  · rw [heach]
    exact .inr ⟨fault, rfl, rfl⟩
  · rw [heach]
    exact .inr ⟨_, rfl, rfl⟩

theorem measureEach_allOrNone (env : Surroundings) (c : Circuit) (q k : Register) :
    (c.measureEach env q k).AllOrNone env.keywords c id := by
  rcases c.measureEach_cases env q k with ⟨hsize, heach⟩ | ⟨fault, _, heach⟩
  · rw [heach]
    exact appendEach_allOrNone q.size_pos fun i _ j hj =>
      instruction_measure_alike hj (Nat.lt_of_lt_of_eq hj hsize)
  · rw [heach]
    exact .inr ⟨fault, rfl, rfl⟩

theorem barrier_allOrNone (kw : Keywords) (c : Circuit) :
    c.barrier.AllOrNone kw c fun i => [i] := by
  unfold barrier
  by_cases hnone : c.qregs.isEmpty
  · rw [if_pos hnone]
    cases c.name.inserted with
    | ok name => exact .inr ⟨_, rfl, rfl⟩
    | error fault => exact .inr ⟨fault, rfl, rfl⟩
  · rw [if_neg hnone]
    refine attach_allOrNone fun hprints => ⟨hprints, by simp [Instruction.bits], ?_, by simp⟩
    rintro rs ⟨⟩
    exact ⟨rfl, by simpa using hnone⟩

/-- A gate call appends all the instructions that it gives back, or it fails and appends
    none. -/
theorem call_allOrNone (env : Surroundings) (c : Circuit) (call : GateCall) :
    (c.call env call).AllOrNone env.keywords c Applied.instructions := by
  unfold Circuit.call
  split
  · exact (c.barrier_allOrNone env.keywords).map fun _ => rfl
  · next gate r =>
    split
    · exact (appendEach_allOrNone r.size_pos fun i _ j hj => instruction_single_alike hj).map fun _ => rfl
    · exact (c.append_allOrNone env _).map fun _ => rfl
  · next q k =>
    split
    · exact (c.measureEach_allOrNone env q k).map fun _ => rfl
    · exact (c.append_allOrNone env _).map fun _ => rfl
  · exact (c.append_allOrNone env _).map fun _ => rfl

end Circuit

end CircuitScribe
