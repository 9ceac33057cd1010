import CircuitScribe.Proofs.Circuit.Bare

namespace CircuitScribe

/-- What is said about a circuit while instructions are asked of it: that one has been appended,
    with its line, or that an operand for one of a kind has been rejected. -/
inductive Report where
  | appended (circuit : Value) (line : String)
  | rejected (circuit : Value) (gate reason : String)

namespace Report

/-- A report as it is logged. -/
def message : Report → Message
  | .appended circuit line =>
    Circuit.debug ("circuit '" ++ circuit.text ++ "': appended " ++ line)
  | .rejected circuit gate reason =>
    Circuit.debug ("circuit '" ++ circuit.text ++ "': " ++ gate ++ " rejected: " ++ reason)

/-- Reports are for those who are debugging, and come from one source. -/
theorem source_message (r : Report) : r.message.source = Circuit.source := by cases r <;> rfl

theorem level_message (r : Report) : r.message.level.toInt = Severity.debug.number := by cases r <;> rfl

end Report

/-- The messages of an outcome go by its result: one for each instruction that has been appended,
    or those about its failure. -/
def Outcome.Reported {α : Type} (c : Circuit) (made : α → List Instruction)
    (failure : Fault → List Message) (o : Outcome α) : Prop :=
  (∃ a, o.result = .ok a ∧ o.messages = (made a).map c.appendedMessage) ∨
  (∃ fault, o.result = .error fault ∧ o.messages = failure fault)

variable {env : Surroundings} {c : Circuit}

theorem Outcome.Reported.map {α β : Type} {made : α → List Instruction} {made' : β → List Instruction}
    {failure : Fault → List Message} {o : Outcome α} (h : o.Reported c made failure) {f : α → β}
    (hmade : ∀ a, made' (f a) = made a) : (o.map f).Reported c made' failure := by
  rcases h with ⟨a, hresult, hmessages⟩ | ⟨fault, hresult, hmessages⟩
  · exact .inl ⟨f a, by simp [Outcome.map, hresult, Except.map], by rw [hmade]; exact hmessages⟩
  · exact .inr ⟨fault, by simp [Outcome.map, hresult, Except.map], hmessages⟩

namespace Circuit

theorem attach_reported {i : Instruction} {failure : Fault → List Message}
    (hfailure : failure (.value .tooManyDigits) = []) : (c.attach i).Reported c (fun i => [i]) failure := by
  rcases c.attach_cases i with ⟨_, hattach⟩ | ⟨_, hattach⟩
  · rw [hattach]
    exact .inl ⟨i, rfl, rfl⟩
  · rw [hattach]
    exact .inr ⟨_, rfl, hfailure.symm⟩

theorem append_reported (env : Surroundings) (c : Circuit) (p : Placement) :
    (c.append env p).Reported c (fun i => [i]) (c.failureMessages p.kind) := by
  unfold append
  cases c.instruction env p with
  | ok i => exact attach_reported rfl
  | error fault => exact .inr ⟨fault, rfl, rfl⟩

theorem appendEach_reported (place : Nat → Placement) {count : Nat} (hcount : 0 < count)
    (halike : ∀ i < count, ∀ j < count, (∃ x, c.instruction env (place i) = .ok x) →
      ∃ y, c.instruction env (place j) = .ok y) :
    (c.appendEach env place count).Reported c id (c.failureMessages (place 0).kind) := by
  rcases appendEach_cases hcount halike with ⟨is, _, heach⟩ | ⟨fault, _, heach⟩ | ⟨_, heach⟩
  · rw [heach]
    exact .inl ⟨is, rfl, rfl⟩
  · rw [heach]
    exact .inr ⟨fault, rfl, rfl⟩
  · rw [heach]
    exact .inr ⟨_, rfl, rfl⟩

theorem measureEach_reported (env : Surroundings) (c : Circuit) (q k : Register) :
    (c.measureEach env q k).Reported c id (c.failureMessages .measure) := by
  rcases c.measureEach_cases env q k with ⟨hsize, heach⟩ | ⟨fault, hfault, heach⟩
  · rw [heach]
    exact appendEach_reported (fun j => .measure (.bit q j) (.bit k j)) q.size_pos fun i _ j hj =>
      instruction_measure_alike hj (Nat.lt_of_lt_of_eq hj hsize)
  · rw [heach]
    exact .inr ⟨fault, rfl, by rcases hfault with ⟨_, rfl⟩ | ⟨_, rfl⟩ <;> rfl⟩

/-- A barrier that has nothing to stand on is refused without a word. -/
theorem barrier_reported (c : Circuit) : c.barrier.Reported c (fun i => [i]) fun _ => [] := by
  unfold barrier
  by_cases hnone : c.qregs.isEmpty
  · rw [if_pos hnone]
    cases c.name.inserted with
    | ok name => exact .inr ⟨_, rfl, rfl⟩
    | error fault => exact .inr ⟨fault, rfl, rfl⟩
  · rw [if_neg hnone]
    exact attach_reported rfl

/-- What is logged when a call has failed. -/
def callFailure (c : Circuit) : GateCall → Fault → List Message
  | .place p => c.failureMessages p.kind
  | .barrier => fun _ => []

/-- A call logs each instruction that it appends, in their order, and no other. -/
theorem call_reported (env : Surroundings) (c : Circuit) (call : GateCall) :
    (c.call env call).Reported c Applied.instructions (c.callFailure call) := by
  unfold Circuit.call
  split
  · exact c.barrier_reported.map fun _ => rfl
  · next gate r =>
    split
    · exact (appendEach_reported (fun j => .single gate (.bit r j)) r.size_pos fun i _ j hj =>
        instruction_single_alike hj).map fun _ => rfl
    · exact (c.append_reported env _).map fun _ => rfl
  · next q k =>
    split
    · exact (c.measureEach_reported env q k).map fun _ => rfl
    · exact (c.append_reported env _).map fun _ => rfl
  · exact (c.append_reported env _).map fun _ => rfl

end Circuit

end CircuitScribe
