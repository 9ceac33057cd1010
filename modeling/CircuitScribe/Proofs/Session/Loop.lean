import CircuitScribe.Proofs.Circuit.Verdict
import CircuitScribe.Proofs.Session.Generate
import CircuitScribe.Proofs.Session.Settle

namespace CircuitScribe

/-- A gate on a whole quantum register, or a measurement of one into a classical register of its
    size, as far as a size can be represented. -/
inductive Broadcast where
  | single (gate : SingleGate) (r : Register) (kind_eq : r.kind = .quantum)
  | measure (q k : Register) (source_kind : q.kind = .quantum) (target_kind : k.kind = .classical)
      (size_eq : q.size = k.size) (fits : q.size ≤ maxLength)

namespace Broadcast

/-- The call of a broadcast. -/
def call : Broadcast → GateCall
  | single gate r _ => .place (.single gate (.register r))
  | measure q k _ _ _ _ => .place (.measure (.register q) (.register k))

/-- The number of positions in its registers. -/
def size : Broadcast → Nat
  | single _ r _ => r.size
  | measure q _ _ _ _ _ => q.size

/-- The gate on the bits at one position. -/
def place : Broadcast → Nat → Placement
  | single gate r _, j => .single gate (.bit r j)
  | measure q k _ _ _ _, j => .measure (.bit q j) (.bit k j)

variable {env : Surroundings} {c : Circuit} {i : Instruction} {j : Nat}

theorem size_pos (b : Broadcast) : 0 < b.size := by
  cases b with
  | single gate r _ => exact r.size_pos
  | measure q k _ _ _ _ => exact q.size_pos

/-- At a single position it is one instruction that is asked for. -/
theorem call_place (b : Broadcast) (env : Surroundings) (c : Circuit) (j : Nat) :
    c.call env (.place (b.place j)) = (c.append env (b.place j)).map .one := by
  cases b <;> rfl

theorem instruction_alike (b : Broadcast) {k : Nat} (hk : k < b.size)
    (h : ∃ x, c.instruction env (b.place j) = .ok x) : ∃ y, c.instruction env (b.place k) = .ok y := by
  cases b with
  | single gate r _ => exact Circuit.instruction_single_alike hk h
  | measure q r _ _ hsize _ => exact Circuit.instruction_measure_alike hk (Nat.lt_of_lt_of_eq hk hsize) h

end Broadcast

/-- What is asked of a circuit is accepted or refused whatever stands in its log. -/
theorem Circuit.instruction_log (env : Surroundings) (c : Circuit) (log : List Instruction) (p : Placement) :
    ({ c with log := log } : Circuit).instruction env p = c.instruction env p := by
  cases p <;> rfl

namespace Session

variable {s : Session} {id : Nat} {c : Circuit} {b : Broadcast} {i : Instruction} {j : Nat}

theorem map_settle_place (s : Session) (b : Broadcast) (j : Nat) :
    (GateCall.place (b.place j)).map s.settle = .place (b.place j) := by
  cases b <;> rfl

theorem sameValues_extendLog (s : Session) (id : Nat) (is : List Instruction) :
    s.SameValues (s.extendLog id is) := ⟨rfl, rfl, rfl, rfl⟩

/-- An instruction that a broadcast asks for at a position is accepted, and its line can be printed. -/
structure Accepts (s : Session) (c : Circuit) (b : Broadcast) (j : Nat) (i : Instruction) : Prop where
  instruction : (s.circuitNow c).instruction s.surroundings (b.place j) = .ok i
  prints : i.checkLine = .ok ()

/-- What is appended to the log of the circuit makes no difference to that. -/
theorem Accepts.extendLog (h : s.Accepts c b j i) (is : List Instruction) :
    (s.extendLog id is).Accepts { c with log := c.log ++ is } b j i where
  instruction := by
    rw [(s.sameValues_extendLog id is).surroundings rfl rfl, (s.sameValues_extendLog id is).circuitNow,
      ← h.instruction]
    exact Circuit.instruction_log _ (s.circuitNow c) _ _
  prints := h.prints

theorem Accepts.perform (hc : s.circuits[id]? = some c) (h : s.Accepts c b j i) :
    s.perform (.gate (.circuit id) (.place (b.place j))) =
      (s.extendLog id [i], ⟨.ok i.record.value, [(s.circuitNow c).appendedMessage i]⟩) := by
  have hcall : (s.circuitNow c).call s.surroundings ((GateCall.place (b.place j)).map s.settle) =
      ((s.circuitNow c).attach i).map .one := by
    rw [map_settle_place, b.call_place, Circuit.append_eq_attach h.instruction]
  rw [Circuit.attach_of_checkLine h.prints] at hcall
  exact perform_gate_eq hc hcall

/-- If its first gate is accepted, all are. -/
theorem exists_instructions (hplace : (s.circuitNow c).instruction s.surroundings (b.place 0) = .ok i) :
    ∃ instr : Nat → Instruction, ∀ j < b.size,
      (s.circuitNow c).instruction s.surroundings (b.place j) = .ok (instr j) :=
  Circuit.exists_instructions b.size_pos (fun _ _ _ hk => b.instruction_alike hk) ⟨i, hplace⟩

end Session

end CircuitScribe
