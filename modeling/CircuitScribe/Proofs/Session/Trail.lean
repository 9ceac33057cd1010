import CircuitScribe.Proofs.Circuit.Report
import CircuitScribe.Proofs.Session.Growth
import CircuitScribe.Proofs.Session.Interchange

namespace CircuitScribe

/-- A step of a run: an action, and the session in which it is taken. -/
structure Step where
  before : Session
  action : Action

namespace Session

/-- The steps of a run, in their order. -/
def steps (s : Session) : List Action → List Step
  | [] => []
  | a :: rest => ⟨s, a⟩ :: steps (s.perform a).1 rest

/-- The records in the log of a circuit; none, if there is no such circuit. -/
def logOf (s : Session) (id : Nat) : List GateRecord :=
  ((s.circuits[id]?).map (·.records)).getD []

/-- The name of a circuit as it is at this moment. -/
def nameOf (s : Session) (id : Nat) : Value :=
  ((s.circuit? id).map (·.name)).getD .null

/-- Messages for those who are debugging circuits are let through. -/
def Debugging (s : Session) : Prop :=
  s.logger.threshold Circuit.source ≤ Severity.debug.number

end Session

namespace Step

def after (t : Step) : Session :=
  (t.before.perform t.action).1

def reply (t : Step) : Reply :=
  (t.before.perform t.action).2

/-- The records that a step appends, each with the number of the circuit that has it in its log
    from then on. -/
def appends (t : Step) : List (Nat × GateRecord) :=
  (List.range t.after.circuits.length).flatMap fun id =>
    ((t.after.logOf id).drop (t.before.logOf id).length).map (id, ·)

end Step

theorem Circuit.log_of_make {count : Nat} {registers : List Value} {name spacing : Value} {c : Circuit}
    (h : make count registers name spacing = .ok c) : c.log = [] := by
  simp only [make, Fault.bind_eq_ok_iff] at h
  obtain ⟨_, _, _, _, _, _, ⟨⟩⟩ := h
  rfl

namespace Session

variable {s s' : Session} {a : Action} {id : Nat} {c : Circuit} {call : GateCall}

theorem logOf_eq (hc : s.circuits[id]? = some c) : s.logOf id = c.records := by
  simp [logOf, hc]

theorem logOf_of_missing (hc : s.circuits[id]? = none) : s.logOf id = [] := by
  simp [logOf, hc]

theorem nameOf_eq (hc : s.circuits[id]? = some c) : s.nameOf id = (s.circuitNow c).name := by
  simp [nameOf, circuit?_eq_some hc]

/-- Reports are let through while debugging is. -/
theorem Debugging.lets_message (h : s.Debugging) (r : Report) : s.logger.lets r.message = true := by
  rw [Logger.lets, r.level_message, r.source_message]
  exact Bool.and_eq_true_iff.mpr ⟨rfl, decide_eq_true (show s.logger.threshold Circuit.source ≤ _ from h)⟩

/-- Only a gate call appends to a log. -/
theorem Effect.logOf_eq (h : Effect s a s') (ha : ∀ call, a ≠ .gate (.circuit id) call) :
    s'.logOf id = s.logOf id := by
  cases hc : s.circuits[id]? with
  | none =>
    rw [logOf_of_missing hc]
    cases hc' : s'.circuits[id]? with
    | none => exact logOf_of_missing hc'
    | some c' =>
      obtain ⟨count, registers, name, spacing, hmake⟩ := h.make_of_getElem?_none hc hc'
      rw [Session.logOf_eq hc', Circuit.records, Circuit.log_of_make hmake, List.map_nil]
  | some c =>
    rcases h.circuit_cases hc with hsame | ⟨call, is, hgate, _, _⟩ | ⟨assigned, value, v, d, _, hrenamed, hd⟩
    · rw [Session.logOf_eq hsame, Session.logOf_eq hc]
    · exact absurd hgate (ha call)
    · rw [Session.logOf_eq hd, Session.logOf_eq hc]
      cases hrenamed <;> rfl

theorem logOf_extendLog (hc : s.circuits[id]? = some c) (is : List Instruction) :
    (s.extendLog id is).logOf id = s.logOf id ++ is.map (·.record) := by
  rw [logOf, records_extendLog hc, logOf_eq hc]
  rfl

theorem logOf_extendLog_ne {n : Nat} (hn : n ≠ id) (is : List Instruction) :
    (s.extendLog id is).logOf n = s.logOf n := by
  rw [logOf, circuits_extendLog_ne hn, logOf]

/-- What a gate call does and says: it appends instructions and says so of each, or is refused by
    the circuit, or does not come to a circuit. -/
theorem perform_gate_reported (s : Session) (on : Value) (call : GateCall) :
    (∃ id c is v, on = .circuit id ∧ s.circuits[id]? = some c ∧
      (s.perform (.gate on call)).1.circuits = (s.extendLog id is).circuits ∧
      (s.perform (.gate on call)).2 = ⟨.ok v, is.map (s.circuitNow c).appendedMessage⟩) ∨
    (∃ id c fault, on = .circuit id ∧ s.circuits[id]? = some c ∧
      s.perform (.gate on call) = (s, ⟨.error fault, (s.circuitNow c).callFailure call fault⟩)) ∨
    s.perform (.gate on call) = (s, { result := .error (.value .noAttribute) }) := by
  by_cases hon : ∃ id, on = .circuit id
  · obtain ⟨id, rfl⟩ := hon
    cases hc : s.circuits[id]? with
    | none => exact .inr (.inr (perform_gate_of_missing hc call))
    | some c =>
      have hperform : s.perform (.gate (.circuit id) call) = _ := perform_gate_eq hc rfl
      rcases (s.circuitNow c).call_reported s.surroundings (call.map s.settle) with
        ⟨applied, hresult, hmessages⟩ | ⟨fault, hresult, hmessages⟩
      · rw [hresult, hmessages] at hperform
        cases applied with
        | one i => exact .inl ⟨id, c, [i], _, rfl, hc, by rw [hperform]; rfl, by rw [hperform]; rfl⟩
        | each is => exact .inl ⟨id, c, is, _, rfl, hc, by rw [hperform]; rfl, by rw [hperform]; rfl⟩
      · have hfailure : (s.circuitNow c).callFailure (call.map s.settle) = (s.circuitNow c).callFailure call := by
          cases call with
          | place p => cases p <;> rfl
          | barrier => rfl
        rw [hresult, hmessages, hfailure] at hperform
        exact .inr (.inl ⟨id, c, fault, rfl, hc, hperform⟩)
  · exact .inr (.inr (perform_gate_of_other (fun id hid => hon ⟨id, hid⟩) call))

end Session

namespace Step

open Session

variable {t : Step} {id n : Nat} {c : Circuit} {is : List Instruction}

/-- A step appends to one log at most, and then it succeeds. -/
theorem cases (t : Step) :
    (∃ id c is v, t.before.circuits[id]? = some c ∧
      t.after.circuits = (t.before.extendLog id is).circuits ∧ t.reply.result = .ok v) ∨
    (∀ n, t.after.logOf n = t.before.logOf n) := by
  obtain ⟨s, a⟩ := t
  by_cases hgate : ∃ on call, a = .gate on call
  · obtain ⟨on, call, rfl⟩ := hgate
    rcases s.perform_gate_reported on call with
      ⟨id, c, is, v, _, hc, hcircuits, hreply⟩ | ⟨_, _, fault, _, _, hperform⟩ | hperform
    · exact .inl ⟨id, c, is, v, hc, hcircuits, congrArg Reply.result hreply⟩
    · exact .inr fun n => congrArg (fun p => Session.logOf p.1 n) hperform
    · exact .inr fun n => congrArg (fun p => Session.logOf p.1 n) hperform
  · exact .inr fun n => (s.perform_effect a).logOf_eq fun call ha => hgate ⟨_, call, ha⟩

theorem appends_eq_nil (h : ∀ n, t.after.logOf n = t.before.logOf n) : t.appends = [] := by
  simp [appends, h]

theorem flatMap_range_ite {α : Type} (l : List α) (id k : Nat) :
    (List.range k).flatMap (fun n => if n = id then l else []) = if id < k then l else [] := by
  induction k with
  | zero => rfl
  | succ k ih =>
    rw [List.range_succ, List.flatMap_append, ih]
    rcases Nat.lt_trichotomy id k with hlt | rfl | hgt
    · simp [hlt, Nat.lt_succ_of_lt hlt, Nat.ne_of_gt hlt]
    · simp
    · simp [Nat.not_lt_of_gt hgt, Nat.ne_of_lt hgt, show ¬ id < k + 1 by omega]

theorem appends_of_extendLog (hc : t.before.circuits[id]? = some c)
    (h : t.after.circuits = (t.before.extendLog id is).circuits) :
    t.appends = is.map fun i => (id, i.record) := by
  have hlog (n : Nat) : t.after.logOf n = (t.before.extendLog id is).logOf n := by
    rw [logOf, h, logOf]
  have hnew (n : Nat) : ((t.after.logOf n).drop (t.before.logOf n).length).map (n, ·) =
      if n = id then is.map fun i => (id, i.record) else [] := by
    by_cases hn : n = id
    · subst hn
      simp [hlog, logOf_extendLog hc]
    · simp [hlog, logOf_extendLog_ne hn, hn]
  have hlt : id < t.after.circuits.length := by
    rw [h, extendLog, List.length_modify]
    exact (List.getElem?_eq_some_iff.mp hc).1
  simp only [appends, hnew]
  rw [flatMap_range_ite, if_pos hlt]

/-- All that a step has appended is on circuits that were there before it. -/
theorem exists_circuit {x : Nat × GateRecord} (hx : x ∈ t.appends) :
    ∃ c, t.before.circuits[x.1]? = some c := by
  rcases t.cases with ⟨id, c, is, _, hc, hcircuits, _⟩ | hsame
  · rw [appends_of_extendLog hc hcircuits] at hx
    obtain ⟨i, _, rfl⟩ := List.mem_map.mp hx
    exact ⟨c, hc⟩
  · rw [appends_eq_nil hsame] at hx
    cases hx

end Step

namespace Session

variable {s : Session} {actions : List Action}

end Session

end CircuitScribe
