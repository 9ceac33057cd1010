import CircuitScribe.Proofs.Circuit.Rejection
import CircuitScribe.Proofs.Session.Exchange
import CircuitScribe.Proofs.Session.Twin

namespace CircuitScribe

open Fault (bareWith cases_of_bareWith_eq)

/-- The same operand, or one in which a register with the same data takes the place of a register
    or of the register of a bit. -/
inductive Value.Swaps : Value → Value → Prop
  | same (v : Value) : Swaps v v
  | register {r r' : Register} (h : r.bare = r'.bare) : Swaps (.register r) (.register r')
  | bit {r r' : Register} (h : r.bare = r'.bare) (index : Value) :
    Swaps (.tuple [.register r, index]) (.tuple [.register r', index])

/-- Calls of the same gate on related operands. -/
inductive GateCall.Rel (R : Value → Value → Prop) : GateCall → GateCall → Prop
  | single {v v' : Value} (gate : SingleGate) (h : R v v') :
    Rel R (.place (.single gate v)) (.place (.single gate v'))
  | controlled {v v' w w' : Value} (gate : ControlledGate) (hcontrol : R v v') (htarget : R w w') :
    Rel R (.place (.controlled gate v w)) (.place (.controlled gate v' w'))
  | toffoli {v v' w w' x x' : Value} (hcontrol₁ : R v v') (hcontrol₂ : R w w') (htarget : R x x') :
    Rel R (.place (.toffoli v w x)) (.place (.toffoli v' w' x'))
  | measure {v v' w w' : Value} (hsource : R v v') (htarget : R w w') :
    Rel R (.place (.measure v w)) (.place (.measure v' w'))
  | barrier : Rel R .barrier .barrier

/-- The same gate call or the same question for a register, with registers with the same data. -/
inductive Action.Swaps : Action → Action → Prop
  | gate (on : Value) {call call' : GateCall} (h : call.Rel Value.Swaps call') :
    Swaps (.gate on call) (.gate on call')
  | hasRegister (on : Value) {v v' : Value} (h : v.Swaps v') : Swaps (.hasRegister on v) (.hasRegister on v')

/-- Related operands make the same call of what they are mapped to, if this is the same. -/
theorem GateCall.Rel.map_eq {R : Value → Value → Prop} {call call' : GateCall} (h : call.Rel R call')
    {f g : Value → Value} (hfg : ∀ v v', R v v' → f v = g v') : call.map f = call'.map g := by
  cases h with
  | single gate h => simp only [GateCall.map, hfg _ _ h]
  | controlled gate hcontrol htarget => simp only [GateCall.map, hfg _ _ hcontrol, hfg _ _ htarget]
  | toffoli hcontrol₁ hcontrol₂ htarget =>
    simp only [GateCall.map, hfg _ _ hcontrol₁, hfg _ _ hcontrol₂, hfg _ _ htarget]
  | measure hsource htarget => simp only [GateCall.map, hfg _ _ hsource, hfg _ _ htarget]
  | barrier => rfl

/-- What a caller gets is the same: values that are equal and differ in nothing but in which of
    several registers with the same data they are on, or faults of one family with one message
    and equal operands. -/
inductive SameOutcome : Except Fault Value → Except Fault Value → Prop
  | ok {v v' : Value} (equals : v.equals (Keywords.same []) v' = true) (bare : v.bare = v'.bare) :
    SameOutcome (.ok v) (.ok v')
  | error {fault fault' : Fault} (bare : fault.bare = fault'.bare) (family : fault.family? = fault'.family?)
    (message : fault.message? = fault'.message?)
    (operand : Option.Rel (fun v v' => v.equals (Keywords.same []) v' = true) fault.operand? fault'.operand?) :
    SameOutcome (.error fault) (.error fault')

theorem SameOutcome.of_fault {fault fault' : Fault} (hbit : fault.CarriesBit) (h : fault.bare = fault'.bare) :
    SameOutcome (.error fault) (.error fault') := by
  refine .error h ?_ ?_ (hbit.equals h)
  · rw [← Fault.family?_bare, h, Fault.family?_bare]
  · rw [← Fault.message?_bare, h, Fault.message?_bare]

theorem SameOutcome.of_bool (b : Bool) : SameOutcome (.ok (.bool b)) (.ok (.bool b)) := by
  refine .ok ?_ rfl
  cases b <;> rfl

/-- Records of instructions on registers with the same data are the same to a caller. -/
theorem SameOutcome.of_instruction {i j : Instruction} (h : i.bare = j.bare) :
    SameOutcome (.ok i.record.value) (.ok j.record.value) := by
  refine .ok (Instruction.agrees_record h) ?_
  rw [← Instruction.value_record_bare, h, Instruction.value_record_bare]

theorem SameOutcome.of_instructions {is js : List Instruction}
    (h : is.map Instruction.bare = js.map Instruction.bare) :
    SameOutcome (.ok (Applied.each is).value) (.ok (Applied.each js).value) := by
  refine .ok ?_ ?_
  · have hrecords := Value.agreesAll_map ((forall₂_iff_map_eq.mpr h).imp fun _ _ => Instruction.agrees_record)
    simpa [Applied.value, Value.equals, Value.agrees, Function.comp_def] using hrecords
  · rw [← Applied.value_bare, ← Applied.value_bare, Applied.bare, Applied.bare, h]

namespace Session

variable {s t : Session} {c d : Circuit} {call call' : GateCall} {id : Nat}

/-- What a call finds in alike sessions is the same up to registers. -/
theorem Twin.settle_swaps (h : s.Twin t) {v v' : Value} (hv : v.Swaps v') :
    (s.settle v).bare = (t.settle v').bare := by
  cases hv with
  | same => exact h.settle v
  | register hr => exact congrArg Value.register hr
  | bit hr index =>
    have hindex : (s.settle index).bare = (t.settle index).bare := h.settle index
    have hregister : (Value.register _).bare = (Value.register _).bare := congrArg Value.register hr
    exact congrArg Value.tuple (congrArg₂ (fun x y => [x, y]) hregister hindex)

/-- Without replaced words a call in a session is the same on the bare circuit, up to registers. -/
theorem call_mirrors_bare (hwords : s.words = []) (c : Circuit) (call : GateCall) :
    (c.call s.surroundings call).Mirrors Applied.bare
      (c.bare.call s.surroundings.bare (call.map Value.bare)) := by
  refine Circuit.call_mirrors (Circuit.mirrors_bare fun r _ => ?_)
  simp only [surroundings, hwords]
  rfl

/-- The records of the instruction set that was made last. -/
theorem found_last (s : Session) (sets : List (List GateRecord)) (records : List GateRecord) :
    found { s with instructionSets := sets ++ [records] } (.instructionSet sets.length) =
      .list (records.map (·.value)) := by
  simp [found, referent?]

/-- The same has come of something in two sessions: they are alike afterwards, and what a caller
    finds is the same. -/
structure SameStep (p p' : Session × Except Fault Value) : Prop where
  twin : p.1.Twin p'.1
  outcome : SameOutcome (p.2.map p.1.found) (p'.2.map p'.1.found)

theorem Twin.sameStep_error (h : s.Twin t) {fault : Fault} (hnone : fault.operand? = none) :
    SameStep (s, .error fault) (t, .error fault) :=
  ⟨h, .of_fault (Fault.carriesBit_of_operand? hnone) rfl⟩

/-- Results of calls that are the same up to registers come to the same in alike sessions. -/
theorem Twin.afterCall (h : s.Twin t) {x y : Except Fault Applied}
    (hsame : bareWith Applied.bare x = bareWith Applied.bare y)
    (hbit : ∀ fault, x = .error fault → fault.CarriesBit) (id : Nat) :
    SameStep (s.afterCall id x) (t.afterCall id y) := by
  rcases cases_of_bareWith_eq hsame with ⟨applied, applied', rfl, rfl, happlied⟩ | ⟨fault, fault', rfl, rfl, hfault⟩
  · cases applied with
    | one i =>
      cases applied' with
      | one j =>
        have hij : i.bare = j.bare := Applied.one.inj happlied
        have hlists : [i].map Instruction.bare = [j].map Instruction.bare := congrArg (fun i => [i]) hij
        exact ⟨h.extendLog hlists id, .of_instruction hij⟩
      | each js => cases happlied
    | each is =>
      cases applied' with
      | one j => cases happlied
      | each js =>
        have hlists : is.map Instruction.bare = js.map Instruction.bare := Applied.each.inj happlied
        refine ⟨(h.extendLog hlists id).addInstructionSet hlists, ?_⟩
        simp only [Session.afterCall, Except.map, found_last]
        exact .of_instructions hlists
  · exact ⟨h, .of_fault (hbit fault rfl) hfault⟩

/-- Such calls come to the same on alike circuits. -/
theorem Twin.perform_gate_circuit (h : s.Twin t) (hkeywords : s.keywords = [])
    (hcall : call.Rel Value.Swaps call') (hc : s.circuits[id]? = some c) (hd : t.circuits[id]? = some d)
    (hcd : c.Twin d) :
    SameStep ((s.perform (.gate (.circuit id) call)).1, (s.perform (.gate (.circuit id) call)).2.result)
      ((t.perform (.gate (.circuit id) call')).1, (t.perform (.gate (.circuit id) call')).2.result) := by
  have hmap {f g : Value → Value} (call : GateCall) : (call.map f).map g = call.map (g ∘ f) := by
    rcases call with (p | _)
    · cases p <;> rfl
    · rfl
  have hbare : (call.map s.settle).map Value.bare = (call'.map t.settle).map Value.bare := by
    rw [hmap, hmap]
    exact hcall.map_eq fun _ _ => h.settle_swaps
  rw [perform_gate_result hc, perform_gate_result hd]
  refine h.afterCall ?_ (fun fault => Circuit.carriesBit_of_call fun _ => Settings.operand?_of_inForce) id
  -- Both calls are what one and the same call is on one and the same bare circuit.
  rw [(call_mirrors_bare (Session.words_eq_nil hkeywords) _ _).result,
    (call_mirrors_bare (h.words_eq_nil hkeywords) _ _).result, h.circuitNow hcd, h.surroundings, hbare]

/-- A gate call comes to the same in alike sessions. -/
theorem Twin.perform_gate (h : s.Twin t) (hkeywords : s.keywords = [])
    (hcall : call.Rel Value.Swaps call') (on : Value) :
    SameStep ((s.perform (.gate on call)).1, (s.perform (.gate on call)).2.result)
      ((t.perform (.gate on call')).1, (t.perform (.gate on call')).2.result) := by
  by_cases hon : ∃ id, on = .circuit id
  · obtain ⟨id, rfl⟩ := hon
    cases hc : s.circuits[id]? with
    | none =>
      rw [perform_gate_of_missing hc, perform_gate_of_missing (h.circuits_eq_none hc)]
      exact h.sameStep_error rfl
    | some c =>
      obtain ⟨d, hd, hcd⟩ := h.exists_circuit hc
      exact h.perform_gate_circuit hkeywords hcall hc hd hcd
  · have hother : ∀ id, on ≠ .circuit id := fun id hid => hon ⟨id, hid⟩
    rw [perform_gate_of_other hother, perform_gate_of_other hother]
    exact h.sameStep_error rfl

/-- A gate call leaves declaration words as they are. -/
theorem perform_gate_keywords (s : Session) (on : Value) (call : GateCall) :
    (s.perform (.gate on call)).1.keywords = s.keywords :=
  (s.perform_effect (.gate on call)).keywords_eq trivial

/-- A question for a register changes nothing. -/
theorem perform_hasRegister (s : Session) (on v : Value) :
    ((s.perform (.hasRegister on v)).1, (s.perform (.hasRegister on v)).2.result) =
      (s, (do pure (.bool (← (← s.circuitAt on).hasRegister s.words v)))) := by
  simp only [Session.perform, act, answer]
  cases hat : s.circuitAt on with
  | error fault => rfl
  | ok c => cases hhas : c.hasRegister s.words v <;> simp only [bind, Except.bind, hhas] <;> rfl

/-- A circuit that has a register has those with the same data. -/
theorem hasRegister_eq {v v' : Value} (hqregs : c.qregs = d.qregs) (hcregs : c.cregs = d.cregs)
    (hv : v.Swaps v') : ∃ b, c.hasRegister [] v = .ok b ∧ d.hasRegister [] v' = .ok b := by
  have hregisters (kind : RegisterKind) : c.registers kind = d.registers kind := by
    cases kind <;> simp only [Circuit.registers, hqregs, hcregs]
  have hcontains {r r' : Register} (hr : r.bare = r'.bare) :
      ∃ b, c.hasRegister [] (.register r) = .ok b ∧ d.hasRegister [] (.register r') = .ok b := by
    have hiff : Keywords.contains [] (c.registers r.kind) r = .ok true ↔
        Keywords.contains [] (d.registers r'.kind) r' = .ok true := by
      rw [Keywords.contains_nil_iff, Keywords.contains_nil_iff, hr, hregisters, (Register.bare_eq_bare_iff.mp hr).1]
    simp only [Circuit.hasRegister, Keywords.contains_nil, Except.ok.injEq] at hiff ⊢
    exact ⟨_, rfl, (Bool.eq_iff_iff.mpr hiff).symm⟩
  cases hv with
  | same =>
    cases v with
    | register r => exact hcontains rfl
    | _ => exact ⟨false, rfl, rfl⟩
  | register hr => exact hcontains hr
  | bit hr index => exact ⟨false, rfl, rfl⟩

theorem Twin.circuitAt (h : s.Twin t) (on : Value) :
    (s.circuitAt on = .error (.value .noAttribute) ∧ t.circuitAt on = .error (.value .noAttribute)) ∨
      ∃ c d, s.circuitAt on = .ok c ∧ t.circuitAt on = .ok d ∧ c.qregs = d.qregs ∧ c.cregs = d.cregs := by
  by_cases hon : ∃ id, on = .circuit id
  · obtain ⟨id, rfl⟩ := hon
    simp only [Session.circuitAt, circuit?]
    cases hc : s.circuits[id]? with
    | none =>
      rw [h.circuits_eq_none hc]
      exact .inl ⟨rfl, rfl⟩
    | some c =>
      obtain ⟨d, hd, hcd⟩ := h.exists_circuit hc
      rw [hd, hcd.rest]
      exact .inr ⟨_, _, rfl, rfl, rfl, rfl⟩
  · have hother {u : Session} : u.circuitAt on = .error (.value .noAttribute) := by
      unfold Session.circuitAt
      split
      · exact absurd ⟨_, rfl⟩ hon
      · rfl
    exact .inl ⟨hother, hother⟩

theorem Twin.perform_hasRegister (h : s.Twin t) (hkeywords : s.keywords = []) {v v' : Value}
    (hv : v.Swaps v') (on : Value) :
    SameStep ((s.perform (.hasRegister on v)).1, (s.perform (.hasRegister on v)).2.result)
      ((t.perform (.hasRegister on v')).1, (t.perform (.hasRegister on v')).2.result) := by
  rw [Session.perform_hasRegister, Session.perform_hasRegister, Session.words_eq_nil hkeywords,
    h.words_eq_nil hkeywords]
  rcases h.circuitAt on with ⟨hc, hd⟩ | ⟨c, d, hc, hd, hqregs, hcregs⟩
  · rw [hc, hd]
    exact h.sameStep_error rfl
  · obtain ⟨b, hb, hb'⟩ := hasRegister_eq hqregs hcregs hv
    simp only [hc, hd, bind, Except.bind, hb, hb']
    exact ⟨h, .of_bool b⟩

/-- Actions that differ in registers with the same data come to the same in alike sessions. -/
theorem Twin.perform (h : s.Twin t) (hkeywords : s.keywords = []) {a a' : Action} (ha : a.Swaps a') :
    SameStep ((s.perform a).1, (s.perform a).2.result) ((t.perform a').1, (t.perform a').2.result) ∧
      (s.perform a).1.keywords = [] := by
  cases ha with
  | gate on hcall =>
    exact ⟨h.perform_gate hkeywords hcall on, (s.perform_gate_keywords on _).trans hkeywords⟩
  | @hasRegister on v v' hv =>
    obtain ⟨hstays, _⟩ := Prod.mk.inj (s.perform_hasRegister on v)
    refine ⟨h.perform_hasRegister hkeywords hv on, ?_⟩
    rw [hstays]
    exact hkeywords

/-- What a caller finds in the result of each action of a run, at the moment of the action. -/
def outcomes (s : Session) : List Action → List (Except Fault Value)
  | [] => []
  | a :: rest => (s.perform a).2.result.map (s.perform a).1.found :: (s.perform a).1.outcomes rest

theorem Twin.run (h : s.Twin t) (hkeywords : s.keywords = []) {actions actions' : List Action}
    (hactions : List.Forall₂ Action.Swaps actions actions') :
    (s.run actions).1.Twin (t.run actions').1 ∧ (s.run actions).1.keywords = [] ∧
      List.Forall₂ SameOutcome (s.outcomes actions) (t.outcomes actions') := by
  induction hactions generalizing s t with
  | nil => exact ⟨h, hkeywords, .nil⟩
  | cons ha _ ih =>
    obtain ⟨hstep, hsame⟩ := h.perform hkeywords ha
    obtain ⟨hfinal, hkeywords', houtcomes⟩ := ih hstep.twin hsame
    exact ⟨hfinal, hkeywords', .cons hstep.outcome houtcomes⟩

/-- Registers with the same data are interchangeable. After a run in which no declaration word has
    been replaced, gate calls and questions for registers come to the same if others with the
    same data take the place of registers in them, and lead to equal logs and to the same
    program of each circuit. -/
theorem run_interchange {before actions actions' : List Action}
    (hbefore : ∀ a ∈ before, a.Spares (.words Set.univ)) (hrun : (run {} before).1 = s)
    (hactions : List.Forall₂ Action.Swaps actions actions') :
    List.Forall₂ SameOutcome (s.outcomes actions) (s.outcomes actions') ∧
    ∀ id c, (s.run actions).1.circuits[id]? = some c →
      ∃ d, (s.run actions').1.circuits[id]? = some d ∧
        (Value.tuple (c.records.map (·.value))).equals (Keywords.same [])
          (.tuple (d.records.map (·.value))) = true ∧
        (s.run actions).1.generate (.circuit id) = (s.run actions').1.generate (.circuit id) := by
  have hkeywords : s.keywords = [] := hrun ▸ (run_plain hbefore).keywords
  obtain ⟨htwin, hfinal, houtcomes⟩ := (Twin.refl s).run hkeywords hactions
  refine ⟨houtcomes, fun id c hc => ?_⟩
  obtain ⟨d, hd, hcd⟩ := htwin.exists_circuit hc
  exact ⟨d, hd, hcd.alike.equals.2.2, htwin.generate hfinal hc hd hcd⟩

/-- A gate on a whole register, a question for it and a call that is refused, with another register
    in its place. -/
theorem run_interchange_broadcast :
    let q : Register := ⟨0, .quantum, "q", 2, by decide, by decide⟩
    let q' : Register := ⟨1, .quantum, "q", 2, by decide, by decide⟩
    let create : Action := .createRegister .quantum (.int 2) (.str "q")
    let s : Session :=
      { registerCount := 2, circuitCount := 1,
        circuits := [{ name := .str "c", qregs := [q], cregs := [], spacing := none }] }
    let on : Value := .circuit 0
    let actions (r : Register) : List Action :=
      [.gate on (.place (.single .h (.register r))), .hasRegister on (.register r),
        .gate on (.place (.single .x (.bit r 2)))]
    (run {} [create, create, .createCircuit [.register q] (.str "c") .null]).1 = s ∧
    List.Forall₂ Action.Swaps (actions q) (actions q') ∧
    List.Forall₂ SameOutcome (s.outcomes (actions q)) (s.outcomes (actions q')) ∧
    ∃ c d, (s.run (actions q)).1.circuits[0]? = some c ∧ (s.run (actions q')).1.circuits[0]? = some d ∧
      (Value.tuple (c.records.map (·.value))).equals (Keywords.same [])
        (.tuple (d.records.map (·.value))) = true ∧
      (s.run (actions q)).1.generate (.circuit 0) = (s.run (actions q')).1.generate (.circuit 0) := by
  intro q q' create s on actions
  have hcreate : (perform {} create).1 = { registerCount := 1 } := rfl
  have hcreate' : (perform { registerCount := 1 } create).1 = { registerCount := 2 } := rfl
  have hcircuit : (perform { registerCount := 2 } (.createCircuit [.register q] (.str "c") .null)).1 = s := rfl
  have hrun : (run {} [create, create, .createCircuit [.register q] (.str "c") .null]).1 = s := by
    rw [run_cons, hcreate, run_cons, hcreate', run_cons, hcircuit]
    rfl
  have hq : q.bare = q'.bare := rfl
  have hactions : List.Forall₂ Action.Swaps (actions q) (actions q') :=
    .cons (.gate on (.single .h (.register hq))) (.cons (.hasRegister on (.register hq))
      (.cons (.gate on (.single .x (.bit hq (.int 2)))) .nil))
  let made (j : Nat) (hj : j < 2) : Instruction := .single .h ⟨q, j, hj⟩
  let c : Circuit :=
    { name := .str "c", qregs := [q], cregs := [], spacing := none,
      log := [made 0 (by decide), made 1 (by decide)] }
  let s' : Session :=
    { s with circuits := [c], instructionSets := [[(made 0 (by decide)).record, (made 1 (by decide)).record]] }
  have hmade : (s.perform (.gate on (.place (.single .h (.register q))))).1 = s' := by
    subst q
    rfl
  have hasked : (s'.perform (.hasRegister on (.register q))).1 = s' := rfl
  have hrefused : (s'.perform (.gate on (.place (.single .x (.bit q 2))))).1 = s' := by
    subst q
    rfl
  have hc : (s.run (actions q)).1.circuits[0]? = some c := by
    rw [run_cons, hmade, run_cons, hasked, run_cons, hrefused]
    rfl
  obtain ⟨houtcomes, hfinal⟩ := run_interchange (by simp [create, Action.Spares]) hrun hactions
  obtain ⟨d, hd, hrecords, htext⟩ := hfinal 0 c hc
  exact ⟨hrun, hactions, houtcomes, c, d, hc, hd, hrecords, htext⟩

end Session

end CircuitScribe
