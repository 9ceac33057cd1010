import CircuitScribe.Proofs.Circuit.Regular
import CircuitScribe.Proofs.Session.Interchange
import CircuitScribe.Proofs.Session.Isolation
import CircuitScribe.Proofs.Session.Settle

namespace CircuitScribe.Session

variable {s : Session} {id : Nat} {c : Circuit} {legacy : Bool}

/-- A session in which a circuit has the regular spacing in place of its own. -/
def regular (s : Session) (id : Nat) : Session :=
  { s with circuits := s.circuits.modify id Circuit.regular }

/-- What values are at a moment does not depend on the circuits. -/
theorem sameValues_regular (s : Session) (id : Nat) : s.SameValues (s.regular id) :=
  ⟨rfl, rfl, rfl, rfl⟩

theorem settle_regular (s : Session) (id : Nat) : (s.regular id).settle = s.settle :=
  (s.sameValues_regular id).settle

theorem words_regular (s : Session) (id : Nat) : (s.regular id).words = s.words :=
  (s.sameValues_regular id).words rfl

theorem surroundings_regular (s : Session) (id : Nat) : (s.regular id).surroundings = s.surroundings :=
  (s.sameValues_regular id).surroundings rfl rfl

theorem circuitNow_regular (s : Session) (id : Nat) (c : Circuit) :
    (s.regular id).circuitNow c.regular = (s.circuitNow c).regular := by
  simp only [circuitNow, settle_regular]
  rfl

theorem circuits_regular (hc : s.circuits[id]? = some c) : (s.regular id).circuits[id]? = some c.regular := by
  simp [regular, hc]

theorem regular_of_missing (hc : s.circuits[id]? = none) : s.regular id = s := by
  rw [regular, List.modify_eq_self (List.getElem?_eq_none_iff.mp hc)]

theorem regular_extendLog (s : Session) (id : Nat) (is : List Instruction) :
    (s.extendLog id is).regular id = (s.regular id).extendLog id (is.map Instruction.regular) := by
  simp only [regular, extendLog, List.modify_modify_eq]
  congr 2
  funext c
  simp [Circuit.regular]

/-- What comes of an action, and what comes of it in a session in which a circuit has the regular
    spacing: the sessions are again related so, and a caller finds the same up to the spaces in
    the line of a Toffoli. -/
structure SameButSpacing (id : Nat) (p p' : Session × Except Fault Value) : Prop where
  session : p'.1 = p.1.regular id
  outcome : (p'.2.map p'.1.found).map Value.unspaced = (p.2.map p.1.found).map Value.unspaced

theorem sameButSpacing_afterCall (s : Session) (id : Nat) {result : Except Fault Applied}
    (heach : ∀ is, result = .ok (.each is) → is.map Instruction.regular = is) :
    SameButSpacing id (s.afterCall id result) ((s.regular id).afterCall id (result.map Applied.regular)) := by
  cases result with
  | error fault => exact ⟨rfl, rfl⟩
  | ok applied =>
    cases applied with
    | one i => exact ⟨(s.regular_extendLog id [i]).symm, congrArg Except.ok i.unspaced_record_regular⟩
    | each is =>
      have hextend : (s.regular id).extendLog id is = (s.extendLog id is).regular id := by
        rw [regular_extendLog, heach is rfl]
      simp only [Except.map, Applied.regular, afterCall, hextend]
      exact ⟨rfl, rfl⟩

/-- A session in which a circuit, if there is one, has a spacing of its own. -/
def Spaced (s : Session) (id : Nat) : Prop :=
  ∀ c, s.circuits[id]? = some c → ∃ legacy, c.spacing = some legacy

theorem Spaced.perform_gate (h : s.Spaced id) (call : GateCall) :
    (s.perform (.gate (.circuit id) call)).1.Spaced id := by
  cases hc : s.circuits[id]? with
  | none =>
    have hsame : (s.perform (.gate (.circuit id) call)).1 = s := by rw [perform_gate_of_missing hc]
    rw [hsame]
    exact h
  | some c =>
    intro c' hc'
    obtain ⟨d, hd, hgrows⟩ := (s.perform_effect (.gate (.circuit id) call)).grows hc
    obtain rfl : d = c' := Option.some.inj (hd.symm.trans hc')
    rw [hgrows.spacing]
    exact h c hc

/-- A gate call comes to the same in both spacings, up to the spaces in the line of a Toffoli. -/
theorem Spaced.perform_gate_regular (h : s.Spaced id) (call : GateCall) :
    SameButSpacing id
      ((s.perform (.gate (.circuit id) call)).1, (s.perform (.gate (.circuit id) call)).2.result)
      (((s.regular id).perform (.gate (.circuit id) call)).1,
        ((s.regular id).perform (.gate (.circuit id) call)).2.result) := by
  cases hc : s.circuits[id]? with
  | none =>
    rw [regular_of_missing hc, perform_gate_of_missing hc]
    exact ⟨(regular_of_missing hc).symm, rfl⟩
  | some c =>
    obtain ⟨legacy, hspacing⟩ := h c hc
    have hc' := circuits_regular hc
    have hnow : (s.circuitNow c).spacing = some legacy := hspacing
    have hresult : (((s.regular id).circuitNow c.regular).call (s.regular id).surroundings
        (call.map (s.regular id).settle)).result =
          ((s.circuitNow c).call s.surroundings (call.map s.settle)).result.map Applied.regular := by
      rw [settle_regular, circuitNow_regular, surroundings_regular, Circuit.result_call_regular hnow]
    rw [perform_gate_result hc, perform_gate_result hc', hresult]
    exact s.sameButSpacing_afterCall id fun is => Circuit.map_regular_of_each hnow

theorem Spaced.run_gates_regular (h : s.Spaced id) (calls : List GateCall) :
    ((s.regular id).run (calls.map (.gate (.circuit id)))).1 =
        (s.run (calls.map (.gate (.circuit id)))).1.regular id ∧
      ((s.regular id).outcomes (calls.map (.gate (.circuit id)))).map (·.map Value.unspaced) =
        (s.outcomes (calls.map (.gate (.circuit id)))).map (·.map Value.unspaced) := by
  induction calls generalizing s with
  | nil => exact ⟨rfl, rfl⟩
  | cons call rest ih =>
    obtain ⟨hsession, houtcome⟩ := h.perform_gate_regular call
    simp only at hsession houtcome
    obtain ⟨hfinal, houtcomes⟩ := ih (h.perform_gate call)
    simp only [List.map_cons, run_cons, outcomes]
    rw [houtcome, hsession]
    exact ⟨hfinal, by rw [houtcomes]⟩

theorem generate_regular (s : Session) (id : Nat) :
    ((s.regular id).generate (.circuit id)).map Text.unspaced = (s.generate (.circuit id)).map Text.unspaced := by
  cases hc : s.circuits[id]? with
  | none => rw [regular_of_missing hc]
  | some c =>
    rw [generate_circuit hc, generate_circuit (circuits_regular hc), circuitNow_regular, words_regular]
    exact (s.circuitNow c).unspaced_program_regular s.words

theorem records_regular (s : Session) (id : Nat) :
    ((s.regular id).circuits[id]?.map fun c => c.records.map (·.value.unspaced)) =
      s.circuits[id]?.map fun c => c.records.map (·.value.unspaced) := by
  cases hc : s.circuits[id]? with
  | none => rw [regular_of_missing hc, hc]
  | some c =>
    rw [circuits_regular hc, Option.map_some, Option.map_some]
    simp only [Circuit.records, Circuit.regular, List.map_map]
    exact congrArg some (List.map_congr_left fun i _ => i.unspaced_record_regular)

/-- A circuit is made with both spacings, or with none. -/
theorem perform_createCircuit_regular (s : Session) (registers : List Value) (name : Value) (legacy : Bool) :
    SameButSpacing s.circuits.length
      ((s.perform (.createCircuit registers name (.bool legacy))).1,
        (s.perform (.createCircuit registers name (.bool legacy))).2.result)
      ((s.perform (.createCircuit registers name (.bool false))).1,
        (s.perform (.createCircuit registers name (.bool false))).2.result) := by
  have hsettle (legacy : Bool) : s.settle (.bool legacy) = .bool legacy := rfl
  rw [perform_createCircuit_eq, perform_createCircuit_eq, hsettle, hsettle,
    ← Circuit.regular_make (s.circuitCount + 1) registers name legacy]
  cases Circuit.make (s.circuitCount + 1) registers name (.bool legacy) with
  | error fault => exact ⟨(regular_of_missing (List.getElem?_eq_none_iff.mpr (Nat.le_refl _))).symm, rfl⟩
  | ok c =>
    refine ⟨?_, rfl⟩
    simp [afterMake, Except.map, regular, List.modify_eq_take_drop]

theorem spaced_createCircuit (s : Session) (registers : List Value) (name : Value) (legacy : Bool) :
    (s.perform (.createCircuit registers name (.bool legacy))).1.Spaced s.circuits.length := by
  obtain ⟨hsession, _⟩ := Prod.mk.inj (s.perform_createCircuit_eq registers name (.bool legacy))
  have hsettle : s.settle (.bool legacy) = Value.ofSpacing (some legacy) := rfl
  intro c hc
  rw [hsession, hsettle] at hc
  cases hmake : Circuit.make (s.circuitCount + 1) registers name (Value.ofSpacing (some legacy)) with
  | error fault => simp [hmake] at hc
  | ok d =>
    simp only [hmake, List.getElem?_concat_length, Option.some.injEq] at hc
    exact ⟨legacy, hc ▸ Circuit.spacing_of_make hmake⟩

/-- After gate calls on a new circuit its program can be generated, if the declarations of its
    registers can be printed. -/
theorem exists_generate_run_gates (hc : s.circuits[id]? = some c) (husual : c.Usual) (calls : List GateCall)
    (hprints : ∀ r ∈ c.qregs ++ c.cregs,
      (s.run (calls.map (.gate (.circuit id)))).1.words.checkDeclaration r = .ok ()) :
    ∃ text, (s.run (calls.map (.gate (.circuit id)))).1.generate (.circuit id) = .ok text := by
  have hfront : ∀ a ∈ calls.map (Action.gate (.circuit id)), a.Spares (.program id c) := by
    intro a ha
    obtain ⟨call, _, rfl⟩ := List.mem_map.mp ha
    trivial
  obtain ⟨c', hc', hextends⟩ := (continues_run hc hfront).circuit
  rw [generate_eq hc' (hextends.header.trans husual.header), hextends.library, husual.library, hextends.qregs,
    hextends.cregs, Fault.forM_eq_ok_iff.mpr hprints]
  exact ⟨_, rfl⟩

/-- The same goes for a circuit that has just been made. -/
theorem exists_generate_run_create {registers : List Value} {name : Value}
    (hmade : ∃ v, (s.perform (.createCircuit registers name (.bool legacy))).2.result = .ok v)
    (calls : List GateCall)
    (hprints : ∀ r, .register r ∈ registers →
      (s.run (.createCircuit registers name (.bool legacy) ::
        calls.map (.gate (.circuit s.circuits.length)))).1.words.checkDeclaration r = .ok ()) :
    ∃ text, (s.run (.createCircuit registers name (.bool legacy) ::
      calls.map (.gate (.circuit s.circuits.length)))).1.generate (.circuit s.circuits.length) = .ok text := by
  rcases s.perform_createCircuit registers name (.bool legacy) with ⟨c, hmake, hafter, _⟩ | ⟨fault, herror⟩
  · rw [run_cons, hafter] at hprints ⊢
    refine exists_generate_run_gates (c := c) (by simp) (Circuit.make_usual hmake) calls fun r hr => ?_
    exact hprints r (Circuit.mem_of_make hmake r hr)
  · obtain ⟨v, hv⟩ := hmade
    rw [herror] at hv
    cases hv

/-- The legacy spacing is cosmetic. A circuit is made with it or with the regular one, and gates are
    called on it with whatever operands. Both times each call has the same outcome: the same
    fault, or records that are the same but for the spaces in the lines of Toffolis. The same goes
    for the log, and the programs are the same without their spaces. There is a program unless the
    circuit is refused or the declaration of one of its registers cannot be printed. -/
theorem run_spacing_cosmetic (s : Session) (registers : List Value) (name : Value) (calls : List GateCall) :
    let id := s.circuits.length
    let create (legacy : Bool) : Action := .createCircuit registers name (.bool legacy)
    let actions (legacy : Bool) : List Action := create legacy :: calls.map (.gate (.circuit id))
    let final (legacy : Bool) : Session := (s.run (actions legacy)).1
    (s.outcomes (actions true)).map (·.map Value.unspaced) =
      (s.outcomes (actions false)).map (·.map Value.unspaced) ∧
    ((final true).circuits[id]?.map fun c => c.records.map (·.value.unspaced)) =
      ((final false).circuits[id]?.map fun c => c.records.map (·.value.unspaced)) ∧
    ((final true).generate (.circuit id)).map Text.unspaced =
      ((final false).generate (.circuit id)).map Text.unspaced ∧
    ((∃ v, (s.perform (create true)).2.result = .ok v) →
      (∀ r, .register r ∈ registers → (final true).words.checkDeclaration r = .ok ()) →
      ∃ text text', (final true).generate (.circuit id) = .ok text ∧
        (final false).generate (.circuit id) = .ok text' ∧ Text.unspaced text = Text.unspaced text') := by
  intro id create actions final
  obtain ⟨hcreated, hresult⟩ := s.perform_createCircuit_regular registers name true
  obtain ⟨hrun, houtcomes⟩ := (s.spaced_createCircuit registers name true).run_gates_regular calls
  simp only at hcreated hresult
  have hfinal : final false = (final true).regular id := by
    simp only [final, actions, create, run_cons]
    rw [hcreated]
    exact hrun
  have hprogram : ((final true).generate (.circuit id)).map Text.unspaced =
      ((final false).generate (.circuit id)).map Text.unspaced := by
    rw [hfinal, generate_regular]
  refine ⟨?_, ?_, hprogram, fun hmade hprints => ?_⟩
  · simp only [actions, create, outcomes, List.map_cons]
    rw [hresult, hcreated]
    exact congrArg _ houtcomes.symm
  · rw [hfinal, records_regular]
  · obtain ⟨text, htext⟩ : ∃ text, (final true).generate (.circuit id) = .ok text :=
      exists_generate_run_create hmade calls hprints
    rw [htext] at hprogram
    cases htext' : (final false).generate (.circuit id) with
    | error fault =>
      rw [htext'] at hprogram
      cases hprogram
    | ok text' =>
      rw [htext'] at hprogram
      exact ⟨text, text', htext, rfl, Except.ok.inj hprogram⟩

/-- A Toffoli, another one that is refused, and a gate on a whole register. -/
theorem run_spacing_cosmetic_toffoli :
    let q : Register := ⟨0, .quantum, "q", 3, by decide, by decide⟩
    let s : Session := { registerCount := 1 }
    let create (legacy : Bool) : Action := .createCircuit [.register q] (.str "c") (.bool legacy)
    let calls : List GateCall :=
      [.place (.toffoli (.bit q 0) (.bit q 1) (.bit q 2)), .place (.toffoli (.bit q 0) (.bit q 1) (.bit q 3)),
        .place (.single .h (.register q))]
    let final (legacy : Bool) : Session := (s.run (create legacy :: calls.map (.gate (.circuit 0)))).1
    (run {} [.createRegister .quantum (.int 3) (.str "q")]).1 = s ∧
    (s.perform (create true)).2.result = .ok (.circuit 0) ∧
    (final true).words.checkDeclaration q = .ok () ∧
    ∃ text text', (final true).generate (.circuit 0) = .ok text ∧
      (final false).generate (.circuit 0) = .ok text' ∧ Text.unspaced text = Text.unspaced text' := by
  intro q s create calls final
  obtain ⟨_, _, _, hprograms⟩ := run_spacing_cosmetic s [.register q] (.str "c") calls
  have hcreate : (run {} [.createRegister .quantum (.int 3) (.str "q")]).1 = s := rfl
  have hprints : (final true).words.checkDeclaration q = .ok () := by
    have hactions : ∀ a ∈ [Action.createRegister .quantum (.int 3) (.str "q")] ++
        create true :: calls.map (.gate (.circuit 0)), a.Spares (.words Set.univ) := by
      simp [create, calls, Action.Spares]
    have hplain := run_plain hactions
    rw [run_append, hcreate] at hplain
    have hwords : (final true).words = [] := hplain.words_eq
    have hthree : 3 < 10 ^ maxDigits := (fitsDigits_iff maxDigits 3).mp rfl
    rw [hwords, Keywords.checkDeclaration_nil]
    exact checkDigits_of_lt hthree
  refine ⟨hcreate, rfl, hprints, hprograms ⟨_, rfl⟩ fun r hr => ?_⟩
  obtain rfl : r = q := by simpa using hr
  exact hprints

end CircuitScribe.Session
