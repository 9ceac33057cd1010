import CircuitScribe.Proofs.Session.Exchange

namespace CircuitScribe

open Fault (bareWith)

/-- The spacing that a circuit is given when it is made. -/
def Value.ofSpacing : Option Bool → Value
  | none => .null
  | some legacy => .bool legacy

theorem Circuit.spacing_of_make {count : Nat} {values : List Value} {name : Value} {spacing : Option Bool}
    {c : Circuit} (h : make count values name (Value.ofSpacing spacing) = .ok c) : c.spacing = spacing := by
  simp only [make, Fault.bind_eq_ok_iff] at h
  obtain ⟨_, _, _, _, chosen, hchosen, ⟨⟩⟩ := h
  cases spacing <;> cases hchosen <;> rfl

theorem Circuit.mem_of_make {count : Nat} {values : List Value} {name spacing : Value} {c : Circuit}
    (h : make count values name spacing = .ok c) : ∀ r ∈ c.qregs ++ c.cregs, .register r ∈ values := by
  simp only [make, Fault.bind_eq_ok_iff] at h
  obtain ⟨_, _, rs, hrs, _, _, ⟨⟩⟩ := h
  intro r hr
  rw [values_eq_of_checkRegisters hrs]
  refine List.mem_map_of_mem ?_
  rcases List.mem_append.mp hr with hr | hr
  · exact (List.mem_filter.mp hr).1
  · exact (List.mem_filter.mp hr).1

/-- A circuit starts with the name and spacing that it is given, and with registers that it is
    given. -/
theorem Circuit.original_of_make {count : Nat} {values : List Value} {name : String} {spacing : Option Bool}
    {c : Circuit} (h : make count values (.str name) (Value.ofSpacing spacing) = .ok c) :
    c.Original ∧ c.spacing = spacing ∧ ∀ r ∈ c.qregs ++ c.cregs, .register r ∈ values := by
  have husual := make_usual h
  have hspacing := spacing_of_make h
  have hregisters := mem_of_make h
  simp only [make, Fault.bind_eq_ok_iff] at h
  obtain ⟨_, ⟨⟩, _, _, _, _, ⟨⟩⟩ := h
  exact ⟨⟨husual, name, rfl⟩, hspacing, hregisters⟩

/-- A circuit with its own header and include has a program, unless the size of a register cannot be
    printed. -/
theorem Circuit.Original.exists_program {c : Circuit} (h : c.Original) :
    (∃ r ∈ c.qregs ++ c.cregs, 10 ^ maxDigits ≤ r.size) ∨ ∃ text, c.bare.program [] = .ok text := by
  by_cases hsizes : ∀ r ∈ c.qregs ++ c.cregs, r.size < 10 ^ maxDigits
  · right
    have hbare : c.bare.program [] = c.program [] := program_bare (fun _ _ => rfl) h.header h.library
    rw [hbare]
    simp only [program, h.header, h.library, checkDeclarations_nil_iff.mpr hsizes]
    exact ⟨_, rfl⟩
  · simp only [not_forall, Nat.not_lt] at hsizes
    obtain ⟨r, hr, hsize⟩ := hsizes
    exact .inl ⟨r, hr, hsize⟩

theorem Session.settle_ofSpacing (s : Session) (spacing : Option Bool) :
    s.settle (Value.ofSpacing spacing) = Value.ofSpacing spacing := by
  cases spacing <;> rfl

/-- What comes of making a circuit: it goes behind the others, or it only counts. -/
def Session.afterMake (s : Session) : Except Fault Circuit → Session × Except Fault Value
  | .ok c =>
    ({ s with circuitCount := s.circuitCount + 1, circuits := s.circuits ++ [c] },
      .ok (.circuit s.circuits.length))
  | .error fault => ({ s with circuitCount := s.circuitCount + 1 }, .error fault)

theorem Session.perform_createCircuit_eq (s : Session) (registers : List Value) (name spacing : Value) :
    ((s.perform (.createCircuit registers name spacing)).1,
        (s.perform (.createCircuit registers name spacing)).2.result) =
      s.afterMake (Circuit.make (s.circuitCount + 1) registers name (s.settle spacing)) := by
  simp only [perform, act, createCircuit]
  cases Circuit.make (s.circuitCount + 1) registers name (s.settle spacing) <;> rfl

/-- A circuit that is made goes behind the others. -/
theorem Session.perform_createCircuit_of_make (s : Session) (registers : List Value) (name spacing : Value)
    {c : Circuit} (h : Circuit.make (s.circuitCount + 1) registers name (s.settle spacing) = .ok c) :
    (s.perform (.createCircuit registers name spacing)).1 =
        { s with circuitCount := s.circuitCount + 1, circuits := s.circuits ++ [c] } ∧
      (s.perform (.createCircuit registers name spacing)).2.result = .ok (.circuit s.circuits.length) := by
  have heq := s.perform_createCircuit_eq registers name spacing
  rw [h] at heq
  exact Prod.mk.inj heq

/-- A circuit is made, or the caller gets a fault. -/
theorem Session.perform_createCircuit (s : Session) (registers : List Value) (name spacing : Value) :
    (∃ c, Circuit.make (s.circuitCount + 1) registers name (s.settle spacing) = .ok c ∧
      (s.perform (.createCircuit registers name spacing)).1 =
        { s with circuitCount := s.circuitCount + 1, circuits := s.circuits ++ [c] } ∧
      (s.perform (.createCircuit registers name spacing)).2.result = .ok (.circuit s.circuits.length)) ∨
    ∃ fault, (s.perform (.createCircuit registers name spacing)).2.result = .error fault := by
  cases hmake : Circuit.make (s.circuitCount + 1) registers name (s.settle spacing) with
  | ok c => exact .inl ⟨c, rfl, perform_createCircuit_of_make s registers name spacing hmake⟩
  | error fault =>
    have heq := s.perform_createCircuit_eq registers name spacing
    rw [hmake] at heq
    exact .inr ⟨fault, (Prod.mk.inj heq).2⟩

/-- A run that builds a circuit, with all that happens before and after that. -/
structure Scenario where
  before : List Action
  registers : List Value
  name : String
  spacing : Option Bool
  after : List Action

namespace Scenario

open Session

def build (x : Scenario) : Action :=
  .createCircuit x.registers (.str x.name) (Value.ofSpacing x.spacing)

def actions (x : Scenario) : List Action :=
  x.before ++ x.build :: x.after

/-- The session before the circuit is built. -/
def start (x : Scenario) : Session :=
  (run {} x.before).1

/-- The session in which the circuit has been built. -/
def opened (x : Scenario) : Session :=
  (x.start.perform x.build).1

def final (x : Scenario) : Session :=
  (run {} x.actions).1

/-- The place of the circuit among those of the session. -/
def circuit (x : Scenario) : Nat :=
  x.start.circuits.length

/-- The gate calls on the circuit, with what each of them gives back. -/
def exchanges (x : Scenario) : List Exchange :=
  x.opened.exchanges x.circuit x.after

def calls (x : Scenario) : List GateCall :=
  x.exchanges.map (·.call)

def outcomes (x : Scenario) : List (Except Fault Value) :=
  x.exchanges.map (·.outcome)

/-- What the circuit and the calls on it depend on. -/
def footprint (x : Scenario) : Footprint :=
  ⟨x.circuit, x.registers.filterMap Value.onRegister?, x.calls⟩

/-- The circuit is built, nothing that it and the calls on it depend on is replaced at any time,
    and a Toffoli is called only on a circuit with a spacing of its own. -/
structure Undisturbed (x : Scenario) : Prop where
  built : (x.start.perform x.build).2.result = .ok (.circuit x.circuit)
  spares : ∀ a ∈ x.actions, a.Spares x.footprint.attributes
  toffoli : ∀ call ∈ x.calls, call.kind = .ccx → x.spacing.isSome = true

/-- Two runs that build a circuit from the same data and make the same calls on it. Registers
    count as their data alone. -/
structure Same (x y : Scenario) : Prop where
  name : x.name = y.name
  spacing : x.spacing = y.spacing
  registers : x.registers.map Value.bare = y.registers.map Value.bare
  calls : x.calls.map (·.map Value.bare) = y.calls.map (·.map Value.bare)

variable {x y : Scenario}

theorem final_eq (x : Scenario) : x.final = (x.opened.run x.after).1 := by
  rw [final, actions, run_append, run_cons]
  rfl

theorem Undisturbed.opened (h : x.Undisturbed) : x.opened.Neutral x.footprint := by
  have hstart : x.start.Neutral x.footprint :=
    run_invariant (P := fun s => s.Neutral x.footprint)
      (fun _ hs a ha => hs.perform (h.spares a (List.mem_append_left _ ha))) fun _ _ => rfl
  exact hstart.perform (h.spares _ (List.mem_append_right _ List.mem_cons_self))

/-- The circuit that an undisturbed run builds is made from the data of the run alone. -/
theorem Undisturbed.exists_ready (h : x.Undisturbed) :
    ∃ c, x.opened.Ready x.footprint c ∧
      Circuit.make 0 (x.registers.map Value.bare) (.str x.name) (Value.ofSpacing x.spacing) = .ok c.bare := by
  have hsettle := x.start.settle_ofSpacing x.spacing
  have hspacing : (Value.ofSpacing x.spacing).bare = Value.ofSpacing x.spacing := by
    cases x.spacing <;> rfl
  rcases x.start.perform_createCircuit x.registers (.str x.name) (Value.ofSpacing x.spacing) with
    ⟨c, hmake, hmade, _⟩ | ⟨fault, hfault⟩
  · rw [hsettle] at hmake
    obtain ⟨horiginal, hown, hregisters⟩ := Circuit.original_of_make hmake
    refine ⟨c, ⟨h.opened, ?_, horiginal, fun r hr => ?_, fun call hcall hccx => ?_⟩, ?_⟩
    · rw [Scenario.opened, build, hmade]
      simp [footprint, circuit]
    · exact List.mem_filterMap.mpr ⟨_, hregisters r hr, rfl⟩
    · rw [hown]
      exact h.toffoli call hcall hccx
    · have hbare := Circuit.make_bare (x.start.circuitCount + 1) 0 x.registers x.name (Value.ofSpacing x.spacing)
      rw [hmake, hspacing] at hbare
      exact hbare.symm
  · cases hfault.symm.trans h.built

/-- A circuit is isolated from everything else. Two runs that build a circuit from the same data
    and make the same calls on it get the same from each call, whatever else they do: the
    circuit has the same log and the same program in the end. The name, header and include of the
    circuit and the declaration words of its registers and of those in the calls must not be
    replaced. There is a program as long as the sizes of the registers can be printed. -/
theorem isolated_of_same (hx : x.Undisturbed) (hy : y.Undisturbed) (h : x.Same y) :
    x.outcomes.map (bareWith Value.bare) = y.outcomes.map (bareWith Value.bare) ∧
    ∃ c d, x.final.circuits[x.circuit]? = some c ∧ y.final.circuits[y.circuit]? = some d ∧ c.Alike d ∧
      (Value.tuple (c.records.map (·.value))).equals (Keywords.same [])
        (.tuple (d.records.map (·.value))) = true ∧
      x.final.generate (.circuit x.circuit) = y.final.generate (.circuit y.circuit) ∧
      ((∃ r ∈ c.qregs ++ c.cregs, 10 ^ maxDigits ≤ r.size) ∨
        ∃ text, x.final.generate (.circuit x.circuit) = .ok text) := by
  obtain ⟨c₀, hready, hmake⟩ := hx.exists_ready
  obtain ⟨d₀, hready', hmake'⟩ := hy.exists_ready
  have hbuilt : c₀.bare = d₀.bare := by
    rw [h.registers, h.name, h.spacing, hmake'] at hmake
    exact (Except.ok.inj hmake).symm
  obtain ⟨c, hc, hreplay⟩ := hready.run (fun a ha => hx.spares a (by simp [actions, ha]))
    fun e he => List.mem_map_of_mem he
  obtain ⟨d, hd, hreplay'⟩ := hready'.run (fun a ha => hy.spares a (by simp [actions, ha]))
    fun e he => List.mem_map_of_mem he
  rw [← final_eq] at hc hd
  -- Both runs replay the same calls on the same bare circuit.
  obtain ⟨hbare, houtcomes⟩ : c.bare = d.bare ∧
      x.outcomes.map (bareWith Value.bare) = y.outcomes.map (bareWith Value.bare) := by
    rw [← Prod.mk.injEq]
    refine hreplay.symm.trans (Eq.trans ?_ hreplay')
    rw [hbuilt]
    exact congrArg _ h.calls
  have halike : c.Alike d := Circuit.alike_of_bare_eq hbare
  have hgenerate := hc.generate_eq
  refine ⟨houtcomes, c, d, hc.circuit, hd.circuit, halike, halike.equals.2.2, ?_, ?_⟩
  · exact hgenerate.trans (hbare ▸ hd.generate_eq.symm)
  · exact hc.original.exists_program.imp_right fun ⟨text, htext⟩ => ⟨text, hgenerate.trans htext⟩

/-- A rejected call behind a Toffoli. The second run has a circuit on the same register in between,
    and replaces the word of a register that has the same data. -/
theorem isolated_of_same_shared :
    let q₀ : Register := ⟨0, .quantum, "q", 3, by decide, by decide⟩
    let q₁ : Register := ⟨1, .quantum, "q", 3, by decide, by decide⟩
    let create : Action := .createRegister .quantum (.int 3) (.str "q")
    let toffoli (q : Register) : GateCall := .place (.toffoli (.bit q 0) (.bit q 1) (.bit q 2))
    let outside (q : Register) : GateCall := .place (.single .h (.bit q 3))
    let x : Scenario :=
      ⟨[create], [.register q₀], "c", some true,
        [.gate (.circuit 0) (toffoli q₀), .gate (.circuit 0) (outside q₀)]⟩
    let y : Scenario :=
      ⟨[create, create], [.register q₁], "c", some true,
        [.createCircuit [.register q₁] (.str "d") .null,
          .gate (.circuit 1) (.place (.single .h (.bit q₁ 0))), .gate (.circuit 0) (toffoli q₁),
          .assign (.register q₀) .type .null, .gate (.circuit 0) (outside q₁)]⟩
    x.Undisturbed ∧ y.Undisturbed ∧ x.Same y ∧
      x.outcomes.map (bareWith Value.bare) = y.outcomes.map (bareWith Value.bare) ∧
      ∃ c d, x.final.circuits[x.circuit]? = some c ∧ y.final.circuits[y.circuit]? = some d ∧ c.Alike d ∧
        (Value.tuple (c.records.map (·.value))).equals (Keywords.same [])
          (.tuple (d.records.map (·.value))) = true ∧
        x.final.generate (.circuit x.circuit) = y.final.generate (.circuit y.circuit) ∧
        ∃ text, x.final.generate (.circuit x.circuit) = .ok text := by
  intro q₀ q₁ create toffoli outside x y
  let hadamard : Instruction := .single .h ⟨q₁, 0, by decide⟩
  let made : Instruction :=
    .toffoli true ⟨q₁, 0, by decide⟩ ⟨q₁, 1, by decide⟩ ⟨q₁, 2, by decide⟩
  let c (log : List Instruction) : Circuit :=
    { name := .str "c", qregs := [q₁], cregs := [], spacing := some true, log := log }
  let d (log : List Instruction) : Circuit :=
    { name := .str "d", qregs := [q₁], cregs := [], spacing := none, log := log }
  let t (circuits : List Circuit) : Session :=
    { registerCount := 2, circuitCount := circuits.length, circuits := circuits }
  have hcreate : (perform {} create).1 = { registerCount := 1 } := rfl
  have hcreate' : (perform { registerCount := 1 } create).1 = { registerCount := 2 } := rfl
  have hstart : x.start = { registerCount := 1 } := by
    rw [start, run_cons, hcreate]
    rfl
  have hstart' : y.start = { registerCount := 2 } := by
    rw [start, run_cons, hcreate, run_cons, hcreate']
    rfl
  have hcircuit : x.circuit = 0 := by
    rw [circuit, hstart]
    rfl
  have hcircuit' : y.circuit = 0 := by
    rw [circuit, hstart']
    rfl
  have hcalls : x.calls = [toffoli q₀, outside q₀] := by
    rw [calls, Scenario.exchanges, hcircuit]
    rfl
  have hopened' : y.opened = t [c []] := by
    rw [opened, hstart']
    rfl
  have hother : ((t [c []]).perform (.createCircuit [.register q₁] (.str "d") .null)).1 = t [c [], d []] := rfl
  have hhadamard : ((t [c [], d []]).perform (.gate (.circuit 1) (.place (.single .h (.bit q₁ 0))))).1 =
      t [c [], d [hadamard]] := rfl
  have htoffoli : ((t [c [], d [hadamard]]).perform (.gate (.circuit 0) (toffoli q₁))).1 =
      t [c [made], d [hadamard]] := by
    subst q₁
    rfl
  have hword : ((t [c [made], d [hadamard]]).perform (.assign (.register q₀) .type .null)).1 =
      { t [c [made], d [hadamard]] with keywords := [(0, .null)] } := rfl
  have hcalls' : y.calls = [toffoli q₁, outside q₁] := by
    rw [calls, Scenario.exchanges, hcircuit', hopened', exchanges_cons, hother, exchanges_cons, hhadamard,
      exchanges_cons, htoffoli, exchanges_cons, hword]
    rfl
  have hx : x.Undisturbed := by
    refine ⟨?_, by simp [actions, x, build, create, Action.Spares], by simp [x]⟩
    rw [hcircuit, hstart]
    rfl
  have hy : y.Undisturbed := by
    refine ⟨?_, ?_, by simp [y]⟩
    · rw [hcircuit', hstart']
      rfl
    · have hspared : (.register 0, .type) ∉ y.footprint.attributes := by
        rw [footprint, hcalls', hcircuit']
        simp [Footprint.attributes, Footprint.registers, y, toffoli, outside, q₁, GateCall.registers,
          Placement.operands, Value.onRegister?, Value.bit]
      simpa [actions, y, build, create, Action.Spares, Holder.ofValue?] using hspared
  have hsame : x.Same y := by
    refine ⟨rfl, rfl, rfl, ?_⟩
    rw [hcalls, hcalls']
    rfl
  obtain ⟨houtcomes, e, f, he, hf, halike, hequals, hgenerate, hsize | htext⟩ :=
    isolated_of_same hx hy hsame
  · have hopened : x.opened.circuits[0]? =
        some { name := .str "c", qregs := [q₀], cregs := [], spacing := some true } := by
      rw [opened, hstart]
      rfl
    obtain ⟨e', he', hgrows⟩ := run_grows hopened x.after
    rw [final_eq, hcircuit, he'] at he
    obtain rfl := Option.some.inj he
    have hthree : 3 < 10 ^ maxDigits := (fitsDigits_iff maxDigits 3).mp rfl
    simp only [hgrows.qregs, hgrows.cregs, List.append_nil, List.mem_singleton, exists_eq_left] at hsize
    exact absurd hthree (Nat.not_lt.mpr hsize)
  · exact ⟨hx, hy, hsame, houtcomes, e, f, he, hf, halike, hequals, hgenerate, htext⟩

end Scenario

end CircuitScribe
