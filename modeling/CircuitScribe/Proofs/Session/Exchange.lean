import CircuitScribe.Proofs.Circuit.Bare
import CircuitScribe.Proofs.Session.Growth

namespace CircuitScribe

open Fault (bareWith bareWith_map)

/-- A circuit with the registers that it owns, and calls on it. -/
structure Footprint where
  circuit : Nat
  owned : List Register
  calls : List GateCall

namespace Footprint

/-- The registers that the circuit owns, and those that the calls are given. -/
def registers (f : Footprint) : List Register :=
  f.owned ++ f.calls.flatMap GateCall.registers

/-- What the circuit and the calls depend on and what can be assigned: its name, header and include,
    and the declaration words of the registers. -/
def attributes (f : Footprint) : Attributes :=
  .named f.circuit ∪ .front f.circuit ∪ .words {n | ∃ r ∈ f.registers, r.id = n}

variable {f : Footprint}

theorem mem_registers_operand {call : GateCall} {r : Register} (hcall : call ∈ f.calls)
    (hr : r ∈ call.registers) : r ∈ f.registers :=
  List.mem_append_right _ (List.mem_flatMap.mpr ⟨call, hcall, hr⟩)

theorem word_subset_attributes {r : Register} (hr : r ∈ f.registers) : .words {r.id} ⊆ f.attributes := by
  refine (Attributes.words_mono ?_).trans Set.subset_union_right
  rintro n rfl
  exact ⟨r, hr, rfl⟩

end Footprint

/-- A circuit that has the name, a text, the header and the include that it was made with. -/
structure Circuit.Original (c : Circuit) : Prop extends Circuit.Usual c where
  name : ∃ text, c.name = .str text

namespace Circuit

variable {c d : Circuit}

theorem alike_of_bare_eq (h : c.bare = d.bare) : c.Alike d :=
  ⟨congrArg Circuit.qregs h, congrArg Circuit.cregs h, congrArg Circuit.log h⟩

end Circuit

namespace Session

/-- A call on a circuit with its operands as they are at that moment, and what comes of it. -/
structure Exchange where
  call : GateCall
  outcome : Except Fault Value

/-- What a caller finds in the result of a gate call: a record, or the records of an instruction
    set. -/
def found (s : Session) : Value → Value
  | .instructionSet n => (s.referent? (.recordsOf n)).getD .null
  | v => v

/-- The exchange with a circuit that an action is, if it is one. -/
def exchange? (s : Session) (id : Nat) : Action → Option Exchange
  | .gate (.circuit n) call =>
    if n = id then
      let (s', reply) := s.perform (.gate (.circuit n) call)
      some ⟨call.map s.settle, reply.result.map s'.found⟩
    else none
  | _ => none

/-- The exchanges with a circuit in a run. -/
def exchanges (s : Session) (id : Nat) : List Action → List Exchange
  | [] => []
  | a :: rest => (s.exchange? id a).toList ++ (s.perform a).1.exchanges id rest

theorem exchanges_cons (s : Session) (id : Nat) (a : Action) (rest : List Action) :
    s.exchanges id (a :: rest) = (s.exchange? id a).toList ++ (s.perform a).1.exchanges id rest := rfl

/-- A session in which no declaration word has been replaced that a circuit and calls on it depend on. -/
def Neutral (s : Session) (f : Footprint) : Prop :=
  ∀ r ∈ f.registers, s.keywords.get? r.id = none

/-- A neutral session that has the circuit, with all that it was made with. -/
structure Ready (s : Session) (f : Footprint) (c : Circuit) : Prop where
  neutral : s.Neutral f
  circuit : s.circuits[f.circuit]? = some c
  original : c.Original
  own : ∀ r ∈ c.qregs ++ c.cregs, r ∈ f.owned
  spacing : ∀ call ∈ f.calls, call.kind = .ccx → c.spacing.isSome = true

variable {s s' : Session} {f : Footprint} {c : Circuit} {a : Action}

theorem Neutral.perform (h : s.Neutral f) (ha : a.Spares f.attributes) : (s.perform a).1.Neutral f := by
  intro r hr
  rw [(s.perform_effect a).get?_keywords (ha.mono (Footprint.word_subset_attributes hr)), h r hr]

theorem circuitNow_eq (h : c.Original) : s.circuitNow c = c := by
  obtain ⟨text, hname⟩ := h.name
  have hheader := h.header
  have hlibrary := h.library
  cases c
  simp only at hname hheader hlibrary
  subst hname hheader hlibrary
  rfl

theorem Neutral.get?_words (h : s.Neutral f) {r : Register} (hr : r ∈ f.registers) :
    s.words.get? r.id = none := by
  rw [words, Table.get?_map, h r hr]
  rfl

theorem Ready.mem_registers (h : s.Ready f c) {r : Register} (hr : r ∈ c.qregs ++ c.cregs) :
    r ∈ f.registers :=
  List.mem_append_left _ (h.own r hr)

/-- What calls on the circuit find in such a session is what they find on their own. -/
theorem Ready.surroundings (h : s.Ready f c) {call : GateCall} (hcall : call ∈ f.calls) :
    s.surroundings.Neutral c call := by
  refine ⟨fun r hr => h.neutral.get?_words ?_, h.spacing call hcall⟩
  rcases List.mem_append.mp hr with hr | hr
  · exact h.mem_registers hr
  · exact Footprint.mem_registers_operand hcall hr

theorem Ready.extendLog (h : s.Ready f c) (hs' : s'.Neutral f) (is : List Instruction)
    (hc : s'.circuits[f.circuit]? = some { c with log := c.log ++ is }) :
    s'.Ready f { c with log := c.log ++ is } where
  neutral := hs'
  circuit := hc
  original := ⟨⟨h.original.header, h.original.library⟩, h.original.name⟩
  own := h.own
  spacing := h.spacing

/-- A gate call on the circuit does what it does on the circuit's own. -/
theorem Ready.perform_gate (h : s.Ready f c) {call : GateCall} (hcall : call.map s.settle ∈ f.calls) :
    let o := c.bare.call .plain ((call.map s.settle).map Value.bare)
    let after := s.perform (.gate (.circuit f.circuit) call)
    ∃ c', after.1.Ready f c' ∧ c'.bare = o.circuit ∧
      bareWith Value.bare (after.2.result.map after.1.found) = o.result.map Applied.value := by
  intro o after
  have hneutral : after.1.Neutral f := h.neutral.perform trivial
  have hmirrors := Circuit.call_mirrors (Circuit.mirrors_plain (h.surroundings hcall))
  have hafter : after = (s.gate (.circuit f.circuit) (call.map s.settle)).1.shareReply
      (s.gate (.circuit f.circuit) (call.map s.settle)).2 := rfl
  have hresult (result : Except Fault Applied)
      (hresult : (c.call s.surroundings (call.map s.settle)).result = result) :
      bareWith Value.bare (result.map Applied.value) = o.result.map Applied.value := by
    rw [← hmirrors.result, hresult]
    exact bareWith_map fun a => a.value_bare.symm
  have hcases := gate_cases h.circuit (call.map s.settle)
  rw [circuitNow_eq h.original] at hcases
  rcases hcases with ⟨i, hone, _, hcircuit, hgate⟩ | ⟨is, heach, _, hcircuit, hgate⟩ | ⟨fault, herror, hcircuit, hgate⟩
  · rw [hgate, shareReply_ok (Collections.share_record i _)] at hafter
    refine ⟨_, h.extendLog hneutral [i] ?_, ?_, ?_⟩
    · rw [hafter]
      simp [Session.extendLog, h.circuit]
    · rw [← hmirrors.circuit, hcircuit]
    · rw [← hresult _ hone, hafter]
      rfl
  · rw [hgate, shareReply_ok rfl] at hafter
    refine ⟨_, h.extendLog hneutral is ?_, ?_, ?_⟩
    · rw [hafter]
      simp [Session.extendLog, h.circuit]
    · rw [← hmirrors.circuit, hcircuit]
    · rw [← hresult _ heach, hafter]
      simp [found, referent?, Except.map, Applied.value]
  · rw [hgate, shareReply_error] at hafter
    refine ⟨c, ⟨hneutral, ?_, h.original, h.own, h.spacing⟩, ?_, ?_⟩
    · rw [hafter]
      exact h.circuit
    · rw [← hmirrors.circuit, hcircuit]
    · rw [← hresult _ herror, hafter]
      rfl

/-- No other action changes the circuit. -/
theorem Ready.perform_other (h : s.Ready f c) (ha : a.Spares f.attributes)
    (hother : s.exchange? f.circuit a = none) : (s.perform a).1.Ready f c := by
  refine ⟨h.neutral.perform ha, ?_, h.original, h.own, h.spacing⟩
  rcases (s.perform_effect a).circuit_cases h.circuit with
    hsame | ⟨call, is, rfl, _, _⟩ | ⟨assigned, value, v, d, rfl, hrenamed, _⟩
  · exact hsame
  · simp [exchange?] at hother
  · have hspared := ha (.circuit f.circuit) rfl
    cases hrenamed <;> simp [Footprint.attributes] at hspared

theorem exchange?_eq_some {id : Nat} {e : Exchange} (h : s.exchange? id a = some e) :
    ∃ call, a = .gate (.circuit id) call ∧
      e = ⟨call.map s.settle, (s.perform a).2.result.map (s.perform a).1.found⟩ := by
  unfold exchange? at h
  split at h
  · next n call =>
    split at h
    · next hn =>
      subst hn
      exact ⟨call, rfl, (Option.some.inj h).symm⟩
    · cases h
  · cases h

/-- What comes of the calls of a run on the circuit, and the circuit in the end, are what they
    are if the calls are made on a circuit of its own. -/
theorem Ready.run (h : s.Ready f c) {actions : List Action} (hspares : ∀ a ∈ actions, a.Spares f.attributes)
    (hcalls : ∀ e ∈ s.exchanges f.circuit actions, e.call ∈ f.calls) :
    ∃ c', (s.run actions).1.Ready f c' ∧
      c.bare.replay (((s.exchanges f.circuit actions).map (·.call)).map (·.map Value.bare)) =
        (c'.bare, ((s.exchanges f.circuit actions).map (·.outcome)).map (bareWith Value.bare)) := by
  -- Both sides advance by one with each exchange; no other action moves the circuit.
  induction actions generalizing s c with
  | nil => exact ⟨c, h, rfl⟩
  | cons a rest ih =>
    have hspares' : ∀ a ∈ rest, a.Spares f.attributes :=
      fun b hb => hspares b (List.mem_cons_of_mem a hb)
    have hcons := s.exchanges_cons f.circuit a rest
    cases hexchange : s.exchange? f.circuit a with
    | none =>
      rw [hexchange, Option.toList_none, List.nil_append] at hcons
      rw [hcons] at hcalls ⊢
      exact ih (h.perform_other (hspares a List.mem_cons_self) hexchange) hspares' hcalls
    | some e =>
      obtain ⟨call, rfl, rfl⟩ := exchange?_eq_some hexchange
      rw [hexchange, Option.toList_some, List.singleton_append] at hcons
      rw [hcons] at hcalls ⊢
      obtain ⟨d, hready, hcircuit, hresult⟩ := h.perform_gate (hcalls _ List.mem_cons_self)
      obtain ⟨c', hready', hreplay⟩ := ih hready hspares' fun e he => hcalls e (List.mem_cons_of_mem _ he)
      refine ⟨c', hready', ?_⟩
      rw [List.map_cons, List.map_cons, List.map_cons, List.map_cons, Circuit.replay, ← hcircuit, hreplay,
        hresult]

/-- The program of the circuit is that of the circuit on its own. -/
theorem Ready.generate_eq (h : s.Ready f c) : s.generate (.circuit f.circuit) = c.bare.program [] := by
  have hword {r : Register} (hr : r ∈ c.qregs ++ c.cregs) : s.words.get? r.id = none :=
    h.neutral.get?_words (h.mem_registers hr)
  rw [generate_circuit h.circuit, circuitNow_eq h.original]
  exact (Circuit.program_bare (fun r hr => hword hr) h.original.header h.original.library).symm

end Session

end CircuitScribe
