import CircuitScribe.Proofs.Circuit.Replay
import CircuitScribe.Proofs.Session.Isolation

namespace CircuitScribe

/-- The calls that ask for the records of a log again are those of its instructions. -/
theorem Circuit.calls_of_askedBy {is : List Instruction} {calls : List GateCall}
    (h : List.Forall₂ GateRecord.AskedBy (is.map (·.record)) calls) : calls = is.map (·.call) := by
  rw [List.forall₂_map_left_iff] at h
  induction h with
  | nil => rfl
  | cons hcall _ ih => rw [List.map_cons, ← ih, Instruction.call_of_askedBy hcall]

namespace Session

variable {s s' : Session} {a : Action} {id new : Nat} {c d : Circuit} {i : Instruction} {is : List Instruction}
  {legacy : Bool}

/-- The operands of a call that asks for an instruction again hold no reference. -/
theorem map_settle_call (s : Session) (i : Instruction) : i.call.map s.settle = i.call := by
  cases i <;> rfl

/-- What a circuit admits is appended when it is asked for. -/
theorem perform_call_of_admits (hd : s.circuits[new]? = some d) (hspacing : d.spacing = some legacy)
    (hkeywords : s.keywords = []) (hadmits : d.Admits [] i) :
    (s.perform (.gate (.circuit new) i.call)).1 = s.extendLog new [i] ∧
      (s.perform (.gate (.circuit new) i.call)).2.result = .ok i.record.value := by
  have hnow : (s.circuitNow d).Admits s.surroundings.keywords i := by
    have hwords : s.surroundings.keywords = [] := words_eq_nil hkeywords
    rw [hwords]
    exact hadmits.of_same rfl rfl rfl
  have hcall : (s.circuitNow d).call s.surroundings (i.call.map s.settle) =
      ((s.circuitNow d).attach i).map .one := by
    rw [map_settle_call]
    exact Circuit.call_of_admits hnow hspacing
  exact ((perform_gate_of_attach hd hcall).resolve_right fun h => h.1 hadmits.prints).2

/-- A whole log is appended when it is asked for in turn. -/
theorem run_calls_of_admits (hd : s.circuits[new]? = some d) (hspacing : d.spacing = some legacy)
    (hkeywords : s.keywords = []) (hadmits : ∀ i ∈ is, d.Admits [] i) :
    (s.run (is.map fun i => .gate (.circuit new) i.call)).1 = s.extendLog new is ∧
      (s.run (is.map fun i => .gate (.circuit new) i.call)).2.map (·.result) =
        is.map fun i => .ok i.record.value := by
  induction is generalizing s d with
  | nil => exact ⟨(extendLog_nil s new).symm, rfl⟩
  | cons i rest ih =>
    obtain ⟨hstep, hresult⟩ := perform_call_of_admits hd hspacing hkeywords (hadmits i List.mem_cons_self)
    have hd' : (s.extendLog new [i]).circuits[new]? = some { d with log := d.log ++ [i] } := by
      simp [extendLog, hd]
    obtain ⟨hrest, hresults⟩ := ih hd' hspacing hkeywords
      fun j hj => (hadmits j (List.mem_cons_of_mem i hj)).of_same rfl rfl rfl
    rw [List.map_cons, run_cons, replies_cons, hstep, List.map_cons, hresult, hresults, hrest,
      extendLog_extendLog]
    exact ⟨rfl, rfl⟩

/-- Without a gate call on it a circuit keeps its log, and in any case its registers. -/
theorem run_same_log (hc : s.circuits[id]? = some c) {actions : List Action}
    (h : ∀ a ∈ actions, ∀ call, a ≠ .gate (.circuit id) call) :
    ∃ d, (s.run actions).1.circuits[id]? = some d ∧ d.qregs = c.qregs ∧ d.cregs = c.cregs ∧ d.log = c.log := by
  refine run_invariant (P := fun s => ∃ d, s.circuits[id]? = some d ∧ d.qregs = c.qregs ∧ d.cregs = c.cregs ∧
    d.log = c.log) ?_ ⟨c, hc, rfl, rfl, rfl⟩
  rintro t ⟨d, hd, hqregs, hcregs, hlog⟩ a ha
  rcases (t.perform_effect a).circuit_cases hd with hsame | ⟨call, is, rfl, _, _⟩ | ⟨_, _, _, e, _, hrenamed, he⟩
  · exact ⟨d, hsame, hqregs, hcregs, hlog⟩
  · exact absurd rfl (h _ ha call)
  · obtain ⟨hqregs', hcregs', _, hlog'⟩ := hrenamed.same
    exact ⟨e, he, hqregs'.trans hqregs, hcregs'.trans hcregs, hlog'.trans hlog⟩

/-- Circuits that share registers, log, header and include have the same program. -/
theorem generate_congr (hc : s.circuits[id]? = some c) (hd : s.circuits[new]? = some d)
    (hqregs : c.qregs = d.qregs) (hcregs : c.cregs = d.cregs) (hlog : c.log = d.log)
    (hheader : c.header = d.header) (hlibrary : c.library = d.library) :
    s.generate (.circuit id) = s.generate (.circuit new) := by
  rw [generate_circuit hc, generate_circuit hd]
  simp only [circuitNow, Circuit.program, hqregs, hcregs, hlog, hheader, hlibrary]

/-- A log can be replayed. On a circuit that is made from the registers and with the spacing of
    another one, the gates of that one's records, on their own operands and in their order, are
    all accepted; they give back the same records and leave the same log. Declaration words
    must not have been replaced. The programs of the two circuits are the same as long as header
    and include are, and no gate is called on either. -/
theorem run_replay {actions : List Action} {calls : List GateCall} {name : Value} {t : Session}
    {replies : List Reply} (hactions : ∀ a ∈ actions, a.Spares (.words Set.univ))
    (hrun : (run {} actions).1 = s) (hc : s.circuits[id]? = some c) (hspacing : c.spacing = some legacy)
    (hcalls : List.Forall₂ GateRecord.AskedBy c.records calls)
    (hname : name = .null ∨ ∃ text, name = .str text)
    (hreplay : s.run (.createCircuit ((c.qregs ++ c.cregs).map .register) name (.bool legacy) ::
      calls.map (.gate (.circuit s.circuits.length))) = (t, replies)) :
    let new := s.circuits.length
    replies.map (·.result) = .ok (.circuit new) :: c.records.map (fun r => .ok r.value) ∧
    (∃ d, t.circuits[new]? = some d ∧ d.qregs = c.qregs ∧ d.cregs = c.cregs ∧ d.records = c.records) ∧
    ∀ later, (∀ a ∈ later, ∀ call, a ≠ .gate (.circuit id) call ∧ a ≠ .gate (.circuit new) call) →
      ∃ c' d', (t.run later).1.circuits[id]? = some c' ∧ (t.run later).1.circuits[new]? = some d' ∧
        (c'.header = d'.header → c'.library = d'.library →
          (t.run later).1.generate (.circuit id) = (t.run later).1.generate (.circuit new)) := by
  intro new
  obtain rfl : calls = c.log.map (·.call) := Circuit.calls_of_askedBy hcalls
  have hmap : (c.log.map (·.call)).map (Action.gate (.circuit new)) =
      c.log.map fun i => .gate (.circuit new) i.call := List.map_map
  -- What stands in the log was admitted, and so is admitted by a circuit with the same registers.
  have hplain : s.Plain := hrun ▸ run_plain hactions
  have hsound : c.Sound := hplain.sound c (List.mem_of_getElem? hc)
  obtain ⟨text, htext⟩ : ∃ text, Circuit.chooseName (s.circuitCount + 1) name = .ok text := by
    rcases hname with rfl | ⟨text, rfl⟩
    · exact ⟨_, rfl⟩
    · exact ⟨text, rfl⟩
  let d₀ : Circuit := { name := .str text, qregs := c.qregs, cregs := c.cregs, spacing := some legacy }
  let made : Session := { s with circuitCount := s.circuitCount + 1, circuits := s.circuits ++ [d₀] }
  have hadmits : ∀ i ∈ c.log, d₀.Admits [] i :=
    fun i hi => (hsound.admits i hi).of_same rfl rfl hspacing.symm
  obtain ⟨hmade, hresult⟩ : (s.perform (.createCircuit ((c.qregs ++ c.cregs).map .register) name
        (.bool legacy))).1 = made ∧
      (s.perform (.createCircuit ((c.qregs ++ c.cregs).map .register) name (.bool legacy))).2.result =
        .ok (.circuit new) :=
    s.perform_createCircuit_of_make _ name (.bool legacy)
      (Circuit.make_of_wellDeclared hsound.toWellDeclared htext legacy)
  have hnew : made.circuits[new]? = some d₀ := by simp [made, new]
  obtain ⟨hfinal, hresults⟩ := run_calls_of_admits hnew rfl hplain.keywords hadmits
  obtain rfl : made.extendLog new c.log = t := by
    have hfst := congrArg Prod.fst hreplay
    rwa [hmap, run_cons, hmade, hfinal] at hfst
  have hid : made.circuits[id]? = some c := by
    rw [List.getElem?_append_left (List.getElem?_eq_some_iff.mp hc).1]
    exact hc
  have hne : id ≠ new := by
    have hlt := (List.getElem?_eq_some_iff.mp hc).1
    omega
  have hc' : (made.extendLog new c.log).circuits[id]? = some c := by
    rw [circuits_extendLog_ne hne]
    exact hid
  have hd : (made.extendLog new c.log).circuits[new]? = some { d₀ with log := c.log } := by
    simp [extendLog, hnew, d₀]
  refine ⟨?_, ⟨_, hd, rfl, rfl, rfl⟩, fun later hlater => ?_⟩
  · have hsnd : _ = replies := congrArg Prod.snd hreplay
    rw [hmap, replies_cons, hmade] at hsnd
    rw [← hsnd, List.map_cons, hresult, hresults, Circuit.records, List.map_map]
    rfl
  · obtain ⟨e, he, hqregs, hcregs, hlog⟩ := run_same_log hc' fun a ha call => (hlater a ha call).1
    obtain ⟨e', he', hqregs', hcregs', hlog'⟩ := run_same_log hd fun a ha call => (hlater a ha call).2
    exact ⟨e, e', he, he', generate_congr he he' (hqregs.trans hqregs'.symm) (hcregs.trans hcregs'.symm)
      (hlog.trans hlog'.symm)⟩

/-- A Toffoli with the legacy spacing and a barrier, with a refused call in between. -/
theorem run_replay_legacy :
    let q : Register := ⟨0, .quantum, "q", 3, by decide, by decide⟩
    let made : Instruction :=
      .toffoli true ⟨q, 0, by decide⟩ ⟨q, 1, by decide⟩ ⟨q, 2, by decide⟩
    let barred : Instruction := .barrier [q]
    let c (log : List Instruction) : Circuit :=
      { name := .str "c", qregs := [q], cregs := [], spacing := some true, log := log }
    let t (log : List Instruction) : Session := { registerCount := 1, circuitCount := 1, circuits := [c log] }
    let s := t [made, barred]
    let toffoli : GateCall := .place (.toffoli (.bit q 0) (.bit q 1) (.bit q 2))
    let replayed := s.run (.createCircuit (([q] ++ []).map .register) .null (.bool true) ::
      [toffoli, .barrier].map (.gate (.circuit s.circuits.length)))
    (run {} [.createRegister .quantum (.int 3) (.str "q"), .createCircuit [.register q] (.str "c") (.bool true),
      .gate (.circuit 0) toffoli, .gate (.circuit 0) (.place (.single .h (.bit q 3))),
      .gate (.circuit 0) .barrier]).1 = s ∧
    replayed.2.map (·.result) = [.ok (.circuit 1), .ok made.record.value, .ok barred.record.value] ∧
    ∃ d, replayed.1.circuits[1]? = some d ∧ d.qregs = [q] ∧ d.cregs = [] ∧
      d.records = [made.record, barred.record] := by
  intro q made barred c t s toffoli replayed
  have hregister : (perform {} (.createRegister .quantum (.int 3) (.str "q"))).1 = { registerCount := 1 } := rfl
  have hcircuit : (perform { registerCount := 1 }
      (.createCircuit [.register q] (.str "c") (.bool true))).1 = t [] := rfl
  have htoffoli : ((t []).perform (.gate (.circuit 0) toffoli)).1 = t [made] := by
    subst q
    rfl
  have hrefused : ((t [made]).perform (.gate (.circuit 0) (.place (.single .h (.bit q 3))))).1 = t [made] := by
    subst q
    rfl
  have hbarrier : ((t [made]).perform (.gate (.circuit 0) .barrier)).1 = s := rfl
  have hrun : (run {} [.createRegister .quantum (.int 3) (.str "q"),
      .createCircuit [.register q] (.str "c") (.bool true), .gate (.circuit 0) toffoli,
      .gate (.circuit 0) (.place (.single .h (.bit q 3))), .gate (.circuit 0) .barrier]).1 = s := by
    rw [run_cons, hregister, run_cons, hcircuit, run_cons, htoffoli, run_cons, hrefused, run_cons, hbarrier]
    rfl
  have hcalls : List.Forall₂ GateRecord.AskedBy (c [made, barred]).records [toffoli, .barrier] :=
    .cons made.askedBy_call (.cons barred.askedBy_call .nil)
  have hc : s.circuits[0]? = some (c [made, barred]) := rfl
  obtain ⟨hresults, hd, _⟩ := run_replay (by simp [Action.Spares]) hrun hc rfl hcalls (.inl rfl)
    (Prod.eta replayed).symm
  exact ⟨hrun, hresults, hd⟩

end Session

end CircuitScribe
