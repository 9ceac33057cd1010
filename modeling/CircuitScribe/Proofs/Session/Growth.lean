import CircuitScribe.Proofs.Session.Generate

namespace CircuitScribe

/-- What a program has before its lines: the header and include of a circuit, and the declaration
    words of its registers. -/
def Attributes.program (id : Nat) (c : Circuit) : Attributes :=
  .front id ∪ .words {n | ∃ r ∈ c.qregs ++ c.cregs, r.id = n}

namespace Circuit

/-- The second circuit is the first one at a later moment: with the same registers, header and
    include, and a log that has only grown at its end. -/
structure Extends (c c' : Circuit) : Prop where
  qregs : c'.qregs = c.qregs
  cregs : c'.cregs = c.cregs
  header : c'.header = c.header
  library : c'.library = c.library
  log : c.log <+: c'.log

theorem Extends.refl (c : Circuit) : c.Extends c := ⟨rfl, rfl, rfl, rfl, List.prefix_rfl⟩

theorem Extends.trans {c₁ c₂ c₃ : Circuit} (h : c₁.Extends c₂) (h' : c₂.Extends c₃) : c₁.Extends c₃ :=
  ⟨h'.qregs.trans h.qregs, h'.cregs.trans h.cregs, h'.header.trans h.header,
    h'.library.trans h.library, h.log.trans h'.log⟩

/-- The second circuit is the first one at a later moment, whatever has been assigned to it: with
    the same registers and spacing, and a log that has only grown at its end. -/
structure Grows (c c' : Circuit) : Prop where
  qregs : c'.qregs = c.qregs
  cregs : c'.cregs = c.cregs
  spacing : c'.spacing = c.spacing
  log : c.log <+: c'.log

theorem Grows.refl (c : Circuit) : c.Grows c := ⟨rfl, rfl, rfl, List.prefix_rfl⟩

theorem Grows.trans {c₁ c₂ c₃ : Circuit} (h : c₁.Grows c₂) (h' : c₂.Grows c₃) : c₁.Grows c₃ :=
  ⟨h'.qregs.trans h.qregs, h'.cregs.trans h.cregs, h'.spacing.trans h.spacing, h.log.trans h'.log⟩

theorem Grows.records {c c' : Circuit} (h : c.Grows c') : c.records <+: c'.records :=
  h.log.map _

/-- Further lines go to the end of a program. -/
theorem programText_append (header library : String) (declarations lines more : List String) :
    programText header library declarations (lines ++ more) =
      programText header library declarations lines ++ String.join more := by
  simp only [programText, String.join_append, String.append_assoc]

end Circuit

namespace Session

variable {s s' : Session} {a : Action} {id : Nat} {c : Circuit}

/-- No action takes a circuit away or anything out of its log. -/
theorem Effect.extends (h : Effect s a s') (ha : a.Spares (.front id))
    (hc : s.circuits[id]? = some c) : ∃ c', s'.circuits[id]? = some c' ∧ c.Extends c' := by
  rcases h.circuit_cases hc with hsame | ⟨call, is, _, _, hlog⟩ | ⟨assigned, value, v, d, rfl, hrenamed, hd⟩
  · exact ⟨c, hsame, .refl c⟩
  · exact ⟨_, hlog, ⟨rfl, rfl, rfl, rfl, List.prefix_append _ _⟩⟩
  · refine ⟨d, hd, ?_⟩
    have hspared := ha (.circuit id) rfl
    cases hrenamed with
    | name => exact ⟨rfl, rfl, rfl, rfl, List.prefix_rfl⟩
    | header => exact absurd (by simp) hspared
    | library => exact absurd (by simp) hspared

/-- Every action lets circuits grow at most. -/
theorem Effect.grows (h : Effect s a s') (hc : s.circuits[id]? = some c) :
    ∃ c', s'.circuits[id]? = some c' ∧ c.Grows c' := by
  rcases h.circuit_cases hc with hsame | ⟨call, is, _, _, hlog⟩ | ⟨assigned, value, v, d, _, hrenamed, hd⟩
  · exact ⟨c, hsame, .refl c⟩
  · exact ⟨_, hlog, ⟨rfl, rfl, rfl, List.prefix_append _ _⟩⟩
  · refine ⟨d, hd, ?_⟩
    cases hrenamed <;> exact ⟨rfl, rfl, rfl, List.prefix_rfl⟩

theorem run_grows (hc : s.circuits[id]? = some c) (actions : List Action) :
    ∃ c', (s.run actions).1.circuits[id]? = some c' ∧ c.Grows c' := by
  refine run_invariant (P := fun s => ∃ c', s.circuits[id]? = some c' ∧ c.Grows c') ?_ ⟨c, hc, .refl c⟩
  rintro s ⟨c', hc', hgrows⟩ a _
  obtain ⟨c'', hc'', hgrows'⟩ := (s.perform_effect a).grows hc'
  exact ⟨c'', hc'', hgrows.trans hgrows'⟩

/-- The declaration word of a register stays unless an action replaces it. -/
theorem Effect.get?_keywords (h : Effect s a s') {n : Nat}
    (ha : a.Spares (.words {n})) :
    s'.keywords.get? n = s.keywords.get? n := by
  cases h with
  | none h => rw [h.keywords]
  | create hmake hcircuits hkeywords hattached => rw [hkeywords]
  | gate hc hadmits h => rw [h.keywords, extendLog]
  | @word r value v _ h =>
    have hne : n ≠ r.id := fun hn => ha (.register r.id) rfl (by simp [hn])
    rw [h.keywords, Table.get?_put_of_ne hne]
  | rename hchange h => rw [h.keywords]
  | attach hholder h => rw [h.keywords]

/-- What later sessions keep of a circuit and of its declarations. -/
structure Continues (s : Session) (id : Nat) (c : Circuit) (s' : Session) : Prop where
  circuit : ∃ c', s'.circuits[id]? = some c' ∧ c.Extends c'
  words : ∀ r ∈ c.qregs ++ c.cregs, s'.keywords.get? r.id = s.keywords.get? r.id

theorem Continues.perform (h : s.Continues id c s')
    (ha : a.Spares (.program id c)) : s.Continues id c (s'.perform a).1 := by
  have heffect := s'.perform_effect a
  obtain ⟨c', hc', hextends⟩ := h.circuit
  obtain ⟨c'', hc'', hextends'⟩ := heffect.extends (ha.mono Set.subset_union_left) hc'
  refine ⟨⟨c'', hc'', hextends.trans hextends'⟩, fun r hr => ?_⟩
  have hword : a.Spares (.words {r.id}) := by
    refine ha.mono ((Attributes.words_mono ?_).trans Set.subset_union_right)
    rintro n rfl
    exact ⟨r, hr, rfl⟩
  rw [heffect.get?_keywords hword, h.words r hr]

theorem continues_run (hc : s.circuits[id]? = some c) {actions : List Action}
    (h : ∀ a ∈ actions, a.Spares (.program id c)) :
    s.Continues id c (s.run actions).1 :=
  run_invariant (P := s.Continues id c) (fun _ hs a ha => hs.perform (h a ha))
    ⟨⟨c, hc, .refl c⟩, fun _ _ => rfl⟩

/-- What the include and the declaration words of a circuit refer to is the same in two sessions. -/
def SameFront (c : Circuit) (s s' : Session) : Prop :=
  ∀ v ∈ c.library :: (c.qregs ++ c.cregs).map s.keywords.of, s'.settle v = s.settle v

theorem of_words (s : Session) (r : Register) : s.words.of r = s.settle (s.keywords.of r) := by
  simp only [Keywords.of, words, Table.get?_map]
  cases s.keywords.get? r.id with
  | some word => rfl
  | none => cases r.kind.keyword? <;> rfl

/-- The program of a circuit with a text for a header. -/
theorem generate_eq {header : String} (hc : s.circuits[id]? = some c) (hheader : c.header = .str header) :
    s.generate (.circuit id) = (do
      let library ← (s.settle c.library).inserted
      (c.qregs ++ c.cregs).forM s.words.checkDeclaration
      pure (Circuit.programText header library ((c.qregs ++ c.cregs).map s.words.declaration)
        (c.log.map (·.line)))) := by
  have hnow : (s.circuitNow c).header = .str header := by
    simp only [circuitNow, hheader]
    rfl
  rw [generate_circuit hc, Circuit.program, hnow]
  rfl

theorem Continues.of_eq (h : s.Continues id c s') {r : Register} (hr : r ∈ c.qregs ++ c.cregs) :
    s'.keywords.of r = s.keywords.of r := by
  rw [Keywords.of, Keywords.of, h.words r hr]

/-- The words of a circuit's registers are the same at a later moment. -/
theorem Continues.words_of_eq (h : s.Continues id c s') (hfront : SameFront c s s') {r : Register}
    (hr : r ∈ c.qregs ++ c.cregs) : s'.words.of r = s.words.of r := by
  rw [of_words, of_words, h.of_eq hr]
  exact hfront _ (List.mem_cons_of_mem c.library (List.mem_map_of_mem hr))

/-- So are their declarations. -/
theorem Continues.declarations (h : s.Continues id c s') (hfront : SameFront c s s') :
    (c.qregs ++ c.cregs).map s'.words.declaration = (c.qregs ++ c.cregs).map s.words.declaration := by
  refine List.map_congr_left fun r hr => ?_
  rw [Keywords.declaration, Keywords.declaration, h.words_of_eq hfront hr]

theorem Continues.checkDeclarations (h : s.Continues id c s') (hfront : SameFront c s s') :
    (c.qregs ++ c.cregs).forM s'.words.checkDeclaration =
      (c.qregs ++ c.cregs).forM s.words.checkDeclaration := by
  have hall : ((c.qregs ++ c.cregs).map fun r => r).forM s'.words.checkDeclaration =
      (c.qregs ++ c.cregs).forM s.words.checkDeclaration := by
    refine Fault.forM_map_congr fun r hr => ?_
    rw [Keywords.checkDeclaration, Keywords.checkDeclaration, h.words_of_eq hfront hr]
  rwa [List.map_id'] at hall

/-- The program of a circuit at a later moment is that of an earlier one and the lines that have
    been appended to the log in between. -/
theorem Continues.generate_eq {header : String} {c' : Circuit} {appended : List Instruction}
    (h : s.Continues id c s') (hc : s.circuits[id]? = some c) (hc' : s'.circuits[id]? = some c')
    (hextends : c.Extends c') (hlog : c'.log = c.log ++ appended) (hheader : c.header = .str header)
    (hfront : SameFront c s s') :
    s'.generate (.circuit id) =
      (s.generate (.circuit id)).map (· ++ String.join (appended.map (·.line))) := by
  have hlibrary := hfront c.library List.mem_cons_self
  have hlines : c'.log.map (·.line) = c.log.map (·.line) ++ appended.map (·.line) := by
    rw [hlog, List.map_append]
  rw [Session.generate_eq hc hheader, Session.generate_eq hc' (hextends.header.trans hheader), hextends.qregs,
    hextends.cregs, hextends.library, hlibrary, h.checkDeclarations hfront, h.declarations hfront, hlines]
  simp only [Circuit.programText_append]
  cases (s.settle c.library).inserted with
  | error fault => rfl
  | ok library => cases (c.qregs ++ c.cregs).forM s.words.checkDeclaration <;> rfl

/-- A program only grows, and at its end. Whatever happens between two moments, the circuit keeps its
    registers and its log, to which records have been appended. As long as neither its header,
    a text, nor its include nor a declaration word of a register is replaced, its program at the
    later moment is that at the earlier one and the lines of these records, if what the
    include and the words refer to is the same then. -/
theorem run_extends_program {header : String} {between : List Action} (hc : s.circuits[id]? = some c)
    (hheader : c.header = .str header)
    (hbetween : ∀ a ∈ between, a.Spares (.program id c)) :
    ∃ c' appended, (s.run between).1.circuits[id]? = some c' ∧ c'.qregs = c.qregs ∧ c'.cregs = c.cregs ∧
      c'.records = c.records ++ appended ∧
      (SameFront c s (s.run between).1 →
        (s.run between).1.generate (.circuit id) =
          (s.generate (.circuit id)).map (· ++ String.join (appended.map (·.rendered)))) := by
  have hcontinues := continues_run hc hbetween
  obtain ⟨c', hc', hextends⟩ := hcontinues.circuit
  obtain ⟨appended, hlog⟩ := hextends.log
  refine ⟨c', appended.map (·.record), hc', hextends.qregs, hextends.cregs, ?_, fun hfront => ?_⟩
  · rw [Circuit.records, Circuit.records, ← hlog, List.map_append]
  · rw [List.map_map]
    exact hcontinues.generate_eq hc hc' hextends hlog.symm hheader hfront

/-- A gate between two moments, with a rejected one before it and a refused setting behind it. -/
theorem run_extends_program_hadamard :
    let q : Register := ⟨0, .quantum, "q", 2, by decide, by decide⟩
    let c : Circuit := { name := .str "c", qregs := [q], cregs := [], spacing := none }
    let s : Session := { registerCount := 1, circuitCount := 1, circuits := [c] }
    let between : List Action :=
      [.gate (.circuit 0) (.place (.single .h (.int 0))),
        .gate (.circuit 0) (.place (.single .h (.bit q 1))),
        .storeSetting (.int 0) .null .null .null]
    s.circuits[0]? = some c ∧ (∀ a ∈ between, a.Spares (.program 0 c)) ∧
      ∃ c' appended, (s.run between).1.circuits[0]? = some c' ∧ c'.qregs = c.qregs ∧ c'.cregs = c.cregs ∧
        c'.records = c.records ++ appended ∧
        (s.run between).1.generate (.circuit 0) =
          (s.generate (.circuit 0)).map (· ++ String.join (appended.map (·.rendered))) := by
  intro q c s between
  have hbetween : ∀ a ∈ between, a.Spares (.program 0 c) := by
    simp [between, Action.Spares]
  have hrejected : (s.perform (.gate (.circuit 0) (.place (.single .h (.int 0))))).1 = s := rfl
  have hgate : (s.perform (.gate (.circuit 0) (.place (.single .h (.bit q 1))))).1 =
      s.extendLog 0 [.single .h ⟨q, 1, by decide⟩] := by
    subst q
    rfl
  have hrefused : ((s.extendLog 0 [.single .h ⟨q, 1, by decide⟩]).perform
      (.storeSetting (.int 0) .null .null .null)).1 =
      s.extendLog 0 [.single .h ⟨q, 1, by decide⟩] := rfl
  have hrun : (s.run between).1 = s.extendLog 0 [.single .h ⟨q, 1, by decide⟩] := by
    rw [run_cons, hrejected, run_cons, hgate, run_cons, hrefused]
    rfl
  have hfront : SameFront c s (s.run between).1 := by
    rw [hrun]
    exact fun _ _ => rfl
  obtain ⟨c', appended, hc', hqregs, hcregs, hrecords, hgenerate⟩ :=
    run_extends_program (show s.circuits[0]? = some c from rfl) rfl hbetween
  exact ⟨rfl, hbetween, c', appended, hc', hqregs, hcregs, hrecords, hgenerate hfront⟩

/-- An include that is the list of instructions of an instruction set shows what is added to it.
    Nothing is replaced for that, and nothing is appended to the log. -/
theorem run_extends_program_shared :
    let q : Register := ⟨0, .quantum, "q", 1, by decide, by decide⟩
    let c : Circuit :=
      { name := .str "c", qregs := [q], cregs := [], spacing := none, library := .shared (.recordsOf 0) }
    let s : Session :=
      { registerCount := 1, circuitCount := 1, circuits := [c], instructionSets := [[]] }
    let add : Action := .addRecord (.instructionSet 0) (.record .h [.bit q 0] [] "h q[0];\n")
    (run {} [.createRegister .quantum (.int 1) (.str "q"), .createCircuit [.register q] (.str "c") .null,
      .createInstructionSet, .assign (.circuit 0) .library (.shared (.recordsOf 0))]).1 = s ∧
      add.Spares (.program 0 c) ∧ (s.perform add).1.circuits = s.circuits ∧
      s.generate (.circuit 0) = .ok (Circuit.programText "OPENQASM 2.0;" "[]" ["qreg q[1];"] []) ∧
      (s.perform add).1.generate (.circuit 0) = .ok (Circuit.programText "OPENQASM 2.0;"
        "[GateRecord('Hadamard', 'h q[0];\\n')]" ["qreg q[1];"] []) ∧
      (s.perform add).1.generate (.circuit 0) ≠ s.generate (.circuit 0) := by
  intro q c s add
  have hregister : (perform {} (.createRegister .quantum (.int 1) (.str "q"))).1 = { registerCount := 1 } := rfl
  have hcircuit : (perform { registerCount := 1 } (.createCircuit [.register q] (.str "c") .null)).1 =
      { registerCount := 1, circuitCount := 1, circuits := [{ c with library := .str "qelib1.inc" }] } := rfl
  have hset : (perform { registerCount := 1, circuitCount := 1, circuits := [{ c with library := .str "qelib1.inc" }] }
      .createInstructionSet).1 = { s with circuits := [{ c with library := .str "qelib1.inc" }] } := rfl
  have hassign : (perform { s with circuits := [{ c with library := .str "qelib1.inc" }] }
      (.assign (.circuit 0) .library (.shared (.recordsOf 0)))).1 = s := rfl
  have hadd : (s.perform add).1 = { s with instructionSets := [[⟨.h, [.bit q 0], [], "h q[0];\n"⟩]] } := rfl
  have hempty : (s.settle c.library).inserted = .ok "[]" := by
    have htext : (Value.list []).text = "[]" := by decide +kernel
    exact congrArg Except.ok htext
  have hrecord : (Session.settle { s with instructionSets := [[⟨.h, [.bit q 0], [], "h q[0];\n"⟩]] }
      c.library).inserted = .ok "[GateRecord('Hadamard', 'h q[0];\\n')]" := by
    have htext : (Value.list [.record .h [.bit q 0] [] "h q[0];\n"]).text =
        "[GateRecord('Hadamard', 'h q[0];\\n')]" := by decide +kernel
    exact congrArg Except.ok htext
  have hdeclaration : Keywords.declaration [] q = "qreg q[1];" :=
    show Keywords.declaration [] ⟨0, .quantum, "q", 1, by decide, by decide⟩ = "qreg q[1];" by decide +kernel
  have hbefore : s.generate (.circuit 0) =
      .ok (Circuit.programText "OPENQASM 2.0;" "[]" ["qreg q[1];"] []) := by
    rw [Session.generate_eq (c := c) rfl rfl, hempty, ← hdeclaration]
    subst q
    rfl
  have hafter : (s.perform add).1.generate (.circuit 0) = .ok (Circuit.programText "OPENQASM 2.0;"
      "[GateRecord('Hadamard', 'h q[0];\\n')]" ["qreg q[1];"] []) := by
    rw [hadd, Session.generate_eq (c := c) rfl rfl, hrecord, ← hdeclaration]
    subst q
    rfl
  refine ⟨?_, trivial, ?_, hbefore, hafter, ?_⟩
  · rw [run_cons, hregister, run_cons, hcircuit, run_cons, hset, run_cons, hassign]
    rfl
  · rw [hadd]
  · rw [hbefore, hafter]
    exact fun heq => absurd (Except.ok.inj heq) (by decide +kernel)

end Session

end CircuitScribe
