import CircuitScribe.Proofs.Session.Plain

namespace CircuitScribe

namespace Session

variable {s s' : Session} {a : Action} {id : Nat} {c : Circuit}

theorem run_cons (s : Session) (a : Action) (rest : List Action) :
    (s.run (a :: rest)).1 = ((s.perform a).1.run rest).1 := rfl

/-- A register that is made under a given name is only counted. -/
theorem run_createRegister {r : Register} {kind : RegisterKind} {size : Value} {name : String}
    (h : makeRegister s.registerCount kind (.str name) size = .ok r) (rest : List Action) :
    (s.run (.createRegister kind size (.str name) :: rest)).1 =
      (run { s with registerCount := s.registerCount + 1 } rest).1 := by
  rw [run_cons, perform, act, createRegister, h]
  · rfl
  · rintro ⟨⟩

theorem replies_cons (s : Session) (a : Action) (rest : List Action) :
    (s.run (a :: rest)).2 = (s.perform a).2 :: ((s.perform a).1.run rest).2 := rfl

theorem run_append (s : Session) (actions more : List Action) :
    (s.run (actions ++ more)).1 = ((s.run actions).1.run more).1 := by
  induction actions generalizing s with
  | nil => rfl
  | cons a rest ih => exact ih (s.perform a).1

theorem settle_str (s : Session) (text : String) : s.settle (.str text) = .str text := rfl

/-- The program of a circuit is made of what it has at that moment. -/
theorem generate_circuit (hc : s.circuits[id]? = some c) :
    s.generate (.circuit id) = (s.circuitNow c).program s.words := by
  simp only [generate, circuitAt, circuit?_eq_some hc]
  rfl

/-- The program of a circuit of a plain session has nothing that was assigned. -/
theorem Plain.generate_eq (hs : s.Plain) (hc : s.circuits[id]? = some c) (husual : c.Usual) :
    s.generate (.circuit id) = c.program [] := by
  have hnow : (s.circuitNow c).program [] = c.program [] := by
    simp only [Circuit.program, circuitNow, husual.header, husual.library, settle_str]
  rw [generate_circuit hc, hs.words_eq, hnow]

/-- It has all sizes in its declarations, and cannot be made with one that cannot be printed. -/
theorem Plain.generate_cases (hs : s.Plain) (hc : s.circuits[id]? = some c) (husual : c.Usual) :
    ((∀ r ∈ c.qregs ++ c.cregs, r.size < 10 ^ maxDigits) ∧
      s.generate (.circuit id) = .ok c.outline.text) ∨
    ((∃ r ∈ c.qregs ++ c.cregs, 10 ^ maxDigits ≤ r.size) ∧
      s.generate (.circuit id) = .error (.value .tooManyDigits)) := by
  have hsound := hs.sound c (List.mem_of_getElem? hc)
  rw [hs.generate_eq hc husual]
  by_cases hsizes : ∀ r ∈ c.qregs ++ c.cregs, r.size < 10 ^ maxDigits
  · exact .inl ⟨hsizes, hsound.program_eq husual.header husual.library hsizes⟩
  · simp only [not_forall, Nat.not_lt] at hsizes
    obtain ⟨r, hr, hsize⟩ := hsizes
    exact .inr ⟨⟨r, hr, hsize⟩, Circuit.program_eq_error husual.header husual.library hr hsize⟩

theorem Plain.generate_of_sizes (hs : s.Plain) (hc : s.circuits[id]? = some c) (husual : c.Usual)
    (hsizes : ∀ r ∈ c.qregs ++ c.cregs, r.size < 10 ^ maxDigits) :
    s.generate (.circuit id) = .ok c.outline.text := by
  rcases hs.generate_cases hc husual with ⟨_, hgenerate⟩ | ⟨⟨r, hr, hsize⟩, _⟩
  · exact hgenerate
  · exact absurd (hsizes r hr) (Nat.not_lt.mpr hsize)

theorem Plain.outline_text_of_generate (hs : s.Plain) (hc : s.circuits[id]? = some c)
    (husual : c.Usual) {text : String} (h : s.generate (.circuit id) = .ok text) :
    c.outline.text = text := by
  rcases hs.generate_cases hc husual with ⟨_, hgenerate⟩ | ⟨_, hgenerate⟩
  · exact Except.ok.inj (hgenerate.symm.trans h)
  · cases hgenerate.symm.trans h

/-- Generation loses nothing: circuits with the usual header and include that have the same
    program have equal registers and logs, as long as no declaration word of a register has been
    replaced. The circuits may come from different runs, and the names of their registers may
    end in line feeds. -/
theorem alike_of_generate_eq {actions₁ actions₂ : List Action}
    (hactions₁ : ∀ a ∈ actions₁, a.Spares (.words Set.univ))
    (hactions₂ : ∀ a ∈ actions₂, a.Spares (.words Set.univ))
    {id₁ id₂ : Nat} {c₁ c₂ : Circuit} (hc₁ : (run {} actions₁).1.circuits[id₁]? = some c₁)
    (hc₂ : (run {} actions₂).1.circuits[id₂]? = some c₂) (husual₁ : c₁.Usual) (husual₂ : c₂.Usual)
    {text : String} (htext₁ : (run {} actions₁).1.generate (.circuit id₁) = .ok text)
    (htext₂ : (run {} actions₂).1.generate (.circuit id₂) = .ok text) :
    c₁.Alike c₂ ∧
      c₁.records.map (fun r => (r.kind, r.rendered)) = c₂.records.map (fun r => (r.kind, r.rendered)) ∧
      (Value.tuple (c₁.qregs.map .register)).equals (Keywords.same [])
        (.tuple (c₂.qregs.map .register)) = true ∧
      (Value.tuple (c₁.cregs.map .register)).equals (Keywords.same [])
        (.tuple (c₂.cregs.map .register)) = true ∧
      (Value.tuple (c₁.records.map (·.value))).equals (Keywords.same [])
        (.tuple (c₂.records.map (·.value))) = true := by
  have hplain₁ := run_plain hactions₁
  have hplain₂ := run_plain hactions₂
  have houtline₁ := hplain₁.outline_text_of_generate hc₁ husual₁ htext₁
  have houtline₂ := hplain₂.outline_text_of_generate hc₂ husual₂ htext₂
  have houtline : c₁.outline = c₂.outline :=
    Program.text_inj c₁.outline_named c₂.outline_named (houtline₁.trans houtline₂.symm)
  have halike := (hplain₁.sound c₁ (List.mem_of_getElem? hc₁)).alike
    (hplain₂.sound c₂ (List.mem_of_getElem? hc₂)) houtline
  exact ⟨halike, halike.records_eq, halike.equals⟩

/-- Two runs whose registers are told apart, but not their programs. -/
theorem alike_of_generate_eq_hadamard :
    let q₁ : Register := ⟨0, .quantum, "q", 2, by decide, by decide⟩
    let q₂ : Register := ⟨1, .quantum, "q", 2, by decide, by decide⟩
    let c₁ : Circuit :=
      { name := .str "c", qregs := [q₁], cregs := [], spacing := none,
        log := [.single .h ⟨q₁, 1, by decide⟩] }
    let c₂ : Circuit :=
      { name := .str "d", qregs := [q₂], cregs := [], spacing := none,
        log := [.single .h ⟨q₂, 1, by decide⟩] }
    let create : Action := .createRegister .quantum (.int 2) (.str "q")
    let actions₁ : List Action :=
      [create, .createCircuit [.register q₁] (.str "c") .null,
        .gate (.circuit 0) (.place (.single .h (.bit q₁ 1)))]
    let actions₂ : List Action :=
      [create, create, .createCircuit [.register q₂] (.str "d") .null,
        .gate (.circuit 0) (.place (.single .h (.bit q₂ 1)))]
    (run {} actions₁).1.circuits[0]? = some c₁ ∧ (run {} actions₂).1.circuits[0]? = some c₂ ∧
      (run {} actions₁).1.generate (.circuit 0) = .ok c₁.outline.text ∧
      (run {} actions₂).1.generate (.circuit 0) = .ok c₁.outline.text ∧ c₁.Alike c₂ := by
  intro q₁ q₂ c₁ c₂ create actions₁ actions₂
  have hcreate₁ : (perform {} create).1 = { registerCount := 1 } := rfl
  have hcreate₂ : (perform { registerCount := 1 } create).1 = { registerCount := 2 } := rfl
  have hmake₁ : (perform { registerCount := 1 } (.createCircuit [.register q₁] (.str "c") .null)).1 =
      { registerCount := 1, circuitCount := 1, circuits := [{ c₁ with log := [] }] } := rfl
  have hmake₂ : (perform { registerCount := 2 } (.createCircuit [.register q₂] (.str "d") .null)).1 =
      { registerCount := 2, circuitCount := 1, circuits := [{ c₂ with log := [] }] } := rfl
  have hgate₁ : (perform { registerCount := 1, circuitCount := 1, circuits := [{ c₁ with log := [] }] }
      (.gate (.circuit 0) (.place (.single .h (.bit q₁ 1))))).1 =
      { registerCount := 1, circuitCount := 1, circuits := [c₁] } := by
    subst q₁
    rfl
  have hgate₂ : (perform { registerCount := 2, circuitCount := 1, circuits := [{ c₂ with log := [] }] }
      (.gate (.circuit 0) (.place (.single .h (.bit q₂ 1))))).1 =
      { registerCount := 2, circuitCount := 1, circuits := [c₂] } := by
    subst q₂
    rfl
  have hc₁ : (run {} actions₁).1.circuits[0]? = some c₁ := by
    rw [run_cons, hcreate₁, run_cons, hmake₁, run_cons, hgate₁]
    rfl
  have hc₂ : (run {} actions₂).1.circuits[0]? = some c₂ := by
    rw [run_cons, hcreate₁, run_cons, hcreate₂, run_cons, hmake₂, run_cons, hgate₂]
    rfl
  have hactions₁ : ∀ a ∈ actions₁, a.Spares (.words Set.univ) := by
    simp [actions₁, create, Action.Spares]
  have hactions₂ : ∀ a ∈ actions₂, a.Spares (.words Set.univ) := by
    simp [actions₂, create, Action.Spares]
  have htwo : 2 < 10 ^ maxDigits := (fitsDigits_iff maxDigits 2).mp rfl
  have htext₁ : (run {} actions₁).1.generate (.circuit 0) = .ok c₁.outline.text :=
    (run_plain hactions₁).generate_of_sizes hc₁ ⟨rfl, rfl⟩ (by simpa [c₁, q₁] using htwo)
  have htext₂ : (run {} actions₂).1.generate (.circuit 0) = .ok c₂.outline.text :=
    (run_plain hactions₂).generate_of_sizes hc₂ ⟨rfl, rfl⟩ (by simpa [c₂, q₂] using htwo)
  exact ⟨hc₁, hc₂, htext₁, htext₂,
    (alike_of_generate_eq hactions₁ hactions₂ hc₁ hc₂ ⟨rfl, rfl⟩ ⟨rfl, rfl⟩ htext₁ htext₂).1⟩

end Session

end CircuitScribe
