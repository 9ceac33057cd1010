import CircuitScribe.Proofs.Register.Pattern
import CircuitScribe.Proofs.Session.Names

namespace CircuitScribe

open Pattern

/-- A size that a register can be made with. -/
def Value.IsSize (v : Value) : Prop :=
  ∃ n : Int, v = .int n ∧ 0 < n

/-- What a register can be given for its name: nothing, or a text of the pattern for names. -/
def Value.IsRegisterName (v : Value) : Prop :=
  v = .null ∨ ∃ text, v = .str text ∧ text.toList ∈ registerName

namespace Session

/-- The name that a register is asked for with, or the one that is generated for it. -/
def nameFor (s : Session) (kind : RegisterKind) : Value → Value
  | .null => .str (kind.generatedName (s.nameCounts.of kind))
  | name => name

theorem result_createRegister (s : Session) (kind : RegisterKind) (size name : Value) :
    (s.perform (.createRegister kind size name)).2.result =
      (makeRegister s.registerCount kind (s.nameFor kind name) size).map .register := by
  cases name with
  | null => exact s.result_createRegister_null kind size
  | _ =>
    simp only [perform, act, createRegister, nameFor]
    cases makeRegister s.registerCount kind _ size <;> rfl

theorem nameFor_of_isRegisterName {name : Value} (h : name.IsRegisterName) (s : Session) (kind : RegisterKind) :
    ∃ text, s.nameFor kind name = .str text ∧ isRegisterName text = true := by
  rcases h with rfl | ⟨text, rfl, htext⟩
  · exact ⟨_, rfl, kind.isRegisterName_generatedName _⟩
  · exact ⟨text, rfl, mem_registerName_iff_isRegisterName.mp htext⟩

theorem makeRegister_of_pos {text : String} {n : Int} (htext : isRegisterName text = true) (hn : 0 < n)
    (id : Nat) (kind : RegisterKind) : ∃ r, makeRegister id kind (.str text) (.int n) = .ok r := by
  rw [makeRegister, dif_pos htext]
  simp only [dif_pos (show 0 < n.toNat by omega)]
  exact ⟨_, rfl⟩

/-- A register is made if size and name are in order, and otherwise the call is refused. -/
theorem result_createRegister_cases (s : Session) (kind : RegisterKind) (size name : Value) :
    (size.IsSize ∧ name.IsRegisterName ∧ ∃ r : Register,
      (s.perform (.createRegister kind size name)).2.result = .ok (.register r) ∧
        s.nameFor kind name = .str r.name ∧ size = .int r.size ∧ r.kind = kind) ∨
    (¬ (size.IsSize ∧ name.IsRegisterName) ∧
      ∃ fault, (s.perform (.createRegister kind size name)).2.result = .error (.usage fault)) := by
  rw [result_createRegister]
  rcases makeRegister_cases s.registerCount kind (s.nameFor kind name) size with
    ⟨r, hr, hname, hsize, hkind⟩ | ⟨fault, hfault⟩
  · refine .inl ⟨⟨r.size, hsize, by have := r.size_pos; omega⟩, ?_, r, by rw [hr]; rfl, hname, hsize, hkind⟩
    cases name with
    | null => exact .inl rfl
    | _ => exact .inr ⟨r.name, hname, r.name_mem⟩
  · refine .inr ⟨?_, fault, by rw [hfault]; rfl⟩
    rintro ⟨⟨n, rfl, hn⟩, hgiven⟩
    obtain ⟨text, hname, htext⟩ := nameFor_of_isRegisterName hgiven s kind
    obtain ⟨r, hr⟩ := makeRegister_of_pos htext hn s.registerCount kind
    rw [hname, hr] at hfault
    cases hfault

/-- Registers of each kind are made exactly if the size is a positive integer and the name, if one is
    given, has the pattern for names: `[a-z][a-zA-Z0-9_]*`, which one line feed may follow. Whatever else
    is given, the call is refused by the package itself. So every register is printed with
    such a name and, where it is declared, with a positive number. -/
theorem createRegister_accepts (s : Session) :
    (∀ kind size name,
      let result := (s.perform (.createRegister kind size name)).2.result
      ((∃ v, result = .ok v) ↔ size.IsSize ∧ name.IsRegisterName) ∧
      (∀ v, result = .ok v → ∃ r : Register, v = .register r ∧ s.nameFor kind name = .str r.name ∧
        size = .int r.size ∧ r.kind = kind) ∧
      ∀ fault, result = .error fault → fault.family? = some .general) ∧
    (∀ r : Register, 0 < r.size ∧ r.name.toList ∈ registerName) ∧
    ∀ c ∈ s.circuits,
      (∀ r ∈ c.qregs ++ c.cregs, ∀ kw : Keywords, ∃ text ∈ sized,
        (kw.declaration r).toList = (kw.of r).text.toList ++ ' ' :: (text ++ [';'])) ∧
      ∀ i ∈ c.log, ∃ text ∈ operands, i.line.toList = i.kind.mnemonic.toList ++ ' ' :: (text ++ [';', '\n']) := by
  refine ⟨fun kind size name => ?_, fun r => ⟨r.size_pos, r.name_mem⟩, fun c _ =>
    ⟨fun r _ kw => kw.exists_declaration r, fun i _ => i.exists_line_eq⟩⟩
  rcases s.result_createRegister_cases kind size name with
    ⟨hsize, hname, r, hresult, hdata⟩ | ⟨hrefused, fault, hresult⟩
  · simp only [hresult]
    refine ⟨iff_of_true ⟨_, rfl⟩ ⟨hsize, hname⟩, ?_, nofun⟩
    rintro v ⟨⟩
    exact ⟨r, rfl, hdata⟩
  · simp only [hresult]
    refine ⟨iff_of_false nofun hrefused, nofun, ?_⟩
    rintro fault ⟨⟩
    rfl

/-- A line feed at the end of a name is let through, and goes into the line of the register. -/
theorem createRegister_lineFeed :
    let r : Register := ⟨0, .quantum, "q\n", 1, by decide, by decide⟩
    (perform {} (.createRegister .quantum (.int 1) (.str "q\n"))).2.result = .ok (.register r) ∧
      r.name.toList ∉ identifier ∧ Keywords.declaration [] r = "qreg q\n[1];" := by
  intro r
  exact ⟨rfl, mem_identifier_iff.not.mpr (by decide), by decide +kernel⟩

end Session

end CircuitScribe
