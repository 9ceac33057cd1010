import CircuitScribe.Proofs.Circuit.Alike
import CircuitScribe.Proofs.Session.Generate
import CircuitScribe.Proofs.Value.Settled

namespace CircuitScribe

/-- Lists that are related item by item have related items at each position, if any. -/
theorem forall₂_getElem? {α β : Type} {R : α → β → Prop} {xs : List α} {ys : List β}
    (h : List.Forall₂ R xs ys) (n : Nat) : Option.Rel R xs[n]? ys[n]? := by
  induction h generalizing n with
  | nil => exact .none
  | cons hxy _ ih =>
    cases n with
    | zero => exact .some hxy
    | succ n => exact ih n

theorem forall₂_modify {α β : Type} {R : α → β → Prop} {f : α → α} {g : β → β} {xs : List α} {ys : List β}
    (h : List.Forall₂ R xs ys) (n : Nat) (hfg : ∀ x y, R x y → R (f x) (g y)) :
    List.Forall₂ R (xs.modify n f) (ys.modify n g) := by
  induction h generalizing n with
  | nil => simp
  | cons hxy hrest ih =>
    cases n with
    | zero => exact .cons (hfg _ _ hxy) hrest
    | succ n => exact .cons hxy (ih n)

/-- The same record, or the records of instructions on registers with the same data. -/
inductive GateRecord.Twin : GateRecord → GateRecord → Prop
  | same (r : GateRecord) : Twin r r
  | instruction {i j : Instruction} (h : i.bare = j.bare) : Twin i.record j.record

/-- Circuits that differ in which of several registers with the same data their logs are on. -/
structure Circuit.Twin (c d : Circuit) : Prop where
  rest : d = { c with log := d.log }
  log : c.log.map Instruction.bare = d.log.map Instruction.bare

/-- Sessions that differ in which of several registers with the same data the logs and the records
    in them are on. -/
structure Session.Twin (s t : Session) : Prop where
  rest : t = { s with circuits := t.circuits, instructionSets := t.instructionSets }
  circuits : List.Forall₂ Circuit.Twin s.circuits t.circuits
  instructionSets : List.Forall₂ (List.Forall₂ GateRecord.Twin) s.instructionSets t.instructionSets

/-- The same value, or lists of such records. -/
inductive Value.Twin : Value → Value → Prop
  | same (v : Value) : Twin v v
  | records {rs ss : List GateRecord} (h : List.Forall₂ GateRecord.Twin rs ss) :
    Twin (.list (rs.map (·.value))) (.list (ss.map (·.value)))

theorem GateRecord.Twin.value_bare {r r' : GateRecord} (h : r.Twin r') : r.value.bare = r'.value.bare := by
  cases h with
  | same => rfl
  | instruction h => rw [← Instruction.value_record_bare, h, Instruction.value_record_bare]

namespace Circuit

variable {c d : Circuit}

theorem Twin.alike (h : c.Twin d) : c.Alike d := by
  refine ⟨?_, ?_, h.log⟩
  · rw [h.rest]
  · rw [h.rest]

theorem program_of_no_text {kw : Keywords} (h : ∀ text, c.header ≠ .str text) :
    c.program kw = .error (.value .wrongSort) := by
  unfold program
  split
  · next text hheader => exact absurd hheader (h text)
  · rfl

/-- A program depends on nothing but registers and what is bare in a circuit. -/
theorem program_congr (h : c.bare = d.bare) (hregisters : c.qregs ++ c.cregs = d.qregs ++ d.cregs) :
    c.program [] = d.program [] := by
  have hheader : c.header.bare = d.header.bare := congrArg Circuit.header h
  have hlibrary : c.library.inserted = d.library.inserted := by
    have hbare : c.library.bare = d.library.bare := congrArg Circuit.library h
    rw [← Value.inserted_bare, hbare, Value.inserted_bare]
  have hlines : c.log.map (·.line) = d.log.map (·.line) := by
    have hlog : c.log.map Instruction.bare = d.log.map Instruction.bare := congrArg Circuit.log h
    rw [← forall₂_iff_map_eq] at hlog ⊢
    exact hlog.imp fun _ _ => Instruction.line_eq_of_bare_eq
  by_cases htext : ∃ text, c.header = .str text
  · obtain ⟨text, hc⟩ := htext
    have hd : d.header = .str text := Value.bare_eq_str (hheader ▸ congrArg Value.bare hc)
    simp only [program, hc, hd, hlibrary, hregisters, hlines]
  · have hc : ∀ text, c.header ≠ .str text := fun text hc => htext ⟨text, hc⟩
    have hd : ∀ text, d.header ≠ .str text :=
      fun text hd => hc text (Value.bare_eq_str (hheader ▸ congrArg Value.bare hd))
    rw [program_of_no_text hc, program_of_no_text hd]

end Circuit

namespace Value

variable {find find' : Reference → Option Value} {v v' : Value}

theorem bareAll_records {rs rs' : List GateRecord} (h : List.Forall₂ GateRecord.Twin rs rs') :
    bareAll (rs.map (·.value)) = bareAll (rs'.map (·.value)) := by
  induction h with
  | nil => rfl
  | cons h _ ih => simp only [List.map_cons, bareAll, h.value_bare, ih]

theorem Twin.bare_eq (h : v.Twin v') : v.bare = v'.bare := by
  cases h with
  | same => rfl
  | records h => simp only [bare, bareAll_records h]

theorem settled_record_bare (hfind : ∀ ref, (find ref).map bare = (find' ref).map bare) {r r' : GateRecord}
    (h : r.Twin r') :
    (r.value.settled find).bare = (r'.value.settled find').bare := by
  cases h with
  | same => exact settled_bare hfind r.value
  | instruction h =>
    rw [settled_record, settled_record, ← Instruction.value_record_bare, h, Instruction.value_record_bare]

theorem Twin.settled_bare (h : v.Twin v') (hfind : ∀ ref, (find ref).map bare = (find' ref).map bare) :
    (v.settled find).bare = (v'.settled find').bare := by
  cases h with
  | same => exact Value.settled_bare hfind v
  | records h =>
    simp only [settled, bare, settledAll_eq_map, bareAll_eq_map, List.map_map]
    congr 1
    induction h with
    | nil => rfl
    | cons h _ ih =>
      rw [List.map_cons, List.map_cons, ih]
      exact congrArg (· :: _) (settled_record_bare hfind h)

end Value

namespace Session

variable {s t : Session}

theorem Twin.refl (s : Session) : s.Twin s := by
  refine ⟨rfl, List.forall₂_same.mpr fun c _ => ⟨rfl, rfl⟩, List.forall₂_same.mpr fun rs _ => ?_⟩
  exact List.forall₂_same.mpr fun r _ => .same r

namespace Twin

theorem keywords (h : s.Twin t) : t.keywords = s.keywords := by rw [h.rest]

theorem collections (h : s.Twin t) : t.collections = s.collections := by rw [h.rest]

theorem readers (h : s.Twin t) : t.readers = s.readers := by rw [h.rest]

theorem settings (h : s.Twin t) : t.settings = s.settings := by
  rw [h.rest]
  rfl

/-- What a reference leads to differs in such records at most. -/
theorem referent? (h : s.Twin t) (ref : Reference) :
    Option.Rel Value.Twin (s.referent? ref) (t.referent? ref) := by
  have hsame (found : Option Value) : Option.Rel Value.Twin found found := by
    cases found with
    | none => exact .none
    | some v => exact .some (.same v)
  cases ref with
  | list cell =>
    rw [Session.referent?, Session.referent?, h.collections]
    exact hsame _
  | table cell =>
    rw [Session.referent?, Session.referent?, h.collections]
    exact hsame _
  | settingsOf id =>
    rw [Session.referent?, Session.referent?, h.readers]
    exact hsame _
  | recordsOf id =>
    rw [Session.referent?, Session.referent?]
    have hset := forall₂_getElem? h.instructionSets id
    generalize s.instructionSets[id]? = rs, t.instructionSets[id]? = rs' at hset ⊢
    cases hset with
    | none => exact .none
    | some hrecords => exact .some (.records hrecords)

theorem settleWithin (h : s.Twin t) (fuel : Nat) (path : List Reference) {v v' : Value}
    (hv : v.Twin v') : (s.settleWithin fuel path v).bare = (t.settleWithin fuel path v').bare := by
  induction fuel generalizing path v v' with
  | zero => exact hv.bare_eq
  | succ fuel ih =>
    -- Both follow the same references, and what these lead to is alike again.
    refine hv.settled_bare fun ref => ?_
    by_cases hmem : ref ∈ path
    · rw [if_pos hmem, if_pos hmem]
    · rw [if_neg hmem, if_neg hmem]
      have hrel := h.referent? ref
      generalize s.referent? ref = found, t.referent? ref = found' at hrel ⊢
      cases hrel with
      | none => rfl
      | some hw => exact congrArg some (ih (ref :: path) hw)

/-- A value is the same at a moment in both of them, up to registers. -/
theorem settle (h : s.Twin t) (v : Value) : (s.settle v).bare = (t.settle v).bare := by
  have hcount : t.referenceCount = s.referenceCount := by
    simp only [referenceCount, h.collections, h.readers, h.instructionSets.length_eq]
  rw [Session.settle, Session.settle, hcount]
  exact h.settleWithin _ _ (.same v)

theorem circuitNow (h : s.Twin t) {c d : Circuit} (hcd : c.Twin d) :
    (s.circuitNow c).bare = (t.circuitNow d).bare := by
  have hlog := hcd.log
  rw [hcd.rest]
  simp only [Session.circuitNow, Circuit.bare, h.settle, hlog]

theorem surroundings (h : s.Twin t) : s.surroundings.bare = t.surroundings.bare := by
  simp only [Session.surroundings, Surroundings.bare, h.settings]

theorem words_eq_nil (h : s.Twin t) (hkeywords : s.keywords = []) : t.words = [] :=
  Session.words_eq_nil (h.keywords.trans hkeywords)

/-- Appending instructions on registers with the same data leaves the sessions alike. -/
theorem extendLog (h : s.Twin t) {is js : List Instruction}
    (hsame : is.map Instruction.bare = js.map Instruction.bare) (id : Nat) :
    (s.extendLog id is).Twin (t.extendLog id js) := by
  refine ⟨?_, forall₂_modify h.circuits id fun c d hcd => ⟨?_, ?_⟩, h.instructionSets⟩
  · rw [Session.extendLog, h.rest]
    rfl
  · rw [hcd.rest]
  · rw [List.map_append, List.map_append, hcd.log, hsame]

theorem addInstructionSet (h : s.Twin t) {is js : List Instruction}
    (hsame : is.map Instruction.bare = js.map Instruction.bare) :
    Session.Twin { s with instructionSets := s.instructionSets ++ [is.map Instruction.record] }
      { t with instructionSets := t.instructionSets ++ [js.map Instruction.record] } := by
  refine ⟨?_, h.circuits, List.rel_append h.instructionSets (.cons ?_ .nil)⟩
  · rw [h.rest]
  · rw [List.forall₂_map_left_iff, List.forall₂_map_right_iff]
    exact (forall₂_iff_map_eq.mpr hsame).imp fun _ _ => .instruction

theorem exists_circuit (h : s.Twin t) {id : Nat} {c : Circuit} (hc : s.circuits[id]? = some c) :
    ∃ d, t.circuits[id]? = some d ∧ c.Twin d := by
  have hcircuits := forall₂_getElem? h.circuits id
  rw [hc] at hcircuits
  generalize t.circuits[id]? = found at hcircuits ⊢
  cases hcircuits with
  | some hcd => exact ⟨_, rfl, hcd⟩

theorem circuits_eq_none (h : s.Twin t) {id : Nat} (hc : s.circuits[id]? = none) : t.circuits[id]? = none := by
  have hcircuits := forall₂_getElem? h.circuits id
  rw [hc] at hcircuits
  generalize t.circuits[id]? = found at hcircuits ⊢
  cases hcircuits
  rfl

/-- The programs of alike circuits of alike sessions are the same. -/
theorem generate (h : s.Twin t) (hkeywords : s.keywords = []) {id : Nat} {c d : Circuit}
    (hc : s.circuits[id]? = some c) (hd : t.circuits[id]? = some d) (hcd : c.Twin d) :
    s.generate (.circuit id) = t.generate (.circuit id) := by
  have hnow : (s.circuitNow c).bare = (t.circuitNow d).bare := h.circuitNow hcd
  have hregisters : (s.circuitNow c).qregs ++ (s.circuitNow c).cregs =
      (t.circuitNow d).qregs ++ (t.circuitNow d).cregs := by
    rw [hcd.rest]
    rfl
  have hprogram : (s.circuitNow c).program [] = (t.circuitNow d).program [] :=
    Circuit.program_congr hnow hregisters
  rw [generate_circuit hc, generate_circuit hd, Session.words_eq_nil hkeywords, h.words_eq_nil hkeywords, hprogram]

end Twin

end Session

end CircuitScribe
