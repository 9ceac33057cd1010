import CircuitScribe.Proofs.Circuit.Validation
import CircuitScribe.Proofs.Session.Isolation
import CircuitScribe.Proofs.Session.Section

namespace CircuitScribe

/-- What the settings show under the key of the spacing. -/
theorem Settings.lookup_entries (t : Settings) :
    t.entries.lookup "ccx_legacy_spacing" = t.legacySpacing?.map .bool := by
  induction t with
  | nil => rfl
  | cons setting rest ih =>
    cases setting with
    | legacySpacing on => simp [entries, legacySpacing?, Setting.key, Setting.value]
    | logLevel level =>
      simp only [entries, legacySpacing?, List.map_cons, List.findSome?_cons] at ih ⊢
      rw [← ih]
      rfl

namespace Circuit

variable {env : Surroundings} {c : Circuit}

/-- A circuit without a spacing of its own has none when the settings cannot be shown. -/
theorem legacySpacing_eq_error {fault : Fault} (hown : c.spacing = none)
    (h : env.settings.map Settings.value = .error fault) : c.legacySpacing env = .error fault := by
  cases hsettings : env.settings with
  | error _ =>
    rw [hsettings] at h
    cases h
    simp only [legacySpacing, hown, hsettings, Except.map]
  | ok _ => simp [hsettings, Except.map] at h

theorem exists_legacySpacing (h : c.spacing = none → ∃ v, env.settings.map Settings.value = .ok v) :
    ∃ legacy, c.legacySpacing env = .ok legacy := by
  cases hown : c.spacing with
  | some own => exact ⟨own, by rw [legacySpacing, hown]⟩
  | none =>
    obtain ⟨v, hv⟩ := h hown
    cases hsettings : env.settings with
    | error fault => simp [hsettings, Except.map] at hv
    | ok t => exact ⟨t.legacySpacing?.getD false, by simp only [legacySpacing, hown, hsettings, Except.map]⟩

/-- The legacy spacing is that of a circuit of its own, or the one that the settings show. -/
theorem legacySpacing_eq_true_iff {legacy : Bool} (h : c.legacySpacing env = .ok legacy) :
    legacy = true ↔ c.spacing = some true ∨
      c.spacing = none ∧ ∃ entries, env.settings.map Settings.value = .ok (.dict entries) ∧
        entries.lookup "ccx_legacy_spacing" = some (.bool true) := by
  unfold legacySpacing at h
  cases hown : c.spacing with
  | some own =>
    rw [hown] at h
    cases h
    simp
  | none =>
    rw [hown] at h
    cases hsettings : env.settings with
    | error fault => simp [hsettings, Except.map] at h
    | ok t =>
      simp only [hsettings, Except.map, Except.ok.injEq] at h
      subst h
      simp only [Except.map, Settings.value, Except.ok.injEq, Value.dict.injEq, reduceCtorEq, false_or, true_and,
        exists_eq_left', Settings.lookup_entries]
      cases t.legacySpacing? <;> simp

end Circuit

namespace Session

variable {s s' : Session} {before between : List Action} {registers : List Value}
  {name v₁ v₂ v₃ : Value} {spacing : Option Bool} {id : Nat} {c : Circuit} {reply : Reply}

theorem act_showSettings (s : Session) :
    (s.act .showSettings).2.result = s.settings.map Settings.value := rfl

/-- A circuit keeps the spacing that it is given when it is made. -/
theorem spacing_of_createCircuit
    (h : (s.perform (.createCircuit registers name (Value.ofSpacing spacing))).2.result = .ok (.circuit id))
    (actions : List Action) :
    ∃ c, (s.run (.createCircuit registers name (Value.ofSpacing spacing) :: actions)).1.circuits[id]? = some c ∧
      c.spacing = spacing := by
  rcases s.perform_createCircuit registers name (Value.ofSpacing spacing) with
    ⟨c, hmake, hmade, hresult⟩ | ⟨fault, hfault⟩
  · have hid : s.circuits.length = id := Value.circuit.inj (Except.ok.inj (hresult.symm.trans h))
    rw [settle_ofSpacing] at hmake
    have hc : (s.perform (.createCircuit registers name (Value.ofSpacing spacing))).1.circuits[id]? = some c := by
      rw [hmade, ← hid]
      simp
    obtain ⟨c', hc', hgrows⟩ := run_grows hc actions
    exact ⟨c', hc', hgrows.spacing.trans (Circuit.spacing_of_make hmake)⟩
  · cases hfault.symm.trans h

/-- What a Toffoli call does to a session. -/
theorem toffoli_cases (hc : s.circuits[id]? = some c) (v₁ v₂ v₃ : Value) :
    let a : Action := .gate (.circuit id) (.place (.toffoli v₁ v₂ v₃))
    let p : Placement := .toffoli (s.settle v₁) (s.settle v₂) (s.settle v₃)
    (∀ fault, (s.circuitNow c).firstFault? s.words p.operands = some fault →
      (s.perform a).2.result = .error fault ∧ (s.perform a).1 = s) ∧
    ((s.circuitNow c).firstFault? s.words p.operands = none →
      (∀ fault, c.legacySpacing s.surroundings = .error fault →
        (s.perform a).2.result = .error fault ∧ (s.perform a).1 = s) ∧
      (∀ legacy, c.legacySpacing s.surroundings = .ok legacy → ∃ b₁ b₂ b₃ : Bit,
        s.settle v₁ = b₁.value ∧ s.settle v₂ = b₂.value ∧ s.settle v₃ = b₃.value ∧
        ((Instruction.toffoli legacy b₁ b₂ b₃).checkLine = .ok () ∧
            (s.perform a).1 = s.extendLog id [.toffoli legacy b₁ b₂ b₃] ∧
            (s.perform a).2.result = .ok (Instruction.toffoli legacy b₁ b₂ b₃).record.value ∨
          (Instruction.toffoli legacy b₁ b₂ b₃).checkLine ≠ .ok () ∧ (s.perform a).1 = s ∧
            (s.perform a).2.result = .error (.value .tooManyDigits)))) := by
  intro a p
  have hcall : (s.circuitNow c).call s.surroundings (GateCall.map s.settle (.place (.toffoli v₁ v₂ v₃))) =
      ((s.circuitNow c).append s.surroundings p).map .one := rfl
  have hrefuses {fault : Fault} (hfault : (s.circuitNow c).instruction s.surroundings p = .error fault) :
      (s.perform a).2.result = .error fault ∧ (s.perform a).1 = s :=
    (perform_gate_of_error hc hcall hfault).symm
  refine ⟨fun fault hfirst => hrefuses (Circuit.instruction_of_firstFault? hfirst), fun hnone => ?_⟩
  have hnone' : (s.circuitNow c).firstFault? s.surroundings.keywords p.operands = none := hnone
  obtain ⟨b₁, b₂, b₃, h₁, h₂, h₃, hinstruction⟩ := Circuit.instruction_toffoli hnone'
  have hspacing : (s.circuitNow c).legacySpacing s.surroundings = c.legacySpacing s.surroundings := rfl
  rw [hspacing] at hinstruction
  refine ⟨fun fault hfault => hrefuses ?_, fun legacy hlegacy => ⟨b₁, b₂, b₃, h₁, h₂, h₃, ?_⟩⟩
  · rw [hinstruction, hfault]
    rfl
  · rw [hlegacy] at hinstruction
    rw [Circuit.append_eq_attach hinstruction] at hcall
    exact perform_gate_of_attach hc hcall

/-- The record of a Toffoli shows its operands and the spacing. -/
theorem record_toffoli (legacy : Bool) (b₁ b₂ b₃ : Bit) : (Instruction.toffoli legacy b₁ b₂ b₃).record =
    ⟨.ccx, [b₁.value, b₂.value, b₃.value], [],
      "ccx " ++ b₁.text ++ ", " ++ b₂.text ++ (if legacy then " ," else ", ") ++ b₃.text ++ ";\n"⟩ := rfl

theorem checkLine_toffoli_eq_ok_iff {legacy : Bool} {b₁ b₂ b₃ : Bit} :
    (Instruction.toffoli legacy b₁ b₂ b₃).checkLine = .ok () ↔
      ∀ b ∈ [b₁, b₂, b₃], b.index < 10 ^ maxDigits := by
  rw [Circuit.checkLine_eq_ok_iff]
  simp [Instruction.bits]

/-- The spacing of a Toffoli is decided by the call, and kept. A call fails with the fault of the
    first operand that is not accepted, whatever the settings are; then, on a circuit without a
    spacing of its own, with the fault of the settings if they cannot be shown at that moment; and
    it changes nothing then. Otherwise it appends the record that it gives back, whose line has
    the legacy spacing exactly if the circuit was made with it, or was made without any and the
    settings show it at that moment; a line with a position that cannot be printed is not made.
    Nothing that follows takes a record out of the log or changes it. -/
theorem perform_toffoli
    (hbuilt : ((run {} before).1.perform (.createCircuit registers name (Value.ofSpacing spacing))).2.result =
      .ok (.circuit id))
    (hrun : (run {} (before ++ .createCircuit registers name (Value.ofSpacing spacing) :: between)).1 = s)
    (hcall : s.perform (.gate (.circuit id) (.place (.toffoli v₁ v₂ v₃))) = (s', reply)) :
    let operands := [s.settle v₁, s.settle v₂, s.settle v₃]
    let shown := (s.act .showSettings).2.result
    ∃ c c', s.circuit? id = some c ∧ s'.circuits[id]? = some c' ∧
      (∀ fault, c.firstFault? s.words (operands.map (.quantum, ·)) = some fault →
        reply.result = .error fault ∧ s' = s) ∧
      (c.firstFault? s.words (operands.map (.quantum, ·)) = none →
        (∀ fault, spacing = none → shown = .error fault → reply.result = .error fault ∧ s' = s) ∧
        ((spacing = none → ∃ v, shown = .ok v) → ∃ b₁ b₂ b₃ : Bit,
          operands = [b₁.value, b₂.value, b₃.value] ∧
          ((∀ b ∈ [b₁, b₂, b₃], b.index < 10 ^ maxDigits) → ∃ legacy, ∃ r : GateRecord,
            (legacy = true ↔ spacing = some true ∨ spacing = none ∧ ∃ entries, shown = .ok (.dict entries) ∧
              entries.lookup "ccx_legacy_spacing" = some (.bool true)) ∧
            r = ⟨.ccx, operands, [],
              "ccx " ++ b₁.text ++ ", " ++ b₂.text ++ (if legacy then " ," else ", ") ++ b₃.text ++ ";\n"⟩ ∧
            reply.result = .ok r.value ∧ c'.records = c.records ++ [r]) ∧
          ((∃ b ∈ [b₁, b₂, b₃], 10 ^ maxDigits ≤ b.index) →
            reply.result = .error (.value .tooManyDigits) ∧ s' = s))) ∧
      ∀ more, ∃ d, (s'.run more).1.circuits[id]? = some d ∧ c'.records <+: d.records := by
  intro operands shown
  obtain ⟨c, hc, hown⟩ : ∃ c, s.circuits[id]? = some c ∧ c.spacing = spacing := by
    rw [← hrun, run_append]
    exact spacing_of_createCircuit hbuilt between
  subst hown
  have hs' : (s.perform (.gate (.circuit id) (.place (.toffoli v₁ v₂ v₃)))).1 = s' := congrArg Prod.fst hcall
  have hreply : (s.perform (.gate (.circuit id) (.place (.toffoli v₁ v₂ v₃)))).2 = reply :=
    congrArg Prod.snd hcall
  obtain ⟨hfirst, hrest⟩ := toffoli_cases hc v₁ v₂ v₃
  obtain ⟨c', hc', hgrows⟩ := (s.perform_effect (.gate (.circuit id) (.place (.toffoli v₁ v₂ v₃)))).grows hc
  simp only [hs', hreply] at hfirst hrest hc'
  refine ⟨s.circuitNow c, c', circuit?_eq_some hc, hc', hfirst, fun hnone => ?_, fun more => ?_⟩
  · obtain ⟨hfault, hline⟩ := hrest hnone
    refine ⟨fun fault hown hshown => hfault fault (Circuit.legacySpacing_eq_error hown hshown),
      fun hsettings => ?_⟩
    obtain ⟨legacy, hlegacy⟩ : ∃ legacy, c.legacySpacing s.surroundings = .ok legacy :=
      Circuit.exists_legacySpacing hsettings
    obtain ⟨b₁, b₂, b₃, h₁, h₂, h₃, hattach⟩ := hline legacy hlegacy
    have hoperands : operands = [b₁.value, b₂.value, b₃.value] := by
      simp only [operands, h₁, h₂, h₃]
    refine ⟨b₁, b₂, b₃, hoperands, fun hpositions => ?_, fun hlong => ?_⟩
    · obtain ⟨_, hafter, hresult⟩ := hattach.resolve_right fun h =>
        h.1 (checkLine_toffoli_eq_ok_iff.mpr hpositions)
      have hrecord := hoperands ▸ record_toffoli legacy b₁ b₂ b₃
      have hlog : c'.records = c.records ++ [(Instruction.toffoli legacy b₁ b₂ b₃).record] := by
        have hrecords := records_extendLog hc [.toffoli legacy b₁ b₂ b₃]
        rw [← hafter, hc'] at hrecords
        exact Option.some.inj hrecords
      exact ⟨legacy, _, Circuit.legacySpacing_eq_true_iff hlegacy, rfl, hrecord ▸ hresult, hrecord ▸ hlog⟩
    · obtain ⟨b, hb, hposition⟩ := hlong
      obtain ⟨_, hsame, hresult⟩ := hattach.resolve_left fun h =>
        absurd (checkLine_toffoli_eq_ok_iff.mp h.1 b hb) (Nat.not_lt.mpr hposition)
      exact ⟨hresult, hsame⟩
  · obtain ⟨d, hd, hgrows'⟩ := run_grows hc' more
    exact ⟨d, hd, hgrows'.records⟩

/-- A Toffoli behind a refused one, on a circuit that follows the settings in a file which is
    not there. -/
theorem perform_toffoli_regular :
    let q : Register := ⟨0, .quantum, "q", 3, by decide, by decide⟩
    let c : Circuit := { name := .str "c", qregs := [q], cregs := [], spacing := none }
    let s : Session := { registerCount := 1, circuitCount := 1, circuits := [c], settingsPath := some "a" }
    let refused : Action := .gate (.circuit 0) (.place (.toffoli (.bit q 0) (.bit q 3) .null))
    let after := s.perform (.gate (.circuit 0) (.place (.toffoli (.bit q 0) (.bit q 1) (.bit q 2))))
    (run {} ([.createRegister .quantum (.int 3) (.str "q")] ++
      .createCircuit [.register q] (.str "c") (Value.ofSpacing none) ::
      [.chooseSettings (.str "a"), refused])).1 = s ∧
    ∃ r : GateRecord, ∃ c', after.2.result = .ok r.value ∧ r.qargs = [.bit q 0, .bit q 1, .bit q 2] ∧
      after.1.circuits[0]? = some c' ∧ c'.records = [r] ∧
      ∀ more, ∃ d, (after.1.run more).1.circuits[0]? = some d ∧ [r] <+: d.records := by
  intro q c s refused after
  have hcreate : (perform {} (.createRegister .quantum (.int 3) (.str "q"))).1 = { registerCount := 1 } := rfl
  have hbuild : (perform { registerCount := 1 }
      (.createCircuit [.register q] (.str "c") (Value.ofSpacing none))).1 =
      { registerCount := 1, circuitCount := 1, circuits := [c] } := rfl
  have hchoose : (perform { registerCount := 1, circuitCount := 1, circuits := [c] }
      (.chooseSettings (.str "a"))).1 = s := rfl
  have hrun : (run {} ([.createRegister .quantum (.int 3) (.str "q")] ++
      .createCircuit [.register q] (.str "c") (Value.ofSpacing none) ::
      [.chooseSettings (.str "a"), refused])).1 = s := by
    rw [List.singleton_append, run_cons, hcreate, run_cons, hbuild, run_cons, hchoose]
    subst q
    rfl
  have hbuilt : ((run {} [.createRegister .quantum (.int 3) (.str "q")]).1.perform
      (.createCircuit [.register q] (.str "c") (Value.ofSpacing none))).2.result = .ok (.circuit 0) := by
    rw [run_cons, hcreate]
    rfl
  have hshown : ∃ v, (s.act .showSettings).2.result = .ok v := by
    have hsettings : s.settings = .ok [] := Settings.inForce_of_mergeFile mergeFile_newFile rfl
    rw [act_showSettings, hsettings]
    exact ⟨_, rfl⟩
  obtain ⟨c₀, c', hc₀, hc', _, hnone, hmore⟩ := perform_toffoli hbuilt hrun (Prod.eta after).symm
  obtain rfl : c = c₀ := Option.some.inj hc₀
  have haccepted : c.firstFault? s.words [(.quantum, .bit q 0), (.quantum, .bit q 1), (.quantum, .bit q 2)] =
      none := by
    subst q
    rfl
  obtain ⟨b₁, b₂, b₃, hoperands, hprints, _⟩ := (hnone haccepted).2 fun _ => hshown
  have hbits : [Value.bit q 0, .bit q 1, .bit q 2] = [b₁.value, b₂.value, b₃.value] := hoperands
  have hindices : ∀ b ∈ [b₁, b₂, b₃], b.index < 10 ^ maxDigits := by
    have hthree : 3 < 10 ^ maxDigits := (fitsDigits_iff maxDigits 3).mp rfl
    have hindex {n : Nat} {b : Bit} (hn : n < 3) (h : Value.bit q n = b.value) : b.index < 10 ^ maxDigits := by
      simp only [Bit.value, Value.bit, Value.tuple.injEq, List.cons.injEq, Value.int.injEq, Int.natCast_inj] at h
      omega
    simp only [List.cons.injEq] at hbits
    simp only [List.forall_mem_cons]
    exact ⟨hindex (by decide) hbits.1, hindex (by decide) hbits.2.1, hindex (by decide) hbits.2.2.1, by simp⟩
  obtain ⟨_, r, _, hr, hresult, hrecords⟩ := hprints hindices
  have hlog : c'.records = [r] := hrecords
  exact ⟨hrun, r, c', hresult, congrArg GateRecord.qargs hr, hc', hlog, hlog ▸ hmore⟩

end Session

end CircuitScribe
