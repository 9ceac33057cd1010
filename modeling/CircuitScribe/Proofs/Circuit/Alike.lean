import CircuitScribe.Proofs.Circuit.Outline

namespace CircuitScribe

/-- Lists have the same images item by item. -/
theorem forall₂_iff_map_eq {α β γ : Type} {f : α → γ} {g : β → γ} {xs : List α} {ys : List β} :
    List.Forall₂ (fun x y => f x = g y) xs ys ↔ xs.map f = ys.map g := by
  rw [← List.forall₂_eq_eq_eq, List.forall₂_map_left_iff, List.forall₂_map_right_iff]

namespace Value

variable {same : Register → Register → Bool}

theorem agreesAll_map {α : Type} {f : α → Value} {xs ys : List α}
    (h : List.Forall₂ (fun x y => (f x).agrees same (f y) = true) xs ys) :
    agreesAll same (xs.map f) (ys.map f) = true := by
  induction h with
  | nil => rfl
  | cons hxy _ ih => simp [agreesAll, hxy, ih]

theorem agrees_register {r s : Register} (h : r.bare = s.bare) :
    (Value.register r).agrees (Keywords.same []) (.register s) = true := by
  simp [agrees, Keywords.same_nil_iff.mpr h]

theorem agrees_bit {a b : Bit} (h : a.bare = b.bare) :
    a.value.agrees (Keywords.same []) b.value = true := by
  obtain ⟨hregister, hindex⟩ := Bit.bare_eq_bare_iff.mp h
  simp [Bit.value, Value.bit, agrees, agreesAll, Keywords.same_nil_iff.mpr hregister, hindex,
    number?, Number.agrees, Number.equals]

theorem agreesAll_registers {rs ss : List Register} (h : rs.map Register.bare = ss.map Register.bare) :
    agreesAll (Keywords.same []) (rs.map .register) (ss.map .register) = true := by
  apply agreesAll_map
  exact (forall₂_iff_map_eq.mpr h).imp fun _ _ => agrees_register

/-- Instructions on the same data have equal operands. -/
theorem agreesAll_operands {o p : Instruction} (h : o.bare = p.bare) :
    agreesAll (Keywords.same []) o.qargs p.qargs = true ∧
      agreesAll (Keywords.same []) o.cargs p.cargs = true := by
  cases o with
  | single gate target =>
    cases p <;> simp only [Instruction.bare, Instruction.single.injEq, reduceCtorEq] at h
    simp [Instruction.qargs, Instruction.cargs, agreesAll, agrees_bit h.2]
  | controlled gate control target =>
    cases p <;> simp only [Instruction.bare, Instruction.controlled.injEq, reduceCtorEq] at h
    simp [Instruction.qargs, Instruction.cargs, agreesAll, agrees_bit h.2.1, agrees_bit h.2.2]
  | toffoli legacy control₁ control₂ target =>
    cases p <;> simp only [Instruction.bare, Instruction.toffoli.injEq, reduceCtorEq] at h
    simp [Instruction.qargs, Instruction.cargs, agreesAll, agrees_bit h.2.1, agrees_bit h.2.2.1,
      agrees_bit h.2.2.2]
  | measure source target =>
    cases p <;> simp only [Instruction.bare, Instruction.measure.injEq, reduceCtorEq] at h
    simp [Instruction.qargs, Instruction.cargs, agreesAll, agrees_bit h.1, agrees_bit h.2]
  | barrier registers =>
    cases p <;> simp only [Instruction.bare, Instruction.barrier.injEq, reduceCtorEq] at h
    exact ⟨agreesAll_registers h, rfl⟩

end Value

theorem Instruction.line_eq_of_bare_eq {i j : Instruction} (h : i.bare = j.bare) : i.line = j.line := by
  rw [← bare_line, h, bare_line]

theorem Instruction.kind_eq_of_bare_eq {i j : Instruction} (h : i.bare = j.bare) : i.kind = j.kind := by
  rw [← bare_kind, h, bare_kind]

/-- Instructions on the same data have equal records. -/
theorem Instruction.agrees_record {i j : Instruction} (h : i.bare = j.bare) :
    i.record.value.agrees (Keywords.same []) j.record.value = true := by
  obtain ⟨hqargs, hcargs⟩ := Value.agreesAll_operands h
  simp [record, GateRecord.value, Value.agrees, hqargs, hcargs, line_eq_of_bare_eq h,
    kind_eq_of_bare_eq h]

namespace Circuit

/-- Two circuits have the same registers in the same order and the same
    instructions, where a register counts as its kind, name and size. -/
structure Alike (c d : Circuit) : Prop where
  qregs : c.qregs.map Register.bare = d.qregs.map Register.bare
  cregs : c.cregs.map Register.bare = d.cregs.map Register.bare
  log : c.log.map Instruction.bare = d.log.map Instruction.bare

variable {c d : Circuit}

theorem Alike.forall₂_log (h : c.Alike d) :
    List.Forall₂ (fun i j => Instruction.bare i = Instruction.bare j) c.log d.log :=
  forall₂_iff_map_eq.mpr h.log

theorem Alike.records_eq (h : c.Alike d) :
    c.records.map (fun r => (r.kind, r.rendered)) = d.records.map (fun r => (r.kind, r.rendered)) := by
  rw [records, records, List.map_map, List.map_map, ← forall₂_iff_map_eq]
  refine h.forall₂_log.imp fun i j hij => ?_
  exact Prod.ext (Instruction.kind_eq_of_bare_eq hij) (Instruction.line_eq_of_bare_eq hij)

/-- The registers and logs of such circuits are equal to a caller. -/
theorem Alike.equals (h : c.Alike d) :
    (Value.tuple (c.qregs.map .register)).equals (Keywords.same []) (.tuple (d.qregs.map .register)) = true ∧
    (Value.tuple (c.cregs.map .register)).equals (Keywords.same []) (.tuple (d.cregs.map .register)) = true ∧
    (Value.tuple (c.records.map (·.value))).equals (Keywords.same [])
      (.tuple (d.records.map (·.value))) = true := by
  refine ⟨?_, ?_, ?_⟩
  · simpa [Value.equals, Value.agrees] using Value.agreesAll_registers h.qregs
  · simpa [Value.equals, Value.agrees] using Value.agreesAll_registers h.cregs
  · have hrecords := Value.agreesAll_map (h.forall₂_log.imp fun _ _ => Instruction.agrees_record)
    simpa [Value.equals, Value.agrees, records, Function.comp_def] using hrecords

/-- Registers of one kind are declared with the same names and sizes if they have the same
    data. -/
theorem map_bare_eq_of_declared {kind : RegisterKind} {rs ss : List Register}
    (hrs : ∀ r ∈ rs, r.kind = kind) (hss : ∀ s ∈ ss, s.kind = kind)
    (h : rs.map Register.declared = ss.map Register.declared) :
    rs.map Register.bare = ss.map Register.bare := by
  induction rs generalizing ss with
  | nil => simp_all
  | cons r rs ih =>
    cases ss with
    | nil => simp at h
    | cons s ss =>
      obtain ⟨hhead, htail⟩ := List.cons.inj h
      obtain ⟨hname, hsize⟩ := Declaration.mk.inj hhead
      have hkinds : r.kind = s.kind := by
        rw [hrs r List.mem_cons_self, hss s List.mem_cons_self]
      rw [List.map_cons, List.map_cons, Register.bare_eq_bare_iff.mpr ⟨hkinds, hname, hsize⟩,
        ih (fun r hr => hrs r (List.mem_cons_of_mem _ hr)) (fun s hs => hss s (List.mem_cons_of_mem _ hs)) htail]

/-- Circuits with the same registers that own registers of one name own the same data under
    it, since each name is declared once. -/
theorem bare_eq_of_owns {kind : RegisterKind} {r s : Register} (hd : d.WellDeclared)
    (hregisters : (c.registers kind).map Register.bare = (d.registers kind).map Register.bare)
    (hr : c.Owns [] kind r) (hs : d.Owns [] kind s) (hname : r.name = s.name) : r.bare = s.bare := by
  obtain ⟨r', hr', hbare⟩ := exists_declared_of_owns hr
  obtain ⟨s', hs', hbare'⟩ := exists_declared_of_owns hs
  have hmem : r'.bare ∈ (d.registers kind).map Register.bare := by
    rw [← hregisters]
    exact List.mem_map_of_mem hr'
  obtain ⟨t, ht, hbare''⟩ := List.mem_map.mp hmem
  have hnames : t.name = s'.name := by
    rw [← Register.bare_name t, hbare'', hbare, Register.bare_name, hname, ← Register.bare_name s,
      ← hbare', Register.bare_name]
  have hall : ∀ r ∈ d.registers kind, r ∈ d.qregs ++ d.cregs := by
    cases kind <;> simp +contextual [registers]
  have hsame : t = s' := hd.eq_of_name_eq (hall t ht) (hall s' hs') hnames
  rw [← hbare, ← hbare'', hsame, hbare']

theorem bit_bare_eq {kind : RegisterKind} {a b : Bit} (hd : d.WellDeclared)
    (hregisters : (c.registers kind).map Register.bare = (d.registers kind).map Register.bare)
    (ha : c.Owns [] kind a.register) (hb : d.Owns [] kind b.register) (h : a.mention = b.mention) :
    a.bare = b.bare := by
  obtain ⟨hname, hindex⟩ := Mention.mk.inj h
  exact Bit.bare_eq_bare_iff.mpr ⟨bare_eq_of_owns hd hregisters ha hb hname, hindex⟩

/-- The sizes of registers do not show in an instruction, but the circuit has them. -/
theorem instruction_bare_eq (hd : d.WellDeclared)
    (hregisters : ∀ kind, (c.registers kind).map Register.bare = (d.registers kind).map Register.bare)
    {i j : Instruction} (hi : c.Admits [] i) (hj : d.Admits [] j)
    (h : i.statement = j.statement) : i.bare = j.bare := by
  have howns := hi.owns
  have howns' := hj.owns
  have hbarrier := hi.barrier_eq
  have hbarrier' := hj.barrier_eq
  have hbit {kind : RegisterKind} {a b : Bit} (ha : c.Owns [] kind a.register)
      (hb : d.Owns [] kind b.register) (hmention : a.mention = b.mention) : a.bare = b.bare :=
    bit_bare_eq hd (hregisters kind) ha hb hmention
  cases i with
  | single gate target =>
    cases j <;>
      simp only [Instruction.statement, Statement.single.injEq, reduceCtorEq] at h
    simp only [Instruction.bits, List.forall_mem_singleton] at howns howns'
    simp only [Instruction.bare]
    rw [h.1, hbit howns howns' h.2]
  | controlled gate control target =>
    cases j <;>
      simp only [Instruction.statement, Statement.controlled.injEq, reduceCtorEq] at h
    simp only [Instruction.bits, List.forall_mem_cons] at howns howns'
    simp only [Instruction.bare]
    rw [h.1, hbit howns.1 howns'.1 h.2.1, hbit howns.2.1 howns'.2.1 h.2.2]
  | toffoli legacy control₁ control₂ target =>
    cases j <;>
      simp only [Instruction.statement, Statement.toffoli.injEq, reduceCtorEq] at h
    simp only [Instruction.bits, List.forall_mem_cons] at howns howns'
    simp only [Instruction.bare]
    rw [h.1, hbit howns.1 howns'.1 h.2.1, hbit howns.2.1 howns'.2.1 h.2.2.1,
      hbit howns.2.2.1 howns'.2.2.1 h.2.2.2]
  | measure source target =>
    cases j <;>
      simp only [Instruction.statement, Statement.measure.injEq, reduceCtorEq] at h
    simp only [Instruction.bits, List.forall_mem_cons] at howns howns'
    simp only [Instruction.bare]
    rw [hbit howns.1 howns'.1 h.1, hbit howns.2.1 howns'.2.1 h.2]
  | barrier registers =>
    cases j <;>
      simp only [Instruction.statement, Statement.barrier.injEq, reduceCtorEq] at h
    simp only [Instruction.bare]
    have hqregs := hregisters .quantum
    simp only [Circuit.registers] at hqregs
    rw [(hbarrier _ rfl).1, (hbarrier' _ rfl).1, hqregs]

theorem log_bare_eq (hd : d.WellDeclared)
    (hregisters : ∀ kind, (c.registers kind).map Register.bare = (d.registers kind).map Register.bare)
    {is js : List Instruction} (his : ∀ i ∈ is, c.Admits [] i) (hjs : ∀ j ∈ js, d.Admits [] j)
    (h : is.map (·.statement) = js.map (·.statement)) :
    is.map Instruction.bare = js.map Instruction.bare := by
  induction is generalizing js with
  | nil => simp_all
  | cons i is ih =>
    cases js with
    | nil => simp at h
    | cons j js =>
      obtain ⟨hhead, htail⟩ := List.cons.inj h
      rw [List.map_cons, List.map_cons, instruction_bare_eq hd hregisters (his i List.mem_cons_self)
        (hjs j List.mem_cons_self) hhead, ih (fun i hi => his i (List.mem_cons_of_mem _ hi))
          (fun j hj => hjs j (List.mem_cons_of_mem _ hj)) htail]

/-- A sound circuit can be read off its program as data. -/
theorem Sound.alike (hc : c.Sound) (hd : d.Sound) (h : c.outline = d.outline) : c.Alike d := by
  obtain ⟨hqdeclared, hcdeclared, hstatements⟩ := Program.mk.inj h
  have hqregs := map_bare_eq_of_declared hc.quantum hd.quantum hqdeclared
  have hcregs := map_bare_eq_of_declared hc.classical hd.classical hcdeclared
  have hregisters (kind : RegisterKind) :
      (c.registers kind).map Register.bare = (d.registers kind).map Register.bare := by
    cases kind with
    | quantum => exact hqregs
    | classical => exact hcregs
    | general => rfl
  exact ⟨hqregs, hcregs, log_bare_eq hd.toWellDeclared hregisters hc.admits hd.admits hstatements⟩

end Circuit

end CircuitScribe
