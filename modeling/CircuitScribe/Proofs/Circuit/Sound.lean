import CircuitScribe.Proofs.Circuit.Atomic
import CircuitScribe.Proofs.Register.Bare
import Mathlib.Data.List.Nodup

namespace CircuitScribe

/-- What gates depend on while no declaration word has been replaced and no settings are made. -/
def Surroundings.plain : Surroundings :=
  ⟨[], .ok []⟩

namespace Circuit

/-- The registers of a circuit are split by their kind, and each has a name of its own. -/
structure WellDeclared (c : Circuit) : Prop where
  quantum : ∀ r ∈ c.qregs, r.kind = .quantum
  classical : ∀ r ∈ c.cregs, r.kind = .classical
  names_nodup : ((c.qregs ++ c.cregs).map (·.name)).Nodup

/-- A circuit with a log of which every instruction could be appended as it is. -/
structure Sound (c : Circuit) : Prop extends WellDeclared c where
  admits : ∀ i ∈ c.log, c.Admits [] i

variable {c : Circuit}

/-- Registers are accepted one after the other, each with a name that is not taken. -/
theorem checkRegisters_cons_eq_ok {taken : List String} {v : Value} {rest : List Value} {rs : List Register}
    (h : checkRegisters taken (v :: rest) = .ok rs) :
    ∃ r others, v = .register r ∧ r.kind ≠ .general ∧ r.name ∉ taken ∧
      checkRegisters (r.name :: taken) rest = .ok others ∧ rs = r :: others := by
  cases v with
  | register r =>
    simp only [checkRegisters] at h
    split at h
    · cases h
    · next hkind =>
      split at h
      · cases h
      · next htaken =>
        cases hrest : checkRegisters (r.name :: taken) rest with
        | error fault => simp [hrest, Except.map] at h
        | ok others =>
          simp only [hrest, Except.map] at h
          cases h
          exact ⟨r, others, rfl, hkind, htaken, hrest, rfl⟩
  | _ => cases h

theorem checkRegisters_eq_ok {taken : List String} {values : List Value} {rs : List Register}
    (h : checkRegisters taken values = .ok rs) :
    (∀ r ∈ rs, r.kind ≠ .general ∧ r.name ∉ taken) ∧ (rs.map (·.name)).Nodup := by
  induction values generalizing taken rs with
  | nil =>
    cases h
    simp
  | cons v rest ih =>
    obtain ⟨r, others, rfl, hkind, htaken, hrest, rfl⟩ := checkRegisters_cons_eq_ok h
    obtain ⟨hothers, hnodup⟩ := ih hrest
    constructor
    · intro s hs
      rcases List.mem_cons.mp hs with rfl | hs
      · exact ⟨hkind, htaken⟩
      · exact ⟨(hothers s hs).1, fun h => (hothers s hs).2 (List.mem_cons_of_mem _ h)⟩
    · simp only [List.map_cons, List.nodup_cons, List.mem_map, not_exists, not_and]
      exact ⟨fun s hs hname => (hothers s hs).2 (by simp [hname]), hnodup⟩

/-- Nothing but registers is accepted. -/
theorem values_eq_of_checkRegisters {taken : List String} {values : List Value} {rs : List Register}
    (h : checkRegisters taken values = .ok rs) : values = rs.map .register := by
  induction values generalizing taken rs with
  | nil =>
    cases h
    rfl
  | cons v rest ih =>
    obtain ⟨r, others, rfl, _, _, hrest, rfl⟩ := checkRegisters_cons_eq_ok h
    rw [ih hrest, List.map_cons]

/-- Registers that are split by their kind are all there again, since none is of the third kind. -/
theorem perm_of_split {rs : List Register} (hkinds : ∀ r ∈ rs, r.kind ≠ .general) :
    (rs.filter (·.kind = .quantum) ++ rs.filter (·.kind = .classical)).Perm rs := by
  have hclassical : rs.filter (·.kind = .classical) = rs.filter fun r => !decide (r.kind = .quantum) := by
    apply List.filter_congr
    intro r hr
    have hgeneral := hkinds r hr
    cases hkind : r.kind <;> simp_all
  rw [hclassical]
  exact List.filter_append_perm _ rs

/-- A circuit starts with its registers in order and an empty log. -/
theorem make_sound {count : Nat} {registers : List Value} {name spacing : Value}
    (h : make count registers name spacing = .ok c) : c.Sound := by
  simp only [make, Fault.bind_eq_ok_iff] at h
  obtain ⟨_, _, rs, hrs, _, _, ⟨⟩⟩ := h
  obtain ⟨hkinds, hnodup⟩ := checkRegisters_eq_ok hrs
  refine ⟨⟨?_, ?_, ?_⟩, by simp⟩
  · intro r hr
    simpa using (List.mem_filter.mp hr).2
  · intro r hr
    simpa using (List.mem_filter.mp hr).2
  · exact ((perm_of_split fun r hr => (hkinds r hr).1).map _).nodup_iff.mpr hnodup

theorem WellDeclared.of_same {d : Circuit} (h : c.WellDeclared) (hqregs : d.qregs = c.qregs)
    (hcregs : d.cregs = c.cregs) : d.WellDeclared where
  quantum := hqregs ▸ h.quantum
  classical := hcregs ▸ h.classical
  names_nodup := hqregs ▸ hcregs ▸ h.names_nodup

/-- A declared register is known by its name. -/
theorem WellDeclared.eq_of_name_eq (h : c.WellDeclared) {r s : Register}
    (hr : r ∈ c.qregs ++ c.cregs) (hs : s ∈ c.qregs ++ c.cregs) (hname : r.name = s.name) : r = s :=
  List.inj_on_of_nodup_map h.names_nodup hr hs hname

/-- A register that a circuit owns has the data of one that it declares. -/
theorem exists_declared_of_owns {kind : RegisterKind} {r : Register} (h : c.Owns [] kind r) :
    ∃ s ∈ c.registers kind, s.bare = r.bare :=
  Keywords.contains_nil_iff.mp h.2

end Circuit

end CircuitScribe
