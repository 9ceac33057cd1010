import CircuitScribe.Proofs.Program.Unique

namespace CircuitScribe

variable {p : Program}

theorem Mention.Within.declared {m : Mention} {declared : List Declaration} (h : m.Within declared) :
    m.name ∈ declared.map (·.name) := by
  obtain ⟨d, hd, hname, _⟩ := h
  exact List.mem_map.mpr ⟨d, hd, hname⟩

/-- What is in scope has been declared. -/
theorem Statement.Scoped.declared {s : Statement} (h : s.Scoped p) :
    ∀ name ∈ s.names, name ∈ (p.qregs ++ p.cregs).map (·.name) := by
  have hquantum {m : Mention} (hm : m.Within p.qregs) : m.name ∈ (p.qregs ++ p.cregs).map (·.name) := by
    rw [List.map_append]
    exact List.mem_append_left _ hm.declared
  cases s with
  | single gate target =>
    simp only [names, List.forall_mem_singleton]
    exact hquantum h
  | controlled gate control target =>
    simp only [names, List.forall_mem_cons]
    exact ⟨hquantum h.1, hquantum h.2, by simp⟩
  | toffoli legacy control₁ control₂ target =>
    simp only [names, List.forall_mem_cons]
    exact ⟨hquantum h.1, hquantum h.2.1, hquantum h.2.2, by simp⟩
  | measure source target =>
    simp only [names, List.forall_mem_cons]
    refine ⟨hquantum h.1, ?_, by simp⟩
    rw [List.map_append]
    exact List.mem_append_right _ h.2.declared
  | barrier names =>
    intro name hname
    have heq : names = p.qregs.map (·.name) := h
    rw [List.map_append, ← heq]
    exact List.mem_append_left _ hname

namespace Program

/-- A program that is well scoped has no names but those that it declares. -/
theorem WellScoped.declared (h : p.WellScoped) :
    ∀ x ∈ p.sentences, ∀ name ∈ x.names, name ∈ (p.qregs ++ p.cregs).map (·.name) := by
  intro x hx name hname
  simp only [sentences, List.mem_append, List.mem_map] at hx
  rw [List.map_append, List.mem_append]
  rcases hx with (⟨d, hd, rfl⟩ | ⟨d, hd, rfl⟩) | ⟨s, hs, rfl⟩
  · rw [List.mem_singleton.mp hname]
    exact .inl (List.mem_map_of_mem hd)
  · rw [List.mem_singleton.mp hname]
    exact .inr (List.mem_map_of_mem hd)
  · rw [← List.mem_append, ← List.map_append]
    exact (h.statements_scoped s hs).declared name hname

end Program

end CircuitScribe
