import CircuitScribe.Proofs.Circuit.Alike
import CircuitScribe.Proofs.Session.Effect
import CircuitScribe.Table

namespace CircuitScribe

namespace Circuit

/-- A circuit whose header and include are those that it was made with. -/
structure Usual (c : Circuit) : Prop where
  header : c.header = .str "OPENQASM 2.0;"
  library : c.library = .str "qelib1.inc"

theorem make_usual {count : Nat} {registers : List Value} {name spacing : Value} {c : Circuit}
    (h : make count registers name spacing = .ok c) : c.Usual := by
  simp only [make, Fault.bind_eq_ok_iff] at h
  obtain ⟨_, _, _, _, _, _, ⟨⟩⟩ := h
  exact ⟨rfl, rfl⟩

end Circuit

namespace Session

/-- A session in which no declaration word has been replaced and all circuits are sound. -/
structure Plain (s : Session) : Prop where
  keywords : s.keywords = []
  sound : ∀ c ∈ s.circuits, c.Sound

variable {s s' : Session} {a : Action} {id : Nat} {c : Circuit}

theorem words_eq_nil (h : s.keywords = []) : s.words = [] := by
  simp [words, h]

theorem Plain.words_eq (h : s.Plain) : s.words = [] :=
  words_eq_nil h.keywords

/-- Name, header and include are all that is replaced in a circuit. -/
theorem Renamed.same {v : Value} {a : Attribute} {d : Circuit} (h : Renamed v c a d) :
    d.qregs = c.qregs ∧ d.cregs = c.cregs ∧ d.spacing = c.spacing ∧ d.log = c.log := by
  cases h <;> exact ⟨rfl, rfl, rfl, rfl⟩

/-- What an action does to a circuit: nothing, or a gate call on it appends what it admits to its
    log, or an assignment replaces its name, header or include. -/
theorem Effect.circuit_cases (h : Effect s a s') (hc : s.circuits[id]? = some c) :
    s'.circuits[id]? = some c ∨
    (∃ call is, a = .gate (.circuit id) call ∧ (∀ i ∈ is, c.Admits s.words i) ∧
      s'.circuits[id]? = some { c with log := c.log ++ is }) ∨
    (∃ assigned value v d, a = .assign (.circuit id) assigned value ∧ Renamed v c assigned d ∧
      s'.circuits[id]? = some d) := by
  cases h with
  | none h => exact .inl (h.circuits ▸ hc)
  | create hmake hcircuits hkeywords hattached =>
    left
    rw [hcircuits, List.getElem?_append_left (List.getElem?_eq_some_iff.mp hc).1]
    exact hc
  | @gate n call d is _ hd hadmits h =>
    rw [h.circuits]
    by_cases hid : id = n
    · subst hid
      obtain rfl : c = d := Option.some.inj (hc.symm.trans hd)
      exact .inr (.inl ⟨call, is, rfl, hadmits, by simp [extendLog, hc]⟩)
    · rw [circuits_extendLog_ne hid]
      exact .inl hc
  | word h => exact .inl (h.circuits ▸ hc)
  | @rename n assigned value v change _ hchange h =>
    rw [h.circuits]
    by_cases hid : n = id
    · subst hid
      exact .inr (.inr ⟨assigned, value, v, change c, rfl, hchange c, by simp [hc]⟩)
    · exact .inl (by simp [hc, hid])
  | attach hholder h => exact .inl (h.circuits ▸ hc)

/-- A circuit that was not there before an action has been made by it. -/
theorem Effect.make_of_getElem?_none (h : Effect s a s') (hnone : s.circuits[id]? = Option.none)
    (hc : s'.circuits[id]? = some c) :
    ∃ count registers name spacing, Circuit.make count registers name spacing = .ok c := by
  cases h with
  | none h => simp [h.circuits, hnone] at hc
  | @create registers name spacing given d _ hmake hcircuits hkeywords hattached =>
    rw [hcircuits, List.getElem?_append_right (List.getElem?_eq_none_iff.mp hnone)] at hc
    rw [List.mem_singleton.mp (List.mem_of_getElem? hc)]
    exact ⟨_, _, _, _, hmake⟩
  | gate hd hadmits h => simp [h.circuits, extendLog, List.getElem?_modify, hnone] at hc
  | word h => simp [h.circuits, hnone] at hc
  | rename hchange h => simp [h.circuits, List.getElem?_modify, hnone] at hc
  | attach hholder h => simp [h.circuits, hnone] at hc

theorem Effect.keywords_eq (h : Effect s a s') (ha : a.Spares (.words Set.univ)) :
    s'.keywords = s.keywords := by
  cases h with
  | none h => exact h.keywords
  | create hmake hcircuits hkeywords hattached => exact hkeywords
  | gate hc hadmits h => exact h.keywords
  | word h => exact absurd (Attributes.mem_words_iff.mpr (Set.mem_univ _)) (ha _ rfl)
  | rename hchange h => exact h.keywords
  | attach hholder h => exact h.keywords

theorem Effect.keywords_eq_nil (h : Effect s a s') (hnil : s'.keywords = []) : s.keywords = [] := by
  cases h with
  | none h => exact h.keywords ▸ hnil
  | create hmake hcircuits hkeywords hattached => exact hkeywords ▸ hnil
  | gate hc hadmits h => exact h.keywords ▸ hnil
  | @word r value v _ h =>
    have hput : s.keywords.put r.id v = [] := h.keywords.symm.trans hnil
    have hget := Table.get?_put_self s.keywords r.id v
    rw [hput] at hget
    cases hget
  | rename hchange h => exact h.keywords ▸ hnil
  | attach hholder h => exact h.keywords ▸ hnil

/-- All circuits are well declared, and what stands in their logs they admit as it is, as long as
    no declaration word has been replaced. -/
structure Recorded (s : Session) : Prop where
  declared : ∀ c ∈ s.circuits, c.WellDeclared
  admits : s.keywords = [] → ∀ c ∈ s.circuits, ∀ i ∈ c.log, c.Admits [] i

theorem Recorded.sound (h : s.Recorded) (hkeywords : s.keywords = []) (hc : c ∈ s.circuits) : c.Sound :=
  ⟨h.declared c hc, h.admits hkeywords c hc⟩

/-- A circuit has just been made, or it was there before, and what its log has got in addition it
    admitted. -/
theorem Effect.mem_cases (h : Effect s a s') (hc : c ∈ s'.circuits) :
    (∃ count registers name spacing, Circuit.make count registers name spacing = .ok c) ∨
    ∃ d ∈ s.circuits, ∃ is, (∀ i ∈ is, d.Admits s.words i) ∧ c.qregs = d.qregs ∧ c.cregs = d.cregs ∧
      c.spacing = d.spacing ∧ c.log = d.log ++ is := by
  obtain ⟨n, hn⟩ := List.mem_iff_getElem?.mp hc
  cases hbefore : s.circuits[n]? with
  | none => exact .inl (h.make_of_getElem?_none hbefore hn)
  | some d =>
    refine .inr ⟨d, List.mem_of_getElem? hbefore, ?_⟩
    rcases h.circuit_cases hbefore with hsame | ⟨_, is, _, hadmits, hlog⟩ | ⟨_, _, _, e, _, hrenamed, he⟩
    · obtain rfl := Option.some.inj (hn.symm.trans hsame)
      exact ⟨[], by simp, rfl, rfl, rfl, by simp⟩
    · obtain rfl := Option.some.inj (hn.symm.trans hlog)
      exact ⟨is, hadmits, rfl, rfl, rfl, rfl⟩
    · obtain rfl := Option.some.inj (hn.symm.trans he)
      obtain ⟨hqregs, hcregs, hspacing, hlog⟩ := hrenamed.same
      exact ⟨[], by simp, hqregs, hcregs, hspacing, by simp [hlog]⟩

theorem Effect.recorded (h : Effect s a s') (hs : s.Recorded) : s'.Recorded := by
  refine ⟨fun c hc => ?_, fun hkeywords c hc i hi => ?_⟩
  · rcases h.mem_cases hc with ⟨_, _, _, _, hmake⟩ | ⟨d, hd, _, _, hqregs, hcregs, _, _⟩
    · exact (Circuit.make_sound hmake).toWellDeclared
    · exact (hs.declared d hd).of_same hqregs hcregs
  · rcases h.mem_cases hc with ⟨_, _, _, _, hmake⟩ | ⟨d, hd, is, hadmits, hqregs, hcregs, hspacing, hlog⟩
    · exact (Circuit.make_sound hmake).admits i hi
    · have hkeywords' := h.keywords_eq_nil hkeywords
      have hadmitted : d.Admits [] i := by
        rw [hlog] at hi
        rcases List.mem_append.mp hi with hi | hi
        · exact hs.admits hkeywords' d hd i hi
        · exact words_eq_nil hkeywords' ▸ hadmits i hi
      exact hadmitted.of_same hqregs hcregs hspacing

/-- A session stays plain as long as no declaration word is replaced. -/
theorem perform_plain (ha : a.Spares (.words Set.univ)) (hs : s.Plain) : (s.perform a).1.Plain := by
  have heffect := s.perform_effect a
  have hkeywords := (heffect.keywords_eq ha).trans hs.keywords
  have hrecorded : s.Recorded :=
    ⟨fun c hc => (hs.sound c hc).toWellDeclared, fun _ c hc => (hs.sound c hc).admits⟩
  exact ⟨hkeywords, fun c hc => (heffect.recorded hrecorded).sound hkeywords hc⟩

theorem run_plain {actions : List Action} (h : ∀ a ∈ actions, a.Spares (.words Set.univ)) :
    (run {} actions).1.Plain :=
  run_invariant (fun _ hs a ha => perform_plain (h a ha) hs) ⟨rfl, by simp⟩

end Session

end CircuitScribe
