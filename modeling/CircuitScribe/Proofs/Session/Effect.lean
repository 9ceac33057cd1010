import CircuitScribe.Proofs.Session.Gate
import CircuitScribe.Proofs.Session.Still
import Mathlib.Data.Set.Insert

namespace CircuitScribe

/-- What can be given attributes, with one of these. -/
abbrev Attributes := Set (Holder × Attribute)

namespace Attributes

/-- The name of a circuit. -/
def named (id : Nat) : Attributes :=
  {(.circuit id, .name)}

/-- What the program of a circuit has before its declarations: its header and include. -/
def front (id : Nat) : Attributes :=
  {(.circuit id, .header), (.circuit id, .library)}

/-- The declaration words of registers. -/
def words (registers : Set Nat) : Attributes :=
  (fun n => (.register n, .type)) '' registers

@[simp]
theorem mem_named_iff {id : Nat} {holder : Holder} {a : Attribute} :
    (holder, a) ∈ named id ↔ holder = .circuit id ∧ a = .name := by
  rw [named, Set.mem_singleton_iff, Prod.mk.injEq]

@[simp]
theorem mem_front_iff {id : Nat} {holder : Holder} {a : Attribute} :
    (holder, a) ∈ front id ↔ holder = .circuit id ∧ (a = .header ∨ a = .library) := by
  rw [front, Set.mem_insert_iff, Set.mem_singleton_iff, Prod.mk.injEq, Prod.mk.injEq, and_or_left]

@[simp]
theorem mem_words_iff {registers : Set Nat} {n : Nat} :
    (.register n, .type) ∈ words registers ↔ n ∈ registers := by
  simp [words]

theorem words_mono {fewer registers : Set Nat} (h : fewer ⊆ registers) : words fewer ⊆ words registers := by
  rintro _ ⟨n, hn, rfl⟩
  exact ⟨n, h hn, rfl⟩

end Attributes

/-- An action that assigns none of some attributes. -/
def Action.Spares (attributes : Attributes) : Action → Prop
  | .assign on a _ => ∀ holder, Holder.ofValue? on = some holder → (holder, a) ∉ attributes
  | _ => True

theorem Action.Spares.mono {attributes fewer : Attributes} {a : Action} (h : a.Spares attributes)
    (hfewer : fewer ⊆ attributes) : a.Spares fewer := by
  cases a with
  | assign on a value => exact fun holder hholder hmem => h holder hholder (hfewer hmem)
  | _ => trivial

namespace Session

variable {s : Session}

theorem createRegister_agree (s : Session) (kind : RegisterKind) (size name : Value) :
    Agree s (s.createRegister kind size name).1 := by
  unfold createRegister
  cases name <;> simp only <;> split <;> exact ⟨rfl, rfl, rfl⟩

/-- Attributes of a circuit that are replaced and not attached. None of them is read by a
    gate call's checks of operands. -/
inductive Renamed (v : Value) (c : Circuit) : Attribute → Circuit → Prop where
  | name : Renamed v c .name { c with name := v }
  | header : Renamed v c .header { c with header := v }
  | library : Renamed v c .library { c with library := v }

/-- What an action does to the circuits of a session, to the declaration words and to the
    attached attributes: nothing, or one of a few things. -/
inductive Effect (s : Session) : Action → Session → Prop where
  | none {a : Action} {s' : Session} (h : Agree s s') : Effect s a s'
  | create {registers : List Value} {name spacing given : Value} {c : Circuit} {s' : Session}
      (hmake : Circuit.make (s.circuitCount + 1) registers name given = .ok c)
      (hcircuits : s'.circuits = s.circuits ++ [c]) (hkeywords : s'.keywords = s.keywords)
      (hattached : s'.attached = s.attached) : Effect s (.createCircuit registers name spacing) s'
  | gate {id : Nat} {call : GateCall} {c : Circuit} {is : List Instruction} {s' : Session}
      (hc : s.circuits[id]? = some c) (hadmits : ∀ i ∈ is, c.Admits s.words i)
      (h : Agree (s.extendLog id is) s') : Effect s (.gate (.circuit id) call) s'
  | word {r : Register} {value v : Value} {s' : Session}
      (h : Agree { s with keywords := s.keywords.put r.id v } s') :
      Effect s (.assign (.register r) .type value) s'
  | rename {id : Nat} {a : Attribute} {value v : Value} {change : Circuit → Circuit} {s' : Session}
      (hchange : ∀ c, Renamed v c a (change c))
      (h : Agree { s with circuits := s.circuits.modify id change } s') :
      Effect s (.assign (.circuit id) a value) s'
  | attach {on : Value} {a : Attribute} {value v : Value} {holder : Holder} {s' : Session}
      (hholder : Holder.ofValue? on = some holder)
      (h : Agree { s with attached := s.attached.put (holder, a) v } s') :
      Effect s (.assign on a value) s'

theorem exists_register_of_holder {v : Value} {id : Nat}
    (h : Holder.ofValue? v = some (.register id)) : ∃ r : Register, v = .register r ∧ r.id = id := by
  cases v <;> simp [Holder.ofValue?] at h
  exact ⟨_, rfl, h⟩

theorem eq_circuit_of_holder {v : Value} {id : Nat} (h : Holder.ofValue? v = some (.circuit id)) :
    v = .circuit id := by
  cases v <;> simp [Holder.ofValue?] at h
  rw [h]

theorem assign_effect {on : Value} {a : Attribute} {value : Value} {s' : Session}
    (h : s.assign on a value = .ok s') : Effect s (.assign on a value) s' := by
  unfold assign at h
  split at h
  · next holder hholder =>
    by_cases hfixed : isFixed holder a = true
    · simp only [hfixed, if_true] at h
      cases h
    · simp only [hfixed, Bool.false_eq_true, if_false] at h
      split at h
      · cases h
        obtain ⟨r, rfl, rfl⟩ := exists_register_of_holder hholder
        exact .word ⟨rfl, rfl, rfl⟩
      · cases h
        rw [eq_circuit_of_holder hholder]
        exact .rename (fun _ => .name) ⟨rfl, rfl, rfl⟩
      · cases h
        rw [eq_circuit_of_holder hholder]
        exact .rename (fun _ => .header) ⟨rfl, rfl, rfl⟩
      · cases h
        rw [eq_circuit_of_holder hholder]
        exact .rename (fun _ => .library) ⟨rfl, rfl, rfl⟩
      · cases h
        exact .none ⟨rfl, rfl, rfl⟩
      · cases h
        exact .attach hholder ⟨rfl, rfl, rfl⟩
  · cases h

/-- Every action has one of the few effects. -/
theorem act_effect (s : Session) (a : Action) : Effect s a (s.act a).1 := by
  cases a with
  | createRegister kind size name => exact .none (s.createRegister_agree kind size name)
  | createCircuit registers name spacing =>
    simp only [act, createCircuit]
    split
    · next c hmake => exact .create hmake rfl rfl rfl
    · exact .none ⟨rfl, rfl, rfl⟩
  | gate on call =>
    simp only [act]
    cases on with
    | circuit id =>
      cases hc : s.circuits[id]? with
      | none =>
        have hnone : s.circuit? id = none := by simp [circuit?, hc]
        simp only [gate, hnone]
        exact .none (.refl s)
      | some c =>
        rcases gate_cases hc (call.map s.settle) with
          ⟨i, _, hi, _, hgate⟩ | ⟨is, _, his, _, hgate⟩ | ⟨fault, _, _, hgate⟩
        · rw [hgate]
          have hadmits : ∀ j ∈ [i], c.Admits s.words j := by simpa using hi
          exact .gate hc hadmits (.refl _)
        · rw [hgate]
          exact .gate hc his ⟨rfl, rfl, rfl⟩
        · rw [hgate]
          exact .none (.refl s)
    | _ => exact .none (.refl s)
  | assign on a value =>
    simp only [act]
    cases hassign : s.assign on a value with
    | ok s' => exact assign_effect hassign
    | error fault => exact .none (.refl s)
  | checkRange on index => cases on <;> exact .none (.refl s)
  | createRecord kind qargs cargs legacy =>
    exact .none ((s.share_still qargs).toAgree.trans (share_still _ cargs).toAgree)
  | addRecord on record =>
    exact .none (s.change_induction (.refl s) fun _ h => (addRecord_still h).toAgree)
  | item on index => exact .none (s.share_still on).toAgree
  | elements on => exact .none (s.share_still on).toAgree
  | saveProgram on path => exact .none (s.saveProgram_still on path).toAgree
  | saveItself on path => exact .none (s.saveItself_still on path).toAgree
  | writeFile path content => exact .none (s.changeFiles_still path _).toAgree
  | deleteFile path => exact .none (s.changeFiles_still path _).toAgree
  | makeDirectories path => exact .none (s.changeFiles_still path _).toAgree
  | chooseSettings path => exact .none (s.chooseSettings_still path).toAgree
  | storeSetting key value sectionValue path =>
    exact .none (s.storeSetting_still key value sectionValue path).toAgree
  | readSettings on => exact .none (s.useReader_still on _).toAgree
  | takeSettings on => exact .none (s.useReader_still on _).toAgree
  | setLogger level =>
    simp only [act]
    split <;> exact .none ⟨rfl, rfl, rfl⟩
  | log source level text =>
    simp only [act]
    split <;> exact .none (.refl s)
  | _ => exact .none ⟨rfl, rfl, rfl⟩

theorem Effect.trans_agree {a : Action} {s₁ s₂ : Session} (h : Effect s a s₁) (h' : Agree s₁ s₂) :
    Effect s a s₂ := by
  cases h with
  | none h => exact .none (h.trans h')
  | create hmake hcircuits hkeywords hattached =>
    exact .create hmake (h'.circuits.trans hcircuits) (h'.keywords.trans hkeywords)
      (h'.attached.trans hattached)
  | gate hc hadmits h => exact .gate hc hadmits (h.trans h')
  | word h => exact .word (h.trans h')
  | rename hchange h => exact .rename hchange (h.trans h')
  | attach hholder h => exact .attach hholder (h.trans h')

theorem perform_effect (s : Session) (a : Action) : Effect s a (s.perform a).1 :=
  (s.act_effect a).trans_agree (shareReply_still _ _).toAgree

/-- What holds at first and is kept by every action of a run holds in the end. -/
theorem run_invariant {P : Session → Prop} {actions : List Action}
    (hstep : ∀ s, P s → ∀ a ∈ actions, P (s.perform a).1) (hinit : P s) : P (s.run actions).1 := by
  induction actions generalizing s with
  | nil => exact hinit
  | cons a rest ih =>
    exact ih (fun s hs b hb => hstep s hs b (List.mem_cons_of_mem a hb))
      (hstep s hinit a List.mem_cons_self)

end Session

end CircuitScribe
