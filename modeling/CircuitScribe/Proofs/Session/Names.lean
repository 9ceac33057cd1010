import CircuitScribe.Proofs.Circuit.Replay
import CircuitScribe.Proofs.Register.Name
import CircuitScribe.Proofs.Session.Isolation

namespace CircuitScribe

namespace NameCounts

theorem of_next_self (n : NameCounts) (kind : RegisterKind) : (n.next kind).of kind = n.of kind + 1 := by
  cases kind <;> rfl

theorem of_le_of_next (n : NameCounts) (kind kind' : RegisterKind) : n.of kind' ≤ (n.next kind).of kind' := by
  cases kind <;> cases kind' <;> simp [of, next]

end NameCounts

namespace Circuit

/-- The name that is generated for the `n`-th circuit. -/
def generatedName (n : Nat) : String :=
  "circuit" ++ toString n

theorem generatedName_inj {n n' : Nat} (h : generatedName n = generatedName n') : n = n' :=
  numbered_inj h

theorem name_of_make {count : Nat} {registers : List Value} {spacing : Value} {c : Circuit}
    (h : make count registers .null spacing = .ok c) : c.name = .str (generatedName count) := by
  simp only [make, Fault.bind_eq_ok_iff] at h
  obtain ⟨_, ⟨⟩, _, _, _, _, ⟨⟩⟩ := h
  rfl

/-- Registers with different names make a circuit, whatever the count of circuits is. -/
theorem exists_make {rs : List Register} (hkinds : ∀ r ∈ rs, r.kind ≠ .general)
    (hnames : (rs.map (·.name)).Nodup) {name : Value} (hname : name = .null ∨ ∃ text, name = .str text)
    (count : Nat) (spacing : Option Bool) :
    ∃ c, make count (rs.map .register) name (Value.ofSpacing spacing) = .ok c := by
  obtain ⟨text, htext⟩ : ∃ text, chooseName count name = .ok text := by
    rcases hname with rfl | ⟨text, rfl⟩
    · exact ⟨_, rfl⟩
    · exact ⟨text, rfl⟩
  have hspacing : chooseSpacing (Value.ofSpacing spacing) = .ok spacing := by cases spacing <;> rfl
  have hregisters : checkRegisters [] (rs.map .register) = .ok rs :=
    checkRegisters_register hkinds (by simp) hnames
  simp only [make, htext, hregisters, hspacing]
  exact ⟨_, rfl⟩

end Circuit

namespace Session

variable {s : Session} {a : Action}

/-- What the steps of a run bring forth, each going by what is asked for, the session after it
    and the reply. -/
def gather {α : Type} (found : Action → Session × Reply → Option α) (s : Session) : List Action → List α
  | [] => []
  | a :: rest => (found a (s.perform a)).toList ++ gather found (s.perform a).1 rest

theorem map_gather {α β : Type} (found : Action → Session × Reply → Option α) (f : α → β) (s : Session)
    (actions : List Action) :
    (gather found s actions).map f = gather (fun a after => (found a after).map f) s actions := by
  induction actions generalizing s with
  | nil => rfl
  | cons a rest ih => cases h : found a (s.perform a) <;> simp [gather, h, ih]

/-- What is still to come when a step brings it forth, and never again from then on, comes at
    most once in a run. -/
theorem gather_nodup {α : Type} {found : Action → Session × Reply → Option α} (ToCome : Session → α → Prop)
    (hfound : ∀ s a x, found a (s.perform a) = some x → ToCome s x ∧ ¬ ToCome (s.perform a).1 x)
    (hstep : ∀ s a x, ToCome (s.perform a).1 x → ToCome s x) (s : Session) (actions : List Action) :
    (gather found s actions).Nodup ∧ ∀ x ∈ gather found s actions, ToCome s x := by
  induction actions generalizing s with
  | nil => simp [gather]
  | cons a rest ih =>
    obtain ⟨hnodup, hrest⟩ := ih (s.perform a).1
    have hlater (x : α) (hx : x ∈ gather found (s.perform a).1 rest) : ToCome s x := hstep s a x (hrest x hx)
    cases h : found a (s.perform a) with
    | none =>
      simp only [gather, h, Option.toList_none, List.nil_append]
      exact ⟨hnodup, hlater⟩
    | some x =>
      obtain ⟨hbefore, hafter⟩ := hfound s a x h
      simp only [gather, h, Option.toList_some, List.singleton_append, List.nodup_cons, List.forall_mem_cons]
      exact ⟨⟨fun hx => hafter (hrest x hx), hnodup⟩, hbefore, hlater⟩

/-! Registers that are made without a name -/

/-- The register that a call without a name has made, going by its reply. -/
def unnamedRegister? (a : Action) (after : Session × Reply) : Option Register :=
  match a, after.2.result with
  | .createRegister _ _ .null, .ok (.register r) => some r
  | _, _ => none

/-- The registers of a run that have been made without a name. -/
def unnamedRegisters (s : Session) (actions : List Action) : List Register :=
  gather unnamedRegister? s actions

/-- A register is made with the name and the size that are given, or one of them is refused. -/
theorem makeRegister_cases (id : Nat) (kind : RegisterKind) (name size : Value) :
    (∃ r, makeRegister id kind name size = .ok r ∧ name = .str r.name ∧ size = .int r.size ∧ r.kind = kind) ∨
    (∃ fault, makeRegister id kind name size = .error (.usage fault)) := by
  unfold makeRegister
  split
  · next text =>
    split
    · next htext =>
      split
      · next n =>
        split
        · next hn => exact .inl ⟨_, rfl, rfl, by rw [Int.toNat_of_nonneg (by omega)], rfl⟩
        · exact .inr ⟨_, rfl⟩
      · exact .inr ⟨_, rfl⟩
    · exact .inr ⟨_, rfl⟩
  · exact .inr ⟨_, rfl⟩

theorem makeRegister_eq_ok {id : Nat} {kind : RegisterKind} {name size : Value} {r : Register}
    (h : makeRegister id kind name size = .ok r) : name = .str r.name ∧ size = .int r.size ∧ r.kind = kind := by
  rcases makeRegister_cases id kind name size with ⟨r', hr', hdata⟩ | ⟨_, hfault⟩
  · cases h.symm.trans hr'
    exact hdata
  · cases h.symm.trans hfault

theorem result_createRegister_null (s : Session) (kind : RegisterKind) (size : Value) :
    (s.perform (.createRegister kind size .null)).2.result =
      (makeRegister s.registerCount kind (.str (kind.generatedName (s.nameCounts.of kind))) size).map
        .register := by
  simp only [perform, act, createRegister, RegisterKind.generatedName]
  cases makeRegister s.registerCount kind (.str (kind.stem ++ toString (s.nameCounts.of kind))) size <;> rfl

/-- Without a name, a register of positive size is always made. -/
theorem result_createRegister_of_pos (s : Session) (kind : RegisterKind) {n : Nat} (hn : 0 < n) :
    ∃ r : Register, (s.perform (.createRegister kind (.int n) .null)).2.result = .ok (.register r) ∧
      r.kind = kind ∧ r.size = n := by
  have hname := kind.isRegisterName_generatedName (s.nameCounts.of kind)
  rw [result_createRegister_null, makeRegister, dif_pos hname]
  simp only [Int.toNat_natCast, dif_pos hn]
  exact ⟨_, rfl, rfl, rfl⟩

theorem eq_of_unnamedRegister? {r : Register} (h : unnamedRegister? a (s.perform a) = some r) :
    ∃ size, a = .createRegister r.kind size .null ∧
      r.name = r.kind.generatedName (s.nameCounts.of r.kind) := by
  unfold unnamedRegister? at h
  split at h
  · next kind size r' hresult =>
    cases h
    rw [result_createRegister_null] at hresult
    cases hmake : makeRegister s.registerCount kind
        (.str (kind.generatedName (s.nameCounts.of kind))) size with
    | error fault =>
      rw [hmake] at hresult
      cases hresult
    | ok r' =>
      rw [hmake] at hresult
      cases hresult
      obtain ⟨hname, _, rfl⟩ := makeRegister_eq_ok hmake
      exact ⟨size, rfl, (Value.str.inj hname).symm⟩
  · cases h

/-- A name that can still be generated for a register. -/
def RegisterNameToCome (s : Session) (name : String) : Prop :=
  ∃ (kind : RegisterKind) (n : Nat), s.nameCounts.of kind ≤ n ∧ name = kind.generatedName n

theorem nameCounts_le_perform (s : Session) (a : Action) (kind : RegisterKind) :
    s.nameCounts.of kind ≤ (s.perform a).1.nameCounts.of kind := by
  rw [(s.perform_advance a).nameCounts]
  unfold namesAfter
  split
  · exact s.nameCounts.of_le_of_next _ kind
  · exact Nat.le_refl _

theorem unnamedRegisters_nodup (s : Session) (actions : List Action) :
    ((s.unnamedRegisters actions).map (·.name)).Nodup := by
  rw [unnamedRegisters, map_gather]
  refine (gather_nodup RegisterNameToCome (fun s a name hname => ?_) (fun s a name hname => ?_) s actions).1
  · obtain ⟨r, hr, rfl⟩ := Option.map_eq_some_iff.mp hname
    obtain ⟨size, ha, hname⟩ := eq_of_unnamedRegister? hr
    refine ⟨⟨r.kind, _, Nat.le_refl _, hname⟩, ?_⟩
    rintro ⟨kind, n, hn, hname'⟩
    obtain ⟨rfl, rfl⟩ := RegisterKind.generatedName_inj (hname.symm.trans hname')
    have hnext := (s.perform_advance a).nameCounts
    rw [hnext, ha, namesAfter, NameCounts.of_next_self] at hn
    omega
  · obtain ⟨kind, n, hn, rfl⟩ := hname
    exact ⟨kind, n, Nat.le_trans (s.nameCounts_le_perform a kind) hn, rfl⟩

/-! Circuits that are made without a name -/

/-- The name that a circuit has got from a call without a name, going by its reply. -/
def unnamedCircuit? (a : Action) (after : Session × Reply) : Option Value :=
  match a, after.2.result with
  | .createCircuit _ .null _, .ok (.circuit id) => after.1.circuits[id]?.map (·.name)
  | _, _ => none

/-- The names that circuits of a run have got when they were made without one. -/
def unnamedCircuits (s : Session) (actions : List Action) : List Value :=
  gather unnamedCircuit? s actions

theorem eq_of_unnamedCircuit? {name : Value} (h : unnamedCircuit? a (s.perform a) = some name) :
    ∃ registers spacing, a = .createCircuit registers .null spacing ∧
      name = .str (Circuit.generatedName (s.circuitCount + 1)) := by
  unfold unnamedCircuit? at h
  split at h
  · next registers spacing id hresult =>
    refine ⟨registers, spacing, rfl, ?_⟩
    rcases s.perform_createCircuit registers .null spacing with ⟨c, hmake, hafter, _⟩ | ⟨fault, herror⟩
    · obtain rfl : s.circuits.length = id := by
        simpa [(s.perform_createCircuit_of_make registers .null spacing hmake).2] using hresult
      rw [hafter] at h
      simpa [Circuit.name_of_make hmake] using h.symm
    · rw [herror] at hresult
      cases hresult
  · cases h

/-- A name that can still be generated for a circuit. -/
def CircuitNameToCome (s : Session) (name : Value) : Prop :=
  ∃ n, s.circuitCount < n ∧ name = .str (Circuit.generatedName n)

theorem circuitCount_le_perform (s : Session) (a : Action) :
    s.circuitCount ≤ (s.perform a).1.circuitCount := by
  rw [(s.perform_advance a).circuitCount]
  unfold circuitsAfter
  split
  · exact Nat.le_succ _
  · exact Nat.le_refl _

theorem unnamedCircuits_nodup (s : Session) (actions : List Action) :
    (s.unnamedCircuits actions).Nodup := by
  refine (gather_nodup CircuitNameToCome (fun s a name hname => ?_) (fun s a name hname => ?_) s actions).1
  · obtain ⟨registers, spacing, ha, rfl⟩ := eq_of_unnamedCircuit? hname
    refine ⟨⟨_, Nat.lt_succ_self _, rfl⟩, ?_⟩
    rintro ⟨n, hn, hname⟩
    obtain rfl := Circuit.generatedName_inj (Value.str.inj hname)
    have hnext := (s.perform_advance a).circuitCount
    rw [hnext, ha, circuitsAfter] at hn
    exact Nat.lt_irrefl _ hn
  · obtain ⟨n, hn, rfl⟩ := hname
    exact ⟨n, Nat.lt_of_le_of_lt (s.circuitCount_le_perform a) hn, rfl⟩

/-- Generated names never clash, in whatever order registers of the three kinds and circuits are
    made with and without names, refused or with other attributes assigned in between. Registers
    that are made without a name have different names over all kinds, and so have circuits.
    A register that is asked for without a name is made if its size is positive, and
    different quantum and classical registers that were made so can always be put into one
    circuit. -/
theorem generated_names (s : Session) (actions : List Action) :
    let unnamed := s.unnamedRegisters actions
    let after := (s.run actions).1
    (unnamed.map (·.name)).Nodup ∧
    (s.unnamedCircuits actions).Nodup ∧
    (∀ kind (n : Nat), 0 < n → ∃ r : Register,
      (after.perform (.createRegister kind (.int n) .null)).2.result = .ok (.register r) ∧
        r.kind = kind ∧ r.size = n) ∧
    ∀ rs : List Register, (∀ r ∈ rs, r ∈ unnamed ∧ r.kind ≠ .general) → rs.Nodup →
      ∀ name spacing, (name = .null ∨ ∃ text, name = .str text) →
        ∃ id, (after.perform (.createCircuit (rs.map .register) name (Value.ofSpacing spacing))).2.result =
          .ok (.circuit id) := by
  intro unnamed after
  have hnodup : (unnamed.map (·.name)).Nodup := s.unnamedRegisters_nodup actions
  refine ⟨hnodup, s.unnamedCircuits_nodup actions, fun kind n hn => after.result_createRegister_of_pos kind hn,
    fun rs hrs hdistinct name spacing hname => ?_⟩
  have hnames : (rs.map (·.name)).Nodup :=
    hdistinct.map_on fun r hr r' hr' heq => List.inj_on_of_nodup_map hnodup (hrs r hr).1 (hrs r' hr').1 heq
  obtain ⟨c, hmake⟩ := Circuit.exists_make (fun r hr => (hrs r hr).2) hnames hname (after.circuitCount + 1) spacing
  rw [← after.settle_ofSpacing spacing] at hmake
  exact ⟨_, (after.perform_createCircuit_of_make _ name (Value.ofSpacing spacing) hmake).2⟩

/-- A refused register uses up a number, and a register may have been given the name that is
    generated for a later one. -/
theorem generated_names_refused :
    let actions : List Action :=
      [.createRegister .quantum (.int 2) .null, .createRegister .quantum (.int 0) .null,
        .createRegister .quantum (.int 1) (.str "q2"), .createRegister .quantum (.int 3) .null,
        .createRegister .classical (.int 1) .null]
    let q : Register := ⟨0, .quantum, "q0", 2, by decide, by decide⟩
    let r : Register := ⟨2, .quantum, "q2", 3, by decide, by decide⟩
    let c : Register := ⟨3, .classical, "c0", 1, by decide, by decide⟩
    unnamedRegisters {} actions = [q, r, c] ∧
      (∃ id, ((run {} actions).1.perform
        (.createCircuit ([c, r, q].map .register) .null (Value.ofSpacing none))).2.result = .ok (.circuit id)) ∧
      ∃ r' : Register, ((run {} actions).1.perform (.createRegister .quantum (.int 4) .null)).2.result =
        .ok (.register r') ∧ r'.kind = .quantum ∧ r'.size = 4 := by
  intro actions q r c
  have hunnamed : unnamedRegisters {} actions = [q, r, c] := rfl
  obtain ⟨_, _, hregister, hcircuit⟩ := generated_names {} actions
  refine ⟨hunnamed, hcircuit [c, r, q] ?_ (by decide) .null none (.inl rfl), hregister .quantum 4 (by decide)⟩
  rw [hunnamed]
  simp [q, r, c]

end Session

end CircuitScribe
