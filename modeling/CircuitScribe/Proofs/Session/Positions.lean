import CircuitScribe.Proofs.Session.Membership

namespace CircuitScribe

namespace Register

variable {same : Register → Register → Bool} {r own : Register} {n : Int} {o : Value}

theorem length_bits (r : Register) : r.bits.length = r.size := by
  simp [bits]

theorem getElem?_bits {j : Nat} (hj : j < r.size) : r.bits[j]? = some (.bit r j) := by
  simp [bits, hj]

theorem mem_bits : o ∈ r.bits ↔ ∃ j < r.size, o = .bit r j := by
  simp [bits, eq_comm]

/-- A pair equals another one if its register is that of the other or equals it, and its position is the
    same. -/
theorem pair_equals_bit_iff {j : Nat} :
    (Value.tuple [.register r, .int n]).equals same (.bit own j) = true ↔
      (r = own ∨ same r own = true) ∧ n = j := by
  simp [Value.bit, Value.equals, Value.agrees, Value.agreesAll, Value.number?, Value.Number.agrees,
    Value.Number.equals]

/-- The bits of a register are all different, since their positions are. -/
theorem bits_pairwise (same : Register → Register → Bool) (r : Register) :
    r.bits.Pairwise fun a b => a.equals same b = false := by
  rw [bits, List.pairwise_map]
  refine List.pairwise_lt_range.imp fun {i j} hij => ?_
  rw [← Bool.not_eq_true, Value.bit, pair_equals_bit_iff]
  omega

/-- Indexing checks the position and gives the pair. -/
theorem item_int (r : Register) (n : Int) : r.item (.int n) = if 0 ≤ n ∧ n < r.size then
    .ok (.tuple [.register r, .int n]) else r.refuse (.int n) := by
  have hholds : r.holds (.int n) = true ↔ 0 ≤ n ∧ n < r.size := by
    simp [holds]
  simp only [item, checkRange, Value.number?, hholds]
  split
  · rfl
  · rw [refuse_int, refuse_int]
    split <;> rfl

end Register

/-- Registers that have not been given a declaration word are taken for each other if their data are the
    same. -/
theorem Keywords.eq_or_same_iff {kw : Keywords} {r own : Register} (hr : kw.get? r.id = none)
    (hown : kw.get? own.id = none) : (r = own ∨ kw.same r own = true) ↔ r.bare = own.bare := by
  rw [same_eq_nil hr hown, same_nil_iff, or_iff_right_of_imp]
  rintro rfl
  rfl

namespace Circuit

variable {kw : Keywords} {c : Circuit} {kind : RegisterKind} {r : Register} {n : Int}

/-- A pair is taken exactly if it is equal to a bit of a register of the circuit, as far as no
    declaration word has been given to these registers. -/
theorem takes_pair_iff_equals (hr : kw.get? r.id = none) (hown : ∀ own ∈ c.registers kind, kw.get? own.id = none)
    (hkind : r.kind = kind) : c.Takes kw kind (.tuple [.register r, .int n]) ↔
      ∃ own ∈ c.registers kind, ∃ o ∈ own.bits, (Value.tuple [.register r, .int n]).equals kw.same o = true := by
  constructor
  · rintro ⟨_, _, ⟨⟩, hlow, hhigh, _, before, own, after, hregisters, _, hsame⟩
    have hmem : own ∈ c.registers kind := by simp [hregisters]
    have hbare : own.bare = r.bare := (Keywords.eq_or_same_iff (hown own hmem) hr).mp hsame
    have hsize : own.size = r.size := (Register.bare_eq_bare_iff.mp hbare).2.2
    refine ⟨own, hmem, .bit own n.toNat, Register.mem_bits.mpr ⟨n.toNat, by omega, rfl⟩, ?_⟩
    exact Register.pair_equals_bit_iff.mpr ⟨(Keywords.eq_or_same_iff hr (hown own hmem)).mpr hbare.symm, by omega⟩
  · rintro ⟨own, hmem, o, ho, hequals⟩
    obtain ⟨j, hj, rfl⟩ := Register.mem_bits.mp ho
    obtain ⟨hsame, rfl⟩ := Register.pair_equals_bit_iff.mp hequals
    have hbare : r.bare = own.bare := (Keywords.eq_or_same_iff hr (hown own hmem)).mp hsame
    have hsize : r.size = own.size := (Register.bare_eq_bare_iff.mp hbare).2.2
    obtain ⟨before, after, hregisters⟩ := List.append_of_mem hmem
    exact ⟨r, j, rfl, by omega, by omega, hkind, before, own, after, hregisters,
      fun x _ => Keywords.endless_of_get?_eq_none hr x,
      (Keywords.eq_or_same_iff (hown own hmem) hr).mpr hbare.symm⟩

end Circuit

namespace Session

variable {s : Session} {id : Nat} {c : Circuit} {gate : SingleGate} {r : Register} {n : Int}
  {qubit : Value} {operands : List Value}

/-- What going through a register gives, one after the other. -/
def Yields (s : Session) (r : Register) (operands : List Value) : Prop :=
  ∃ v, (s.perform (.elements (.register r))).2.result = .ok v ∧
    (s.perform (.elements (.register r))).1.contents v = .ok (.list operands)

theorem perform_elements (h : r.size ≤ maxItems) : s.perform (.elements (.register r)) =
    ({ s with collections := { s.collections with lists := s.collections.lists.push r.bits } },
      { result := .ok (.shared (.list s.collections.lists.size)) }) := by
  have hbound : ¬ maxLength < r.size := by
    simp only [maxItems, maxLength] at h ⊢
    omega
  have helements : Value.elements s.referents (.register r) = .ok r.bits := by
    have hcontents : s.referents.contents (.register r) = .ok (.register r) := rfl
    rw [Value.elements, hcontents]
    simp only [bind, Except.bind, hbound, Nat.not_lt.mpr h, if_false]
    rfl
  have hact : s.act (.elements (.register r)) = (s, { result := .ok (.list r.bits) }) := by
    rw [show s.act (.elements (.register r)) = s.answer ((Value.elements s.referents (.register r)).map .list) from rfl,
      helements]
    rfl
  have hshare : Collections.shareAll r.bits [] s.collections = (r.bits, s.collections) := by
    refine Collections.shareAll_of_forall (fun v hv c => ?_) [] s.collections
    obtain ⟨j, _, rfl⟩ := Register.mem_bits.mp hv
    rfl
  simp only [perform, hact, shareReply, share, Collections.share, hshare]
  rfl

theorem yields_iff (h : r.size ≤ maxItems) : s.Yields r operands ↔ operands = r.bits := by
  have hcontents : ((s.perform (.elements (.register r))).1).contents (.shared (.list s.collections.lists.size)) =
      .ok (.list r.bits) := by
    rw [perform_elements h]
    simp [contents, contentsWithin, referent?]
  constructor
  · rintro ⟨v, hv, hoperands⟩
    rw [perform_elements h] at hv
    cases hv
    rw [hcontents] at hoperands
    cases hoperands
    rfl
  · rintro rfl
    exact ⟨_, by rw [perform_elements h], hcontents⟩

theorem result_item (s : Session) (r : Register) (n : Int) :
    (s.perform (.item (.register r) (.int n))).2.result = r.item (.int n) := by
  have hact : s.act (.item (.register r) (.int n)) = (s, { result := r.item (.int n) }) := rfl
  simp only [perform, hact, Register.item_int, Register.refuse_int]
  split
  · rfl
  · split <;> rfl

/-- A position with too many digits is not even reported. -/
theorem result_item_of_long (s : Session) (h : r.size < 10 ^ maxDigits) :
    (s.perform (.item (.register r) (.int (10 ^ maxDigits : Nat)))).2.result = .error (.value .tooManyDigits) := by
  have hrange : ¬ (0 ≤ ((10 ^ maxDigits : Nat) : Int) ∧ ((10 ^ maxDigits : Nat) : Int) < r.size) :=
    fun hin => Nat.lt_asymm h (Int.ofNat_lt.mp hin.2)
  have hdigits : ¬ (((10 ^ maxDigits : Nat) : Int).natAbs < 10 ^ maxDigits ∧ r.size < 10 ^ maxDigits) := by
    rw [Int.natAbs_natCast]
    exact fun hfits => Nat.lt_irrefl _ hfits.1
  rw [result_item, Register.item_int, if_neg hrange, Register.refuse_int, if_neg hdigits]

/-- A value is equal to something that going through one of several registers gives. -/
def IsYielded (s : Session) (registers : List Register) (v : Value) : Prop :=
  ∃ own ∈ registers, ∃ operands, s.Yields own operands ∧ ∃ o ∈ operands, v.equals s.words.same o = true

theorem takes_pair_iff_isYielded (hkeywords : s.keywords = []) (kind : RegisterKind)
    (hsizes : ∀ own ∈ c.registers kind, own.size ≤ maxItems) (hkind : r.kind = kind) :
    c.Takes s.words kind (.tuple [.register r, .int n]) ∧ n.natAbs < 10 ^ maxDigits ↔
      s.IsYielded (c.registers kind) (.tuple [.register r, .int n]) := by
  have hword (own : Register) : s.words.get? own.id = none := by
    rw [words_eq_nil hkeywords]
    rfl
  rw [Circuit.takes_pair_iff_equals (hword r) (fun own _ => hword own) hkind]
  have hyielded : (∃ own ∈ c.registers kind, ∃ o ∈ own.bits,
      (Value.tuple [.register r, .int n]).equals s.words.same o = true) ↔
        s.IsYielded (c.registers kind) (.tuple [.register r, .int n]) := by
    refine exists_congr fun own => and_congr_right fun hown => ?_
    simp only [yields_iff (hsizes own hown), exists_eq_left]
  rw [← hyielded, and_iff_left_of_imp]
  -- Positions of registers that can be gone through are short.
  rintro ⟨own, hown, o, ho, hequals⟩
  obtain ⟨j, hj, rfl⟩ := Register.mem_bits.mp ho
  obtain ⟨_, rfl⟩ := Register.pair_equals_bit_iff.mp hequals
  have hmax : maxItems < 10 ^ maxDigits := (fitsDigits_iff maxDigits maxItems).mp (by decide +kernel)
  rw [Int.natAbs_natCast]
  exact Nat.lt_trans (Nat.lt_of_lt_of_le hj (hsizes own hown)) hmax

/-- Going through a register, indexing it and using it as an operand agree on its positions. A register of
    no more bits than a list can hold gives as many different pairs as its size, each at the position
    under which indexing gives it. Indexing succeeds exactly from zero to below the size, and otherwise
    reports the pair as out of range, if position and size have not too many digits for that. As long as
    no declaration word has been replaced, a circuit with such registers takes a pair for a qubit or a
    classical bit exactly if it is equal to one that going through its registers of that kind gives. -/
theorem positions_agree (s : Session) (r : Register) :
    (r.size ≤ maxItems → ∃ operands, s.Yields r operands ∧ operands.length = r.size ∧
      (operands.Pairwise fun a b => a.equals s.words.same b = false) ∧
      ∀ k < r.size, ∃ o, operands[k]? = some o ∧
        (s.perform (.item (.register r) (.int k))).2.result = .ok o) ∧
    (∀ k : Int,
      let result := (s.perform (.item (.register r) (.int k))).2.result
      ((∃ v, result = .ok v) ↔ 0 ≤ k ∧ k < r.size) ∧
      ∀ fault, result = .error fault →
        (fault.family? = some .outOfRange ∧ fault.operand? = some (.tuple [.register r, .int k])) ∨
        ((10 ^ maxDigits ≤ k.natAbs ∨ 10 ^ maxDigits ≤ r.size) ∧ fault = .value .tooManyDigits)) ∧
    ∀ actions : List Action, (∀ a ∈ actions, a.Spares (.words Set.univ)) → (run {} actions).1 = s →
      ∀ id c, s.circuits[id]? = some c →
      (r.kind = .quantum → (∀ own ∈ c.qregs, own.size ≤ maxItems) → ∀ (gate : SingleGate) (k : Int),
        (s.Succeeds id (.single gate (.tuple [.register r, .int k])) ↔
          s.IsYielded c.qregs (.tuple [.register r, .int k]))) ∧
      (r.kind = .classical → (∀ own ∈ c.cregs, own.size ≤ maxItems) → ∀ qubit, s.AcceptsQubit id qubit →
        ∀ k : Int, (s.Succeeds id (.measure qubit (.tuple [.register r, .int k])) ↔
          s.IsYielded c.cregs (.tuple [.register r, .int k]))) := by
  refine ⟨fun hsize => ?_, fun k => ?_, fun actions hactions hrun id c hc => ?_⟩
  · refine ⟨r.bits, (yields_iff hsize).mpr rfl, r.length_bits, r.bits_pairwise _, fun k hk => ?_⟩
    refine ⟨.bit r k, Register.getElem?_bits hk, ?_⟩
    rw [result_item, Register.item_int, if_pos (by omega)]
    rfl
  · intro result
    have hresult : result = _ := (s.result_item r k).trans (r.item_int k)
    rw [hresult]
    split
    · next hrange => exact ⟨iff_of_true ⟨_, rfl⟩ hrange, nofun⟩
    · next hrange =>
      refine ⟨iff_of_false ?_ hrange, fun fault hfault => ?_⟩
      · rintro ⟨v, hv⟩
        exact r.refuse_ne_ok _ v hv
      · rw [Register.refuse_int] at hfault
        split at hfault
        · cases hfault
          exact .inl ⟨rfl, rfl⟩
        · next hdigits =>
          cases hfault
          exact .inr ⟨by omega, rfl⟩
  · have hkeywords : s.keywords = [] := hrun ▸ (run_plain hactions).keywords
    refine ⟨fun hkind hsizes gate k => ?_, fun hkind hsizes qubit hqubit k => ?_⟩
    · rw [succeeds_single_iff hc]
      exact takes_pair_iff_isYielded hkeywords .quantum hsizes hkind
    · rw [succeeds_measure_iff hc hqubit]
      exact takes_pair_iff_isYielded hkeywords .classical hsizes hkind

/-- A register of two qubits, another one that is equal to it, and a bit to measure them into. -/
theorem positions_agree_equal :
    let q : Register := ⟨0, .quantum, "q", 2, by decide, by decide⟩
    let k : Register := ⟨1, .classical, "k", 1, by decide, by decide⟩
    let p : Register := ⟨2, .quantum, "q", 2, by decide, by decide⟩
    let c : Circuit := { name := .str "c", qregs := [q], cregs := [k], spacing := none }
    let s : Session := { registerCount := 3, circuitCount := 1, circuits := [c] }
    (run {} [.createRegister .quantum (.int 2) (.str "q"), .createRegister .classical (.int 1) (.str "k"),
      .createRegister .quantum (.int 2) (.str "q"),
      .createCircuit [.register q, .register k] (.str "c") .null]).1 = s ∧
    (∃ operands, s.Yields p operands ∧ operands.length = 2 ∧ ∀ j : Nat, j < 2 → ∃ o, operands[j]? = some o ∧
      (s.perform (.item (.register p) (.int j))).2.result = .ok o) ∧
    (∀ j : Int, (∃ v, (s.perform (.item (.register p) (.int j))).2.result = .ok v) ↔ 0 ≤ j ∧ j < 2) ∧
    (∀ j : Int, s.Succeeds 0 (.single .h (.tuple [.register p, .int j])) ↔
      s.IsYielded [q] (.tuple [.register p, .int j])) ∧
    ∀ j : Int, s.Succeeds 0 (.measure (.bit p 1) (.tuple [.register k, .int j])) ↔
      s.IsYielded [k] (.tuple [.register k, .int j]) := by
  intro q k p c s
  let actions : List Action := [.createRegister .quantum (.int 2) (.str "q"),
    .createRegister .classical (.int 1) (.str "k"), .createRegister .quantum (.int 2) (.str "q"),
    .createCircuit [.register q, .register k] (.str "c") .null]
  have hcircuit : (perform { registerCount := 3 }
      (.createCircuit [.register q, .register k] (.str "c") .null)).1 = s := rfl
  have hrun : (run {} actions).1 = s := by
    rw [run_createRegister rfl, run_createRegister rfl, run_createRegister rfl, run_cons, hcircuit]
    rfl
  have hspares : ∀ a ∈ actions, a.Spares (.words Set.univ) := by
    simp [actions, Action.Spares]
  obtain ⟨hyields, hitem, hcircuit⟩ := positions_agree s p
  obtain ⟨operands, hoperands, hlength, _, hat⟩ := hyields (by decide)
  obtain ⟨hqubits, _⟩ := hcircuit actions hspares hrun 0 c rfl
  obtain ⟨_, hbits⟩ := (positions_agree s k).2.2 actions hspares hrun 0 c rfl
  have hqubit : s.AcceptsQubit 0 (.bit p 1) := by
    refine ⟨fun r hr => Value.noConfusion hr, .h, .record .h [.bit p 1] [] "h q[1];\n", ?_⟩
    subst q k p
    rfl
  refine ⟨hrun, ⟨operands, hoperands, hlength, hat⟩, fun j => (hitem j).1, ?_, ?_⟩
  · exact hqubits rfl (by simp [c, q, maxItems, maxLength]) .h
  · exact hbits rfl (by simp [c, k, maxItems, maxLength]) (.bit p 1) hqubit

/-- The largest register that has a length cannot be gone through: no list holds that many pairs. A
    position in it that has too many digits is not reported as out of range. -/
theorem positions_agree_largest :
    let largest : Register := ⟨0, .quantum, "q", maxLength, by decide, by decide⟩
    let s : Session := { registerCount := 1 }
    largest.size = 2 ^ 63 - 1 ∧
    perform {} (.createRegister .quantum (.int maxLength) (.str "q")) = (s, { result := .ok (.register largest) }) ∧
    (s.perform (.elements (.register largest))).2.result = .error (.value .outOfMemory) ∧
    (¬ ∃ operands, s.Yields largest operands) ∧
    (s.perform (.item (.register largest) (.int (10 ^ maxDigits : Nat)))).2.result =
      .error (.value .tooManyDigits) := by
  intro largest s
  have hrefused : (s.perform (.elements (.register largest))).2.result = .error (.value .outOfMemory) := rfl
  refine ⟨by decide, rfl, hrefused, ?_, s.result_item_of_long ?_⟩
  · rintro ⟨operands, v, hv, _⟩
    cases hrefused.symm.trans hv
  · exact (fitsDigits_iff maxDigits maxLength).mp (by decide +kernel)

end Session

end CircuitScribe
