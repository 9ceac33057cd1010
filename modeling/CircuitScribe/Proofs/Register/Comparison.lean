import CircuitScribe.Keywords
import CircuitScribe.Proofs.Value.Printing

namespace CircuitScribe

namespace Value

variable {same same' endless : Register → Register → Bool}

mutual

/-- Values that are found to agree are compared to an end, if registers that are found to be the same
    are. -/
theorem agreesEndlessly_of_agrees (hend : ∀ r s, same r s = true → endless r s = false) (a : Value) {b : Value}
    (h : a.agrees same b = true) : a.agreesEndlessly same' endless b = false := by
  cases a with
  | list items =>
    cases b with
    | list others => simp [agreesEndlessly, agreesAllEndlessly_of_agreesAll hend items h]
    | _ => rfl
  | tuple items =>
    cases b with
    | tuple others => exact agreesAllEndlessly_of_agreesAll hend items h
    | _ => rfl
  | dict entries =>
    cases b with
    | dict others =>
      simp only [agrees, Bool.and_eq_true] at h
      simp [agreesEndlessly, agreesEntriesEndlessly_of_agreesEntries hend entries h.2]
    | _ => rfl
  | register r =>
    cases b with
    | register s =>
      simp only [agrees, Bool.or_eq_true, beq_iff_eq] at h
      rcases h with rfl | h
      · simp [agreesEndlessly]
      · simp [agreesEndlessly, hend r s h]
    | _ => rfl
  | record k qargs cargs rendered =>
    cases b with
    | record k' qargs' cargs' rendered' =>
      simp only [agrees, Bool.and_eq_true] at h
      simp [agreesEndlessly, agreesAllEndlessly_of_agreesAll hend qargs h.1.1.2,
        agreesAllEndlessly_of_agreesAll hend cargs h.1.2]
    | _ => rfl
  | _ => rfl
termination_by structural a

theorem agreesAllEndlessly_of_agreesAll (hend : ∀ r s, same r s = true → endless r s = false)
    (items : List Value) {others : List Value} (h : agreesAll same items others = true) :
    agreesAllEndlessly same' endless items others = false := by
  cases items with
  | nil => rfl
  | cons v vs =>
    cases others with
    | nil => rfl
    | cons w ws =>
      simp only [agreesAll, Bool.and_eq_true] at h
      simp [agreesAllEndlessly, agreesEndlessly_of_agrees hend v h.1, agreesAllEndlessly_of_agreesAll hend vs h.2]
termination_by structural items

theorem agreesEntriesEndlessly_of_agreesEntries (hend : ∀ r s, same r s = true → endless r s = false)
    (entries : List (String × Value)) {others : List (String × Value)}
    (h : agreesEntries same entries others = true) :
    agreesEntriesEndlessly same' endless entries others = false := by
  cases entries with
  | nil => rfl
  | cons e es =>
    simp only [agreesEntries, Bool.and_eq_true] at h
    simp [agreesEntriesEndlessly, agreesEntryEndlessly_of_agreesEntry hend e h.1,
      agreesEntriesEndlessly_of_agreesEntries hend es h.2]
termination_by structural entries

theorem agreesEntryEndlessly_of_agreesEntry (hend : ∀ r s, same r s = true → endless r s = false)
    (entry : String × Value) {others : List (String × Value)}
    (h : agreesEntry same entry others = true) : agreesEntryEndlessly same' endless entry others = false := by
  obtain ⟨key, v⟩ := entry
  simp only [agreesEntry] at h
  simp only [agreesEntryEndlessly]
  split at h
  · exact agreesEndlessly_of_agrees hend v h
  · cases h
termination_by structural entry

end

theorem equalsEndlessly_of_equals (hend : ∀ r s, same r s = true → endless r s = false) {a b : Value}
    (h : a.equals same b = true) : a.equalsEndlessly same' endless b = false := by
  cases a with
  | register r =>
    cases b with
    | register s => exact hend r s h
    | _ => rfl
  | float x => rfl
  | _ => exact agreesEndlessly_of_agrees hend _ h

end Value

namespace Keywords

/-- Registers that can be compared to an end. -/
def Comparable (kw : Keywords) (r s : Register) : Prop :=
  kw.endless r s = false

variable {kw : Keywords} {rs : List Register} {r s : Register}

theorem checkComparable_register (kw : Keywords) (r s : Register) :
    kw.checkComparable (.register r) (.register s) =
      if kw.endless r s then .error (.value .endlessComparison) else .ok () := rfl

theorem checkComparable_eq_ok_iff :
    kw.checkComparable (.register r) (.register s) = .ok () ↔ kw.Comparable r s := by
  rw [checkComparable_register, Comparable]
  cases kw.endless r s <;> simp

theorem checkComparable_eq_error {fault : Fault}
    (h : kw.checkComparable (.register r) (.register s) = .error fault) :
    fault = .value .endlessComparison ∧ ¬ kw.Comparable r s := by
  rw [checkComparable_register] at h
  split at h
  · next hendless => exact ⟨(Except.error.inj h).symm, by simp [Comparable, hendless]⟩
  · cases h

/-- Registers that are found to be the same within some depth are compared within each larger one. -/
theorem endlessWithin_of_sameWithin {depth deeper : Nat} (hle : depth ≤ deeper)
    (h : kw.sameWithin depth r s = true) : kw.endlessWithin deeper r s = false := by
  induction depth generalizing r s deeper with
  | zero => cases h
  | succ depth ih =>
    obtain ⟨deeper, rfl⟩ := Nat.exists_eq_add_of_lt hle
    simp only [sameWithin, Bool.and_eq_true] at h
    exact Value.equalsEndlessly_of_equals (fun _ _ => ih (Nat.le_add_right depth deeper)) h.1.1

theorem comparable_of_same (h : kw.same r s = true) : kw.Comparable r s :=
  endlessWithin_of_sameWithin (Nat.le_mul_of_pos_left kw.depth (Nat.succ_pos _)) h

theorem contains_cons_iff {first : Register} {rest : List Register} :
    kw.contains (first :: rest) r = .ok true ↔
      (first = r ∨ kw.same first r = true) ∨ kw.Comparable first r ∧ kw.contains rest r = .ok true := by
  rw [contains]
  by_cases hself : first = r
  · simp [hself]
  · rw [if_neg (by simpa using hself)]
    by_cases hcomparable : kw.Comparable first r
    · rw [checkComparable_eq_ok_iff.mpr hcomparable]
      cases hsame : kw.same first r <;> simp [hself, hcomparable, bind, Except.bind, pure, Except.pure]
    · have hnot : ¬ kw.same first r = true := fun hsame => hcomparable (comparable_of_same hsame)
      cases hcheck : kw.checkComparable (.register first) (.register r) with
      | ok _ => exact absurd (checkComparable_eq_ok_iff.mp hcheck) hcomparable
      | error fault => simp [hself, hnot, hcomparable, bind, Except.bind]

/-- A register is found in a list at one that it is or that it is equal to, if it can be compared
    with all those before. -/
theorem contains_eq_ok_true_iff : kw.contains rs r = .ok true ↔
    ∃ before own after, rs = before ++ own :: after ∧ (∀ x ∈ before, kw.Comparable x r) ∧
      (own = r ∨ kw.same own r = true) := by
  induction rs with
  | nil => simp [contains]
  | cons first rest ih =>
    rw [contains_cons_iff, ih]
    constructor
    · rintro (hown | ⟨hfirst, before, own, after, rfl, hbefore, hown⟩)
      · exact ⟨[], first, rest, rfl, by simp, hown⟩
      · exact ⟨first :: before, own, after, rfl, List.forall_mem_cons.mpr ⟨hfirst, hbefore⟩, hown⟩
    · rintro ⟨before, own, after, hrs, hbefore, hown⟩
      cases before with
      | nil =>
        obtain ⟨rfl, rfl⟩ := List.cons.inj hrs
        exact .inl hown
      | cons x before =>
        obtain ⟨rfl, rfl⟩ := List.cons.inj hrs
        obtain ⟨hfirst, hbefore⟩ := List.forall_mem_cons.mp hbefore
        exact .inr ⟨hfirst, before, own, after, rfl, hbefore, hown⟩

/-- It is looked for in vain only where it cannot be compared with one of them. -/
theorem contains_eq_error {fault : Fault} (h : kw.contains rs r = .error fault) :
    fault = .value .endlessComparison ∧ ∃ x ∈ rs, ¬ kw.Comparable x r := by
  induction rs with
  | nil => cases h
  | cons first rest ih =>
    rw [contains] at h
    split at h
    · cases h
    · rcases Fault.bind_eq_error_iff.mp h with hcheck | ⟨_, _, h⟩
      · obtain ⟨hfault, hnot⟩ := checkComparable_eq_error hcheck
        exact ⟨hfault, first, List.mem_cons_self, hnot⟩
      · split at h
        · cases h
        · obtain ⟨hfault, x, hx, hnot⟩ := ih h
          exact ⟨hfault, x, List.mem_cons_of_mem _ hx, hnot⟩

end Keywords

end CircuitScribe
