import CircuitScribe.Value.Access
import Mathlib.Algebra.Group.Nat.Defs
import Mathlib.Tactic.Common

namespace CircuitScribe

/-- Steps that may fail succeed together if each of them does. -/
theorem Fault.bind_eq_ok_iff {α β : Type} {x : Except Fault α} {f : α → Except Fault β} {b : β} :
    (x >>= f) = .ok b ↔ ∃ a, x = .ok a ∧ f a = .ok b := by
  cases x <;> simp [bind, Except.bind]

/-- And they fail as the first of them that does. -/
theorem Fault.bind_eq_error_iff {α β : Type} {x : Except Fault α} {f : α → Except Fault β}
    {fault : Fault} :
    (x >>= f) = .error fault ↔ x = .error fault ∨ ∃ a, x = .ok a ∧ f a = .error fault := by
  cases x <;> simp [bind, Except.bind]

/-- A check of all items accepts each of them. -/
theorem Fault.forM_eq_ok_iff {α : Type} {check : α → Except Fault Unit} {items : List α} :
    items.forM check = .ok () ↔ ∀ a ∈ items, check a = .ok () := by
  induction items with
  | nil => exact ⟨fun _ _ h => absurd h List.not_mem_nil, fun _ => rfl⟩
  | cons a rest ih =>
    have hcons : (a :: rest).forM check = check a >>= fun _ => rest.forM check := rfl
    rw [hcons, Fault.bind_eq_ok_iff, List.forall_mem_cons, ← ih]
    exact ⟨fun ⟨_, ha, hrest⟩ => ⟨ha, hrest⟩, fun ⟨ha, hrest⟩ => ⟨(), ha, hrest⟩⟩

/-- Checks that come to the same on each item come to the same on all of them. -/
theorem Fault.forM_map_congr {α β : Type} {check : β → Except Fault Unit} {check' : α → Except Fault Unit}
    {f : α → β} {items : List α} (h : ∀ a ∈ items, check (f a) = check' a) :
    (items.map f).forM check = items.forM check' := by
  induction items with
  | nil => rfl
  | cons a rest ih =>
    have hcons : (a :: rest).forM check' = check' a >>= fun _ => rest.forM check' := rfl
    have hcons' : ((a :: rest).map f).forM check = check (f a) >>= fun _ => (rest.map f).forM check := rfl
    rw [hcons, hcons', h a List.mem_cons_self, ih fun b hb => h b (List.mem_cons_of_mem a hb)]

/-- And it fails as it does on one of them. -/
theorem Fault.exists_of_forM_eq_error {α : Type} {check : α → Except Fault Unit} {items : List α}
    {fault : Fault} (h : items.forM check = .error fault) : ∃ a ∈ items, check a = .error fault := by
  induction items with
  | nil => cases h
  | cons a rest ih =>
    have hcons : (a :: rest).forM check = check a >>= fun _ => rest.forM check := rfl
    rw [hcons, Fault.bind_eq_error_iff] at h
    rcases h with h | ⟨_, _, h⟩
    · exact ⟨a, List.mem_cons_self, h⟩
    · obtain ⟨b, hb, hfault⟩ := ih h
      exact ⟨b, List.mem_cons_of_mem _ hb, hfault⟩

/-- The fault of a text that cannot be made: it would have too many digits, or shows a value in
    too many others. -/
def Fault.IsPrinting (fault : Fault) : Prop :=
  fault = .value .tooManyDigits ∨ fault = .value .tooDeep

theorem Fault.IsPrinting.operand?_eq_none {fault : Fault} (h : fault.IsPrinting) : fault.operand? = none := by
  rcases h with rfl | rfl <;> rfl

/-- The numbers of up to `count` digits. -/
theorem fitsDigits_iff (count n : Nat) : fitsDigits count n = true ↔ n < 10 ^ count := by
  induction count generalizing n with
  | zero => simp [fitsDigits]
  | succ count ih =>
    have hdiv : n / 10 < 10 ^ count ↔ n < 10 ^ count * 10 := Nat.div_lt_iff_lt_mul (by decide)
    have hpos : 0 < 10 ^ count * 10 := Nat.mul_pos (Nat.pow_pos (by decide)) (by decide)
    simp only [fitsDigits, Bool.or_eq_true, beq_iff_eq, ih, hdiv, Nat.pow_succ]
    omega

theorem checkDigits_eq_ok_iff {n : Nat} : checkDigits n = .ok () ↔ n < 10 ^ maxDigits := by
  simp [checkDigits, ← fitsDigits_iff]

theorem checkDigits_of_lt {n : Nat} (h : n < 10 ^ maxDigits) : checkDigits n = .ok () :=
  checkDigits_eq_ok_iff.mpr h

theorem checkDigits_of_le {n : Nat} (h : 10 ^ maxDigits ≤ n) :
    checkDigits n = .error (.value .tooManyDigits) := by
  rw [checkDigits, if_neg]
  rw [fitsDigits_iff]
  omega

theorem checkDigits_eq_error {n : Nat} {fault : Fault} (h : checkDigits n = .error fault) :
    10 ^ maxDigits ≤ n ∧ fault = .value .tooManyDigits := by
  by_cases hn : n < 10 ^ maxDigits
  · rw [checkDigits_of_lt hn] at h
    cases h
  · rw [checkDigits_of_le (by omega)] at h
    exact ⟨by omega, (Except.error.inj h).symm⟩

namespace Value

/-- A text is made of a value that can be shown. -/
theorem printed_eq_ok_iff {v : Value} {text : String} :
    v.printed = .ok text ↔ v.checkPrint = .ok () ∧ text = v.text := by
  rw [printed, Fault.bind_eq_ok_iff]
  constructor
  · rintro ⟨⟨⟩, h, ⟨⟩⟩
    exact ⟨h, rfl⟩
  · rintro ⟨h, rfl⟩
    exact ⟨(), h, rfl⟩

theorem printed_eq_error_iff {v : Value} {fault : Fault} :
    v.printed = .error fault ↔ v.checkPrint = .error fault := by
  rw [printed, Fault.bind_eq_error_iff]
  simp [pure, Except.pure]

theorem printedLiteral_eq_error_iff {v : Value} {fault : Fault} :
    v.printedLiteral = .error fault ↔ v.checkPrint = .error fault := by
  rw [printedLiteral, Fault.bind_eq_error_iff]
  simp [pure, Except.pure]

/-- A pair of a register and a position shows the size of the register and the position. -/
theorem checkPrint_pair (r : Register) (n : Int) :
    (tuple [register r, int n]).checkPrint =
      if n.natAbs < 10 ^ maxDigits ∧ r.size < 10 ^ maxDigits then .ok ()
      else .error (.value .tooManyDigits) := by
  have hpair : (tuple [register r, int n]).checkPrint = (do
      checkDigits r.size
      checkDigits n.natAbs
      pure ()) := rfl
  rw [hpair]
  by_cases hr : r.size < 10 ^ maxDigits
  · by_cases hn : n.natAbs < 10 ^ maxDigits
    · rw [checkDigits_of_lt hr, checkDigits_of_lt hn, if_pos ⟨hn, hr⟩]
      rfl
    · rw [checkDigits_of_lt hr, checkDigits_of_le (Nat.le_of_not_lt hn), if_neg (fun h => hn h.1)]
      rfl
  · rw [checkDigits_of_le (Nat.le_of_not_lt hr), if_neg (fun h => hr h.2)]
    rfl

mutual

/-- Printing a value fails only with the faults of printing. -/
theorem isPrinting_of_checkPrintWithin (v : Value) (room : Nat) {fault : Fault}
    (h : v.checkPrintWithin room = .error fault) : fault.IsPrinting := by
  have hdigits {n : Nat} (h : checkDigits n = .error fault) : fault.IsPrinting :=
    .inl (checkDigits_eq_error h).2
  have hbound {bound : Option Int} (h : checkBound bound = .error fault) : fault.IsPrinting := by
    cases bound with
    | none => cases h
    | some n => exact hdigits h
  cases v with
  | int n => exact hdigits h
  | register r => exact hdigits h
  | list items =>
    cases room with
    | zero => exact .inr (Except.error.inj h).symm
    | succ room => exact isPrinting_of_checkPrintAll items room h
  | tuple items =>
    cases room with
    | zero => exact .inr (Except.error.inj h).symm
    | succ room => exact isPrinting_of_checkPrintAll items room h
  | dict entries =>
    cases room with
    | zero => exact .inr (Except.error.inj h).symm
    | succ room => exact isPrinting_of_checkPrintEntries entries room h
  | slice start stop step =>
    rw [checkPrintWithin, Fault.bind_eq_error_iff] at h
    rcases h with h | ⟨_, _, h⟩
    · exact hbound h
    · rcases Fault.bind_eq_error_iff.mp h with h | ⟨_, _, h⟩
      · exact hbound h
      · exact hbound h
  | _ => cases h

theorem isPrinting_of_checkPrintAll (items : List Value) (room : Nat) {fault : Fault}
    (h : checkPrintAll items room = .error fault) : fault.IsPrinting := by
  cases items with
  | nil => cases h
  | cons v vs =>
    rw [checkPrintAll, Fault.bind_eq_error_iff] at h
    rcases h with h | ⟨_, _, h⟩
    · exact isPrinting_of_checkPrintWithin v room h
    · exact isPrinting_of_checkPrintAll vs room h

theorem isPrinting_of_checkPrintEntries (entries : List (String × Value)) (room : Nat) {fault : Fault}
    (h : checkPrintEntries entries room = .error fault) : fault.IsPrinting := by
  cases entries with
  | nil => cases h
  | cons e es =>
    rw [checkPrintEntries, Fault.bind_eq_error_iff] at h
    rcases h with h | ⟨_, _, h⟩
    · exact isPrinting_of_checkPrintEntry e room h
    · exact isPrinting_of_checkPrintEntries es room h

theorem isPrinting_of_checkPrintEntry (entry : String × Value) (room : Nat) {fault : Fault}
    (h : checkPrintEntry entry room = .error fault) : fault.IsPrinting := by
  obtain ⟨key, v⟩ := entry
  exact isPrinting_of_checkPrintWithin v room h

end

theorem isPrinting_of_checkPrint {v : Value} {fault : Fault} (h : v.checkPrint = .error fault) :
    fault.IsPrinting :=
  isPrinting_of_checkPrintWithin v maxDepth h

end Value

namespace Register

/-- The refusal of a whole position names it and the size of the register, unless one of them has
    too many digits. -/
theorem refuse_int {α : Type} (r : Register) (n : Int) :
    (r.refuse (.int n) : Except Fault α) =
      if n.natAbs < 10 ^ maxDigits ∧ r.size < 10 ^ maxDigits then
        .error (.operand (.outOfRange r (.int n) (toString n)))
      else .error (.value .tooManyDigits) := by
  unfold refuse Value.decimal Value.truncated decimalText
  by_cases hn : n.natAbs < 10 ^ maxDigits
  · by_cases hr : r.size < 10 ^ maxDigits
    · rw [if_pos ⟨hn, hr⟩]
      simp only [bind, Except.bind, checkDigits_of_lt hn, checkDigits_of_lt hr]
      rfl
    · rw [if_neg (fun h => hr h.2)]
      simp only [bind, Except.bind, checkDigits_of_lt hn, checkDigits_of_le (Nat.le_of_not_lt hr)]
      rfl
  · rw [if_neg (fun h => hn h.1)]
    simp only [bind, Except.bind, checkDigits_of_le (Nat.le_of_not_lt hn)]

theorem refuse_ne_ok {α : Type} (r : Register) (index : Value) (a : α) : r.refuse index ≠ .ok a := by
  intro h
  simp only [refuse, Fault.bind_eq_ok_iff] at h
  obtain ⟨_, _, _, _, h⟩ := h
  cases h

end Register

end CircuitScribe
