import CircuitScribe.Proofs.Program.Reading

namespace CircuitScribe

theorem isNameLetter_of_mem_decimal {ch : Char} {n : Nat} (h : ch ∈ (toString n).toList) :
    isNameLetter ch = true := by
  by_contra hletter
  exact not_mem_decimal n (Bool.eq_false_iff.mpr hletter) h

theorem isIdentifier_append {s t : List Char} (hs : isIdentifier s = true)
    (ht : ∀ ch ∈ t, isNameLetter ch = true) : isIdentifier (s ++ t) = true := by
  cases s with
  | nil => cases hs
  | cons c rest =>
    simp only [isIdentifier, Bool.and_eq_true, List.all_eq_true] at hs
    simp only [List.cons_append, isIdentifier, List.all_append, Bool.and_eq_true, List.all_eq_true]
    exact ⟨hs.1, hs.2, ht⟩

/-- Numbers behind the same stem are told apart. -/
theorem numbered_inj {stem : String} {n n' : Nat} (h : stem ++ toString n = stem ++ toString n') : n = n' := by
  have hlists := congrArg String.toList h
  simp only [String.toList_append] at hlists
  exact decimal_inj (List.append_cancel_left hlists)

namespace RegisterKind

/-- The name that is generated for a register of a kind after `n` names for that kind. -/
def generatedName (kind : RegisterKind) (n : Nat) : String :=
  kind.stem ++ toString n

theorem generatedName_inj {kind kind' : RegisterKind} {n n' : Nat}
    (h : kind.generatedName n = kind'.generatedName n') : kind = kind' ∧ n = n' := by
  have hlists := congrArg String.toList h
  simp only [generatedName, String.toList_append] at hlists
  -- The stems of two kinds begin with different letters.
  obtain rfl : kind = kind' := by cases kind <;> cases kind' <;> simp [stem] at hlists ⊢
  exact ⟨rfl, numbered_inj h⟩

theorem isRegisterName_generatedName (kind : RegisterKind) (n : Nat) :
    isRegisterName (kind.generatedName n) = true := by
  have hstem : isIdentifier kind.stem.toList = true := by cases kind <;> decide
  have hname : isIdentifier (kind.generatedName n).toList = true := by
    rw [generatedName, String.toList_append]
    exact isIdentifier_append hstem fun _ => isNameLetter_of_mem_decimal
  rw [isRegisterName, hname, Bool.true_or]

end RegisterKind

end CircuitScribe
