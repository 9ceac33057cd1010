import CircuitScribe.Line
import CircuitScribe.Register

/-! Texts that can be taken apart in one way only. -/

namespace CircuitScribe.Text

/-- The part of a text before the first place of a character is determined. -/
theorem append_cons_inj {a : Char} {x y r s : List Char} (hx : a ∉ x) (hy : a ∉ y)
    (h : x ++ a :: r = y ++ a :: s) : x = y ∧ r = s := by
  induction x generalizing y with
  | nil =>
    cases y with
    | nil => simpa using h
    | cons c y =>
      obtain ⟨rfl, _⟩ := List.cons.inj h
      exact absurd List.mem_cons_self hy
  | cons b x ih =>
    cases y with
    | nil =>
      obtain ⟨rfl, _⟩ := List.cons.inj h
      exact absurd List.mem_cons_self hx
    | cons c y =>
      obtain ⟨rfl, htail⟩ := List.cons.inj h
      obtain ⟨rfl, hrest⟩ := ih (fun hb => hx (List.mem_cons_of_mem _ hb))
        (fun hc => hy (List.mem_cons_of_mem _ hc)) htail
      exact ⟨rfl, hrest⟩

/-- Pieces that end with a character which they do not contain can be told apart in their
    concatenation. -/
theorem flatMap_terminated_inj {a : Char} {rest : List Char} {xs ys : List (List Char)}
    (hxs : ∀ x ∈ xs, a ∉ x) (hys : ∀ y ∈ ys, a ∉ y)
    (h : xs.flatMap (· ++ a :: rest) = ys.flatMap (· ++ a :: rest)) : xs = ys := by
  induction xs generalizing ys with
  | nil =>
    cases ys with
    | nil => rfl
    | cons y ys => simp at h
  | cons x xs ih =>
    cases ys with
    | nil => simp at h
    | cons y ys =>
      simp only [List.flatMap_cons, List.append_assoc, List.cons_append] at h
      obtain ⟨rfl, htail⟩ := append_cons_inj (hxs x List.mem_cons_self) (hys y List.mem_cons_self) h
      rw [ih (fun x hx => hxs x (List.mem_cons_of_mem _ hx))
        (fun y hy => hys y (List.mem_cons_of_mem _ hy)) (List.append_cancel_left htail)]

theorem mem_intercalate {a ch : Char} {xs : List (List Char)} (h : ch ∈ [a].intercalate xs) :
    ch = a ∨ ∃ x ∈ xs, ch ∈ x := by
  induction xs with
  | nil => simp at h
  | cons x xs ih =>
    cases xs with
    | nil => exact .inr ⟨x, by simp, by simpa using h⟩
    | cons y ys =>
      simp only [List.intercalate_cons_cons, List.mem_append, List.mem_singleton] at h
      rcases h with (hx | ha) | hrest
      · exact .inr ⟨x, by simp, hx⟩
      · exact .inl ha
      · rcases ih hrest with ha | ⟨z, hz, hmem⟩
        · exact .inl ha
        · exact .inr ⟨z, List.mem_cons_of_mem x hz, hmem⟩

/-- So can non-empty pieces that are separated by such a character. -/
theorem intercalate_inj {a : Char} {xs ys : List (List Char)} (hxs : ∀ x ∈ xs, a ∉ x ∧ x ≠ [])
    (hys : ∀ y ∈ ys, a ∉ y ∧ y ≠ []) (h : [a].intercalate xs = [a].intercalate ys) : xs = ys := by
  by_cases hx : xs = []
  · subst hx
    cases ys with
    | nil => rfl
    | cons y ys =>
      have hempty : y = [] := by
        cases ys <;> simp_all [List.intercalate]
      exact absurd hempty (hys y List.mem_cons_self).2
  · by_cases hy : ys = []
    · subst hy
      cases xs with
      | nil => rfl
      | cons x xs =>
        have hempty : x = [] := by
          cases xs <;> simp_all [List.intercalate]
        exact absurd hempty (hxs x List.mem_cons_self).2
    · rw [← List.splitOn_intercalate a (fun x hx => (hxs x hx).1) hx, h,
        List.splitOn_intercalate a (fun y hy => (hys y hy).1) hy]

end CircuitScribe.Text
