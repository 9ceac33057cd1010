import CircuitScribe.Text.Basic
import Mathlib.Data.List.DropRight

namespace CircuitScribe.Text

theorem isBlank_feed : isBlank '\n' = true := by decide

theorem isBlank_return : isBlank '\r' = true := by decide

theorem isBlank_tab : isBlank '\t' = true := by decide

theorem isBlank_space : isBlank ' ' = true := by decide

/-- A text that neither starts nor ends with a blank. -/
structure IsTrimmed (s : List Char) : Prop where
  head : ∀ c ∈ s.head?, isBlank c = false
  last : ∀ c ∈ s.getLast?, isBlank c = false

theorem isTrimmed_nil : IsTrimmed [] := ⟨by simp, by simp⟩

variable {s : List Char} {c : Char}

theorem trimEnd_eq_self (h : ∀ c ∈ s.getLast?, isBlank c = false) : trimEnd s = s := by
  apply List.rdropWhile_eq_self_iff.mpr
  intro hs
  simp [h _ (List.getLast?_eq_some_getLast hs)]

theorem trimStart_eq_self (h : ∀ c ∈ s.head?, isBlank c = false) : trimStart s = s := by
  cases s with
  | nil => rfl
  | cons d rest => simp [trimStart, h d (by simp)]

theorem IsTrimmed.trim_eq (h : IsTrimmed s) : trim s = s := by
  rw [trim, trimStart_eq_self h.head, trimEnd_eq_self h.last]

theorem trimEnd_isPrefix (s : List Char) : trimEnd s <+: s :=
  List.rdropWhile_prefix isBlank s

theorem last_trimEnd (s : List Char) : ∀ c ∈ (trimEnd s).getLast?, isBlank c = false := by
  intro c hc
  have hne : trimEnd s ≠ [] := by
    rintro hempty
    simp [hempty] at hc
  have hlast := List.rdropWhile_last_not isBlank s hne
  rw [List.getLast?_eq_some_getLast hne, Option.mem_some_iff] at hc
  rw [← hc]
  exact Bool.eq_false_iff.mpr hlast

theorem head_trimEnd (h : ∀ c ∈ s.head?, isBlank c = false) :
    ∀ c ∈ (trimEnd s).head?, isBlank c = false := by
  intro c hc
  obtain ⟨rest, hrest⟩ := trimEnd_isPrefix s
  apply h c
  rw [← hrest]
  cases hend : trimEnd s with
  | nil => simp [hend] at hc
  | cons d t => simpa [hend] using hc

theorem head_trimStart (s : List Char) : ∀ c ∈ (trimStart s).head?, isBlank c = false := by
  intro c hc
  have hnot := List.head?_dropWhile_not isBlank s
  rw [← trimStart, Option.mem_def.mp hc] at hnot
  exact Bool.eq_false_iff.mpr (by simpa using hnot)

theorem isTrimmed_trim (s : List Char) : IsTrimmed (trim s) :=
  ⟨head_trimEnd (head_trimStart s), last_trimEnd _⟩

theorem mem_of_mem_trimEnd (h : c ∈ trimEnd s) : c ∈ s :=
  (trimEnd_isPrefix s).subset h

theorem mem_of_mem_trim (h : c ∈ trim s) : c ∈ s :=
  (List.dropWhile_suffix isBlank).subset (mem_of_mem_trimEnd h)

theorem trimEnd_concat (hc : isBlank c = true) (s : List Char) : trimEnd (s ++ [c]) = trimEnd s :=
  List.rdropWhile_concat_pos isBlank s c hc

theorem trim_concat (hc : isBlank c = true) (s : List Char) : trim (s ++ [c]) = trim s := by
  rw [trim, trim, trimStart, trimStart, List.dropWhile_append]
  by_cases hs : (s.dropWhile isBlank).isEmpty = true
  · rw [if_pos hs, List.isEmpty_iff.mp hs]
    simp [hc]
  · rw [if_neg hs, trimEnd_concat hc]

theorem trim_cons (hc : isBlank c = true) (s : List Char) : trim (c :: s) = trim s := by
  rw [trim, trim, trimStart, List.dropWhile_cons_of_pos hc, trimStart]

theorem trim_trimEnd (s : List Char) : trim (trimEnd s) = trim s := by
  induction s using List.reverseRecOn with
  | nil => rfl
  | append_singleton s d ih =>
    by_cases hd : isBlank d = true
    · rw [trimEnd_concat hd, trim_concat hd, ih]
    · rw [trimEnd_eq_self]
      simpa using hd

/-- Only blanks behind the last character that is none are taken off. -/
theorem trimEnd_append_cons (hc : isBlank c = false) (s t : List Char) :
    trimEnd (s ++ c :: t) = s ++ c :: trimEnd t := by
  induction t using List.reverseRecOn with
  | nil =>
    apply trimEnd_eq_self
    simpa using hc
  | append_singleton t d ih =>
    rw [← List.cons_append, ← List.append_assoc]
    by_cases hd : isBlank d = true
    · rw [trimEnd_concat hd, trimEnd_concat hd, ih]
    · have hlast {u : List Char} : trimEnd (u ++ [d]) = u ++ [d] :=
        trimEnd_eq_self (by simpa using hd)
      rw [hlast, hlast, List.append_assoc, List.cons_append]

theorem indentation_cons_of_not_blank (hc : isBlank c = false) (s : List Char) :
    indentation (c :: s) = 0 := by
  simp [indentation, hc]

theorem trim_eq_nil_of_all (h : s.all isBlank = true) : trim s = [] := by
  have hstart : trimStart s = [] := List.dropWhile_eq_nil_iff.mpr (List.all_eq_true.mp h)
  rw [trim, hstart]
  rfl

theorem indentation_cons_pos (hc : isBlank c = true) (hs : trim s ≠ []) : 0 < indentation (c :: s) := by
  have hall : ¬ (c :: s).all isBlank = true := by
    rw [List.all_cons, hc, Bool.true_and]
    exact mt trim_eq_nil_of_all hs
  rw [indentation, if_neg hall, List.takeWhile_cons_of_pos hc, List.length_cons]
  exact Nat.succ_pos _

end CircuitScribe.Text
