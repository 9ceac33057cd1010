import CircuitScribe.Proofs.Document.Reading
import CircuitScribe.Proofs.Document.Writing

namespace CircuitScribe.Document

namespace Reading

variable {st st' : Reading} {file : String} {number : Nat}

/-- Brackets without a name between them are no header. Behind a header they are malformed, and
    before the first one they are refused at once. -/
theorem readLine_brackets (h : st.readLine file number ['[', ']', '\n'] = .ok st') :
    st'.malformed ≠ [] := by
  have htrim : Text.trim ['[', ']', '\n'] = ['[', ']'] := by decide
  have hindent : Text.indentation ['[', ']', '\n'] = 0 := by decide
  have hheader : header? ['[', ']'] = none := by decide
  have hoption : option? ['[', ']'] = none := by decide
  have hplain : ¬ (['[', ']'].head? = some '#' ∨ ['[', ']'].head? = some ';') := by decide
  simp only [readLine, htrim, hindent, hheader, hoption] at h
  cases hcurrent : st.current with
  | none => simp [hcurrent] at h
  | some name =>
    simp only [hcurrent, hplain, List.isEmpty_cons, Nat.not_lt_zero, and_false, if_false,
      Bool.false_eq_true] at h
    rw [← Except.ok.inj h]
    exact List.append_ne_nil_of_right_ne_nil _ (List.cons_ne_nil _ _)

theorem readLines_brackets {before after : List (List Char)}
    (h : readLines file st number (before ++ ['[', ']', '\n'] :: after) = (st', none)) :
    st'.malformed ≠ [] := by
  induction before generalizing st number with
  | nil =>
    rw [List.nil_append, readLines] at h
    split at h
    · next mid hline =>
      exact fun hempty => readLine_brackets hline (List.prefix_nil.mp (hempty ▸ readLines_malformed h))
    · cases h
  | cons line before ih =>
    simp only [List.cons_append, readLines] at h
    split at h
    · exact ih h
    · cases h

end Reading

/-- Lines that are written together, up to the one of brackets, are not mixed up with it. -/
theorem splitLines_brackets (before after : List (List Char)) :
    ∃ front back, Text.splitLines (Text.unifyLineEnds
      ((before ++ ['[', ']'] :: after).flatMap (· ++ ['\n']))) = front ++ ['[', ']', '\n'] :: back := by
  have hbrackets (rest : List Char) :
      Text.splitLines (Text.unifyLineEnds ('[' :: ']' :: '\n' :: rest)) =
        ['[', ']', '\n'] :: Text.splitLines (Text.unifyLineEnds rest) := by
    simp [Text.unifyLineEnds, Text.splitLines]
  have hjoined : (before ++ ['[', ']'] :: after).flatMap (· ++ ['\n']) =
      before.flatMap (· ++ ['\n']) ++ '[' :: ']' :: '\n' :: after.flatMap (· ++ ['\n']) := by
    simp
  rw [hjoined]
  rcases before.eq_nil_or_concat' with rfl | ⟨before, line, rfl⟩
  · exact ⟨[], _, hbrackets _⟩
  · obtain ⟨front, hfront⟩ := Text.unifyLineEnds_concat (before.flatMap (· ++ ['\n']) ++ line)
    have hlast : (before ++ [line]).flatMap (· ++ ['\n']) = before.flatMap (· ++ ['\n']) ++ line ++ ['\n'] := by
      simp
    rw [hlast, Text.unifyLineEnds_append (by decide), hfront, List.append_assoc, List.singleton_append,
      Text.splitLines_append_feed, hbrackets]
    exact ⟨_, _, rfl⟩

variable {d : Document}

/-- A document with a section that has no name cannot be read again once it is written. -/
theorem read_render_unnamed (h : "" ∈ d.sections.keys) (before : Document) (file : String) :
    ∃ fault, (read before file d.render).2 = some fault := by
  obtain ⟨s, hs, hname⟩ := List.mem_map.mp h
  obtain ⟨first, last, hsections⟩ := List.append_of_mem hs
  have hlines : ∃ front back, d.lines = front ++ ['[', ']'] :: back := by
    rw [lines, hsections, List.flatMap_append, List.flatMap_cons, sectionLines, hname,
      ← List.append_assoc]
    exact ⟨_, _, rfl⟩
  obtain ⟨front, back, hlines⟩ := hlines
  obtain ⟨before', after, hsplit⟩ := splitLines_brackets front back
  rw [← hlines, ← toList_render] at hsplit
  rw [read, hsplit]
  split
  · next fault _ => exact ⟨fault, rfl⟩
  · next st hread =>
    have hmalformed := Reading.readLines_brackets hread
    exact ⟨.malformed file st.malformed, by simp [hmalformed]⟩

end CircuitScribe.Document
