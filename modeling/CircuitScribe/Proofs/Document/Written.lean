import CircuitScribe.Proofs.Document.Writable

namespace CircuitScribe.Document

namespace Reading

variable {st : Reading} {file : String} {number : Nat}

/-- A line with a name between brackets starts a section. -/
theorem readLine_header {name : List Char} (hname : name ≠ []) :
    st.readLine file number ('[' :: (name ++ [']']) ++ ['\n']) =
      ({ st with indent := 0 } : Reading).startSection file number (String.ofList name) := by
  have htrimmed : Text.IsTrimmed ('[' :: (name ++ [']'])) := by
    constructor
    · intro c hc
      obtain rfl : '[' = c := by simpa using hc
      decide
    · intro c hc
      rw [← List.cons_append, List.getLast?_concat] at hc
      obtain rfl : ']' = c := by simpa using hc
      decide
  have htrim : Text.trim ('[' :: (name ++ [']']) ++ ['\n']) = '[' :: (name ++ [']']) := by
    rw [Text.trim_concat Text.isBlank_feed, htrimmed.trim_eq]
  have hindent : Text.indentation ('[' :: (name ++ [']']) ++ ['\n']) = 0 :=
    Text.indentation_cons_of_not_blank (by decide) _
  simp only [readLine, htrim, hindent, header?_bracketed hname]
  simp

/-- An empty line adds an empty line to the value that is being collected. -/
theorem readLine_empty : st.readLine file number ['\n'] = .ok (st.collect []) := by
  have htrim : Text.trim ['\n'] = [] := by decide
  simp [readLine, htrim]

/-- A deeper line continues the value that is being collected, unless it is a comment. -/
theorem readLine_continuation (hcollecting : st.collecting.isSome = true) (hindent : st.indent = 0)
    (line : List Char) :
    st.readLine file number ('\t' :: line ++ ['\n']) =
      .ok (if IsComment (Text.trim line) then st else st.collect (Text.trim line)) := by
  have htrim : Text.trim ('\t' :: line ++ ['\n']) = Text.trim line := by
    rw [Text.trim_concat Text.isBlank_feed, Text.trim_cons Text.isBlank_tab]
  by_cases hcomment : IsComment (Text.trim line)
  · rw [if_pos hcomment]
    simp only [IsComment] at hcomment
    simp only [readLine, htrim, hcomment, if_true]
  · rw [if_neg hcomment]
    simp only [IsComment] at hcomment
    by_cases hempty : Text.trim line = []
    · simp only [readLine, htrim, hempty]
      simp
    · have hdeeper : 0 < Text.indentation ('\t' :: line ++ ['\n']) := by
        rw [List.cons_append]
        exact Text.indentation_cons_pos Text.isBlank_tab (by rwa [Text.trim_concat Text.isBlank_feed])
      simp only [readLine, htrim, hcomment, hcollecting, hindent, hdeeper, List.isEmpty_iff, hempty,
        if_false, and_self, if_true]

section Option

variable {key : String} {first : List Char}

theorem trim_optionLine (hkey : IsKey key) (first : List Char) :
    ∃ tail, Text.trim (key.toList ++ ' ' :: '=' :: ' ' :: first ++ ['\n']) =
        key.toList ++ ' ' :: '=' :: tail ∧ Text.trim tail = Text.trim first ∧
      ∀ c ∈ tail, c = ' ' ∨ c ∈ first := by
  have hkeyNe : key.toList ≠ [] := by simpa using hkey.ne_empty
  have hstart {rest : List Char} : Text.trim (key.toList ++ rest) = Text.trimEnd (key.toList ++ rest) := by
    rw [Text.trim, Text.trimStart_eq_self]
    rw [List.head?_append_of_ne_nil _ hkeyNe]
    exact hkey.head
  have hsplit : key.toList ++ ' ' :: '=' :: ' ' :: first = (key.toList ++ [' ']) ++ '=' :: ' ' :: first := by
    simp
  refine ⟨Text.trimEnd (' ' :: first), ?_, ?_, fun c hc => ?_⟩
  · rw [Text.trim_concat Text.isBlank_feed, hstart, hsplit, Text.trimEnd_append_cons (by decide)]
    simp
  · rw [Text.trim_trimEnd, Text.trim_cons Text.isBlank_space]
  · exact List.mem_cons.mp (Text.mem_of_mem_trimEnd hc)

theorem header?_optionLine {tail : List Char} (hkey : IsKey key) (hheader : NoHeader key.toList first)
    (htail : ∀ c ∈ tail, c = ' ' ∨ c ∈ first) : header? (key.toList ++ ' ' :: '=' :: tail) = none := by
  cases htext : key.toList with
  | nil => exact absurd (String.toList_eq_nil_iff.mp htext) hkey.ne_empty
  | cons c rest =>
    by_cases hopen : c = '['
    · subst hopen
      rw [htext] at hheader
      obtain ⟨hrest, hfirst⟩ := hheader rfl
      have htail : ']' ∉ tail := by
        intro hmem
        rcases htail _ hmem with hblank | hmem
        · exact absurd hblank (by decide)
        · exact hfirst hmem
      rw [List.cons_append, header?_eq_none_iff]
      cases rest with
      | nil => simpa using htail
      | cons d rest =>
        simp only [List.tail_cons] at hrest
        simp [hrest, htail]
    · rw [List.cons_append, header?]
      simpa using hopen

theorem option?_optionLine {tail : List Char} (hkey : IsKey key)
    (htail : Text.trim tail = Text.trim first) :
    option? (key.toList ++ ' ' :: '=' :: tail) = some (key.toList, Text.trim first) := by
  have hbefore : ∀ c ∈ key.toList ++ [' '], (!isDelimiter c) = true := by
    intro c hc
    rcases List.mem_append.mp hc with hc | hc
    · simp [hkey.no_delimiter c hc]
    · rw [List.mem_singleton.mp hc]
      decide
  have hsplit : key.toList ++ ' ' :: '=' :: tail = (key.toList ++ [' ']) ++ '=' :: tail := by simp
  have hdrop : (key.toList ++ ' ' :: '=' :: tail).dropWhile (!isDelimiter ·) = '=' :: tail := by
    rw [hsplit, List.dropWhile_append_of_pos hbefore]
    exact List.dropWhile_cons_of_neg (by decide)
  have htake : (key.toList ++ ' ' :: '=' :: tail).takeWhile (!isDelimiter ·) = key.toList ++ [' '] := by
    rw [hsplit, List.takeWhile_append_of_pos hbefore]
    simp [isDelimiter]
  have hraw : Text.trimEnd (key.toList ++ [' ']) = key.toList := by
    rw [Text.trimEnd_concat Text.isBlank_space, Text.trimEnd_eq_self hkey.last]
  simp only [option?, hdrop, htake, hraw, htail]

/-- The first line of an option starts it with the first line of its value. -/
theorem readLine_option {name : String} (hcurrent : st.current = some name) (hkey : IsKey key)
    (hheader : NoHeader key.toList first) :
    st.readLine file number (key.toList ++ ' ' :: '=' :: ' ' :: first ++ ['\n']) =
      ({ st with indent := 0 } : Reading).startOption file number name
        (Text.quote (String.ofList (key.toList ++ ' ' :: '=' :: ' ' :: first ++ ['\n']))) key.toList
        (Text.trim first) := by
  obtain ⟨tail, htrim, htail, hmem⟩ := trim_optionLine hkey first
  have hnone := header?_optionLine hkey hheader hmem
  have hoption := option?_optionLine hkey htail
  have hkeyNe : key.toList ≠ [] := by simpa using hkey.ne_empty
  have hcomment := hkey.not_comment
  have hhead : (key.toList ++ ' ' :: '=' :: tail).head? = key.toList.head? :=
    List.head?_append_of_ne_nil _ hkeyNe
  have hindent : Text.indentation (key.toList ++ ' ' :: '=' :: ' ' :: first ++ ['\n']) = 0 := by
    cases htext : key.toList with
    | nil => exact absurd htext hkeyNe
    | cons c rest => exact Text.indentation_cons_of_not_blank (hkey.head c (by simp [htext])) _
  simp only [IsComment] at hcomment
  simp only [readLine, htrim, hhead, hcomment, hindent, hnone, hoption, hcurrent]
  simp [hkeyNe]

end Option

end Reading

end CircuitScribe.Document
