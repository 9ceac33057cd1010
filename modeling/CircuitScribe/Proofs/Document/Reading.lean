import CircuitScribe.Proofs.Document.Line

namespace CircuitScribe.Document

namespace Reading

/-- A reading that leaves a canonical document behind whenever it ends, as long as no line has
    been malformed. -/
structure Sane (st : Reading) : Prop where
  document : st.document.Canonical
  current : ∀ name, st.current = some name → name ≠ defaultsName → IsSectionName name
  collecting : ∀ key lines, st.collecting = some (key, lines) →
    IsKey key ∧ IsCollected key.toList lines

variable {st st' : Reading} {file : String} {number : Nat} {line : List Char}

theorem Sane.close (h : st.Sane) : st.close.Canonical := by
  unfold Reading.close
  split
  · next name key lines hcurrent hcollecting =>
    obtain ⟨hkey, hlines⟩ := h.collecting key lines hcollecting
    exact h.document.put (h.current name hcurrent) hkey hlines.isValue
  · exact h.document

theorem Sane.collect (h : st.Sane) (hline : IsLine line) (hcomment : ¬ IsComment line) :
    (st.collect line).Sane := by
  refine ⟨h.document, h.current, fun key lines hcollecting => ?_⟩
  obtain ⟨⟨key', lines'⟩, hbefore, heq⟩ := Option.map_eq_some_iff.mp hcollecting
  obtain ⟨rfl, rfl⟩ := Prod.mk.inj heq
  obtain ⟨hkey, hlines⟩ := h.collecting key' lines' hbefore
  exact ⟨hkey, hlines.concat hline hcomment⟩

theorem startSection_malformed {name : String} (h : st.startSection file number name = .ok st') :
    st'.malformed = st.malformed := by
  unfold Reading.startSection at h
  split at h <;> cases h
  rfl

theorem startOption_malformed {name literal : String} {raw value : List Char}
    (h : st.startOption file number name literal raw value = .ok st') :
    st.malformed <+: st'.malformed := by
  unfold Reading.startOption at h
  simp only at h
  split at h <;> cases h
  simp only
  split
  · exact List.prefix_append _ _
  · exact List.prefix_refl _

/-- Malformed lines are not forgotten. -/
theorem readLine_malformed (h : st.readLine file number line = .ok st') :
    st.malformed <+: st'.malformed := by
  unfold readLine at h
  simp only at h
  split at h
  · cases h
    exact List.prefix_refl _
  · split at h
    · cases h
      exact List.prefix_refl _
    · split at h
      · cases h
        exact List.prefix_refl _
      · split at h
        · exact (startSection_malformed h).symm ▸ List.prefix_refl _
        · cases h
        · split at h
          · exact (startOption_malformed h :)
          · cases h
            exact List.prefix_append _ _

theorem readLines_malformed {lines : List (List Char)}
    (h : readLines file st number lines = (st', none)) : st.malformed <+: st'.malformed := by
  induction lines generalizing st number with
  | nil =>
    cases h
    exact List.prefix_refl _
  | cons line rest ih =>
    simp only [readLines] at h
    split at h
    · next next hline => exact (readLine_malformed hline).trans (ih h)
    · cases h

/-- A header enters a section of the name in it. -/
theorem Sane.startSection (h : st.Sane) {name : String} (hname : name ≠ defaultsName → IsSectionName name)
    (hstart : st.startSection file number name = .ok st') : st'.Sane := by
  unfold Reading.startSection at hstart
  split at hstart
  · cases hstart
  · cases hstart
    refine ⟨h.close.withSection hname, fun n hn => ?_, by simp⟩
    rw [← Option.some.inj hn]
    exact hname

/-- An option with a name starts to collect its value. -/
theorem Sane.startOption (h : st.Sane) {name literal : String} {raw value : List Char}
    (hcurrent : st.current = some name)
    (hline : raw ≠ [] → IsRawKey raw ∧ IsLine value ∧ NoHeader raw value)
    (hstart : st.startOption file number name literal raw value = .ok st') (hok : st'.malformed = []) :
    st'.Sane := by
  unfold Reading.startOption at hstart
  simp only at hstart
  split at hstart
  · cases hstart
  · cases hstart
    have hne : raw ≠ [] := by
      rintro rfl
      simp at hok
    obtain ⟨hraw, hvalue, hheader⟩ := hline hne
    have hkey := hraw.isKey hne
    have htext : (optionName (String.ofList raw)).toList = Text.lowerAfter [] raw := by
      rw [optionName, Text.toList_lower, String.toList_ofList]
    have hcollected : IsCollected (optionName (String.ofList raw)).toList [value] :=
      isCollected_single hvalue (htext ▸ hheader.lower)
    have hjoined : joinLines [value] = String.ofList value := by
      simp [joinLines, List.intercalate, Text.trimEnd_eq_self hvalue.last]
    refine ⟨?_, h.current, ?_⟩
    · exact h.close.put (h.current name hcurrent) hkey (hjoined ▸ hcollected.isValue)
    · intro key lines hcollecting
      simp only [hkey.ne_empty, if_false, Option.some.injEq, Prod.mk.injEq] at hcollecting
      obtain ⟨rfl, rfl⟩ := hcollecting
      exact ⟨hkey, hcollected⟩

/-- What one line does to a reading, unless it is malformed. -/
theorem readLine_sane (h : st.Sane) (hfeed : '\n' ∉ Text.trim line) (hreturn : '\r' ∉ Text.trim line)
    (hread : st.readLine file number line = .ok st') (hok : st'.malformed = []) : st'.Sane := by
  have hline : IsLine (Text.trim line) := ⟨Text.isTrimmed_trim line, hfeed, hreturn⟩
  unfold readLine at hread
  simp only at hread
  split at hread
  · cases hread
    exact h
  · next hcomment =>
    split at hread
    · cases hread
      exact h.collect isLine_nil not_isComment_nil
    · split at hread
      · cases hread
        exact h.collect hline hcomment
      · -- The line starts anew, so its indentation is the one to compare with.
        have hindented : Sane { st with indent := Text.indentation line } :=
          ⟨h.document, h.current, h.collecting⟩
        split at hread
        · next name hheader =>
          refine hindented.startSection (fun hdefaults => ?_) hread
          refine ⟨fun hempty => ne_nil_of_header? hheader (by simpa using hempty), hdefaults, ?_, ?_⟩
          · rw [String.toList_ofList]
            exact fun hmem => hfeed (mem_of_header? hheader _ hmem)
          · rw [String.toList_ofList]
            exact fun hmem => hreturn (mem_of_header? hheader _ hmem)
        · cases hread
        · next name hheader hcurrent =>
          split at hread
          · next raw value hoption =>
            exact hindented.startOption hcurrent (option?_spec hline hcomment hheader hoption) hread hok
          · cases hread
            simp at hok

/-- What a run of lines does to a reading, unless one of them is malformed. -/
theorem readLines_sane {lines : List (List Char)}
    (hlines : ∀ line ∈ lines, '\n' ∉ Text.trim line ∧ '\r' ∉ Text.trim line) (h : st.Sane)
    (hread : readLines file st number lines = (st', none)) (hok : st'.malformed = []) : st'.Sane := by
  induction lines generalizing st number with
  | nil =>
    cases hread
    exact h
  | cons line rest ih =>
    simp only [readLines] at hread
    split at hread
    · next next hline =>
      obtain ⟨hfeed, hreturn⟩ := hlines line List.mem_cons_self
      have hnext : next.malformed = [] := List.prefix_nil.mp (hok ▸ readLines_malformed hread)
      exact ih (fun l hl => hlines l (List.mem_cons_of_mem _ hl))
        (readLine_sane h hfeed hreturn hline hnext) hread
    · cases hread

end Reading

variable {d : Document} {file : String}

/-- What is read without a fault is canonical. -/
theorem read_canonical {text : String} (h : read {} file text = (d, none)) : d.Canonical := by
  unfold read at h
  split at h
  · cases h
  · next st hread =>
    obtain ⟨rfl, hmalformed⟩ := Prod.mk.inj h
    have hok : st.malformed = [] := by
      simpa using hmalformed
    have hinit : Reading.Sane { document := {} } := ⟨canonical_empty, by simp, by simp⟩
    have hclose := (Reading.readLines_sane (fun _ => Text.not_mem_trim_line) hinit hread hok).close
    exact ⟨rfl, hclose.names_nodup, hclose.name, hclose.defaults, hclose.sections⟩

theorem readBytes_canonical {content : ByteArray} (h : readBytes {} file content = (d, none)) :
    d.Canonical := by
  unfold readBytes at h
  split at h
  · exact read_canonical h
  · simp only [Prod.mk.injEq, reduceCtorEq, and_false] at h

end CircuitScribe.Document
