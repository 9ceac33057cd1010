import CircuitScribe.Document.Reader
import CircuitScribe.Proofs.Document.Canonical
import CircuitScribe.Proofs.Document.Edits
import Mathlib.Data.List.Nodup

namespace CircuitScribe.Document

namespace Reading

/-- A reading at the same point of the text, but into another document. -/
def into (st : Reading) (d : Document) : Reading :=
  { st with document := d }

/-- What a reading has done so far to the document that it started with, in edits. No option is stored
    twice, and the last one stored is the one whose value is being collected, if there is one. -/
structure Records (start : Document) (st : Reading) (edits : List Edit) : Prop where
  close : st.close = start.edited edits
  entered : ∀ name ∈ st.sections, st.document.hasSection name = true
  stored : ∀ o ∈ edits.filterMap Edit.target?, o ∈ st.options
  nodup : (edits.filterMap Edit.target?).Nodup
  last : ∀ key lines, st.collecting = some (key, lines) → ∃ name before,
    st.current = some name ∧ edits = before ++ [.store name key (joinLines lines)]

variable {start d : Document} {st : Reading} {edits : List Edit} {file name key : String} {number : Nat}
  {line : List Char} {step step' : Reading → Except DocumentFault Reading}

theorem records_start (d : Document) : Records d (into { document := {} } d) [] :=
  ⟨rfl, by simp [into], by simp, List.nodup_nil, by simp [into]⟩

theorem hasSection_close (h : st.document.hasSection name = true) : st.close.hasSection name = true := by
  unfold Reading.close
  split
  · exact hasSection_put_of_hasSection h _ _ _
  · exact h

/-- One step of a reading makes the same of every document: it fails in the same way, or goes on in the
    same way and has done the same edits then. -/
def StepsAlike (st : Reading) (edits : List Edit) (step : Reading → Except DocumentFault Reading) : Prop :=
  (∃ fault, ∀ start d, Records start (st.into d) edits → step (st.into d) = .error fault) ∨
  ∃ (st' : Reading) (edits' : List Edit), ∀ start d, Records start (st.into d) edits →
    ∃ d', step (st.into d) = .ok (st'.into d') ∧ Records start (st'.into d') edits'

theorem StepsAlike.congr (h : StepsAlike st edits step') (heq : ∀ d, step (st.into d) = step' (st.into d)) :
    StepsAlike st edits step := by
  simpa only [StepsAlike, heq] using h

theorem stepsAlike_self (st : Reading) (edits : List Edit) : StepsAlike st edits .ok :=
  .inr ⟨st, edits, fun _ d h => ⟨d, rfl, h⟩⟩

/-- Neither the indentation nor the malformed lines show in a document. -/
theorem Records.withLine (h : Records start st edits) (indent : Nat) (malformed : List (Nat × String)) :
    Records start { st with indent := indent, malformed := malformed } edits :=
  ⟨h.close, h.entered, h.stored, h.nodup, h.last⟩

/-- A step may start from another indentation. -/
theorem StepsAlike.indented {indent : Nat} (h : StepsAlike { st with indent := indent } edits step) :
    StepsAlike st edits fun st => step { st with indent := indent } := by
  rcases h with ⟨fault, h⟩ | ⟨st', edits', h⟩
  · exact .inl ⟨fault, fun start d hd => h start d (hd.withLine indent st.malformed)⟩
  · exact .inr ⟨st', edits', fun start d hd => h start d (hd.withLine indent st.malformed)⟩

/-- A further line changes the value that was stored last. -/
theorem Records.collect {lines : List (List Char)} {before : List Edit}
    (h : Records start st (before ++ [.store name key (joinLines lines)]))
    (hcurrent : st.current = some name) (hcollecting : st.collecting = some (key, lines))
    (line : List Char) :
    Records start (st.collect line) (before ++ [.store name key (joinLines (lines ++ [line]))]) := by
  have hafter : (st.collect line).collecting = some (key, lines ++ [line]) := by
    simp [Reading.collect, hcollecting]
  have htargets (value value' : String) :
      (before ++ [Edit.store name key value]).filterMap Edit.target? =
        (before ++ [Edit.store name key value']).filterMap Edit.target? := by
    simp [Edit.target?]
  refine ⟨?_, h.entered, ?_, ?_, ?_⟩
  · -- The value that was there before does not show behind the new one.
    have hclose : st.document.put name key (joinLines lines) =
        (start.edited before).put name key (joinLines lines) := by
      have hclose := h.close
      rwa [edited_concat, Reading.close, hcurrent, hcollecting] at hclose
    calc (st.collect line).close = st.document.put name key (joinLines (lines ++ [line])) := by
          rw [Reading.close, hafter, show (st.collect line).current = some name from hcurrent]
          rfl
      _ = (start.edited before).put name key (joinLines (lines ++ [line])) := by
          rw [← put_put st.document name key (joinLines lines), hclose, put_put]
      _ = start.edited (before ++ [.store name key (joinLines (lines ++ [line]))]) := by
          rw [edited_concat]
          rfl
  · rw [htargets _ (joinLines lines)]
    exact h.stored
  · rw [htargets _ (joinLines lines)]
    exact h.nodup
  · intro key' lines' hcollecting'
    obtain ⟨rfl, rfl⟩ := Prod.mk.inj (Option.some.inj (hafter.symm.trans hcollecting'))
    exact ⟨name, before, hcurrent, rfl⟩

theorem stepsAlike_collect (st : Reading) (edits : List Edit) (line : List Char) :
    StepsAlike st edits fun st => .ok (st.collect line) := by
  cases hcollecting : st.collecting with
  | none =>
    refine (stepsAlike_self st edits).congr fun d => ?_
    simp [into, Reading.collect, hcollecting]
  | some entry =>
    obtain ⟨key, lines⟩ := entry
    by_cases hlast : ∃ name before, st.current = some name ∧
        edits = before ++ [.store name key (joinLines lines)]
    · obtain ⟨name, before, hcurrent, rfl⟩ := hlast
      exact .inr ⟨st.collect line, _, fun start d h => ⟨d, rfl, h.collect hcurrent hcollecting line⟩⟩
    · exact .inr ⟨st, edits, fun start d h => absurd (h.last key lines hcollecting) hlast⟩

/-- Whether a section has been entered before is up to the text alone. -/
theorem stepsAlike_startSection (st : Reading) (edits : List Edit) (file : String) (number : Nat)
    (name : String) : StepsAlike st edits fun st => st.startSection file number name := by
  by_cases hseen : name ∈ st.sections
  · refine .inl ⟨_, fun start d h => if_pos ⟨h.entered name hseen, hseen⟩⟩
  · refine .inr ⟨{ st with
      current := some name
      collecting := none
      sections := if name = defaultsName then st.sections else name :: st.sections },
      edits ++ [.enter name],
      fun start d h => ⟨(st.into d).close.withSection name, if_neg fun h => hseen h.2, ?_⟩⟩
    have htargets : (edits ++ [Edit.enter name]).filterMap Edit.target? = edits.filterMap Edit.target? := by
      simp [Edit.target?]
    refine ⟨?_, fun other hother => ?_, ?_, ?_, by simp [into]⟩
    · rw [edited_concat, ← h.close]
      rfl
    · have hentered (hmem : other ∈ st.sections) :
          ((st.into d).close.withSection name).hasSection other = true :=
        hasSection_withSection (hasSection_close (h.entered other hmem)) name
      simp only [into] at hother
      split at hother
      · exact hentered hother
      · next hname =>
        rcases List.mem_cons.mp hother with rfl | hother
        · exact hasSection_withSection_self hname _
        · exact hentered hother
    · rw [htargets]
      exact h.stored
    · rw [htargets]
      exact h.nodup

/-- An option is stored that has not been stored before. -/
theorem stepsAlike_startOption (st : Reading) (edits : List Edit) (file : String) (number : Nat)
    (hcurrent : st.current = some name) (literal : String) (raw value : List Char) :
    StepsAlike st edits fun st => st.startOption file number name literal raw value := by
  by_cases hseen : (name, optionName (String.ofList raw)) ∈ st.options
  · exact .inl ⟨_, fun start d h => if_pos hseen⟩
  · let key := optionName (String.ofList raw)
    let first := if key = "" then String.ofList value else joinLines [value]
    refine .inr ⟨{ st with
      collecting := if key = "" then none else some (key, [value])
      options := (name, key) :: st.options
      malformed := if raw.isEmpty then st.malformed ++ [(number, literal)] else st.malformed },
      edits ++ [.store name key first],
      fun start d h => ⟨(st.into d).close.put name key (String.ofList value), if_neg hseen, ?_⟩⟩
    have htargets : (edits ++ [Edit.store name key first]).filterMap Edit.target? =
        edits.filterMap Edit.target? ++ [(name, key)] := by
      simp [Edit.target?]
    refine ⟨?_, fun other hother => ?_, ?_, ?_, ?_⟩
    · rw [edited_concat, ← h.close]
      by_cases hkey : key = ""
      · simp [into, Reading.close, hkey, first, Edit.apply]
      · simp only [into, Reading.close, hcurrent, hkey, first, Edit.apply, if_false, put_put]
    · exact hasSection_put_of_hasSection (hasSection_close (h.entered other hother)) _ _ _
    · rw [htargets]
      intro o ho
      rcases List.mem_append.mp ho with ho | ho
      · exact List.mem_cons_of_mem _ (h.stored o ho)
      · rw [List.mem_singleton.mp ho]
        exact List.mem_cons_self
    · rw [htargets, List.nodup_append]
      refine ⟨h.nodup, List.nodup_singleton _, fun o ho o' ho' heq => ?_⟩
      rw [List.mem_singleton.mp ho'] at heq
      exact hseen (heq ▸ h.stored o ho)
    · intro key' lines hcollecting
      simp only [into] at hcollecting
      split at hcollecting
      · cases hcollecting
      · next hkey =>
        cases hcollecting
        exact ⟨name, edits, hcurrent, by rw [show first = joinLines [value] from if_neg hkey]⟩

theorem stepsAlike_readLine (st : Reading) (edits : List Edit) (file : String) (number : Nat)
    (line : List Char) : StepsAlike st edits fun st => st.readLine file number line := by
  by_cases hcomment : (Text.trim line).head? = some '#' ∨ (Text.trim line).head? = some ';'
  · refine (stepsAlike_self st edits).congr fun d => ?_
    simp only [readLine, hcomment, if_true]
  by_cases hempty : (Text.trim line).isEmpty = true
  · refine (stepsAlike_collect st edits []).congr fun d => ?_
    simp only [readLine, hcomment, hempty, if_true, if_false]
  by_cases hdeeper : st.collecting.isSome = true ∧ st.indent < Text.indentation line
  · refine (stepsAlike_collect st edits (Text.trim line)).congr fun d => ?_
    simp only [readLine, into, hcomment, hempty, hdeeper, if_false]
    simp
  -- The line starts anew, so its indentation is the one to compare with.
  cases hheader : header? (Text.trim line) with
  | some name =>
    refine (stepsAlike_startSection { st with indent := Text.indentation line } edits file number
      (String.ofList name)).indented.congr fun d => ?_
    simp [readLine, into, hcomment, hempty, hdeeper, hheader]
  | none =>
    cases hcurrent : st.current with
    | none =>
      refine .inl ⟨.headerMissing file number (Text.quote (String.ofList line)), fun start d h => ?_⟩
      simp only [readLine, into, hcomment, hempty, hdeeper, hheader, hcurrent, if_false]
      rfl
    | some name =>
      cases hoption : option? (Text.trim line) with
      | some option =>
        obtain ⟨raw, value⟩ := option
        refine (stepsAlike_startOption { st with indent := Text.indentation line } edits file number
          hcurrent (Text.quote (String.ofList line)) raw value).indented.congr fun d => ?_
        simp only [readLine, into, hcomment, hempty, hdeeper, hheader, hcurrent, hoption, if_false]
        rfl
      | none =>
        let malformed := st.malformed ++ [(number, Text.quote (String.ofList line))]
        refine .inr ⟨{ st with indent := Text.indentation line, malformed := malformed }, edits,
          fun start d h => ⟨d, ?_, h.withLine _ malformed⟩⟩
        simp only [readLine, into, hcomment, hempty, hdeeper, hheader, hcurrent, hoption, if_false]
        rfl

/-- Lines make the same of every document, up to the same fault if there is one. -/
theorem readLines_alike (lines : List (List Char)) (st : Reading) (edits : List Edit) (file : String)
    (number : Nat) : ∃ (st' : Reading) (edits' : List Edit) (fault : Option DocumentFault),
      ∀ start d, Records start (st.into d) edits → ∃ d',
        readLines file (st.into d) number lines = (st'.into d', fault) ∧
          Records start (st'.into d') edits' := by
  induction lines generalizing st edits number with
  | nil => exact ⟨st, edits, none, fun start d h => ⟨d, rfl, h⟩⟩
  | cons line rest ih =>
    rcases stepsAlike_readLine st edits file number line with ⟨fault, hline⟩ | ⟨mid, between, hline⟩
    · refine ⟨st, edits, some fault, fun start d h => ⟨d, ?_, h⟩⟩
      simp only [readLines, hline start d h]
    · obtain ⟨st', edits', fault, hrest⟩ := ih mid between (number + 1)
      refine ⟨st', edits', fault, fun start d h => ?_⟩
      obtain ⟨d₁, hstep, h₁⟩ := hline start d h
      obtain ⟨d', hread, h'⟩ := hrest start d₁ h₁
      exact ⟨d', by simp only [readLines, hstep, hread], h'⟩

/-- Lines that are read into a document, and then into what the first reading has left behind, lead to the
    same point, and the second reading leaves behind what it has found. Which options wait to be
    joined makes no difference to that. -/
theorem readLines_again (d : Document) (file : String) (number : Nat) (lines : List (List Char))
    (unjoined : List (String × String)) :
    let first := readLines file { document := d } number lines
    let found : Document := { first.1.close with unjoined := unjoined }
    let second := readLines file { document := found } number lines
    second.2 = first.2 ∧ second.1.options = first.1.options ∧ second.1.malformed = first.1.malformed ∧
      second.1.close = found := by
  intro first found second
  obtain ⟨st, edits, fault, halike⟩ := readLines_alike lines { document := {} } [] file number
  obtain ⟨d₁, hfirst, h₁⟩ := halike d d (records_start d)
  obtain ⟨d₂, hsecond, h₂⟩ := halike found found (records_start found)
  have hfirst : first = (st.into d₁, fault) := hfirst
  have hsecond : second = (st.into d₂, fault) := hsecond
  rw [hfirst, hsecond]
  refine ⟨rfl, rfl, rfl, h₂.close.trans (edited_of_shown fun e he => Edit.Shown.withUnjoined ?_ unjoined)⟩
  rw [hfirst, h₁.close]
  exact shown_edited d h₁.nodup e he

/-- A reading that a fault has ended is ended by it again. -/
theorem interrupted_again (d : Document) (file : String) (number : Nat) (lines : List (List Char)) :
    let first := readLines file { document := d } number lines
    let second := readLines file { document := first.1.interrupted } number lines
    second.2 = first.2 ∧ first.1.interrupted.SameContent second.1.interrupted := by
  intro first second
  obtain ⟨hfault, hoptions, _, hclose⟩ :=
    readLines_again d file number lines first.1.interrupted.unjoined
  have hoptions : second.1.options = first.1.options := hoptions
  have hclose : second.1.close = first.1.interrupted := hclose
  refine ⟨hfault, ?_, ?_, fun o => ?_⟩
  · rw [Reading.interrupted, hclose]
  · rw [Reading.interrupted, hclose]
  · -- The options that wait to be joined waited before.
    simp only [Reading.interrupted, hclose, hoptions, List.mem_append]
    tauto

/-- A reading to the end of a text comes to the same end again. -/
theorem finished_again (d : Document) (file : String) (number : Nat) (lines : List (List Char)) :
    let first := readLines file { document := d } number lines
    let second := readLines file { document := first.1.finished } number lines
    second.2 = first.2 ∧ second.1.malformed = first.1.malformed ∧ second.1.finished = first.1.finished := by
  intro first second
  obtain ⟨hfault, _, hmalformed, hclose⟩ := readLines_again d file number lines []
  have hclose : second.1.close = first.1.finished := hclose
  refine ⟨hfault, hmalformed, ?_⟩
  rw [Reading.finished, hclose]
  rfl

end Reading

section Texts

variable {d : Document} {file text : String} {st : Reading} {fault : DocumentFault}

theorem read_of_interrupted (h : Reading.readLines file { document := d } 1
      (Text.splitLines (Text.unifyLineEnds text.toList)) = (st, some fault)) :
    d.read file text = (st.interrupted, some fault) := by
  rw [read, h]

theorem read_of_finished (h : Reading.readLines file { document := d } 1
      (Text.splitLines (Text.unifyLineEnds text.toList)) = (st, none)) :
    d.read file text =
      (st.finished, if st.malformed.isEmpty then none else some (.malformed file st.malformed)) := by
  rw [read, h]

/-- Reading a text a second time ends as it did the first time, and leaves behind what it has found. -/
theorem read_again (d : Document) (file text : String) :
    ((d.read file text).1.read file text).2 = (d.read file text).2 ∧
      (d.read file text).1.SameContent ((d.read file text).1.read file text).1 := by
  cases hfirst : Reading.readLines file { document := d } 1
      (Text.splitLines (Text.unifyLineEnds text.toList)) with
  | mk st fault =>
    cases fault with
    | some fault =>
      have hagain := Reading.interrupted_again d file 1 (Text.splitLines (Text.unifyLineEnds text.toList))
      simp only [hfirst] at hagain
      rw [read_of_interrupted hfirst, read_of_interrupted (Prod.ext rfl hagain.1)]
      exact ⟨rfl, hagain.2⟩
    | none =>
      have hagain := Reading.finished_again d file 1 (Text.splitLines (Text.unifyLineEnds text.toList))
      simp only [hfirst] at hagain
      rw [read_of_finished hfirst, read_of_finished (Prod.ext rfl hagain.1), hagain.2.1, hagain.2.2]
      exact ⟨rfl, .refl _⟩

/-- So does reading the bytes of a file, which may be those of no text. -/
theorem readBytes_again (d : Document) (file : String) (content : ByteArray) :
    ((d.readBytes file content).1.readBytes file content).2 = (d.readBytes file content).2 ∧
      (d.readBytes file content).1.SameContent ((d.readBytes file content).1.readBytes file content).1 := by
  cases hcontent : String.fromUTF8? content with
  | some text =>
    simp only [readBytes, hcontent]
    exact read_again d file text
  | none =>
    obtain ⟨hfault, hsame⟩ := Reading.interrupted_again d file 1
      (Text.splitLines (Text.unifyLineEnds (Text.soundText content).toList))
    simp only [readBytes, hcontent, hfault, true_and]
    exact hsame

end Texts

end CircuitScribe.Document
