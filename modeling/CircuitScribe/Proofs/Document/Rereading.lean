import CircuitScribe.Proofs.Document.Written

namespace CircuitScribe.Document

namespace Reading

variable {st : Reading} {file : String} {number : Nat}

theorem readLines_append {mid : Reading} {a b : List (List Char)}
    (h : readLines file st number a = (mid, none)) :
    readLines file st number (a ++ b) = readLines file mid (number + a.length) b := by
  induction a generalizing st number with
  | nil =>
    cases h
    rfl
  | cons line a ih =>
    simp only [readLines] at h
    split at h
    · next next hline =>
      rw [List.cons_append, readLines, hline]
      simp only
      rw [ih h, List.length_cons, Nat.add_assoc, Nat.add_comm 1]
    · cases h

/-- Lines, each with its line feed, lead from one reading to another. -/
def Reads (file : String) (st : Reading) (lines : List (List Char)) (st' : Reading) : Prop :=
  ∀ number, readLines file st number (lines.map (· ++ ['\n'])) = (st', none)

section Runs

variable {mid st' : Reading} {line : List Char} {a b : List (List Char)}

theorem reads_nil : Reads file st [] st := fun _ => rfl

theorem Reads.append (h : Reads file st a mid) (hrest : Reads file mid b st') :
    Reads file st (a ++ b) st' := by
  intro number
  rw [List.map_append, readLines_append (h number)]
  exact hrest _

theorem reads_single (h : ∀ number, st.readLine file number (line ++ ['\n']) = .ok st') :
    Reads file st [line] st' := by
  intro number
  simp only [List.map_cons, List.map_nil, readLines, h]

end Runs

/-- A reading within a section. -/
structure Within (st : Reading) (name : String) (d : Document) (sections : List String)
    (options : List (String × String)) : Prop where
  current : st.current = some name
  close : st.close = d
  nonempty : ∀ key lines, st.collecting = some (key, lines) → lines ≠ []
  sections : st.sections = sections
  options : st.options = options
  malformed : st.malformed = []

/-- A reading between sections, when those of some names have been read. -/
structure Between (st : Reading) (names : List String) (d : Document) : Prop where
  close : st.close = d
  sections : ∀ name ∈ st.sections, name ∈ names
  options : ∀ o ∈ st.options, o.1 ∈ names
  malformed : st.malformed = []

section Options

variable {name : String} {d : Document} {sections : List String} {options : List (String × String)}

/-- The further lines of a value are collected one by one. -/
theorem reads_continuations {key : String} {before : List (List Char)}
    (hcollecting : st.collecting = some (key, before)) (hindent : st.indent = 0)
    (rest : List (List Char)) :
    Reads file st (rest.map ('\t' :: ·)) { st with
      collecting := some (key, before ++ (rest.map Text.trim).filter (¬ IsComment ·)) } := by
  induction rest generalizing st before with
  | nil =>
    rw [List.map_nil, List.map_nil, List.filter_nil, List.append_nil, ← hcollecting]
    exact reads_nil
  | cons line rest ih =>
    by_cases hcomment : IsComment (Text.trim line)
    · have hline : Reads file st ['\t' :: line] st := by
        apply reads_single
        intro number
        rw [readLine_continuation (by simp [hcollecting]) hindent, if_pos hcomment]
      rw [List.map_cons (f := Text.trim), List.filter_cons_of_neg (by simpa using hcomment)]
      exact hline.append (ih hcollecting hindent)
    · have hline : Reads file st ['\t' :: line]
          { st with collecting := some (key, before ++ [Text.trim line]) } := by
        apply reads_single
        intro number
        rw [readLine_continuation (by simp [hcollecting]) hindent, if_neg hcomment, Reading.collect,
          hcollecting]
        rfl
      have hlater : Reads file { st with collecting := some (key, before ++ [Text.trim line]) }
          (rest.map ('\t' :: ·)) { st with
            collecting := some (key, before ++ [Text.trim line] ++
              (rest.map Text.trim).filter (¬ IsComment ·)) } :=
        ih rfl hindent
      rw [List.append_assoc, List.singleton_append] at hlater
      rw [List.map_cons (f := Text.trim), List.filter_cons_of_pos (by simpa using hcomment)]
      exact hline.append hlater

theorem close_collecting {key : String} {lines : List (List Char)} (hcurrent : st.current = some name)
    (hcollecting : st.collecting = some (key, lines)) :
    st.close = st.document.put name key (joinLines lines) := by
  simp only [Reading.close, hcurrent, hcollecting]

theorem startOption_fresh {key literal : String} {first : List Char} (hkey : IsKey key)
    (hfresh : (name, key) ∉ st.options) :
    st.startOption file number name literal key.toList first = .ok { st with
      document := st.close.put name key (String.ofList first)
      collecting := some (key, [first])
      options := (name, key) :: st.options } := by
  have hkeyNe : key.toList.isEmpty = false := by simpa using hkey.ne_empty
  simp [startOption, hkeyNe, hkey.lower_eq, hkey.ne_empty, hfresh]

/-- The lines of an option put its value into the section, as far as it is read again. -/
theorem reads_option {key value : String} (h : st.Within name d sections options) (hkey : IsKey key)
    (hvalue : IsWritable key value) (hfresh : (name, key) ∉ options) :
    ∃ st', Reads file st (optionLines key.toList (valueLines value)) st' ∧
      st'.Within name (d.put name key (rereadValue value)) sections ((name, key) :: options) := by
  cases hlines : valueLines value with
  | nil => exact absurd hlines (valueLines_ne_nil value)
  | cons first rest =>
    have hheader := hvalue.no_header first (by simp [hlines])
    have hstart : Reads file st [key.toList ++ ' ' :: '=' :: ' ' :: first] { st with
        document := st.close.put name key (String.ofList (Text.trim first))
        collecting := some (key, [Text.trim first])
        indent := 0
        options := (name, key) :: st.options } := by
      apply reads_single
      intro number
      rw [readLine_option h.current hkey hheader, startOption_fresh hkey (h.options ▸ hfresh)]
      rfl
    refine ⟨_, hstart.append (reads_continuations rfl rfl rest), ?_⟩
    refine ⟨h.current, ?_, ?_, h.sections, by rw [h.options], h.malformed⟩
    · refine (close_collecting (by exact h.current) rfl).trans ?_
      rw [put_put, h.close, rereadValue, hlines]
      rfl
    · intro key' lines' heq
      simp only [Option.some.injEq, Prod.mk.injEq] at heq
      rw [← heq.2]
      simp

/-- The lines of options put their values into the section one after the other. -/
theorem reads_options {new : Table String String} (h : st.Within name d sections options)
    (hnew : WritableOptions new) (hfresh : ∀ o ∈ new, (name, o.1) ∉ options) :
    ∃ st' options', Reads file st (new.flatMap fun o => optionLines o.1.toList (valueLines o.2)) st' ∧
      st'.Within name ((rereadOptions new).foldl (fun d o => d.put name o.1 o.2) d) sections options' ∧
      ∀ o ∈ options', o ∈ options ∨ o.1 = name := by
  induction new generalizing st d options with
  | nil => exact ⟨st, options, reads_nil, h, fun o ho => .inl ho⟩
  | cons o rest ih =>
    obtain ⟨key, value⟩ := o
    obtain ⟨mid, hread, hmid⟩ := reads_option h (hnew.key _ List.mem_cons_self)
      (hnew.value _ List.mem_cons_self) (hfresh _ List.mem_cons_self)
    have hlater : ∀ o ∈ rest, (name, o.1) ∉ (name, key) :: options := by
      intro o ho hmem
      rcases List.mem_cons.mp hmem with heq | hmem
      · have hkey := (List.nodup_cons.mp hnew.keys_nodup).1
        exact hkey (List.mem_map.mpr ⟨o, ho, (Prod.mk.inj heq).2⟩)
      · exact hfresh o (List.mem_cons_of_mem _ ho) hmem
    obtain ⟨st', options', hread', hst', hoptions'⟩ := ih hmid hnew.of_cons hlater
    refine ⟨st', options', hread.append hread', hst', fun o ho => ?_⟩
    rcases hoptions' o ho with ho | ho
    · rcases List.mem_cons.mp ho with rfl | ho
      · exact .inr rfl
      · exact .inl ho
    · exact .inr ho

end Options

section Sections

variable {names : List String} {d : Document} {name : String} {options : Table String String}

/-- A document with the options of one more section. -/
def addSection (d : Document) (s : String × Table String String) : Document :=
  s.2.foldl (fun d o => d.put s.1 o.1 o.2) (d.withSection s.1)

theorem reads_header (h : st.Between names d) (hne : name ≠ "") (hfresh : name ∉ names) :
    ∃ st', Reads file st ['[' :: (name.toList ++ [']'])] st' ∧
      st'.Within name (d.withSection name)
        (if name = defaultsName then st.sections else name :: st.sections) st.options := by
  have hnew : ¬ (st.document.hasSection name = true ∧ name ∈ st.sections) :=
    fun hseen => hfresh (h.sections name hseen.2)
  have hnameNe : name.toList ≠ [] := by simpa using hne
  refine ⟨{ st with
    document := st.close.withSection name
    current := some name
    collecting := none
    indent := 0
    sections := if name = defaultsName then st.sections else name :: st.sections },
    reads_single fun number => ?_, ?_⟩
  · rw [readLine_header hnameNe, String.ofList_toList, startSection, if_neg hnew]
    rfl
  · refine ⟨rfl, ?_, by simp, rfl, rfl, h.malformed⟩
    rw [← h.close]
    rfl

theorem Within.reads_empty {sections : List String} {seen : List (String × String)}
    (h : st.Within name d sections seen) :
    ∃ st', Reads file st [[]] st' ∧ st'.Within name d sections seen := by
  refine ⟨st.collect [], reads_single fun _ => readLine_empty, ⟨h.current, ?_, ?_, h.sections, h.options,
    h.malformed⟩⟩
  · rw [← h.close]
    cases hcollecting : st.collecting with
    | none => simp [Reading.close, Reading.collect, hcollecting]
    | some entry =>
      obtain ⟨key, lines⟩ := entry
      have hlines := h.nonempty key lines hcollecting
      simp [Reading.close, Reading.collect, hcollecting, h.current, joinLines_concat_nil hlines]
  · intro key lines hcollecting
    obtain ⟨⟨key', lines'⟩, _, heq⟩ := Option.map_eq_some_iff.mp hcollecting
    obtain ⟨rfl, rfl⟩ := Prod.mk.inj heq
    simp

/-- The lines of a section add it to what has been read. -/
theorem reads_section (h : st.Between names d) (hne : name ≠ "") (hfresh : name ∉ names)
    (hoptions : WritableOptions options) :
    ∃ st', Reads file st (sectionLines name options) st' ∧
      st'.Between (name :: names) (addSection d (name, rereadOptions options)) := by
  obtain ⟨st₁, hheader, h₁⟩ := reads_header h hne hfresh
  have hunseen : ∀ o ∈ options, (name, o.1) ∉ st.options := fun o _ hmem => hfresh (h.options _ hmem)
  obtain ⟨st₂, seen, hread, h₂, hseen⟩ := reads_options h₁ hoptions hunseen
  obtain ⟨st₃, hempty, h₃⟩ := h₂.reads_empty
  refine ⟨st₃, hheader.append (hread.append hempty), h₃.close, fun n hn => ?_, fun o ho => ?_, h₃.malformed⟩
  · rw [h₃.sections] at hn
    split at hn
    · exact List.mem_cons_of_mem _ (h.sections n hn)
    · rcases List.mem_cons.mp hn with rfl | hn
      · exact List.mem_cons_self
      · exact List.mem_cons_of_mem _ (h.sections n hn)
  · rw [h₃.options] at ho
    rcases hseen o ho with ho | ho
    · exact List.mem_cons_of_mem _ (h.options o ho)
    · rw [ho]
      exact List.mem_cons_self

theorem reads_sections {sections : Table String (Table String String)} (h : st.Between names d)
    (hne : ∀ s ∈ sections, s.1 ≠ "") (hnodup : sections.keys.Nodup)
    (hfresh : ∀ s ∈ sections, s.1 ∉ names) (hoptions : ∀ s ∈ sections, WritableOptions s.2) :
    ∃ st' names', Reads file st (sections.flatMap fun s => sectionLines s.1 s.2) st' ∧
      st'.Between names' ((sections.map fun s => (s.1, rereadOptions s.2)).foldl addSection d) := by
  induction sections generalizing st names d with
  | nil => exact ⟨st, names, reads_nil, h⟩
  | cons s rest ih =>
    obtain ⟨name, options⟩ := s
    obtain ⟨mid, hread, hmid⟩ := reads_section h (hne _ List.mem_cons_self)
      (hfresh _ List.mem_cons_self) (hoptions _ List.mem_cons_self)
    obtain ⟨hname, hrest⟩ := List.nodup_cons.mp hnodup
    have hlater : ∀ s ∈ rest, s.1 ∉ name :: names := by
      intro s hs hmem
      rcases List.mem_cons.mp hmem with heq | hmem
      · exact hname (List.mem_map.mpr ⟨s, hs, heq⟩)
      · exact hfresh s (List.mem_cons_of_mem _ hs) hmem
    obtain ⟨st', names', hread', hst'⟩ := ih hmid (fun s hs => hne s (List.mem_cons_of_mem _ hs)) hrest
      hlater (fun s hs => hoptions s (List.mem_cons_of_mem _ hs))
    exact ⟨st', names', hread.append hread', hst'⟩

end Sections

end Reading

end CircuitScribe.Document
