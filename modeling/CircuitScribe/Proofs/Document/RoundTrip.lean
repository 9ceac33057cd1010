import CircuitScribe.Proofs.Document.Rereading

namespace CircuitScribe.Document

section Rebuilding

variable {d : Document} {name : String} {options new : Table String String}

theorem foldl_put_defaults (h : (d.defaults.keys ++ new.keys).Nodup) :
    new.foldl (fun d o => d.put defaultsName o.1 o.2) d = { d with defaults := d.defaults ++ new } := by
  induction new generalizing d with
  | nil => simp
  | cons o rest ih =>
    obtain ⟨key, value⟩ := o
    have hkey : key ∉ d.defaults.keys := fun hmem =>
      (List.nodup_append.mp h).2.2 key hmem key (by simp [Table.keys]) rfl
    have hput : d.put defaultsName key value = { d with defaults := d.defaults ++ [(key, value)] } := by
      simp [Document.put, Table.put_of_not_mem hkey]
    rw [List.foldl_cons, hput, ih]
    · simp
    · simpa [Table.keys] using h

theorem foldl_put_section {sections : Table String (Table String String)}
    (hname : name ≠ defaultsName) (hlast : d.sections = sections ++ [(name, options)])
    (hfresh : name ∉ sections.keys) (h : (options.keys ++ new.keys).Nodup) :
    new.foldl (fun d o => d.put name o.1 o.2) d =
      { d with sections := sections ++ [(name, options ++ new)] } := by
  induction new generalizing d options with
  | nil =>
    rw [List.append_nil, ← hlast]
    rfl
  | cons o rest ih =>
    obtain ⟨key, value⟩ := o
    have hkey : key ∉ options.keys := fun hmem =>
      (List.nodup_append.mp h).2.2 key hmem key (by simp [Table.keys]) rfl
    have hput : d.put name key value =
        { d with sections := sections ++ [(name, options ++ [(key, value)])] } := by
      simp [Document.put, Document.options, hname, hlast, Table.get?_concat_self hfresh,
        Table.put_concat_self hfresh, Table.put_of_not_mem hkey]
    rw [List.foldl_cons, hput, ih rfl]
    · simp
    · simpa [Table.keys] using h

theorem addSection_fresh (hname : name ≠ defaultsName) (hfresh : name ∉ d.sections.keys)
    (hnodup : options.keys.Nodup) :
    Reading.addSection d (name, options) = { d with sections := d.sections ++ [(name, options)] } := by
  have hnew : d.hasSection name = false := by
    rw [Bool.eq_false_iff, hasSection, Ne, Table.has_iff_mem_keys]
    exact hfresh
  have hwith : d.withSection name = { d with sections := d.sections ++ [(name, [])] } := by
    simp [withSection, hname, hnew, Table.put_of_not_mem hfresh]
  have hempty : (Table.keys ([] : Table String String) ++ options.keys).Nodup := by
    simpa [Table.keys] using hnodup
  rw [Reading.addSection, hwith, foldl_put_section hname rfl hfresh hempty]
  simp

theorem addSection_defaults (hempty : d.defaults = []) (hnodup : options.keys.Nodup) :
    Reading.addSection d (defaultsName, options) = { d with defaults := options } := by
  have hwith : d.withSection defaultsName = d := by simp [withSection]
  rw [Reading.addSection, hwith, foldl_put_defaults]
  · simp [hempty]
  · simpa [hempty, Table.keys] using hnodup

theorem foldl_addSection {sections : Table String (Table String String)}
    (h : (d.sections.keys ++ sections.keys).Nodup) (hname : ∀ s ∈ sections, s.1 ≠ defaultsName)
    (hoptions : ∀ s ∈ sections, s.2.keys.Nodup) :
    sections.foldl Reading.addSection d = { d with sections := d.sections ++ sections } := by
  induction sections generalizing d with
  | nil => simp
  | cons s rest ih =>
    obtain ⟨name, options⟩ := s
    have hfresh : name ∉ d.sections.keys := fun hmem =>
      (List.nodup_append.mp h).2.2 name hmem name (by simp [Table.keys]) rfl
    rw [List.foldl_cons, addSection_fresh (hname _ List.mem_cons_self) hfresh
      (hoptions _ List.mem_cons_self), ih]
    · simp
    · simpa [Table.keys] using h
    · exact fun s hs => hname s (List.mem_cons_of_mem _ hs)
    · exact fun s hs => hoptions s (List.mem_cons_of_mem _ hs)

end Rebuilding

variable {d : Document} {file : String}

/-- What has been written is read again, with its values as far as they are. -/
theorem Writable.read_render (h : d.Writable) : read {} file d.render = (d.reread, none) := by
  have hdefaults : (rereadOptions d.defaults).keys.Nodup := by
    rw [keys_rereadOptions]
    exact h.defaults.keys_nodup
  -- The defaults come first, and only if there are any.
  obtain ⟨mid, names, hread, hmid, hnames⟩ : ∃ mid names, Reading.Reads file { document := {} }
      (if d.defaults.isEmpty then [] else sectionLines defaultsName d.defaults) mid ∧
      mid.Between names { defaults := rereadOptions d.defaults } ∧ ∀ name ∈ names, name = defaultsName := by
    have hinit : Reading.Between { document := {} } [] {} := ⟨rfl, by simp, by simp, rfl⟩
    by_cases hempty : d.defaults = []
    · rw [if_pos (List.isEmpty_iff.mpr hempty), hempty]
      exact ⟨_, [], Reading.reads_nil, hinit, by simp⟩
    · rw [if_neg (by simpa using hempty)]
      have hne : defaultsName ≠ "" := by decide
      obtain ⟨mid, hread, hmid⟩ := Reading.reads_section hinit hne (by simp) h.defaults
      rw [addSection_defaults rfl hdefaults] at hmid
      exact ⟨mid, [defaultsName], hread, hmid, by simp⟩
  have hsectionName {s : String × Table String String} (hs : s ∈ d.sections) : IsSectionName s.1 :=
    h.name s.1 (List.mem_map_of_mem hs)
  obtain ⟨st, _, hread', hst⟩ := Reading.reads_sections hmid
    (fun s hs => (hsectionName hs).ne_empty) h.names_nodup
    (fun s hs hmem => (hsectionName hs).ne_defaults (hnames s.1 hmem)) h.sections
  have hdocument : d.reread.sections.foldl Reading.addSection { defaults := rereadOptions d.defaults } =
      d.reread := by
    rw [foldl_addSection]
    · rfl
    · simpa [reread, Table.keys, Function.comp_def] using h.names_nodup
    · intro s hs
      obtain ⟨before, hbefore, rfl⟩ := List.mem_map.mp hs
      exact (hsectionName hbefore).ne_defaults
    · intro s hs
      obtain ⟨before, hbefore, rfl⟩ := List.mem_map.mp hs
      rw [keys_rereadOptions]
      exact (h.sections before hbefore).keys_nodup
  have hlines := hread.append hread' 1
  have hfinished : st.finished = d.reread := by
    rw [Reading.finished, hst.close]
    exact (congrArg (fun d : Document => { d with unjoined := [] }) hdocument).trans rfl
  simp only [read, h.splitLines_render]
  rw [lines, hlines]
  simp [hfinished, hst.malformed]

end CircuitScribe.Document
