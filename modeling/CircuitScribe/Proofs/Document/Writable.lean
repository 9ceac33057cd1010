import CircuitScribe.Proofs.Document.Writing

namespace CircuitScribe.Document

/-- A value that can be written under a name. Its lines stay the lines of one value, and the
    first of them does not make a header of the name. -/
structure IsWritable (key value : String) : Prop where
  no_return : '\r' ∉ value.toList
  no_header : ∀ first ∈ (valueLines value).head?, NoHeader key.toList first

/-- Options with a name of their own each, and with values that can be written under it. -/
structure WritableOptions (options : Table String String) : Prop where
  keys_nodup : options.keys.Nodup
  key : ∀ o ∈ options, IsKey o.1
  value : ∀ o ∈ options, IsWritable o.1 o.2

/-- A document that can be written and read again. Unlike a canonical one it may change on the
    way, but in its values only. -/
structure Writable (d : Document) : Prop where
  names_nodup : d.sections.keys.Nodup
  name : ∀ name ∈ d.sections.keys, IsSectionName name
  defaults : WritableOptions d.defaults
  sections : ∀ s ∈ d.sections, WritableOptions s.2

instance : DecidablePred IsComment := fun line =>
  inferInstanceAs (Decidable (line.head? = some '#' ∨ line.head? = some ';'))

/-- The lines that are collected again from the lines of a value: without the blanks around
    them, and without those behind the first that are comments then. -/
def collectedLines : List (List Char) → List (List Char)
  | [] => []
  | first :: rest => Text.trim first :: (rest.map Text.trim).filter (¬ IsComment ·)

/-- A value as it is read again. -/
def rereadValue (value : String) : String :=
  joinLines (collectedLines (valueLines value))

/-- Options as they are read again. -/
def rereadOptions (options : Table String String) : Table String String :=
  options.map fun o => (o.1, rereadValue o.2)

/-- A document as it is read again. -/
def reread (d : Document) : Document where
  defaults := rereadOptions d.defaults
  sections := d.sections.map fun s => (s.1, rereadOptions s.2)

section Values

variable {key value : String}

theorem IsCollected.collectedLines_eq {lines : List (List Char)} (h : IsCollected key.toList lines) :
    collectedLines lines = lines := by
  cases h with
  | @lines first rest hfirst hheader hrest =>
    have htrim : rest.map Text.trim = rest := by
      conv_rhs => rw [← List.map_id rest]
      exact List.map_congr_left fun line hline => (hrest line hline).1.trim_eq
    rw [collectedLines, hfirst.trim_eq, htrim, List.filter_eq_self.mpr]
    exact fun line hline => decide_eq_true (hrest line hline).2

/-- A value that has been read stays as it is. -/
theorem IsValue.rereadValue_eq (h : IsValue key value) : rereadValue value = value := by
  rw [rereadValue, h.collected_valueLines.collectedLines_eq, h.joinLines_valueLines]

theorem mem_intercalate {c sep : Char} {lines : List (List Char)} (h : c ∈ [sep].intercalate lines) :
    c = sep ∨ ∃ line ∈ lines, c ∈ line := by
  induction lines with
  | nil => simp at h
  | cons first rest ih =>
    cases rest with
    | nil => exact .inr ⟨first, List.mem_cons_self, by simpa using h⟩
    | cons second rest =>
      rw [List.intercalate_cons_cons, List.append_assoc] at h
      rcases List.mem_append.mp h with h | h
      · exact .inr ⟨first, List.mem_cons_self, h⟩
      · rcases List.mem_cons.mp h with h | h
        · exact .inl h
        · exact (ih h).imp_right fun ⟨line, hline, hc⟩ => ⟨line, List.mem_cons_of_mem first hline, hc⟩

theorem IsValue.isWritable (h : IsValue key value) : IsWritable key value := by
  have hcollected := h.collected_valueLines
  constructor
  · intro hreturn
    rw [← intercalate_valueLines] at hreturn
    obtain heq | ⟨line, hline, hmem⟩ := mem_intercalate hreturn
    · exact absurd heq (by decide)
    · exact (hcollected.isLine hline).no_return hmem
  · intro first hfirst
    generalize valueLines value = lines at hcollected hfirst
    cases hcollected with
    | lines _ hheader _ =>
      obtain rfl := Option.some.inj hfirst
      exact hheader

/-- Lower case makes no header of a name. -/
theorem IsWritable.optionName (h : IsWritable key value) : IsWritable (Document.optionName key) value := by
  refine ⟨h.no_return, fun first hfirst => ?_⟩
  rw [Document.optionName, Text.toList_lower]
  exact (h.no_header first hfirst).lower

end Values

section Options

variable {options : Table String String} {key value : String}

theorem CanonicalOptions.writable (h : CanonicalOptions options) : WritableOptions options :=
  ⟨h.keys_nodup, h.key, fun o ho => (h.value o ho).isWritable⟩

theorem CanonicalOptions.rereadOptions_eq (h : CanonicalOptions options) :
    rereadOptions options = options := by
  conv_rhs => rw [← List.map_id options]
  exact List.map_congr_left fun o ho => by rw [(h.value o ho).rereadValue_eq]; rfl

theorem WritableOptions.of_cons {o : String × String} (h : WritableOptions (o :: options)) :
    WritableOptions options :=
  ⟨(List.nodup_cons.mp h.keys_nodup).2, fun p hp => h.key p (List.mem_cons_of_mem o hp),
    fun p hp => h.value p (List.mem_cons_of_mem o hp)⟩

theorem WritableOptions.put (h : WritableOptions options) (hkey : IsKey key)
    (hvalue : IsWritable key value) : WritableOptions (options.put key value) := by
  refine ⟨Table.keys_put_nodup h.keys_nodup key value, fun o ho => ?_, fun o ho => ?_⟩
  · rcases Table.mem_put ho with rfl | ho
    · exact hkey
    · exact h.key o ho
  · rcases Table.mem_put ho with rfl | ho
    · exact hvalue
    · exact h.value o ho

@[simp] theorem keys_rereadOptions (options : Table String String) :
    (rereadOptions options).keys = options.keys := by
  simp [rereadOptions, Table.keys, List.map_map, Function.comp_def]

end Options

section Documents

variable {d : Document} {name key value : String}

theorem Canonical.writable (h : d.Canonical) : d.Writable :=
  ⟨h.names_nodup, h.name, h.defaults.writable, fun s hs => (h.sections s hs).writable⟩

/-- A document that has been read stays as it is. -/
theorem Canonical.reread_eq (h : d.Canonical) : d.reread = d := by
  have hsections : d.sections.map (fun s => (s.1, rereadOptions s.2)) = d.sections := by
    conv_rhs => rw [← List.map_id d.sections]
    exact List.map_congr_left fun s hs => by rw [(h.sections s hs).rereadOptions_eq]; rfl
  rw [reread, h.defaults.rereadOptions_eq, hsections, ← h.unjoined]

/-- An option that can be written may be put into a document that has been read. -/
theorem Canonical.writable_put (h : d.Canonical) (hname : IsSectionName name) (hkey : IsKey key)
    (hvalue : IsWritable key value) : (d.put name key value).Writable := by
  rw [Document.put, if_neg hname.ne_defaults]
  refine ⟨Table.keys_put_nodup h.names_nodup name _, fun n hn => ?_, h.defaults.writable, fun s hs => ?_⟩
  · obtain ⟨s, hs, rfl⟩ := List.mem_map.mp hn
    rcases Table.mem_put hs with rfl | hs
    · exact hname
    · exact h.name _ (List.mem_map_of_mem hs)
  · rcases Table.mem_put hs with rfl | hs
    · exact (h.options name).writable.put hkey hvalue
    · exact (h.sections s hs).writable

/-- Only the option that has been put can be another one when it is read again. -/
theorem Canonical.reread_put (h : d.Canonical) (hname : IsSectionName name) :
    (d.put name key value).reread = d.put name key (rereadValue value) := by
  have hoptions : rereadOptions ((d.options name).put key value) =
      (d.options name).put key (rereadValue value) := by
    rw [rereadOptions, Table.map_put, ← rereadOptions, (h.options name).rereadOptions_eq]
  have hsections := congrArg Document.sections h.reread_eq
  simp only [reread] at hsections
  rw [Document.put, if_neg hname.ne_defaults, Document.put, if_neg hname.ne_defaults, reread,
    h.defaults.rereadOptions_eq, Table.map_put, hsections, hoptions, h.unjoined]

end Documents

section Lines

variable {d : Document} {name key : String} {options : Table String String}

theorem unbroken_optionLines (hkey : IsKey key) {lines : List (List Char)}
    (h : ∀ line ∈ lines, Unbroken line) : ∀ line ∈ optionLines key.toList lines, Unbroken line := by
  cases lines with
  | nil => simp [optionLines]
  | cons first rest =>
    intro line hmem
    rcases List.mem_cons.mp hmem with rfl | hmem
    · obtain ⟨hfeed, hreturn⟩ := h first List.mem_cons_self
      have hkeyFeed := hkey.no_feed
      have hkeyReturn := hkey.no_return
      constructor <;> simp_all
    · obtain ⟨l, hl, rfl⟩ := List.mem_map.mp hmem
      obtain ⟨hfeed, hreturn⟩ := h l (List.mem_cons_of_mem _ hl)
      constructor <;> simp_all

theorem IsWritable.unbroken_valueLines {value : String} (h : IsWritable key value) :
    ∀ line ∈ valueLines value, Unbroken line := fun _ hline =>
  have hpiece := mem_splitOn hline
  ⟨hpiece.1, fun hreturn => h.no_return (hpiece.2 _ hreturn)⟩

theorem unbroken_sectionLines (hfeed : '\n' ∉ name.toList) (hreturn : '\r' ∉ name.toList)
    (h : WritableOptions options) : ∀ line ∈ sectionLines name options, Unbroken line := by
  intro line hline
  rcases List.mem_cons.mp hline with rfl | hline
  · constructor <;> simp_all
  · rcases List.mem_append.mp hline with hline | hline
    · obtain ⟨o, ho, hline⟩ := List.mem_flatMap.mp hline
      exact unbroken_optionLines (h.key o ho) (h.value o ho).unbroken_valueLines line hline
    · rw [List.mem_singleton.mp hline]
      exact isLine_nil.unbroken

theorem Writable.unbroken_lines (h : d.Writable) : ∀ line ∈ d.lines, Unbroken line := by
  intro line hline
  rcases List.mem_append.mp hline with hline | hline
  · split at hline
    · simp at hline
    · exact unbroken_sectionLines (by decide) (by decide) h.defaults line hline
  · obtain ⟨s, hs, hline⟩ := List.mem_flatMap.mp hline
    have hname := h.name s.1 (List.mem_map_of_mem hs)
    exact unbroken_sectionLines hname.no_feed hname.no_return (h.sections s hs) line hline

/-- The lines of what is written are those that are read. -/
theorem Writable.splitLines_render (h : d.Writable) :
    Text.splitLines (Text.unifyLineEnds d.render.toList) = d.lines.map (· ++ ['\n']) := by
  have hreturn : '\r' ∉ d.render.toList := by
    rw [toList_render]
    intro hmem
    obtain ⟨line, hline, hmem⟩ := List.mem_flatMap.mp hmem
    have hunbroken := (h.unbroken_lines line hline).2
    simp_all
  rw [Text.unifyLineEnds_eq_self hreturn, toList_render,
    Text.splitLines_flatMap fun line hline => (h.unbroken_lines line hline).1]

end Lines

end CircuitScribe.Document
