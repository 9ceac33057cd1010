import CircuitScribe.Document
import CircuitScribe.Proofs.Document.Change
import CircuitScribe.Proofs.Writes

namespace CircuitScribe.Document

/-- What reading does to a document, step by step: it enters a section, which is made if it is missing,
    and stores values of options. -/
inductive Edit where
  | enter (name : String)
  | store (name key value : String)

namespace Edit

def apply (d : Document) : Edit → Document
  | .enter name => d.withSection name
  | .store name key value => d.put name key value

/-- The section and the name of the option that an edit stores, if it stores one. -/
def target? : Edit → Option (String × String)
  | .enter _ => none
  | .store name key _ => some (name, key)

/-- A document shows an edit if that has nothing left to do. -/
def Shown (d : Document) : Edit → Prop
  | .enter name => name = defaultsName ∨ d.hasSection name = true
  | .store name key value => (d.options name).get? key = some value

end Edit

/-- A document after edits in turn. -/
def edited (d : Document) (edits : List Edit) : Document :=
  edits.foldl Edit.apply d

variable {d d' : Document} {name other key value : String} {e : Edit} {edits : List Edit}

theorem edited_concat (d : Document) (edits : List Edit) (e : Edit) :
    d.edited (edits ++ [e]) = e.apply (d.edited edits) := by
  simp [edited]

theorem hasSection_withSection_self (hname : name ≠ defaultsName) (d : Document) :
    (d.withSection name).hasSection name = true := by
  unfold withSection
  split
  · next h => exact h.resolve_left hname
  · rw [hasSection, Table.has_iff_mem_keys]
    exact List.mem_map_of_mem (Table.mem_of_get?_eq_some (Table.get?_put_self _ _ _))

/-- No section is lost when another is made, -/
theorem hasSection_withSection (h : d.hasSection other = true) (name : String) :
    (d.withSection name).hasSection other = true := by
  unfold withSection
  split
  · exact h
  · rw [hasSection, Table.has_iff_mem_keys] at h ⊢
    by_cases hmem : name ∈ d.sections.keys
    · rwa [Table.keys_put_of_mem hmem]
    · rw [Table.keys_put_of_not_mem hmem]
      exact List.mem_append_left _ h

/-- or when an option is put somewhere. -/
theorem hasSection_put_of_hasSection (h : d.hasSection other = true) (name key value : String) :
    (d.put name key value).hasSection other = true := by
  by_cases hname : name = defaultsName
  · rw [put, if_pos hname]
    exact h
  · by_cases hother : other = name
    · rw [hother]
      exact hasSection_put hname d key value
    · rwa [hasSection_put_of_ne hname hother]

/-- A section that is made has no options, like one that is missing. -/
theorem options_withSection (d : Document) (name other : String) :
    (d.withSection name).options other = d.options other := by
  unfold withSection
  split
  · rfl
  · next hnot =>
    rw [not_or] at hnot
    unfold options
    split
    · rfl
    · by_cases hother : other = name
      · have hmissing : d.sections.get? name = none :=
          Table.get?_eq_none_iff.mpr fun hmem => hnot.2 (Table.has_iff_mem_keys.mpr hmem)
        rw [hother, Table.get?_put_self, hmissing]
        rfl
      · rw [Table.get?_put_of_ne hother]

theorem options_put_of_ne (hother : other ≠ name) (d : Document) (key value : String) :
    (d.put name key value).options other = d.options other := by
  by_cases hname : name = defaultsName
  · have hnot : other ≠ defaultsName := hname ▸ hother
    simp only [put, hname, if_true, options, if_neg hnot]
  · simp only [put, hname, if_false, options, Table.get?_put_of_ne hother]

theorem Edit.apply_of_shown (h : e.Shown d) : e.apply d = d := by
  cases e with
  | enter name => exact if_pos h
  | store name key value =>
    have hput : (d.options name).put key value = d.options name := Table.put_of_get? h
    by_cases hname : name = defaultsName
    · rw [Edit.apply, Document.put, if_pos hname]
      rw [options, if_pos hname] at hput
      rw [hput]
    · have hsection : d.sections.get? name = some (d.options name) := by
        rw [Edit.Shown, options, if_neg hname] at h
        rw [options, if_neg hname]
        cases hget : d.sections.get? name with
        | none => simp [hget] at h
        | some options => rfl
      rw [Edit.apply, Document.put, if_neg hname, hput, Table.put_of_get? hsection]

theorem Edit.shown_apply (d : Document) (e : Edit) : e.Shown (e.apply d) := by
  cases e with
  | enter name =>
    by_cases hname : name = defaultsName
    · exact .inl hname
    · exact .inr (hasSection_withSection_self hname d)
  | store name key value =>
    rw [Edit.Shown, Edit.apply, options_put_self]
    exact Table.get?_put_self _ _ _

/-- An edit stays shown when another option is stored. -/
theorem Edit.Shown.apply {e' : Edit} (h : e.Shown d) (hne : ∀ o, e.target? = some o → e'.target? ≠ some o) :
    e.Shown (e'.apply d) := by
  cases e with
  | enter name =>
    rcases h with hname | hsection
    · exact .inl hname
    · cases e' with
      | enter other => exact .inr (hasSection_withSection hsection other)
      | store other key value => exact .inr (hasSection_put_of_hasSection hsection other key value)
  | store name key value =>
    cases e' with
    | enter other => rwa [Edit.Shown, Edit.apply, options_withSection]
    | store other key' value' =>
      rw [Edit.Shown, Edit.apply]
      by_cases hother : name = other
      · have hkey : key ≠ key' := fun hkey => hne _ rfl (by rw [Edit.target?, hother, hkey])
        rw [hother, options_put_self, Table.get?_put_of_ne hkey, ← hother]
        exact h
      · rw [options_put_of_ne hother]
        exact h

/-- Edits are writes, apart from each other if they do not store the same option. -/
theorem writes_edits : Writes Edit.apply (fun d e => e.Shown d)
    fun e e' => ∀ o, e.target? = some o → ∀ o', e'.target? = some o' → o ≠ o' where
  shown_write := Edit.shown_apply
  write_of_shown := Edit.apply_of_shown
  shown_of_apart h hne := h.apply fun o ho ho' => hne o ho o ho' rfl

/-- Edits that store each option once are all shown in the end. -/
theorem shown_edited (d : Document) (hnodup : (edits.filterMap Edit.target?).Nodup) :
    ∀ e ∈ edits, e.Shown (d.edited edits) :=
  writes_edits.shown_foldl (List.pairwise_filterMap.mp hnodup) d

theorem edited_of_shown (h : ∀ e ∈ edits, e.Shown d) : d.edited edits = d :=
  writes_edits.foldl_of_shown h

/-- Which options wait to be joined makes no difference to what is shown. -/
theorem Edit.Shown.withUnjoined (h : e.Shown d) (unjoined : List (String × String)) :
    e.Shown { d with unjoined := unjoined } := by
  cases e <;> exact h

/-- Two documents with the same sections and options in the same order, and with the same raw values. -/
structure SameContent (d d' : Document) : Prop where
  defaults : d'.defaults = d.defaults
  sections : d'.sections = d.sections
  unjoined : ∀ o, o ∈ d'.unjoined ↔ o ∈ d.unjoined

theorem SameContent.refl (d : Document) : d.SameContent d := ⟨rfl, rfl, fun _ => Iff.rfl⟩

theorem SameContent.hasSection (h : d.SameContent d') : d'.hasSection = d.hasSection := by
  funext name
  simp only [Document.hasSection, h.sections]

theorem SameContent.raw? (h : d.SameContent d') : d'.raw? = d.raw? := by
  funext name key
  have hrawIn : d'.rawIn = d.rawIn := by
    funext name key value
    simp only [rawIn, List.contains_iff_mem, h.unjoined]
  simp only [Document.raw?, options, hrawIn, h.defaults, h.sections]

end CircuitScribe.Document
