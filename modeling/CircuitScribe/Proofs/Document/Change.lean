import CircuitScribe.Document
import CircuitScribe.Table
import Mathlib.Tactic.Common

namespace CircuitScribe.Document

/-- The second document is the first one with a value for one option of one section, which goes
    last if it was missing, and so does the option in its section. Nothing else differs. -/
structure ChangedAt (d d' : Document) (name key value : String) : Prop where
  defaults : d'.defaults = d.defaults
  unjoined : d'.unjoined = d.unjoined
  names : d'.sections.keys =
    if name ∈ d.sections.keys then d.sections.keys else d.sections.keys ++ [name]
  others : ∀ other, other ≠ name → d'.sections.get? other = d.sections.get? other
  keys : (d'.options name).keys =
    if key ∈ (d.options name).keys then (d.options name).keys else (d.options name).keys ++ [key]
  value : (d'.options name).get? key = some value
  kept : ∀ other, other ≠ key → (d'.options name).get? other = (d.options name).get? other

variable {name key : String}

/-- A section need not be made before an option is put into it. -/
theorem put_withSection (d : Document) (name key value : String) :
    (d.withSection name).put name key value = d.put name key value := by
  unfold withSection
  split
  · rfl
  · next hnot =>
    rw [not_or] at hnot
    obtain ⟨hname, hsection⟩ := hnot
    have hmissing : d.sections.get? name = none :=
      Table.get?_eq_none_iff.mpr fun hmem => hsection (Table.has_iff_mem_keys.mpr hmem)
    simp only [put, options, hname, if_false, Table.get?_put_self, Table.put_put, hmissing,
      Option.getD_some, Option.getD_none]

theorem options_put_self (d : Document) (name key value : String) :
    (d.put name key value).options name = (d.options name).put key value := by
  by_cases hname : name = defaultsName
  · simp [put, options, hname]
  · simp [put, options, hname, Table.get?_put_self]

theorem hasSection_put (hname : name ≠ defaultsName) (d : Document) (key value : String) :
    (d.put name key value).hasSection name = true := by
  rw [put, if_neg hname, hasSection, Table.has_iff_mem_keys]
  exact List.mem_map_of_mem (Table.mem_of_get?_eq_some (Table.get?_put_self _ _ _))

theorem mem_keys_of_raw? {d : Document} (h : d.raw? name key ≠ none) :
    key ∈ (d.options name).keys ∨ key ∈ d.defaults.keys := by
  by_contra hnot
  rw [not_or, ← Table.get?_eq_none_iff, ← Table.get?_eq_none_iff] at hnot
  exact h (by simp [raw?, hnot.1, hnot.2])

theorem changedAt_put (hname : name ≠ defaultsName) (d : Document) (key value : String) :
    ChangedAt d (d.put name key value) name key value := by
  have hoptions := options_put_self d name key value
  have hput : d.put name key value =
      { d with sections := d.sections.put name ((d.options name).put key value) } := if_neg hname
  refine ⟨by rw [hput], by rw [hput], ?_, fun other hother => ?_, ?_, ?_, fun other hother => ?_⟩
  · rw [hput]
    exact Table.keys_put _ _ _
  · rw [hput]
    exact Table.get?_put_of_ne hother _ _
  · rw [hoptions]
    exact Table.keys_put _ _ _
  · rw [hoptions]
    exact Table.get?_put_self _ _ _
  · rw [hoptions]
    exact Table.get?_put_of_ne hother _ _

/-- A put into one section is not seen from another. -/
theorem hasSection_put_of_ne {other : String} (hname : name ≠ defaultsName) (hother : other ≠ name)
    (d : Document) (key value : String) : (d.put name key value).hasSection other = d.hasSection other := by
  rw [Bool.eq_iff_iff, hasSection, hasSection, Table.has_iff_mem_keys, Table.has_iff_mem_keys,
    (changedAt_put hname d key value).names]
  split
  · rfl
  · simp [hother]

theorem raw?_put_of_ne {other : String} (hname : name ≠ defaultsName) (hother : other ≠ name)
    (d : Document) (key value : String) : (d.put name key value).raw? other = d.raw? other := by
  have hchanged := changedAt_put hname d key value
  have hoptions : (d.put name key value).options other = d.options other := by
    simp only [options, hchanged.defaults, hchanged.others other hother]
  have hrawIn : (d.put name key value).rawIn = d.rawIn := by
    funext place option text
    simp only [rawIn, hchanged.unjoined]
  funext option
  simp only [raw?, hoptions, hrawIn, hchanged.defaults]

end CircuitScribe.Document
