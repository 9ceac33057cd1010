import CircuitScribe.Document.Reader
import CircuitScribe.Table
import CircuitScribe.Proofs.Text.LetterCase
import CircuitScribe.Proofs.Text.Lines

namespace CircuitScribe.Document

/-- A text within one line, without blanks around it. -/
structure IsLine (line : List Char) : Prop extends Text.IsTrimmed line where
  no_feed : '\n' ∉ line
  no_return : '\r' ∉ line

/-- A line that is taken for a comment. -/
def IsComment (line : List Char) : Prop :=
  line.head? = some '#' ∨ line.head? = some ';'

/-- A line that an option and the first line of its value make up is not taken for a header:
    behind an opening bracket there is no closing one, unless it follows at once. -/
def NoHeader (key line : List Char) : Prop :=
  key.head? = some '[' → ']' ∉ key.tail.tail ∧ ']' ∉ line

/-- The lines that reading collects for the value of an option. -/
inductive IsCollected (key : List Char) : List (List Char) → Prop where
  | lines {first : List Char} {rest : List (List Char)} (hfirst : IsLine first)
      (hheader : NoHeader key first) (hrest : ∀ line ∈ rest, IsLine line ∧ ¬ IsComment line) :
      IsCollected key (first :: rest)

/-- The name of an option as reading stores it. -/
structure IsKey (key : String) : Prop extends IsLine key.toList where
  ne_empty : key ≠ ""
  no_delimiter : ∀ c ∈ key.toList, isDelimiter c = false
  not_comment : ¬ IsComment key.toList
  lower_eq : optionName key = key

/-- The value of an option as reading stores it: lines, and no blanks at the end. -/
structure IsValue (key value : String) : Prop where
  collected : ∃ lines, IsCollected key.toList lines ∧ value.toList = ['\n'].intercalate lines
  trimmed : Text.trimEnd value.toList = value.toList

/-- The name of a section as reading stores it. -/
structure IsSectionName (name : String) : Prop where
  ne_empty : name ≠ ""
  ne_defaults : name ≠ defaultsName
  no_feed : '\n' ∉ name.toList
  no_return : '\r' ∉ name.toList

/-- Options with a name of their own each, and names and values as reading stores them. -/
structure CanonicalOptions (options : Table String String) : Prop where
  keys_nodup : options.keys.Nodup
  key : ∀ o ∈ options, IsKey o.1
  value : ∀ o ∈ options, IsValue o.1 o.2

/-- A document as reading leaves it behind. -/
structure Canonical (d : Document) : Prop where
  unjoined : d.unjoined = []
  names_nodup : d.sections.keys.Nodup
  name : ∀ name ∈ d.sections.keys, IsSectionName name
  defaults : CanonicalOptions d.defaults
  sections : ∀ s ∈ d.sections, CanonicalOptions s.2

theorem isLine_nil : IsLine [] := ⟨Text.isTrimmed_nil, by simp, by simp⟩

theorem not_isComment_nil : ¬ IsComment [] := by
  simp [IsComment]

section Lines

variable {key : List Char} {lines : List (List Char)} {line : List Char}

theorem IsCollected.ne_nil (h : IsCollected key lines) : lines ≠ [] := by
  cases h
  simp

theorem isCollected_single (hline : IsLine line) (hheader : NoHeader key line) :
    IsCollected key [line] :=
  .lines hline hheader (by simp)

theorem IsCollected.concat (h : IsCollected key lines) (hline : IsLine line)
    (hcomment : ¬ IsComment line) : IsCollected key (lines ++ [line]) := by
  cases h with
  | lines hfirst hheader hrest =>
    refine .lines hfirst hheader fun l hl => ?_
    rcases List.mem_append.mp hl with hl | hl
    · exact hrest l hl
    · rw [List.mem_singleton.mp hl]
      exact ⟨hline, hcomment⟩

theorem IsCollected.isLine (h : IsCollected key lines) (hline : line ∈ lines) : IsLine line := by
  cases h with
  | lines hfirst hheader hrest =>
    rcases List.mem_cons.mp hline with rfl | hline
    · exact hfirst
    · exact (hrest line hline).1

theorem intercalate_concat (hlines : lines ≠ []) (line : List Char) :
    ['\n'].intercalate (lines ++ [line]) = ['\n'].intercalate lines ++ '\n' :: line := by
  induction lines with
  | nil => exact absurd rfl hlines
  | cons first rest ih =>
    cases rest with
    | nil => simp [List.intercalate]
    | cons second rest =>
      have htail := ih (by simp)
      simp only [List.cons_append, List.intercalate_cons_cons] at htail ⊢
      rw [htail]
      simp

/-- An empty line at the end does not show in a value. -/
theorem joinLines_concat_nil (hlines : lines ≠ []) : joinLines (lines ++ [[]]) = joinLines lines := by
  rw [joinLines, joinLines, intercalate_concat hlines, Text.trimEnd_concat Text.isBlank_feed]

theorem trimEnd_intercalate_concat (hlines : lines ≠ []) (hline : IsLine line) (hne : line ≠ []) :
    Text.trimEnd (['\n'].intercalate (lines ++ [line])) = ['\n'].intercalate (lines ++ [line]) := by
  apply Text.trimEnd_eq_self
  intro c hc
  apply hline.last c
  rw [intercalate_concat hlines, List.getLast?_append_of_ne_nil _ (by simp)] at hc
  cases line with
  | nil => exact absurd rfl hne
  | cons d rest => simpa using hc

/-- What is collected becomes a value. -/
theorem IsCollected.isValue {key : String} (h : IsCollected key.toList lines) :
    IsValue key (joinLines lines) := by
  induction lines using List.reverseRecOn with
  | nil => exact absurd rfl h.ne_nil
  | append_singleton lines line ih =>
    by_cases hlines : lines = []
    · subst hlines
      have hline := h.isLine (List.mem_singleton_self line)
      have hvalue : (joinLines [line]).toList = line := by
        simp [joinLines, List.intercalate, Text.trimEnd_eq_self hline.last]
      rw [List.nil_append]
      refine ⟨⟨[line], h, ?_⟩, ?_⟩
      · simp [hvalue, List.intercalate]
      · rw [hvalue, Text.trimEnd_eq_self hline.last]
    · have hline := h.isLine (List.mem_append_right lines (List.mem_singleton_self line))
      have hbefore : IsCollected key.toList lines := by
        cases lines with
        | nil => exact absurd rfl hlines
        | cons first rest =>
          cases h with
          | lines hfirst hheader hrest =>
            exact .lines hfirst hheader fun l hl => hrest l (List.mem_append_left _ hl)
      by_cases hne : line = []
      · rw [hne, joinLines_concat_nil hlines]
        exact ih hbefore
      · have htrim := trimEnd_intercalate_concat hlines hline hne
        have hvalue : (joinLines (lines ++ [line])).toList = ['\n'].intercalate (lines ++ [line]) := by
          rw [joinLines, String.toList_ofList, htrim]
        exact ⟨⟨lines ++ [line], h, hvalue⟩, by rw [hvalue, htrim]⟩

end Lines

section Options

variable {options : Table String String} {key value : String}

theorem canonicalOptions_nil : CanonicalOptions [] := ⟨List.nodup_nil, by simp, by simp⟩

theorem CanonicalOptions.put (h : CanonicalOptions options) (hkey : IsKey key)
    (hvalue : IsValue key value) : CanonicalOptions (options.put key value) := by
  refine ⟨Table.keys_put_nodup h.keys_nodup key value, fun o ho => ?_, fun o ho => ?_⟩
  · rcases Table.mem_put ho with rfl | ho
    · exact hkey
    · exact h.key o ho
  · rcases Table.mem_put ho with rfl | ho
    · exact hvalue
    · exact h.value o ho

end Options

section Documents

variable {d : Document} {name key value : String}

theorem put_put (d : Document) (name key a b : String) :
    (d.put name key a).put name key b = d.put name key b := by
  by_cases hname : name = defaultsName
  · simp [Document.put, hname, Table.put_put]
  · simp [Document.put, Document.options, hname, Table.get?_put_self, Table.put_put]

theorem canonical_empty : Canonical {} :=
  ⟨rfl, List.nodup_nil, by simp [Table.keys], canonicalOptions_nil, by simp⟩

theorem Canonical.options (h : d.Canonical) (name : String) : CanonicalOptions (d.options name) := by
  unfold Document.options
  split
  · exact h.defaults
  · cases hget : d.sections.get? name with
    | none => exact canonicalOptions_nil
    | some options => exact h.sections _ (Table.mem_of_get?_eq_some hget)

/-- A section of a canonical document may be given other options. -/
theorem Canonical.putSection (h : d.Canonical) (hname : IsSectionName name)
    {options : Table String String} (hoptions : CanonicalOptions options) :
    Canonical { d with sections := d.sections.put name options } := by
  refine ⟨h.unjoined, Table.keys_put_nodup h.names_nodup name options, fun n hn => ?_, h.defaults,
    fun s hs => ?_⟩
  · obtain ⟨s, hs, rfl⟩ := List.mem_map.mp hn
    rcases Table.mem_put hs with rfl | hs
    · exact hname
    · exact h.name _ (List.mem_map_of_mem hs)
  · rcases Table.mem_put hs with rfl | hs
    · exact hoptions
    · exact h.sections s hs

theorem Canonical.put (h : d.Canonical) (hname : name ≠ defaultsName → IsSectionName name)
    (hkey : IsKey key) (hvalue : IsValue key value) : (d.put name key value).Canonical := by
  unfold Document.put
  split
  · exact ⟨h.unjoined, h.names_nodup, h.name, h.defaults.put hkey hvalue, h.sections⟩
  · next hne => exact h.putSection (hname hne) ((h.options name).put hkey hvalue)

theorem Canonical.withSection (h : d.Canonical) (hname : name ≠ defaultsName → IsSectionName name) :
    (d.withSection name).Canonical := by
  unfold Document.withSection
  split
  · exact h
  · next hnot =>
    rw [not_or] at hnot
    exact h.putSection (hname hnot.1) canonicalOptions_nil

end Documents

end CircuitScribe.Document
