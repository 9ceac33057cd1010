import CircuitScribe.Document
import CircuitScribe.Proofs.Document.Line

namespace CircuitScribe.Document

/-- The lines of a value. -/
def valueLines (value : String) : List (List Char) :=
  value.toList.splitOn '\n'

/-- The lines that an option and the lines of its value take, without the line feeds. -/
def optionLines (key : List Char) : List (List Char) → List (List Char)
  | [] => []
  | first :: rest => (key ++ ' ' :: '=' :: ' ' :: first) :: rest.map ('\t' :: ·)

/-- The lines of a section. -/
def sectionLines (name : String) (options : Table String String) : List (List Char) :=
  ('[' :: (name.toList ++ [']'])) ::
    (options.flatMap (fun o => optionLines o.1.toList (valueLines o.2)) ++ [[]])

/-- The lines of a document. -/
def lines (d : Document) : List (List Char) :=
  (if d.defaults.isEmpty then [] else sectionLines defaultsName d.defaults) ++
    d.sections.flatMap fun s => sectionLines s.1 s.2

/-- A line without line ends. -/
def Unbroken (line : List Char) : Prop :=
  '\n' ∉ line ∧ '\r' ∉ line

theorem IsLine.unbroken {line : List Char} (h : IsLine line) : Unbroken line :=
  ⟨h.no_feed, h.no_return⟩

section Values

variable {key value : String} {line : List Char}

theorem valueLines_ne_nil (value : String) : valueLines value ≠ [] :=
  List.splitOn_ne_nil '\n' _

theorem intercalate_valueLines (value : String) : ['\n'].intercalate (valueLines value) = value.toList := by
  rw [valueLines, List.intercalate_splitOn]

/-- A piece between separators is free of them, and part of the whole. -/
theorem mem_splitOn {sep : Char} {s : List Char} (h : line ∈ s.splitOn sep) :
    sep ∉ line ∧ ∀ c ∈ line, c ∈ s := by
  induction s generalizing line with
  | nil =>
    obtain rfl : line = [] := by simpa using h
    simp
  | cons d rest ih =>
    rw [List.splitOn_cons_eq_if_modifyHead] at h
    by_cases hd : d = sep
    · rw [if_pos (beq_iff_eq.mpr hd)] at h
      rcases List.mem_cons.mp h with rfl | h
      · simp
      · exact ⟨(ih h).1, fun c hc => List.mem_cons_of_mem d ((ih h).2 c hc)⟩
    · rw [if_neg (by simpa using hd)] at h
      cases hpieces : rest.splitOn sep with
      | nil => exact absurd hpieces (List.splitOn_ne_nil sep rest)
      | cons first pieces =>
        rw [hpieces, List.modifyHead_cons] at h
        rcases List.mem_cons.mp h with rfl | h
        · obtain ⟨hfree, hmem⟩ := ih (hpieces ▸ List.mem_cons_self)
          refine ⟨List.not_mem_cons_of_ne_of_not_mem (Ne.symm hd) hfree, fun c hc => ?_⟩
          exact (List.mem_cons.mp hc).elim (fun h => h ▸ List.mem_cons_self)
            fun hc => List.mem_cons_of_mem d (hmem c hc)
        · obtain ⟨hfree, hmem⟩ := ih (hpieces ▸ List.mem_cons_of_mem first h)
          exact ⟨hfree, fun c hc => List.mem_cons_of_mem d (hmem c hc)⟩

theorem IsValue.collected_valueLines (h : IsValue key value) :
    IsCollected key.toList (valueLines value) := by
  obtain ⟨lines, hlines, hvalue⟩ := h.collected
  rw [valueLines, hvalue, List.splitOn_intercalate _ (fun l hl => (hlines.isLine hl).no_feed) hlines.ne_nil]
  exact hlines

/-- The lines of a value make it up again. -/
theorem IsValue.joinLines_valueLines (h : IsValue key value) : joinLines (valueLines value) = value := by
  rw [joinLines, intercalate_valueLines, h.trimmed, String.ofList_toList]

/-- What stands behind the sign of an option. -/
theorem indent_intercalate {first : List Char} {rest : List (List Char)} (hfirst : '\n' ∉ first)
    (hrest : ∀ line ∈ rest, '\n' ∉ line) :
    (['\n'].intercalate (first :: rest)).flatMap (fun c => if c = '\n' then ['\n', '\t'] else [c]) ++ ['\n'] =
      (first :: rest.map ('\t' :: ·)).flatMap (· ++ ['\n']) := by
  have hplain {line : List Char} (h : '\n' ∉ line) :
      line.flatMap (fun c => if c = '\n' then ['\n', '\t'] else [c]) = line := by
    induction line with
    | nil => rfl
    | cons c line ih =>
      have hc : c ≠ '\n' := fun hc => h (by simp [hc])
      rw [List.flatMap_cons, ih fun hmem => h (List.mem_cons_of_mem _ hmem), if_neg hc]
      rfl
  induction rest generalizing first with
  | nil => simp [List.intercalate, hplain hfirst]
  | cons second rest ih =>
    have htail := ih (hrest second List.mem_cons_self) fun l hl => hrest l (List.mem_cons_of_mem _ hl)
    rw [List.intercalate_cons_cons, List.flatMap_append, List.flatMap_append, hplain hfirst,
      List.append_assoc, List.append_assoc, htail]
    simp

theorem toList_renderOption (key value : String) :
    (renderOption (key, value)).toList =
      (optionLines key.toList (valueLines value)).flatMap (· ++ ['\n']) := by
  have hjoined := intercalate_valueLines value
  have hfree : ∀ line ∈ valueLines value, '\n' ∉ line := fun line hline => (mem_splitOn hline).1
  cases hlines : valueLines value with
  | nil => exact absurd hlines (valueLines_ne_nil value)
  | cons first rest =>
    rw [hlines] at hjoined hfree
    have hindent := indent_intercalate (hfree first List.mem_cons_self)
      fun l hl => hfree l (List.mem_cons_of_mem _ hl)
    rw [hjoined] at hindent
    have hfeed : "\n".toList = ['\n'] := rfl
    have hsign : " = ".toList = [' ', '=', ' '] := rfl
    simp only [renderOption, indentLines, String.toList_append, String.toList_ofList, hfeed, hsign,
      optionLines]
    rw [List.append_assoc, hindent]
    simp

end Values

section Documents

theorem toList_renderSection (name : String) (options : Table String String) :
    (renderSection name options).toList = (sectionLines name options).flatMap (· ++ ['\n']) := by
  have hoptions : (options.map renderOption).flatMap String.toList =
      (options.flatMap fun o => optionLines o.1.toList (valueLines o.2)).flatMap (· ++ ['\n']) := by
    rw [List.flatMap_map, List.flatMap_assoc]
    exact List.flatMap_congr fun o _ => toList_renderOption o.1 o.2
  have hopen : "[".toList = ['['] := rfl
  have hclose : "]\n".toList = [']', '\n'] := rfl
  have hfeed : "\n".toList = ['\n'] := rfl
  simp only [renderSection, String.toList_append, String.toList_join, hoptions, hopen, hclose, hfeed,
    sectionLines, List.flatMap_cons, List.flatMap_append, List.flatMap_nil]
  simp

/-- A document is written in lines. -/
theorem toList_render (d : Document) : d.render.toList = d.lines.flatMap (· ++ ['\n']) := by
  have hsections : (d.sections.map fun s => renderSection s.1 s.2).flatMap String.toList =
      (d.sections.flatMap fun s => sectionLines s.1 s.2).flatMap (· ++ ['\n']) := by
    rw [List.flatMap_map, List.flatMap_assoc]
    exact List.flatMap_congr fun s _ => toList_renderSection s.1 s.2
  rw [render, String.toList_append, String.toList_join, lines, List.flatMap_append, ← hsections]
  split
  · rfl
  · rw [toList_renderSection]

end Documents

end CircuitScribe.Document
