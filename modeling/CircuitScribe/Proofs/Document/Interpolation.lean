import CircuitScribe.Document.Interpolation
import CircuitScribe.Proofs.Document.Writing

namespace CircuitScribe.Document

/-- A piece of a value that is neither a blank nor a defect, nor a reference to a name with a
    line end in it. -/
inductive Piece.Clean : Piece → Prop where
  | char {c : Char} (h : Text.isBlank c = false) : Clean (.char c)
  | reference {name : List Char} (h : Unbroken name) : Clean (.reference name)

/-- What has been scanned of the name of a reference. -/
def Scan.before : Scan → List Char
  | .outside | .percent => []
  | .name before | .closed before => before

variable {s : List Char}

theorem unbroken_cons {c : Char} : Unbroken (c :: s) ↔ c ≠ '\n' ∧ c ≠ '\r' ∧ Unbroken s := by
  simp only [Unbroken, List.mem_cons, not_or, ne_eq, eq_comm (a := '\n'), eq_comm (a := '\r')]
  tauto

theorem unbroken_reverse : Unbroken s.reverse ↔ Unbroken s := by
  simp [Unbroken]

theorem ne_lineEnd_of_not_blank {c : Char} (h : Text.isBlank c = false) : c ≠ '\n' ∧ c ≠ '\r' := by
  constructor <;>
  · rintro rfl
    revert h
    decide

/-- What is left of a value in a state of its scan: unbroken, without a blank at the end, and
    not over within a reference. -/
structure Scanned (scan : Scan) (s : List Char) : Prop where
  before : Unbroken scan.before
  unbroken : Unbroken s
  outside : s = [] → scan = .outside
  last : ∀ c ∈ s.getLast?, Text.isBlank c = false

theorem Scanned.cons {scan scan' : Scan} {c : Char} (h : Scanned scan' s) (hbefore : Unbroken scan.before)
    (hc : c ≠ '\n' ∧ c ≠ '\r') (hlast : scan' = .outside → Text.isBlank c = false) :
    Scanned scan (c :: s) := by
  refine ⟨hbefore, unbroken_cons.mpr ⟨hc.1, hc.2, h.unbroken⟩, by simp, fun d hd => ?_⟩
  cases s with
  | nil =>
    obtain rfl : c = d := by simpa using hd
    exact hlast (h.outside rfl)
  | cons e rest => exact h.last d (by simpa using hd)

theorem scanned_of_pieces {scan : Scan} (h : ∀ p ∈ pieces scan s, p.Clean) : Scanned scan s := by
  have hempty : Unbroken [] := by simp [Unbroken]
  fun_induction pieces scan s with
  | case1 => exact ⟨hempty, hempty, fun _ => rfl, by simp⟩
  | case2 rest ih => exact (ih h).cons hempty (by decide) (by simp)
  | case3 c rest hc ih =>
    obtain ⟨hchar, hrest⟩ := List.forall_mem_cons.mp h
    cases hchar with
    | char hblank => exact (ih hrest).cons hempty (ne_lineEnd_of_not_blank hblank) fun _ => hblank
  | case4 => exact absurd (h _ List.mem_cons_self) nofun
  | case5 rest ih =>
    exact (ih (List.forall_mem_cons.mp h).2).cons hempty (by decide) fun _ => by decide
  | case6 rest hc ih => exact (ih h).cons hempty (by decide) (by simp)
  | case7 => exact absurd (h _ List.mem_cons_self) nofun
  | case8 => exact absurd (h _ List.mem_cons_self) nofun
  | case9 before c rest hc ih =>
    obtain ⟨hfeed, hreturn, hbefore⟩ := unbroken_cons.mp (ih h).before
    exact (ih h).cons hbefore ⟨hfeed, hreturn⟩ (by simp)
  | case10 => exact absurd (h _ List.mem_cons_self) nofun
  | case11 before c rest hc hne ih =>
    obtain rfl : c = ')' := not_not.mp hc
    exact (ih h).cons (ih h).before (by decide) (by simp)
  | case12 => exact absurd (h _ List.mem_cons_self) nofun
  | case13 before rest ih =>
    obtain ⟨hreference, hrest⟩ := List.forall_mem_cons.mp h
    cases hreference with
    | reference hname =>
      exact (ih hrest).cons (unbroken_reverse.mp hname) (by decide) fun _ => by decide
  | case14 => exact absurd (h _ List.mem_cons_self) nofun

/-- A value of clean pieces fits into one line. -/
theorem isLine_of_pieces (h : ∀ p ∈ pieces .outside s, p.Clean) : IsLine s := by
  have hscanned := scanned_of_pieces h
  refine ⟨⟨fun c hc => ?_, hscanned.last⟩, hscanned.unbroken.1, hscanned.unbroken.2⟩
  cases s with
  | nil => simp at hc
  | cons d rest =>
    obtain rfl : d = c := by simpa using hc
    by_cases hpercent : d = '%'
    · rw [hpercent]
      decide
    · simp only [pieces, hpercent, if_false] at h
      cases h _ List.mem_cons_self with
      | char hblank => exact hblank

/-- Pieces that expand to a text have texts of their own, which are parts of it. -/
theorem expandPieces_eq_ok {f : Piece → Except InterpolationCause (Option (List Char))} {ps : List Piece}
    {t : List Char} (h : expandPieces f ps = .ok (some t)) :
    ∀ p ∈ ps, ∃ u, f p = .ok (some u) ∧ ∀ c ∈ u, c ∈ t := by
  induction ps generalizing t with
  | nil => simp
  | cons p rest ih =>
    simp only [expandPieces] at h
    cases hp : f p with
    | error cause => simp [hp] at h
    | ok first =>
      cases hrest : expandPieces f rest with
      | error cause => simp [hp, hrest, Except.map] at h
      | ok later =>
        simp only [hp, hrest, Except.map, Except.ok.injEq, Option.bind_eq_some_iff,
          Option.map_eq_some_iff] at h
        obtain ⟨u, rfl, v, rfl, rfl⟩ := h
        intro q hq
        rcases List.mem_cons.mp hq with rfl | hq
        · exact ⟨u, hp, fun c hc => List.mem_append_left v hc⟩
        · obtain ⟨w, hw, hmem⟩ := ih hrest q hq
          exact ⟨w, hw, fun c hc => List.mem_append_right u (hmem c hc)⟩

/-- A value that expands to a text without blanks is a line itself, if no option has a line end
    in its name. -/
theorem isLine_of_expand {raw? : String → Option RawValue} {levels : Nat} {text : String} {t : List Char}
    (h : expand raw? levels (.text text) = .ok (some t)) (ht : ∀ c ∈ t, Text.isBlank c = false)
    (hkeys : ∀ key, raw? key ≠ none → Unbroken key.toList) : IsLine text.toList := by
  cases levels with
  | zero => simp [expand] at h
  | succ levels =>
    apply isLine_of_pieces
    intro p hp
    obtain ⟨u, hu, hmem⟩ := expandPieces_eq_ok h p hp
    cases p with
    | char c =>
      obtain rfl : [c] = u := by simpa [expandPiece] using hu
      exact .char (ht c (hmem c List.mem_cons_self))
    | reference name =>
      have hfound : raw? (optionName (String.ofList name)) ≠ none := by
        intro hnone
        simp [expandPiece, hnone] at hu
      have hkey := hkeys _ hfound
      rw [optionName, Text.toList_lower, String.toList_ofList, Unbroken,
        Text.mem_lowerAfter_iff (.inl Text.isBlank_feed), Text.mem_lowerAfter_iff (.inl Text.isBlank_return)] at hkey
      exact .reference hkey
    | unfinished rest => simp [expandPiece] at hu
    | stray rest => simp [expandPiece] at hu

end CircuitScribe.Document
