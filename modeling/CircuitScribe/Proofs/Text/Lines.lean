import CircuitScribe.Proofs.Text.Blank
import CircuitScribe.Text.Basic

namespace CircuitScribe.Text

theorem unifyLineEnds_eq_self {s : List Char} (h : '\r' ∉ s) : unifyLineEnds s = s := by
  induction s using unifyLineEnds.induct with
  | case1 rest ih => simp at h
  | case2 rest hrest ih => simp at h
  | case3 c rest hc hc' ih =>
    rw [unifyLineEnds, ih fun hrest => h (List.mem_cons_of_mem _ hrest)] <;> assumption
  | case4 => rfl

theorem not_mem_unifyLineEnds (s : List Char) : '\r' ∉ unifyLineEnds s := by
  induction s using unifyLineEnds.induct with
  | case1 rest ih => simpa [unifyLineEnds] using ih
  | case2 rest hrest ih =>
    rw [unifyLineEnds]
    · simpa using ih
    · exact hrest
  | case3 c rest hc hc' ih =>
    rw [unifyLineEnds] <;> try assumption
    refine List.not_mem_cons_of_ne_of_not_mem ?_ ih
    rintro rfl
    exact hc' rfl
  | case4 => simp [unifyLineEnds]

/-- A line of a text ends at its first line feed, if it has one. -/
theorem splitLines_line {s line : List Char} (h : line ∈ splitLines s) :
    ∃ body, '\n' ∉ body ∧ (line = body ∨ line = body ++ ['\n']) ∧ ∀ c ∈ body, c ∈ s := by
  induction s generalizing line with
  | nil => simp [splitLines] at h
  | cons c rest ih =>
    simp only [splitLines] at h
    split at h
    · next hc =>
      rcases List.mem_cons.mp h with rfl | h
      · exact ⟨[], by simp, .inr (by simp [hc]), by simp⟩
      · obtain ⟨body, hfeed, hline, hmem⟩ := ih h
        exact ⟨body, hfeed, hline, fun d hd => List.mem_cons_of_mem _ (hmem d hd)⟩
    · next hc =>
      have hfirst {body : List Char} (hfeed : '\n' ∉ body) : '\n' ∉ c :: body :=
        List.not_mem_cons_of_ne_of_not_mem (Ne.symm hc) hfeed
      split at h
      · rw [List.mem_singleton] at h
        exact ⟨[c], hfirst (by simp), .inl h, by simp⟩
      · next first lines hrest =>
        rcases List.mem_cons.mp h with rfl | h
        · have hin : first ∈ splitLines rest := by simp [hrest]
          obtain ⟨body, hfeed, hline, hmem⟩ := ih hin
          refine ⟨c :: body, hfirst hfeed, ?_, ?_⟩
          · rcases hline with rfl | rfl
            · exact .inl rfl
            · exact .inr rfl
          · intro d hd
            rcases List.mem_cons.mp hd with rfl | hd
            · exact List.mem_cons_self
            · exact List.mem_cons_of_mem _ (hmem d hd)
        · have hin : line ∈ splitLines rest := by simp [hrest, h]
          obtain ⟨body, hfeed, hline, hmem⟩ := ih hin
          exact ⟨body, hfeed, hline, fun d hd => List.mem_cons_of_mem _ (hmem d hd)⟩

theorem splitLines_append {line : List Char} (h : '\n' ∉ line) (rest : List Char) :
    splitLines (line ++ '\n' :: rest) = (line ++ ['\n']) :: splitLines rest := by
  induction line with
  | nil => simp [splitLines]
  | cons c line ih =>
    have hc : c ≠ '\n' := fun hc => h (by simp [hc])
    have hline : '\n' ∉ line := fun hmem => h (List.mem_cons_of_mem _ hmem)
    simp [splitLines, hc, ih hline]

/-- Lines that are put together come apart again. -/
theorem splitLines_flatMap {lines : List (List Char)} (h : ∀ line ∈ lines, '\n' ∉ line) :
    splitLines (lines.flatMap (· ++ ['\n'])) = lines.map (· ++ ['\n']) := by
  induction lines with
  | nil => rfl
  | cons line rest ih =>
    rw [List.flatMap_cons, List.append_assoc, List.singleton_append,
      splitLines_append (h line List.mem_cons_self), ih fun l hl => h l (List.mem_cons_of_mem _ hl),
      List.map_cons]

/-- Line ends are unified on both sides of a character that belongs to none begun before it. -/
theorem unifyLineEnds_append {c : Char} (hc : c ≠ '\n') (s rest : List Char) :
    unifyLineEnds (s ++ c :: rest) = unifyLineEnds s ++ unifyLineEnds (c :: rest) := by
  induction s using unifyLineEnds.induct with
  | case1 s ih => simp only [List.cons_append, unifyLineEnds, ih]
  | case2 s hs ih =>
    rw [List.cons_append, unifyLineEnds.eq_2 _ hs, unifyLineEnds.eq_2, ih, List.cons_append]
    intro tail htail
    cases s with
    | nil => exact hc (List.cons.inj htail).1
    | cons d s => exact hs s (by rw [(List.cons.inj htail).1])
  | case3 d s hd hd' ih =>
    rw [List.cons_append, unifyLineEnds.eq_3 _ _ hd hd', unifyLineEnds.eq_3, ih, List.cons_append]
    · intro tail heq
      exact absurd heq hd'
    · exact hd'
  | case4 => rfl

theorem unifyLineEnds_concat (s : List Char) : ∃ front, unifyLineEnds (s ++ ['\n']) = front ++ ['\n'] := by
  induction s using unifyLineEnds.induct with
  | case1 s ih =>
    obtain ⟨front, hfront⟩ := ih
    exact ⟨'\n' :: front, by simp only [List.cons_append, unifyLineEnds, hfront]⟩
  | case2 s hs ih =>
    cases s with
    | nil => exact ⟨[], rfl⟩
    | cons d s =>
      obtain ⟨front, hfront⟩ := ih
      refine ⟨'\n' :: front, ?_⟩
      rw [List.cons_append, unifyLineEnds.eq_2, hfront, List.cons_append]
      intro tail htail
      exact hs s (by rw [← (List.cons.inj htail).1])
  | case3 d s hd hd' ih =>
    obtain ⟨front, hfront⟩ := ih
    refine ⟨d :: front, ?_⟩
    rw [List.cons_append, unifyLineEnds.eq_3, hfront, List.cons_append]
    · intro tail heq
      exact absurd heq hd'
    · exact hd'
  | case4 => exact ⟨[], rfl⟩

theorem splitLines_ne_nil {s : List Char} (h : s ≠ []) : splitLines s ≠ [] := by
  cases s with
  | nil => exact absurd rfl h
  | cons c s =>
    rw [splitLines]
    split
    · simp
    · split <;> simp

theorem splitLines_append_feed (s rest : List Char) :
    splitLines (s ++ '\n' :: rest) = splitLines (s ++ ['\n']) ++ splitLines rest := by
  induction s with
  | nil => simp [splitLines]
  | cons c s ih =>
    simp only [List.cons_append, splitLines, ih]
    split
    · rfl
    · cases hfront : splitLines (s ++ ['\n']) with
      | nil => exact absurd hfront (splitLines_ne_nil (by simp))
      | cons line lines => rfl

/-- What is left of a line of a text without the blanks around it holds no line end. -/
theorem not_mem_trim_line {s line : List Char} (h : line ∈ splitLines (unifyLineEnds s)) :
    '\n' ∉ trim line ∧ '\r' ∉ trim line := by
  obtain ⟨body, hfeed, hline, hmem⟩ := splitLines_line h
  have htrim : trim line = trim body := by
    rcases hline with rfl | rfl
    · rfl
    · exact trim_concat isBlank_feed body
  rw [htrim]
  refine ⟨fun hin => hfeed (mem_of_mem_trim hin), fun hin => ?_⟩
  exact not_mem_unifyLineEnds s (hmem _ (mem_of_mem_trim hin))

end CircuitScribe.Text
