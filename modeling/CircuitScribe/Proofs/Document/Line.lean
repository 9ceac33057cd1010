import CircuitScribe.Proofs.Document.Canonical

namespace CircuitScribe.Document

section Headers

variable {line name : List Char}

/-- A line that starts with an opening bracket is no header if no closing one is behind it,
    except directly behind it. -/
theorem header?_eq_none_iff : header? ('[' :: line) = none ↔ ']' ∉ line.tail := by
  by_cases hmem : ']' ∈ line.reverse
  · obtain ⟨after, before, hsplit, hafter⟩ := List.eq_append_cons_of_mem hmem
    have hline : line = before.reverse ++ ']' :: after.reverse := by
      rw [← List.reverse_reverse line, hsplit]
      simp
    have hdrop : line.reverse.dropWhile (· ≠ ']') = ']' :: before := by
      rw [hsplit, List.dropWhile_append_of_pos]
      · simp
      · intro c hc
        simpa using fun heq : c = ']' => hafter (heq ▸ hc)
    simp only [header?, hdrop, List.drop_succ_cons, List.drop_zero]
    rw [hline]
    cases hbefore : before with
    | nil => simpa using hafter
    | cons c rest =>
      cases hrest : rest.reverse <;> simp [hrest]
  · have hdrop : line.reverse.dropWhile (· ≠ ']') = [] := by
      rw [List.dropWhile_eq_nil_iff]
      intro c hc
      simpa using fun heq : c = ']' => hmem (heq ▸ hc)
    have hnot : ']' ∉ line.tail := fun h => hmem (by simpa using List.mem_of_mem_tail h)
    simp only [header?, hdrop]
    simp [hnot]

theorem header?_bracketed (hname : name ≠ []) : header? ('[' :: (name ++ [']'])) = some name := by
  cases hreverse : name.reverse with
  | nil => exact absurd (List.reverse_eq_nil_iff.mp hreverse) hname
  | cons c rest =>
    have hname : name = rest.reverse ++ [c] := by
      rw [← List.reverse_reverse name, hreverse, List.reverse_cons]
    simp [header?, hname]

theorem ne_nil_of_header? (h : header? line = some name) : name ≠ [] := by
  unfold header? at h
  split at h
  · split at h
    · cases h
    · next hne =>
      cases h
      simpa using hne
  · cases h

theorem mem_of_header? (h : header? line = some name) : ∀ c ∈ name, c ∈ line := by
  unfold header? at h
  split at h
  · split at h
    · cases h
    · cases h
      intro c hc
      have hdrop := List.mem_of_mem_drop (List.mem_reverse.mp hc)
      have hreverse := (List.dropWhile_suffix _).subset hdrop
      exact List.mem_cons_of_mem _ (List.mem_reverse.mp hreverse)
  · cases h

end Headers

section Options

variable {line raw value : List Char}

/-- What an option line is split into. -/
theorem option?_eq_some (h : option? line = some (raw, value)) :
    ∃ before delimiter after, line = before ++ delimiter :: after ∧
      (∀ c ∈ before, isDelimiter c = false) ∧ raw = Text.trimEnd before ∧ value = Text.trim after := by
  unfold option? at h
  split at h
  · cases h
  · next delimiter after hdrop =>
    cases h
    refine ⟨line.takeWhile (!isDelimiter ·), delimiter, after, ?_, fun c hc => ?_, rfl, rfl⟩
    · rw [← hdrop, List.takeWhile_append_dropWhile]
    · simpa using List.mem_takeWhile_imp hc

theorem isLine_trim (hfeed : '\n' ∉ line) (hreturn : '\r' ∉ line) : IsLine (Text.trim line) :=
  ⟨Text.isTrimmed_trim line, fun h => hfeed (Text.mem_of_mem_trim h),
    fun h => hreturn (Text.mem_of_mem_trim h)⟩

/-- The name of an option before it is put into lower case. -/
structure IsRawKey (raw : List Char) : Prop extends IsLine raw where
  no_delimiter : ∀ c ∈ raw, isDelimiter c = false
  not_comment : ¬ IsComment raw

theorem tail_isPrefix (hpre : raw <+: line) (hne : raw ≠ []) : raw.tail <+: line.tail := by
  obtain ⟨rest, rfl⟩ := hpre
  exact ⟨rest, (List.tail_append_of_ne_nil hne).symm⟩

theorem head?_of_isPrefix (hpre : raw <+: line) (hne : raw ≠ []) : raw.head? = line.head? := by
  obtain ⟨rest, rfl⟩ := hpre
  rw [List.head?_append_of_ne_nil _ hne]

/-- An option line gives a name and a first line for a value. -/
theorem option?_spec (hline : IsLine line) (hcomment : ¬ IsComment line) (hheader : header? line = none)
    (h : option? line = some (raw, value)) (hne : raw ≠ []) :
    IsRawKey raw ∧ IsLine value ∧ NoHeader raw value := by
  obtain ⟨before, delimiter, after, hsplit, hbefore, rfl, rfl⟩ := option?_eq_some h
  have hpre : Text.trimEnd before <+: line :=
    (Text.trimEnd_isPrefix before).trans ⟨delimiter :: after, hsplit.symm⟩
  have hhead := head?_of_isPrefix hpre hne
  have hafter : ∀ c ∈ after, c ∈ line := fun c hc => by
    rw [hsplit]
    exact List.mem_append_right _ (List.mem_cons_of_mem _ hc)
  refine ⟨⟨⟨⟨?_, Text.last_trimEnd before⟩, ?_, ?_⟩, ?_, ?_⟩, ?_, ?_⟩
  · rw [hhead]
    exact hline.head
  · exact fun hfeed => hline.no_feed (hpre.subset hfeed)
  · exact fun hreturn => hline.no_return (hpre.subset hreturn)
  · exact fun c hc => hbefore c (Text.mem_of_mem_trimEnd hc)
  · rw [IsComment, hhead]
    exact hcomment
  · exact isLine_trim (fun h => hline.no_feed (hafter _ h)) (fun h => hline.no_return (hafter _ h))
  · intro hopen
    rw [hhead] at hopen
    obtain ⟨rest, rfl⟩ : ∃ rest, line = '[' :: rest := by
      cases line with
      | nil => simp at hopen
      | cons c rest => exact ⟨rest, by simpa using hopen⟩
    rw [header?_eq_none_iff] at hheader
    obtain ⟨front, hfront⟩ : ∃ front, before = '[' :: front := by
      cases before with
      | nil => exact absurd rfl hne
      | cons c front =>
        rw [List.cons_append, List.cons.injEq] at hsplit
        exact ⟨front, by rw [hsplit.1]⟩
    rw [hfront, List.cons_append, List.cons.injEq] at hsplit
    constructor
    · intro hmem
      have hpre' : (Text.trimEnd before).tail <+: front := by
        have hbefore := tail_isPrefix (Text.trimEnd_isPrefix before) hne
        rwa [hfront, List.tail_cons, ← hfront] at hbefore
      have htail : ']' ∈ front.tail :=
        (tail_isPrefix hpre' fun hempty => by simp [hempty] at hmem).subset hmem
      apply hheader
      rw [hsplit.2]
      cases front with
      | nil => simp at htail
      | cons c front => exact List.mem_append_left _ htail
    · intro hmem
      apply hheader
      rw [hsplit.2]
      have hlater : ']' ∈ after := Text.mem_of_mem_trim hmem
      cases front with
      | nil => exact hlater
      | cons c front => exact List.mem_append_right _ (List.mem_cons_of_mem _ hlater)

theorem isSign_of_isDelimiter {c : Char} (h : isDelimiter c = true) : Text.IsSign c := by
  simp only [isDelimiter, Bool.or_eq_true, beq_iff_eq] at h
  rcases h with rfl | rfl <;> exact .inr (by simp)

/-- Lower case makes a name that can be stored. -/
theorem IsRawKey.isKey (h : IsRawKey raw) (hne : raw ≠ []) : IsKey (optionName (String.ofList raw)) := by
  have htext : (optionName (String.ofList raw)).toList = Text.lowerAfter [] raw := by
    rw [optionName, Text.toList_lower, String.toList_ofList]
  have hhead {c : Char} (hsign : Text.IsSign c) (hc : (Text.lowerAfter [] raw).head? = some c) :
      raw.head? = some c :=
    Text.head_lowerAfter hsign hc
  refine ⟨⟨⟨fun c hc => ?_, fun c hc => ?_⟩, ?_, ?_⟩, ?_, ?_, ?_, Text.lower_lower _⟩
  · rw [htext] at hc
    by_contra hnot
    have hsign : Text.IsSign c := .inl (by simpa using hnot)
    exact hnot (h.head c (hhead hsign hc))
  · rw [htext] at hc
    by_contra hnot
    have hsign : Text.IsSign c := .inl (by simpa using hnot)
    exact hnot (h.last c (Text.last_lowerAfter hsign hc))
  · rw [htext, Text.mem_lowerAfter_iff (.inl Text.isBlank_feed)]
    exact h.no_feed
  · rw [htext, Text.mem_lowerAfter_iff (.inl Text.isBlank_return)]
    exact h.no_return
  · intro hempty
    rw [hempty] at htext
    exact hne (Text.lowerAfter_eq_nil_iff.mp htext.symm)
  · intro c hc
    rw [htext] at hc
    by_contra hnot
    have hsign := isSign_of_isDelimiter (by simpa using hnot)
    exact hnot (h.no_delimiter c ((Text.mem_lowerAfter_iff hsign).mp hc))
  · rw [IsComment, htext]
    rintro (hhash | hsemicolon)
    · exact h.not_comment (.inl (hhead (.inr (by simp)) hhash))
    · exact h.not_comment (.inr (hhead (.inr (by simp)) hsemicolon))

theorem NoHeader.lower (h : NoHeader raw value) : NoHeader (Text.lowerAfter [] raw) value := by
  have hclose : Text.IsSign ']' := .inr (by simp)
  intro hopen
  have hraw : raw.head? = some '[' := Text.head_lowerAfter (.inr (by simp)) hopen
  obtain ⟨hkey, hvalue⟩ := h hraw
  refine ⟨fun hmem => hkey ?_, hvalue⟩
  cases raw with
  | nil => simp at hraw
  | cons c rest =>
    obtain rfl : c = '[' := by simpa using hraw
    rw [Text.lowerAfter_cons, Text.lowerAt_of_isSign (.inr (by simp))] at hmem
    cases rest with
    | nil => simp [Text.lowerAfter] at hmem
    | cons d rest =>
      rw [Text.lowerAfter_cons] at hmem
      cases hlower : Text.lowerAt ['['] d rest with
      | nil => exact absurd hlower (Text.lowerAt_ne_nil _ _ _)
      | cons e more =>
        rw [hlower] at hmem
        have hsplit : ']' ∈ more ++ Text.lowerAfter [d, '['] rest := hmem
        rcases List.mem_append.mp hsplit with hmore | hrest
        · have hd : ']' = d :=
            Text.eq_of_isSign_of_mem_lowerAt hclose (hlower ▸ List.mem_cons_of_mem e hmore)
          rw [← hd, Text.lowerAt_of_isSign hclose] at hlower
          simp_all
        · exact (Text.mem_lowerAfter_iff hclose).mp hrest

/-- The lower case of a name is stored. -/
theorem IsRawKey.isKey_optionName {key : String} (h : IsRawKey key.toList) (hne : key ≠ "") :
    IsKey (optionName key) := by
  have hkey := h.isKey (by simpa using hne)
  rwa [String.ofList_toList] at hkey

end Options

end CircuitScribe.Document
