import CircuitScribe.Proofs.Text.Blank
import CircuitScribe.Text.LetterCase

namespace CircuitScribe.Text

/-- The characters that have a meaning in the lines of a settings file: blanks, and the signs
    of comments, headers and options. -/
def IsSign (c : Char) : Prop :=
  isBlank c = true ∨ c ∈ ['#', ';', ':', '=', '[', ']']

/-- The code points of the signs. -/
def signRanges : List (Nat × Nat) :=
  blankRanges ++ [(0x23, 0x23), (0x3a, 0x3b), (0x3d, 0x3d), (0x5b, 0x5b), (0x5d, 0x5d)]

theorem exists_range_of_inRanges {ranges : List (Nat × Nat)} {n : Nat} (h : inRanges ranges n = true) :
    ∃ r ∈ ranges, r.1 ≤ n ∧ n ≤ r.2 := by
  induction ranges with
  | nil => simp [inRanges] at h
  | cons r rest ih =>
    obtain ⟨lo, hi⟩ := r
    simp only [inRanges] at h
    split at h
    · simp at h
    · next hlo =>
      rw [Bool.or_eq_true, decide_eq_true_eq] at h
      rcases h with hhi | hrest
      · exact ⟨(lo, hi), List.mem_cons_self, Nat.le_of_not_lt hlo, hhi⟩
      · obtain ⟨r, hr, hbounds⟩ := ih hrest
        exact ⟨r, List.mem_cons_of_mem _ hr, hbounds⟩

theorem IsSign.exists_range {c : Char} (h : IsSign c) :
    ∃ r ∈ signRanges, r.1 ≤ c.toNat ∧ c.toNat ≤ r.2 := by
  rcases h with hblank | hmark
  · obtain ⟨r, hr, hbounds⟩ := exists_range_of_inRanges hblank
    exact ⟨r, List.mem_append_left _ hr, hbounds⟩
  · simp only [List.mem_cons, List.not_mem_nil, or_false] at hmark
    rcases hmark with rfl | rfl | rfl | rfl | rfl | rfl <;> decide

theorem partner?_eq_some {runs : List CaseRun} {n m : Nat} (h : partner? runs n = some m) :
    ∃ run ∈ runs, run.first ≤ n ∧ n ≤ run.last ∧ (n - run.first) % run.step = 0 ∧
      m = run.target + (n - run.first) := by
  induction runs with
  | nil => simp [partner?] at h
  | cons run rest ih =>
    simp only [partner?] at h
    split at h
    · simp at h
    · next hfirst =>
      split at h
      · next hrun =>
        exact ⟨run, List.mem_cons_self, Nat.le_of_not_lt hfirst, hrun.1, hrun.2, (Option.some.inj h).symm⟩
      · obtain ⟨run', hrun', hbounds⟩ := ih h
        exact ⟨run', List.mem_cons_of_mem _ hrun', hbounds⟩

/-- No small letter of the first run is a capital letter of the second. Where the two overlap,
    every other code point is one. -/
def CaseRun.apart (o r : CaseRun) : Bool :=
  Nat.blt (o.target + (o.last - o.first)) r.first || Nat.blt r.last o.target ||
    ((Nat.beq o.first o.last || Nat.beq o.step 2) && Nat.beq r.step 2 &&
      Nat.beq ((o.target + r.first) % 2) 1)

/-- No small letter of a run is in a range. -/
def CaseRun.yieldsNone (o : CaseRun) (r : Nat × Nat) : Bool :=
  Nat.blt (o.target + (o.last - o.first)) r.1 || Nat.blt r.2 o.target

/-- No capital letter of a run is in a range. -/
def CaseRun.takesNone (o : CaseRun) (r : Nat × Nat) : Bool :=
  Nat.blt o.last r.1 || Nat.blt r.2 o.first

theorem lowerRuns_apart : (lowerRuns.all fun o => lowerRuns.all o.apart) = true := by
  decide +kernel

theorem lowerRuns_takesNone : (lowerRuns.all fun o => signRanges.all o.takesNone) = true := by
  decide +kernel

/-- Small letters are neither signs nor the two capital letters that follow rules of their
    own, nor surrogates. -/
theorem lowerRuns_yieldsNone : (lowerRuns.all fun o =>
    (signRanges ++ [(0x130, 0x130), (0x3a3, 0x3a3), (0xd800, 0xdfff)]).all o.yieldsNone) = true := by
  decide +kernel

theorem lowerRuns_bounded : (lowerRuns.all fun o => Nat.blt (o.target + (o.last - o.first)) 0x110000) =
    true := by
  decide +kernel

/-- The small letter of a capital letter has no small letter of its own. -/
theorem partner?_partner? {n m : Nat} (h : partner? lowerRuns n = some m) :
    partner? lowerRuns m = none := by
  obtain ⟨o, ho, hfirst, hlast, hstep, rfl⟩ := partner?_eq_some h
  by_contra hsome
  obtain ⟨m', hm'⟩ := Option.ne_none_iff_exists'.mp hsome
  obtain ⟨r, hr, hfirst', hlast', hstep', _⟩ := partner?_eq_some hm'
  have hapart := List.all_eq_true.mp (List.all_eq_true.mp lowerRuns_apart o ho) r hr
  simp only [CaseRun.apart, Bool.or_eq_true, Bool.and_eq_true, Nat.blt_eq, Nat.beq_eq] at hapart
  rcases hapart with (hbefore | hafter) | ⟨⟨hsparse, hstep₂⟩, hodd⟩
  · omega
  · omega
  · rw [hstep₂] at hstep'
    rcases hsparse with hone | htwo
    · omega
    · rw [htwo] at hstep
      omega

variable {c d : Char}

theorem lowerChar_cases (c : Char) :
    (c = '\u0130' ∧ lowerChar c = ['i', '\u0307']) ∨
    (∃ n, partner? lowerRuns c.toNat = some n ∧ lowerChar c = [Char.ofNat n]) ∨
    (c ≠ '\u0130' ∧ partner? lowerRuns c.toNat = none ∧ lowerChar c = [c]) := by
  unfold lowerChar
  by_cases hc : c = '\u0130'
  · exact .inl ⟨hc, by simp [hc]⟩
  · cases hpartner : partner? lowerRuns c.toNat with
    | some n => exact .inr (.inl ⟨n, rfl, by simp [hc]⟩)
    | none => exact .inr (.inr ⟨hc, rfl, by simp [hc]⟩)

/-- A small letter from the table as a character, with what it is not. -/
theorem toNat_partner {n m : Nat} (h : partner? lowerRuns n = some m) :
    (Char.ofNat m).toNat = m ∧ m ≠ 0x130 ∧ m ≠ 0x3a3 ∧ ∀ r ∈ signRanges, ¬ (r.1 ≤ m ∧ m ≤ r.2) := by
  obtain ⟨o, ho, hfirst, hlast, _, rfl⟩ := partner?_eq_some h
  have hbounded := List.all_eq_true.mp lowerRuns_bounded o ho
  rw [Nat.blt_eq] at hbounded
  have hoff {r : Nat × Nat} (hr : r ∈ signRanges ++ [(0x130, 0x130), (0x3a3, 0x3a3), (0xd800, 0xdfff)]) :
      o.target + (o.last - o.first) < r.1 ∨ r.2 < o.target := by
    have h := List.all_eq_true.mp (List.all_eq_true.mp lowerRuns_yieldsNone o ho) r hr
    simpa only [CaseRun.yieldsNone, Bool.or_eq_true, Nat.blt_eq] using h
  have hdotted := hoff (r := (0x130, 0x130)) (by simp)
  have hsigma := hoff (r := (0x3a3, 0x3a3)) (by simp)
  have hsurrogate := hoff (r := (0xd800, 0xdfff)) (by simp)
  simp only at hdotted hsigma hsurrogate
  refine ⟨?_, by omega, by omega, fun r hr hin => ?_⟩
  · have hvalid : (o.target + (n - o.first)).isValidChar := by
      rcases hsurrogate with hbefore | hafter
      · exact .inl (by omega)
      · exact .inr ⟨by omega, by omega⟩
    rw [Char.ofNat, dif_pos hvalid]
    rfl
  · have hsign := hoff (List.mem_append_left _ hr)
    omega

theorem not_isSign_small : ¬ IsSign 'i' ∧ ¬ IsSign '\u0307' ∧ ¬ IsSign 'σ' ∧ ¬ IsSign 'ς' := by
  simp only [IsSign]
  decide

/-- A sign has no small letter. -/
theorem lowerChar_of_isSign (h : IsSign c) : lowerChar c = [c] := by
  obtain ⟨r, hr, hbounds⟩ := h.exists_range
  rcases lowerChar_cases c with ⟨rfl, _⟩ | ⟨n, hn, _⟩ | ⟨_, _, hself⟩
  · exact absurd hr (by revert hbounds; revert r; decide)
  · obtain ⟨o, ho, hfirst, hlast, _, _⟩ := partner?_eq_some hn
    have htakes := List.all_eq_true.mp (List.all_eq_true.mp lowerRuns_takesNone o ho) r hr
    simp only [CaseRun.takesNone, Bool.or_eq_true, Nat.blt_eq] at htakes
    omega
  · exact hself

/-- A sign is no small letter. -/
theorem eq_of_isSign_of_mem_lowerChar (h : IsSign d) (hd : d ∈ lowerChar c) : d = c := by
  rcases lowerChar_cases c with ⟨rfl, hlower⟩ | ⟨n, hn, hlower⟩ | ⟨_, _, hself⟩
  · rw [hlower, List.mem_cons, List.mem_singleton] at hd
    rcases hd with rfl | rfl
    · exact absurd h not_isSign_small.1
    · exact absurd h not_isSign_small.2.1
  · rw [hlower, List.mem_singleton] at hd
    obtain ⟨htoNat, _, _, hsigns⟩ := toNat_partner hn
    obtain ⟨r, hr, hbounds⟩ := h.exists_range
    rw [hd, htoNat] at hbounds
    exact absurd hbounds (hsigns r hr)
  · rw [hself, List.mem_singleton] at hd
    exact hd

/-- A character that lower case leaves as it is, wherever it stands. -/
structure IsSmall (c : Char) : Prop where
  lower : lowerChar c = [c]
  not_sigma : c ≠ '\u03a3'

theorem isSmall_of_mem_lowerChar (hc : c ≠ '\u03a3') (hd : d ∈ lowerChar c) : IsSmall d := by
  rcases lowerChar_cases c with ⟨rfl, hlower⟩ | ⟨n, hn, hlower⟩ | ⟨_, _, hself⟩
  · rw [hlower, List.mem_cons, List.mem_singleton] at hd
    rcases hd with rfl | rfl
    · exact ⟨by decide +kernel, by decide⟩
    · exact ⟨by decide +kernel, by decide⟩
  · rw [hlower, List.mem_singleton] at hd
    obtain ⟨htoNat, hdotted, hsigma, _⟩ := toNat_partner hn
    subst hd
    constructor
    · rcases lowerChar_cases (Char.ofNat n) with ⟨heq, _⟩ | ⟨m, hm, _⟩ | ⟨_, _, hself⟩
      · rw [heq] at htoNat
        exact absurd htoNat.symm hdotted
      · rw [htoNat, partner?_partner? hn] at hm
        cases hm
      · exact hself
    · intro heq
      rw [heq] at htoNat
      exact hsigma htoNat.symm
  · rw [hself, List.mem_singleton] at hd
    rw [hd]
    exact ⟨hself, hc⟩

theorem lowerSigma_cases (before after : List Char) :
    lowerSigma before after = 'ς' ∨ lowerSigma before after = 'σ' := by
  unfold lowerSigma
  split
  · exact .inl rfl
  · exact .inr rfl

/-- The small letters of one character at its place in a text. -/
def lowerAt (before : List Char) (c : Char) (rest : List Char) : List Char :=
  if c = '\u03a3' then [lowerSigma before rest] else lowerChar c

theorem lowerAfter_cons (before : List Char) (c : Char) (rest : List Char) :
    lowerAfter before (c :: rest) = lowerAt before c rest ++ lowerAfter (c :: before) rest := rfl

theorem isSmall_of_mem_lowerAt {before rest : List Char} (hd : d ∈ lowerAt before c rest) :
    IsSmall d := by
  unfold lowerAt at hd
  split at hd
  · rw [List.mem_singleton] at hd
    rcases lowerSigma_cases before rest with hfinal | hinner
    · rw [hd, hfinal]
      exact ⟨by decide +kernel, by decide⟩
    · rw [hd, hinner]
      exact ⟨by decide +kernel, by decide⟩
  · next hc => exact isSmall_of_mem_lowerChar hc hd

theorem lowerAt_of_isSign (h : IsSign c) (before rest : List Char) : lowerAt before c rest = [c] := by
  have hc : c ≠ '\u03a3' := by
    rintro rfl
    revert h
    simp only [IsSign]
    decide
  rw [lowerAt, if_neg hc, lowerChar_of_isSign h]

theorem eq_of_isSign_of_mem_lowerAt {before rest : List Char} (h : IsSign d)
    (hd : d ∈ lowerAt before c rest) : d = c := by
  unfold lowerAt at hd
  split at hd
  · rw [List.mem_singleton] at hd
    rcases lowerSigma_cases before rest with hfinal | hinner
    · rw [hd, hfinal] at h
      exact absurd h not_isSign_small.2.2.2
    · rw [hd, hinner] at h
      exact absurd h not_isSign_small.2.2.1
  · exact eq_of_isSign_of_mem_lowerChar h hd

theorem lowerAt_ne_nil (before : List Char) (c : Char) (rest : List Char) :
    lowerAt before c rest ≠ [] := by
  unfold lowerAt
  split
  · simp
  · rcases lowerChar_cases c with ⟨_, h⟩ | ⟨n, _, h⟩ | ⟨_, _, h⟩ <;> simp [h]

variable {s before : List Char}

/-- Lower case neither adds nor removes a sign. -/
theorem mem_lowerAfter_iff (h : IsSign d) : d ∈ lowerAfter before s ↔ d ∈ s := by
  induction s generalizing before with
  | nil => rfl
  | cons c rest ih =>
    rw [lowerAfter_cons, List.mem_append, List.mem_cons, ih]
    constructor
    · rintro (hhead | htail)
      · exact .inl (eq_of_isSign_of_mem_lowerAt h hhead)
      · exact .inr htail
    · rintro (rfl | htail)
      · exact .inl (by rw [lowerAt_of_isSign h]; exact List.mem_singleton_self d)
      · exact .inr htail

theorem lowerAfter_eq_nil_iff : lowerAfter before s = [] ↔ s = [] := by
  cases s with
  | nil => simp [lowerAfter]
  | cons c rest => simp [lowerAfter_cons, lowerAt_ne_nil]

theorem head_lowerAfter (h : IsSign d) (hd : d ∈ (lowerAfter before s).head?) : d ∈ s.head? := by
  cases s with
  | nil => simp [lowerAfter] at hd
  | cons c rest =>
    rw [lowerAfter_cons, List.head?_append_of_ne_nil _ (lowerAt_ne_nil before c rest)] at hd
    have hmem := List.mem_of_mem_head? hd
    simp [eq_of_isSign_of_mem_lowerAt h hmem]

theorem last_lowerAfter (h : IsSign d) (hd : d ∈ (lowerAfter before s).getLast?) :
    d ∈ s.getLast? := by
  induction s generalizing before with
  | nil => simp [lowerAfter] at hd
  | cons c rest ih =>
    rw [lowerAfter_cons] at hd
    cases rest with
    | nil =>
      rw [lowerAfter, List.append_nil] at hd
      have hmem := List.mem_of_mem_getLast? hd
      simp [eq_of_isSign_of_mem_lowerAt h hmem]
    | cons e rest =>
      have hne : lowerAfter (c :: before) (e :: rest) ≠ [] := by
        simp [lowerAfter_eq_nil_iff]
      rw [List.getLast?_append_of_ne_nil _ hne] at hd
      simpa using ih hd

theorem isSmall_of_mem_lowerAfter (hd : d ∈ lowerAfter before s) : IsSmall d := by
  induction s generalizing before with
  | nil => simp [lowerAfter] at hd
  | cons c rest ih =>
    rw [lowerAfter_cons, List.mem_append] at hd
    rcases hd with hhead | htail
    · exact isSmall_of_mem_lowerAt hhead
    · exact ih htail

theorem lowerAfter_eq_self (h : ∀ c ∈ s, IsSmall c) : lowerAfter before s = s := by
  induction s generalizing before with
  | nil => rfl
  | cons c rest ih =>
    have hc := h c List.mem_cons_self
    rw [lowerAfter_cons, lowerAt, if_neg hc.not_sigma, hc.lower,
      ih fun d hd => h d (List.mem_cons_of_mem _ hd)]
    rfl

/-- Lower case twice is lower case once. -/
theorem lower_lower (text : String) : lower (lower text) = lower text := by
  simp only [lower, lowerChars, String.toList_ofList]
  rw [lowerAfter_eq_self fun c hc => isSmall_of_mem_lowerAfter hc]

theorem toList_lower (text : String) : (lower text).toList = lowerAfter [] text.toList := by
  simp [lower, lowerChars]

theorem upperChar_blankRanges : (blankRanges.all fun r => (List.range (r.2 - r.1 + 1)).all fun k =>
    (upperExpansions.lookup (r.1 + k)).isNone && (partner? upperRuns (r.1 + k)).isNone) = true := by
  decide +kernel

/-- Upper case does not change blanks either. -/
theorem upperChar_of_isBlank (h : isBlank c = true) : upperChar c = [c] := by
  obtain ⟨r, hr, hlow, hhigh⟩ := exists_range_of_inRanges h
  have hin : c.toNat - r.1 ∈ List.range (r.2 - r.1 + 1) := List.mem_range.mpr (by omega)
  have hnone := List.all_eq_true.mp (List.all_eq_true.mp upperChar_blankRanges r hr) _ hin
  rw [Nat.add_sub_cancel' hlow, Bool.and_eq_true, Option.isNone_iff_eq_none,
    Option.isNone_iff_eq_none] at hnone
  simp [upperChar, hnone.1, hnone.2]

theorem mem_upper_of_isBlank (h : isBlank c = true) {text : String} (hc : c ∈ text.toList) :
    c ∈ (upper text).toList := by
  rw [upper, String.toList_ofList, List.mem_flatMap]
  exact ⟨c, hc, by simp [upperChar_of_isBlank h]⟩

end CircuitScribe.Text
