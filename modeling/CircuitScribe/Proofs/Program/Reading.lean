import CircuitScribe.Proofs.Program.Grammar
import CircuitScribe.Proofs.Text.Unique
import Mathlib.Data.List.Basic

namespace CircuitScribe

/-- A text of which every character can stand in the name of a register, which may end in a
    line feed. -/
def IsName (s : String) : Prop :=
  s.toList ≠ [] ∧ ∀ ch ∈ s.toList, isNameLetter ch = true ∨ ch = '\n'

theorem isNameLetter_of_isNameStart {ch : Char} (h : isNameStart ch = true) :
    isNameLetter ch = true := by
  simp only [isNameStart] at h
  simp [isNameLetter, h]

theorem forall_isNameLetter_of_isIdentifier {s : List Char} (h : isIdentifier s = true) :
    s ≠ [] ∧ ∀ ch ∈ s, isNameLetter ch = true := by
  cases s with
  | nil => simp [isIdentifier] at h
  | cons c rest =>
    simp only [isIdentifier, Bool.and_eq_true, List.all_eq_true] at h
    refine ⟨by simp, fun ch hch => ?_⟩
    rcases List.mem_cons.mp hch with rfl | hrest
    · exact isNameLetter_of_isNameStart h.1
    · exact h.2 ch hrest

theorem isName_of_isRegisterName {s : String} (h : isRegisterName s = true) : IsName s := by
  simp only [isRegisterName, Bool.or_eq_true, Bool.and_eq_true, beq_iff_eq] at h
  rcases h with hplain | ⟨hlast, hfront⟩
  · obtain ⟨hne, hletters⟩ := forall_isNameLetter_of_isIdentifier hplain
    exact ⟨hne, fun ch hch => .inl (hletters ch hch)⟩
  · obtain ⟨hne, hletters⟩ := forall_isNameLetter_of_isIdentifier hfront
    obtain ⟨front, hsplit⟩ := List.getLast?_eq_some_iff.mp hlast
    rw [IsName, hsplit]
    rw [hsplit, List.dropLast_concat] at hletters
    refine ⟨by simp, fun ch hch => ?_⟩
    rcases List.mem_append.mp hch with hch | hch
    · exact .inl (hletters ch hch)
    · exact .inr (List.mem_singleton.mp hch)

/-- A character that separates the parts of a line, and so stands in no name. -/
def IsMark (ch : Char) : Prop :=
  isNameLetter ch = false ∧ ch ≠ '\n'

instance (ch : Char) : Decidable (IsMark ch) :=
  inferInstanceAs (Decidable (_ ∧ _))

variable {ch : Char}

theorem IsName.not_mem {s : String} (h : IsName s) (hch : IsMark ch) : ch ∉ s.toList := by
  intro hmem
  rcases h.2 ch hmem with hletter | hfeed
  · simp [hch.1] at hletter
  · exact hch.2 hfeed

theorem not_mem_decimal (n : Nat) (hch : isNameLetter ch = false) : ch ∉ (toString n).toList := by
  intro hmem
  simp only [Nat.toString_eq_repr, Nat.toList_repr] at hmem
  have hdigit := Nat.isDigit_of_mem_toDigits (by decide) (by decide) hmem
  have hletter : isNameLetter ch = true := by
    simp only [Char.isDigit, Bool.and_eq_true, decide_eq_true_eq] at hdigit
    simp only [isNameLetter, Bool.or_eq_true, Bool.and_eq_true, decide_eq_true_eq]
    exact .inl (.inr hdigit)
  simp [hch] at hletter

theorem decimal_inj {m n : Nat} (h : (toString m).toList = (toString n).toList) : m = n := by
  simp only [Nat.toString_eq_repr, Nat.toList_repr] at h
  rw [← Nat.ofDigitChars_ten_toDigits (n := m), h, Nat.ofDigitChars_ten_toDigits]

/-- The text of a name and a number in brackets is read in one way. -/
theorem bracketed_inj {name name' : String} {n n' : Nat} {rest rest' : List Char}
    (hname : IsName name) (hname' : IsName name')
    (h : name.toList ++ '[' :: ((toString n).toList ++ ']' :: rest) =
      name'.toList ++ '[' :: ((toString n').toList ++ ']' :: rest')) :
    name = name' ∧ n = n' ∧ rest = rest' := by
  obtain ⟨hnames, htail⟩ := Text.append_cons_inj (hname.not_mem (by decide)) (hname'.not_mem (by decide)) h
  obtain ⟨hdigits, hrest⟩ := Text.append_cons_inj (not_mem_decimal n (by decide))
    (not_mem_decimal n' (by decide)) htail
  exact ⟨String.toList_injective hnames, decimal_inj hdigits, hrest⟩

namespace Mention

theorem toList_text (m : Mention) :
    m.text.toList = m.name.toList ++ '[' :: ((toString m.index).toList ++ [']']) := by
  simp [text]

theorem text_inj {m n : Mention} (hm : IsName m.name) (hn : IsName n.name)
    (h : m.text.toList = n.text.toList) : m = n := by
  rw [toList_text, toList_text] at h
  obtain ⟨hname, hindex, _⟩ := bracketed_inj hm hn h
  cases m
  cases n
  simp_all

theorem not_mem_text {m : Mention} (hname : ch ∉ m.name.toList) (hch : isNameLetter ch = false)
    (hopen : ch ≠ '[') (hclose : ch ≠ ']') : ch ∉ m.text.toList := by
  rw [toList_text, List.mem_append, List.mem_cons, List.mem_append, List.mem_singleton]
  rintro (hmem | heq | hmem | heq)
  · exact hname hmem
  · exact hopen heq
  · exact not_mem_decimal m.index hch hmem
  · exact hclose heq

end Mention

theorem SingleGate.isSingle_kind (gate : SingleGate) : gate.kind.isSingle = true := by
  cases gate <;> rfl

theorem ControlledGate.isSingle_kind (gate : ControlledGate) : gate.kind.isSingle = false := by
  cases gate <;> rfl

theorem SingleGate.kind_inj {g g' : SingleGate} (h : g.kind = g'.kind) : g = g' := by
  cases g <;> cases g' <;> first | rfl | cases h

theorem ControlledGate.kind_inj {g g' : ControlledGate} (h : g.kind = g'.kind) : g = g' := by
  cases g <;> cases g' <;> first | rfl | cases h

/-- The word of a kind is that of its gate in programs. -/
theorem SingleGate.mnemonic_kind (gate : SingleGate) : gate.kind.mnemonic = gate.word := by
  cases gate <;> rfl

theorem ControlledGate.mnemonic_kind (gate : ControlledGate) : gate.kind.mnemonic = gate.word := by
  cases gate <;> rfl

/-- Each kind has a word of its own, which is no word of a declaration. -/
theorem GateKind.mnemonic_inj {k k' : GateKind} (h : k.mnemonic = k'.mnemonic) : k = k' := by
  revert h
  cases k <;> cases k' <;> decide

theorem GateKind.mnemonic_not_declares (k : GateKind) : k.mnemonic ≠ "qreg" ∧ k.mnemonic ≠ "creg" := by
  cases k <;> decide

namespace Statement

/-- The names in an instruction. -/
def names : Statement → List String
  | .single _ target => [target.name]
  | .controlled _ control target => [control.name, target.name]
  | .toffoli _ control₁ control₂ target => [control₁.name, control₂.name, target.name]
  | .measure source target => [source.name, target.name]
  | .barrier names => names

/-- What stands in an instruction between its word and the closing semicolon. -/
def operands : Statement → List Char
  | .single _ target => target.text.toList
  | .controlled _ control target => control.text.toList ++ ',' :: ' ' :: target.text.toList
  | .toffoli legacy control₁ control₂ target =>
    control₁.text.toList ++ ',' :: ' ' :: (control₂.text.toList ++
      if legacy then ' ' :: ',' :: target.text.toList else ',' :: ' ' :: target.text.toList)
  | .measure source target => source.text.toList ++ ' ' :: '-' :: '>' :: ' ' :: target.text.toList
  | .barrier names => [','].intercalate (names.map String.toList)

theorem toList_text (s : Statement) :
    s.text.toList = s.kind.mnemonic.toList ++ ' ' :: (s.operands ++ [';']) := by
  cases s with
  | toffoli legacy control₁ control₂ target =>
    cases legacy <;> simp [text, kind, operands, GateKind.mnemonic]
  | single gate target => simp [text, kind, operands, gate.mnemonic_kind]
  | controlled gate control target => simp [text, kind, operands, gate.mnemonic_kind]
  | _ => simp [text, kind, operands, GateKind.mnemonic]

/-- A character that is neither a letter nor a mark of the templates stands among the operands
    only if it stands in a name. -/
theorem not_mem_operands {s : Statement} (hletter : isNameLetter ch = false)
    (hmark : ch ∉ [' ', ',', '[', ']', '-', '>']) (hnames : ∀ name ∈ s.names, ch ∉ name.toList) :
    ch ∉ s.operands := by
  simp only [List.mem_cons, List.not_mem_nil, or_false, not_or] at hmark
  obtain ⟨hblank, hcomma, hopen, hclose, hdash, harrow⟩ := hmark
  have hmention {m : Mention} (hm : m.name ∈ s.names) : ch ∉ m.text.toList :=
    m.not_mem_text (hnames m.name hm) hletter hopen hclose
  cases s with
  | single gate target => exact hmention (by simp [names])
  | controlled gate control target =>
    simp [operands, hcomma, hblank, hmention (m := control) (by simp [names]),
      hmention (m := target) (by simp [names])]
  | toffoli legacy control₁ control₂ target =>
    cases legacy <;> simp [operands, hcomma, hblank, hmention (m := control₁) (by simp [names]),
      hmention (m := control₂) (by simp [names]), hmention (m := target) (by simp [names])]
  | measure source target =>
    simp [operands, hblank, hdash, harrow, hmention (m := source) (by simp [names]),
      hmention (m := target) (by simp [names])]
  | barrier names =>
    intro hmem
    rcases Text.mem_intercalate hmem with heq | ⟨x, hx, hmem⟩
    · exact hcomma heq
    · obtain ⟨name, hname, rfl⟩ := List.mem_map.mp hx
      exact hnames name hname hmem

private theorem comma_not_mem {m : Mention} (hm : IsName m.name) : ',' ∉ m.text.toList :=
  m.not_mem_text (hm.not_mem (by decide)) (by decide) (by decide) (by decide)

private theorem blank_not_mem {m : Mention} (hm : IsName m.name) : ' ' ∉ m.text.toList :=
  m.not_mem_text (hm.not_mem (by decide)) (by decide) (by decide) (by decide)

/-- A blank before the comma does not look like one behind it. -/
private theorem legacy_ne_regular {b b' : Mention} {c c' : List Char} (hb : IsName b.name)
    (hb' : IsName b'.name) :
    b.text.toList ++ ' ' :: ',' :: c ≠ b'.text.toList ++ ',' :: ' ' :: c' := by
  intro h
  have hcomma : ',' ∉ b.text.toList ++ [' '] := by simp [comma_not_mem hb]
  have hsplit : (b.text.toList ++ [' ']) ++ ',' :: c = b'.text.toList ++ ',' :: ' ' :: c' := by
    simpa using h
  obtain ⟨hbit, _⟩ := Text.append_cons_inj hcomma (comma_not_mem hb') hsplit
  exact blank_not_mem hb' (hbit ▸ by simp)

theorem toffoli_operands_inj {legacy legacy' : Bool} {a b c a' b' c' : Mention}
    (ha : IsName a.name) (hb : IsName b.name) (hc : IsName c.name)
    (ha' : IsName a'.name) (hb' : IsName b'.name) (hc' : IsName c'.name)
    (h : (toffoli legacy a b c).operands = (toffoli legacy' a' b' c').operands) :
    toffoli legacy a b c = toffoli legacy' a' b' c' := by
  obtain ⟨hfirst, htail⟩ := Text.append_cons_inj (comma_not_mem ha) (comma_not_mem ha') h
  obtain ⟨_, htail⟩ := List.cons.inj htail
  rw [Mention.text_inj ha ha' hfirst]
  cases legacy <;> cases legacy' <;> simp only [Bool.false_eq_true, if_true, if_false] at htail
  · obtain ⟨hsecond, hthird⟩ := Text.append_cons_inj (comma_not_mem hb) (comma_not_mem hb') htail
    rw [Mention.text_inj hb hb' hsecond, Mention.text_inj hc hc' (List.cons.inj hthird).2]
  · exact absurd htail.symm (legacy_ne_regular hb' hb)
  · exact absurd htail (legacy_ne_regular hb hb')
  · obtain ⟨hsecond, hthird⟩ := Text.append_cons_inj (blank_not_mem hb) (blank_not_mem hb') htail
    rw [Mention.text_inj hb hb' hsecond, Mention.text_inj hc hc' (List.cons.inj hthird).2]

/-- Instructions of one kind are told apart by their operands. -/
theorem operands_inj {s t : Statement} (hs : ∀ name ∈ s.names, IsName name)
    (ht : ∀ name ∈ t.names, IsName name) (hkind : s.kind = t.kind)
    (h : s.operands = t.operands) : s = t := by
  cases s with
  | single gate target =>
    cases t with
    | single gate' target' =>
      rw [SingleGate.kind_inj hkind, Mention.text_inj (hs _ (by simp [names])) (ht _ (by simp [names])) h]
    | controlled gate' control' target' =>
      have hsingle := congrArg GateKind.isSingle hkind
      simp [kind, gate.isSingle_kind, gate'.isSingle_kind] at hsingle
    | _ => cases gate <;> cases hkind
  | controlled gate control target =>
    cases t with
    | single gate' target' =>
      have hsingle := congrArg GateKind.isSingle hkind
      simp [kind, gate.isSingle_kind, gate'.isSingle_kind] at hsingle
    | controlled gate' control' target' =>
      have hcontrol : IsName control.name := hs _ (by simp [names])
      have hcontrol' : IsName control'.name := ht _ (by simp [names])
      obtain ⟨hfirst, hsecond⟩ := Text.append_cons_inj (comma_not_mem hcontrol)
        (comma_not_mem hcontrol') h
      rw [ControlledGate.kind_inj hkind, Mention.text_inj hcontrol hcontrol' hfirst,
        Mention.text_inj (hs _ (by simp [names])) (ht _ (by simp [names])) (List.cons.inj hsecond).2]
    | _ => cases gate <;> cases hkind
  | toffoli legacy control₁ control₂ target =>
    cases t with
    | toffoli legacy' control₁' control₂' target' =>
      exact toffoli_operands_inj (hs _ (by simp [names])) (hs _ (by simp [names]))
        (hs _ (by simp [names])) (ht _ (by simp [names])) (ht _ (by simp [names]))
        (ht _ (by simp [names])) h
    | single gate' target' => cases gate' <;> cases hkind
    | controlled gate' control' target' => cases gate' <;> cases hkind
    | _ => cases hkind
  | measure source target =>
    cases t with
    | measure source' target' =>
      have hsource : IsName source.name := hs _ (by simp [names])
      have hsource' : IsName source'.name := ht _ (by simp [names])
      obtain ⟨hfirst, hsecond⟩ := Text.append_cons_inj (blank_not_mem hsource)
        (blank_not_mem hsource') h
      simp only [List.cons.injEq, true_and] at hsecond
      rw [Mention.text_inj hsource hsource' hfirst,
        Mention.text_inj (hs _ (by simp [names])) (ht _ (by simp [names])) hsecond]
    | single gate' target' => cases gate' <;> cases hkind
    | controlled gate' control' target' => cases gate' <;> cases hkind
    | _ => cases hkind
  | barrier names =>
    cases t with
    | barrier names' =>
      have hlists : names.map String.toList = names'.map String.toList := by
        refine Text.intercalate_inj ?_ ?_ h
        · intro x hx
          obtain ⟨name, hname, rfl⟩ := List.mem_map.mp hx
          exact ⟨(hs name hname).not_mem (by decide), (hs name hname).1⟩
        · intro y hy
          obtain ⟨name, hname, rfl⟩ := List.mem_map.mp hy
          exact ⟨(ht name hname).not_mem (by decide), (ht name hname).1⟩
      rw [List.map_injective_iff.mpr (fun _ _ => String.toList_injective) hlists]
    | single gate' target' => cases gate' <;> cases hkind
    | controlled gate' control' target' => cases gate' <;> cases hkind
    | _ => cases hkind

end Statement

end CircuitScribe
