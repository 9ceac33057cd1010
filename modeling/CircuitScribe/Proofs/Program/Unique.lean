import CircuitScribe.Proofs.Program.Reading

namespace CircuitScribe

/-- A line of a program after its header and include. -/
inductive Sentence where
  | qreg (d : Declaration)
  | creg (d : Declaration)
  | statement (s : Statement)

namespace Sentence

/-- The names in a sentence. -/
def names : Sentence → List String
  | .qreg d | .creg d => [d.name]
  | .statement s => s.names

def text : Sentence → String
  | .qreg d => d.text "qreg"
  | .creg d => d.text "creg"
  | .statement s => s.text

def word : Sentence → String
  | .qreg _ => "qreg"
  | .creg _ => "creg"
  | .statement s => s.kind.mnemonic

/-- What stands in a sentence between its word and the closing semicolon. -/
def operands : Sentence → List Char
  | .qreg d | .creg d => d.name.toList ++ '[' :: ((toString d.size).toList ++ [']'])
  | .statement s => s.operands

/-- A sentence without the closing semicolon. -/
def body (x : Sentence) : List Char :=
  x.word.toList ++ ' ' :: x.operands

theorem toList_text (x : Sentence) : x.text.toList = x.body ++ [';'] := by
  cases x with
  | statement s => simp [text, body, word, operands, s.toList_text]
  | _ => simp [text, body, word, operands, Declaration.text]

theorem isNameLetter_of_mem_word {x : Sentence} {ch : Char} (h : ch ∈ x.word.toList) :
    isNameLetter ch = true := by
  have hletters : x.word.toList.all isNameLetter = true := by
    cases x with
    | statement s =>
      show s.kind.mnemonic.toList.all isNameLetter = true
      cases s.kind <;> decide
    | qreg d =>
      show "qreg".toList.all isNameLetter = true
      decide
    | creg d =>
      show "creg".toList.all isNameLetter = true
      decide
  exact List.all_eq_true.mp hletters ch h

theorem blank_not_mem_word (x : Sentence) : ' ' ∉ x.word.toList := by
  intro h
  exact absurd (isNameLetter_of_mem_word h) (by decide)

theorem declaration_inj {d d' : Declaration} (hd : IsName d.name) (hd' : IsName d'.name)
    (h : (qreg d).operands = (qreg d').operands) : d = d' := by
  obtain ⟨hname, hsize, _⟩ := bracketed_inj hd hd' h
  cases d
  cases d'
  simp_all

/-- A sentence can be read off its text. -/
theorem body_inj {x y : Sentence} (hx : ∀ name ∈ x.names, IsName name)
    (hy : ∀ name ∈ y.names, IsName name) (h : x.body = y.body) : x = y := by
  obtain ⟨hwords, hoperands⟩ := Text.append_cons_inj x.blank_not_mem_word y.blank_not_mem_word h
  have hword : x.word = y.word := String.toList_injective hwords
  cases x with
  | qreg d =>
    cases y with
    | qreg d' => rw [declaration_inj (hx _ (by simp [names])) (hy _ (by simp [names])) hoperands]
    | creg d' => simp [word] at hword
    | statement s => exact absurd hword.symm s.kind.mnemonic_not_declares.1
  | creg d =>
    cases y with
    | qreg d' => simp [word] at hword
    | creg d' => rw [declaration_inj (hx _ (by simp [names])) (hy _ (by simp [names])) hoperands]
    | statement s => exact absurd hword.symm s.kind.mnemonic_not_declares.2
  | statement s =>
    cases y with
    | qreg d => exact absurd hword s.kind.mnemonic_not_declares.1
    | creg d => exact absurd hword s.kind.mnemonic_not_declares.2
    | statement t => rw [Statement.operands_inj hx hy (GateKind.mnemonic_inj hword) hoperands]

/-- A character that is neither a letter nor a mark of the templates stands before the closing
    semicolon only if it stands in a name. -/
theorem not_mem_body {x : Sentence} {ch : Char} (hletter : isNameLetter ch = false)
    (hmark : ch ∉ [' ', ',', '[', ']', '-', '>']) (hnames : ∀ name ∈ x.names, ch ∉ name.toList) :
    ch ∉ x.body := by
  have hword : ch ∉ x.word.toList := by
    intro h
    simp [isNameLetter_of_mem_word h] at hletter
  have hoperands : ch ∉ x.operands := by
    cases x with
    | statement s => exact s.not_mem_operands hletter hmark hnames
    | qreg d =>
      have hsize := not_mem_decimal d.size hletter
      simp_all [operands, names]
    | creg d =>
      have hsize := not_mem_decimal d.size hletter
      simp_all [operands, names]
  have hblank : ch ≠ ' ' := fun h => hmark (by simp [h])
  simp [body, hword, hoperands, hblank]

theorem semicolon_not_mem_body {x : Sentence} (hx : ∀ name ∈ x.names, IsName name) :
    ';' ∉ x.body :=
  not_mem_body (by decide) (by decide) fun name hname => (hx name hname).not_mem (by decide)

end Sentence

namespace Program

/-- The lines of a program after its header and include. -/
def sentences (p : Program) : List Sentence :=
  p.qregs.map .qreg ++ p.cregs.map .creg ++ p.statements.map .statement

/-- A program in which all names are made of the characters of names. -/
def Named (p : Program) : Prop :=
  ∀ x ∈ p.sentences, ∀ name ∈ x.names, IsName name

theorem lines_eq (p : Program) :
    p.lines = ["OPENQASM 2.0;", "include \"qelib1.inc\";"] ++ p.sentences.map Sentence.text := by
  simp only [lines, sentences, List.map_append, List.map_map, List.append_assoc]
  rfl

theorem toList_text (p : Program) :
    p.text.toList = "OPENQASM 2.0;\ninclude \"qelib1.inc\";\n".toList ++
      (p.sentences.map Sentence.body).flatMap (· ++ ';' :: ['\n']) := by
  have hsentences : (p.sentences.map fun x => x.text ++ "\n").flatMap String.toList =
      (p.sentences.map Sentence.body).flatMap (· ++ ';' :: ['\n']) := by
    simp [List.flatMap_map, Sentence.toList_text]
  rw [text, lines_eq, String.toList_join]
  simp only [List.map_append, List.map_map, List.flatMap_append]
  rw [← hsentences]
  rfl

/-- The three parts of a program can be told apart among its sentences. -/
theorem sentences_inj {p q : Program} (h : p.sentences = q.sentences) : p = q := by
  have hqregs := congrArg (List.filterMap fun | .qreg d => some d | _ => none) h
  have hcregs := congrArg (List.filterMap fun | .creg d => some d | _ => none) h
  have hstatements := congrArg (List.filterMap fun | .statement s => some s | _ => none) h
  simp only [sentences, List.filterMap_append, List.filterMap_map] at hqregs hcregs hstatements
  cases p
  cases q
  simp_all

theorem bodies_inj {xs ys : List Sentence} (hxs : ∀ x ∈ xs, ∀ name ∈ x.names, IsName name)
    (hys : ∀ y ∈ ys, ∀ name ∈ y.names, IsName name)
    (h : xs.map Sentence.body = ys.map Sentence.body) : xs = ys := by
  induction xs generalizing ys with
  | nil =>
    cases ys with
    | nil => rfl
    | cons y ys => simp at h
  | cons x xs ih =>
    cases ys with
    | nil => simp at h
    | cons y ys =>
      obtain ⟨hbody, htail⟩ := List.cons.inj h
      rw [Sentence.body_inj (hxs x List.mem_cons_self) (hys y List.mem_cons_self) hbody,
        ih (fun x hx => hxs x (List.mem_cons_of_mem _ hx))
          (fun y hy => hys y (List.mem_cons_of_mem _ hy)) htail]

/-- A program can be read off its text, even if names in it end in line feeds. -/
theorem text_inj {p q : Program} (hp : p.Named) (hq : q.Named) (h : p.text = q.text) : p = q := by
  have hchars := congrArg String.toList h
  rw [toList_text, toList_text] at hchars
  have hbodies : p.sentences.map Sentence.body = q.sentences.map Sentence.body := by
    refine Text.flatMap_terminated_inj ?_ ?_ (List.append_cancel_left hchars)
    · intro b hb
      obtain ⟨x, hx, rfl⟩ := List.mem_map.mp hb
      exact Sentence.semicolon_not_mem_body (hp x hx)
    · intro b hb
      obtain ⟨x, hx, rfl⟩ := List.mem_map.mp hb
      exact Sentence.semicolon_not_mem_body (hq x hx)
  exact sentences_inj (bodies_inj hp hq hbodies)

end Program

end CircuitScribe
