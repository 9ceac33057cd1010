import CircuitScribe.Instruction
import CircuitScribe.Keywords
import Mathlib.Computability.Language

namespace CircuitScribe

namespace Pattern

open scoped Computability

/-- The texts of a single character, between two characters. -/
def range (first last : Char) : Language Char :=
  {text | ∃ ch, text = [ch] ∧ first ≤ ch ∧ ch ≤ last}

/-- The text of a single character. -/
def only (ch : Char) : Language Char :=
  {[ch]}

/-- A letter, a digit or an underscore. -/
def letter : Language Char :=
  range 'a' 'z' + range 'A' 'Z' + range '0' '9' + only '_'

/-- The pattern `[a-z][a-zA-Z0-9_]*`. -/
def identifier : Language Char :=
  range 'a' 'z' * letter∗

/-- The pattern `[a-z][a-zA-Z0-9_]*$`, where `$` also stands before a line feed at the very end. -/
def registerName : Language Char :=
  identifier * (1 + only '\n')

/-- The pattern `[1-9][0-9]*` of positive numbers. -/
def numeral : Language Char :=
  range '1' '9' * (range '0' '9')∗

/-- A register with its size, as it is declared. -/
def sized : Language Char :=
  registerName * only '[' * numeral * only ']'

/-- A register with a position, as instructions name its bits. -/
def bit : Language Char :=
  registerName * only '[' * (only '0' + numeral) * only ']'

/-- What stands between bits, the legacy spacing of Toffoli lines included. -/
def separator : Language Char :=
  {", ".toList} + {" ,".toList} + {" -> ".toList}

/-- The operands of an instruction: bits, or whole registers. -/
def operands : Language Char :=
  bit * (separator * bit)∗ + (1 + registerName * (only ',' * registerName)∗)

variable {text : List Char}

theorem mem_range {first last : Char} : text ∈ range first last ↔ ∃ ch, text = [ch] ∧ first ≤ ch ∧ ch ≤ last :=
  Iff.rfl

theorem mem_only {ch : Char} : text ∈ only ch ↔ text = [ch] :=
  Iff.rfl

/-- Where all words are single characters, a sequence of words is a text of such characters. -/
theorem mem_kstar_iff {l : Language Char} {p : Char → Prop} (h : ∀ word, word ∈ l ↔ ∃ ch, word = [ch] ∧ p ch) :
    text ∈ l∗ ↔ ∀ ch ∈ text, p ch := by
  rw [Language.mem_kstar]
  constructor
  · rintro ⟨words, rfl, hwords⟩ ch hch
    obtain ⟨word, hword, hch⟩ := List.mem_flatten.mp hch
    obtain ⟨ch', rfl, hp⟩ := (h word).mp (hwords word hword)
    obtain rfl := List.mem_singleton.mp hch
    exact hp
  · intro hall
    refine ⟨text.map fun ch => [ch], (List.flatMap_singleton' text).symm, fun word hword => ?_⟩
    obtain ⟨ch, hch, rfl⟩ := List.mem_map.mp hword
    exact (h _).mpr ⟨ch, rfl, hall ch hch⟩

/-- Where all words are single characters, a text that starts with a word is not empty, and goes on
    after its first character. -/
theorem mem_mul_iff {l m : Language Char} {p : Char → Prop} (h : ∀ word, word ∈ l ↔ ∃ ch, word = [ch] ∧ p ch) :
    text ∈ l * m ↔ ∃ ch rest, text = ch :: rest ∧ p ch ∧ rest ∈ m := by
  rw [Language.mem_mul]
  constructor
  · rintro ⟨word, hword, rest, hrest, rfl⟩
    obtain ⟨ch, rfl, hp⟩ := (h word).mp hword
    exact ⟨ch, rest, rfl, hp, hrest⟩
  · rintro ⟨ch, rest, rfl, hp, hrest⟩
    exact ⟨[ch], (h _).mpr ⟨ch, rfl, hp⟩, rest, hrest, rfl⟩

theorem mem_letter : text ∈ letter ↔ ∃ ch, text = [ch] ∧ isNameLetter ch = true := by
  simp only [letter, Language.mem_add, mem_range, mem_only, isNameLetter, Bool.or_eq_true, Bool.and_eq_true,
    decide_eq_true_eq, beq_iff_eq]
  constructor
  · rintro (((⟨ch, rfl, h⟩ | ⟨ch, rfl, h⟩) | ⟨ch, rfl, h⟩) | rfl)
    · exact ⟨ch, rfl, .inl (.inl (.inl h))⟩
    · exact ⟨ch, rfl, .inl (.inl (.inr h))⟩
    · exact ⟨ch, rfl, .inl (.inr h)⟩
    · exact ⟨'_', rfl, .inr rfl⟩
  · rintro ⟨ch, rfl, ((h | h) | h) | rfl⟩
    · exact .inl (.inl (.inl ⟨ch, rfl, h⟩))
    · exact .inl (.inl (.inr ⟨ch, rfl, h⟩))
    · exact .inl (.inr ⟨ch, rfl, h⟩)
    · exact .inr rfl

theorem mem_identifier_iff : text ∈ identifier ↔ isIdentifier text = true := by
  rw [identifier, mem_mul_iff (fun _ => mem_range)]
  simp only [mem_kstar_iff (fun _ => mem_letter)]
  cases text with
  | nil => simp [isIdentifier]
  | cons c rest => simp [isIdentifier, isNameStart]

/-- A name of a register is an identifier, or one with a line feed behind it. -/
theorem mem_registerName_iff : text ∈ registerName ↔
    text ∈ identifier ∨ ∃ front ∈ identifier, text = front ++ ['\n'] := by
  simp only [registerName, Language.mem_mul, Language.mem_add, Language.mem_one, mem_only]
  constructor
  · rintro ⟨front, hfront, rest, rfl | rfl, rfl⟩
    · exact .inl (by rwa [List.append_nil])
    · exact .inr ⟨front, hfront, rfl⟩
  · rintro (h | ⟨front, hfront, rfl⟩)
    · exact ⟨text, h, [], .inl rfl, List.append_nil text⟩
    · exact ⟨front, hfront, ['\n'], .inr rfl, rfl⟩

theorem mem_registerName_iff_isRegisterName {name : String} :
    name.toList ∈ registerName ↔ isRegisterName name = true := by
  rw [mem_registerName_iff, isRegisterName, Bool.or_eq_true, Bool.and_eq_true, beq_iff_eq, mem_identifier_iff]
  refine or_congr_right ⟨?_, ?_⟩
  · rintro ⟨front, hfront, hname⟩
    rw [hname, List.getLast?_concat, List.dropLast_concat]
    exact ⟨rfl, mem_identifier_iff.mp hfront⟩
  · rintro ⟨hlast, hfront⟩
    obtain ⟨front, hname⟩ := List.getLast?_eq_some_iff.mp hlast
    rw [hname, List.dropLast_concat] at hfront
    exact ⟨front, mem_identifier_iff.mpr hfront, hname⟩

theorem isDigit_iff {ch : Char} : ch.isDigit = true ↔ '0' ≤ ch ∧ ch ≤ '9' := by
  simp [Char.isDigit, Char.le_def]

/-- A positive number starts with a digit that is not zero. -/
theorem exists_toDigits_eq {n : Nat} (hn : 0 < n) :
    ∃ ch rest, Nat.toDigits 10 n = ch :: rest ∧ '1' ≤ ch ∧ ch ≤ '9' := by
  induction n using Nat.strongRecOn with
  | ind n ih =>
    rcases Nat.lt_or_ge n 10 with hlt | hge
    · have hdigit : ∀ n < 10, 0 < n → '1' ≤ n.digitChar ∧ n.digitChar ≤ '9' := by decide
      exact ⟨_, [], Nat.toDigits_of_lt_base hlt, hdigit n hlt hn⟩
    · obtain ⟨ch, rest, hfront, hch⟩ := ih (n / 10) (by omega) (by omega)
      exact ⟨ch, rest ++ [(n % 10).digitChar], by
        rw [Nat.toDigits_of_base_le (by decide) hge, hfront, List.cons_append], hch⟩

theorem toString_mem_numeral {n : Nat} (hn : 0 < n) : (toString n).toList ∈ numeral := by
  rw [Nat.toString_eq_repr, Nat.toList_repr, numeral, mem_mul_iff (fun _ => mem_range)]
  obtain ⟨ch, rest, hdigits, hch⟩ := exists_toDigits_eq hn
  refine ⟨ch, rest, hdigits, hch, (mem_kstar_iff (fun _ => mem_range)).mpr fun d hd => ?_⟩
  have hmem : d ∈ Nat.toDigits 10 n := hdigits ▸ List.mem_cons_of_mem ch hd
  exact isDigit_iff.mp (Nat.isDigit_of_mem_toDigits (by decide) (by decide) hmem)

theorem toString_mem_position (n : Nat) : (toString n).toList ∈ only '0' + numeral := by
  rcases Nat.eq_zero_or_pos n with rfl | hn
  · exact .inl rfl
  · exact .inr (toString_mem_numeral hn)

/-- Bits are operands, the first of them and then each with what stands before it. -/
theorem bits_mem (first : List Char) (rest : List (List Char)) (hfirst : first ∈ bit)
    (hrest : ∀ word ∈ rest, word ∈ separator * bit) : first ++ rest.flatten ∈ operands :=
  .inl (Language.append_mem_mul hfirst (Language.mem_kstar.mpr ⟨rest, rfl, hrest⟩))

/-- Words with a comma between any two of them. -/
theorem intercalate_mem {l : Language Char} {word : List Char} {words : List (List Char)}
    (h : ∀ w ∈ word :: words, w ∈ l) : [','].intercalate (word :: words) ∈ l * (only ',' * l)∗ := by
  obtain ⟨hword, hwords⟩ := List.forall_mem_cons.mp h
  have hrest : [','].intercalate (word :: words) = word ++ (words.map ([','] ++ ·)).flatten := by
    clear h hword hwords
    induction words generalizing word with
    | nil => simp
    | cons next rest ih => simp [List.intercalate_cons_cons, ih]
  rw [hrest]
  refine Language.append_mem_mul hword (Language.mem_kstar.mpr ⟨_, rfl, fun w hw => ?_⟩)
  obtain ⟨next, hnext, rfl⟩ := List.mem_map.mp hw
  exact Language.append_mem_mul rfl (hwords next hnext)

end Pattern

open Pattern

theorem Register.name_mem (r : Register) : r.name.toList ∈ registerName :=
  mem_registerName_iff_isRegisterName.mpr r.isRegisterName_name

/-- A register is declared behind its word with its name and its size. -/
theorem Keywords.exists_declaration (kw : Keywords) (r : Register) :
    ∃ text ∈ sized, (kw.declaration r).toList = (kw.of r).text.toList ++ ' ' :: (text ++ [';']) := by
  refine ⟨r.name.toList ++ ['['] ++ (toString r.size).toList ++ [']'], ?_, by simp [declaration]⟩
  exact Language.append_mem_mul (Language.append_mem_mul (Language.append_mem_mul r.name_mem rfl)
    (toString_mem_numeral r.size_pos)) rfl

theorem Bit.text_mem (b : Bit) : b.text.toList ∈ bit := by
  have htext : b.text.toList = b.register.name.toList ++ ['['] ++ (toString b.index).toList ++ [']'] := by
    simp [text, Line.bit]
  rw [htext]
  exact Language.append_mem_mul (Language.append_mem_mul (Language.append_mem_mul b.register.name_mem rfl)
    (toString_mem_position b.index)) rfl

/-- The names of registers are operands in a row. -/
theorem Register.names_mem (registers : List Register) :
    [','].intercalate (registers.map (·.name.toList)) ∈ operands := by
  cases registers with
  | nil => exact .inr (.inl rfl)
  | cons r rest =>
    have hnames : ∀ word ∈ (r :: rest).map (·.name.toList), word ∈ registerName :=
      List.forall_mem_map.mpr fun r _ => r.name_mem
    exact .inr (.inr (intercalate_mem hnames))

/-- An instruction is printed behind its word with its operands. -/
theorem Instruction.exists_line_eq (i : Instruction) :
    ∃ text ∈ operands, i.line.toList = i.kind.mnemonic.toList ++ ' ' :: (text ++ [';', '\n']) := by
  have hnext (before : List Char) (hbefore : before ∈ separator) (b : Bit) :
      before ++ b.text.toList ∈ separator * bit := Language.append_mem_mul hbefore b.text_mem
  have hcomma : ", ".toList ∈ separator := .inl (.inl rfl)
  have hlegacy (legacy : Bool) : (Line.toffoliSeparator legacy).toList ∈ separator := by
    cases legacy
    · exact hcomma
    · exact .inl (.inr rfl)
  cases i with
  | single gate target =>
    exact ⟨_, bits_mem _ [] target.text_mem nofun, by simp [line, Line.single]⟩
  | controlled gate control target =>
    refine ⟨_, bits_mem _ [", ".toList ++ target.text.toList] control.text_mem
      (List.forall_mem_singleton.mpr (hnext _ hcomma target)), ?_⟩
    simp [line, Line.controlled]
  | toffoli legacy control₁ control₂ target =>
    refine ⟨_, bits_mem _ [", ".toList ++ control₂.text.toList,
      (Line.toffoliSeparator legacy).toList ++ target.text.toList] control₁.text_mem
      (List.forall_mem_cons.mpr ⟨hnext _ hcomma control₂,
        List.forall_mem_singleton.mpr (hnext _ (hlegacy legacy) target)⟩), ?_⟩
    simp [line, Line.toffoli]
  | measure source target =>
    refine ⟨_, bits_mem _ [" -> ".toList ++ target.text.toList] source.text_mem
      (List.forall_mem_singleton.mpr (hnext _ (.inr rfl) target)), ?_⟩
    simp [line, Line.measure]
  | barrier registers =>
    exact ⟨_, Register.names_mem registers, by simp [line, Line.registers, Function.comp_def]⟩

end CircuitScribe
