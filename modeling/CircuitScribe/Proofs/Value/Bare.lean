import CircuitScribe.Fault.Family
import CircuitScribe.Proofs.Register.Bare
import CircuitScribe.Proofs.Value.Printing

namespace CircuitScribe

/-- A reference by what it leads to alone, a list or a table. -/
def Reference.bare : Reference → Reference
  | .list _ => .list 0
  | .table _ => .table 0
  | .recordsOf _ => .recordsOf 0
  | .settingsOf _ => .settingsOf 0

@[simp] theorem Reference.bare_isTable (ref : Reference) : ref.bare.isTable = ref.isTable := by
  cases ref <;> rfl

namespace Value

mutual

/-- A value with its registers as their data alone, and without the numbers of what it refers
    to. -/
def bare (v : Value) : Value :=
  match v with
  | .list items => .list (bareAll items)
  | .tuple items => .tuple (bareAll items)
  | .dict entries => .dict (bareEntries entries)
  | .register r => .register r.bare
  | .record k qargs cargs rendered => .record k (bareAll qargs) (bareAll cargs) rendered
  | .instructionSet _ => .instructionSet 0
  | .circuit _ => .circuit 0
  | .config _ => .config 0
  | .shared ref => .shared ref.bare
  | v => v
termination_by structural v

def bareAll (items : List Value) : List Value :=
  match items with
  | [] => []
  | v :: vs => v.bare :: bareAll vs
termination_by structural items

def bareEntries (entries : List (String × Value)) : List (String × Value) :=
  match entries with
  | [] => []
  | e :: es => bareEntry e :: bareEntries es
termination_by structural entries

def bareEntry (entry : String × Value) : String × Value :=
  match entry with
  | (key, v) => (key, v.bare)
termination_by structural entry

end

theorem bareAll_eq_map (items : List Value) : bareAll items = items.map bare := by
  induction items with
  | nil => rfl
  | cons v vs ih => rw [bareAll, ih, List.map_cons]

mutual

/-- What a value loses does not show in its literal. -/
theorem literal_bare (v : Value) : v.bare.literal = v.literal := by
  match v with
  | .list items => simp only [bare, literal, literals_bare items]
  | .tuple items => simp only [bare, literal, literals_bare items]
  | .dict entries => simp only [bare, literal, entryLiterals_bare entries]
  | .record _ _ _ _ | .register _ | .instructionSet _ | .circuit _ | .config _ => rfl
  | .shared ref => simp only [bare, literal, Reference.bare_isTable]
  | .null | .bool _ | .int _ | .float _ | .str _ | .slice _ _ _ | .kind _ => rfl
termination_by structural v

theorem literals_bare (items : List Value) : literals (bareAll items) = literals items := by
  match items with
  | [] => rfl
  | v :: vs => simp only [bareAll, literals, literal_bare v, literals_bare vs]
termination_by structural items

theorem entryLiterals_bare (entries : List (String × Value)) :
    entryLiterals (bareEntries entries) = entryLiterals entries := by
  match entries with
  | [] => rfl
  | e :: es => simp only [bareEntries, entryLiterals, entryLiteral_bare e, entryLiterals_bare es]
termination_by structural entries

theorem entryLiteral_bare (entry : String × Value) : entryLiteral (bareEntry entry) = entryLiteral entry := by
  match entry with
  | (key, v) => simp only [bareEntry, entryLiteral, literal_bare v]
termination_by structural entry

end

theorem text_bare (v : Value) : v.bare.text = v.text := by
  cases v with
  | str s => rfl
  | kind k => rfl
  | _ => exact literal_bare _

mutual

/-- Nor does it matter for whether the value can be printed. -/
theorem checkPrintWithin_bare (v : Value) (room : Nat) :
    v.bare.checkPrintWithin room = v.checkPrintWithin room := by
  match v, room with
  | .list _, 0 | .tuple _, 0 | .dict _, 0 => rfl
  | .list items, room + 1 => exact checkPrintAll_bare items room
  | .tuple items, room + 1 => exact checkPrintAll_bare items room
  | .dict entries, room + 1 => exact checkPrintEntries_bare entries room
  | .record _ _ _ _, _ | .register _, _ | .instructionSet _, _ | .circuit _, _ | .config _, _
  | .shared _, _ | .null, _ | .bool _, _ | .int _, _ | .float _, _ | .str _, _ | .slice _ _ _, _
  | .kind _, _ => rfl
termination_by structural v

theorem checkPrintAll_bare (items : List Value) (room : Nat) :
    checkPrintAll (bareAll items) room = checkPrintAll items room := by
  match items with
  | [] => rfl
  | v :: vs =>
    simp only [bareAll, checkPrintAll, checkPrintWithin_bare v room, checkPrintAll_bare vs room]
termination_by structural items

theorem checkPrintEntries_bare (entries : List (String × Value)) (room : Nat) :
    checkPrintEntries (bareEntries entries) room = checkPrintEntries entries room := by
  match entries with
  | [] => rfl
  | e :: es =>
    simp only [bareEntries, checkPrintEntries, checkPrintEntry_bare e room, checkPrintEntries_bare es room]
termination_by structural entries

theorem checkPrintEntry_bare (entry : String × Value) (room : Nat) :
    checkPrintEntry (bareEntry entry) room = checkPrintEntry entry room := by
  match entry with
  | (key, v) => simp only [bareEntry, checkPrintEntry, checkPrintWithin_bare v room]
termination_by structural entry

end

theorem printed_bare (v : Value) : v.bare.printed = v.printed := by
  rw [printed, printed, text_bare, checkPrint, checkPrintWithin_bare]
  rfl

theorem printedLiteral_bare (v : Value) : v.bare.printedLiteral = v.printedLiteral := by
  rw [printedLiteral, printedLiteral, literal_bare, checkPrint, checkPrintWithin_bare]
  rfl

theorem sortName_bare (v : Value) : v.bare.sortName = v.sortName := by
  cases v with
  | shared ref => simp only [bare, sortName, Reference.bare_isTable]
  | _ => rfl

theorem inserted_bare (v : Value) : v.bare.inserted = v.inserted := by
  cases v with
  | tuple items =>
    cases items with
    | nil => rfl
    | cons w rest =>
      simp only [bare, bareAll, inserted, printed_bare, bareAll_eq_map, List.isEmpty_map]
  | _ => exact printed_bare _

/-- A name that does not fit into the only gap of a template is a tuple of another length than one,
    or it cannot be printed, nor can the first item of a tuple that it is. -/
theorem cases_of_inserted_eq_error {v : Value} {fault : Fault} (h : v.inserted = .error fault) :
    (∃ items, v = .tuple items ∧ items.length ≠ 1 ∧ fault = .value .wrongSort) ∨
    (∃ w, (v = w ∨ ∃ rest, v = .tuple (w :: rest)) ∧ w.checkPrint = .error fault) := by
  unfold inserted at h
  split at h
  · exact .inl ⟨[], rfl, by simp, (Except.error.inj h).symm⟩
  · next w rest =>
    rcases Fault.bind_eq_error_iff.mp h with h | ⟨text, _, h⟩
    · exact .inr ⟨w, .inr ⟨rest, rfl⟩, printed_eq_error_iff.mp h⟩
    · split at h
      · cases h
      · next hrest => exact .inl ⟨_, rfl, by simpa using hrest, (Except.error.inj h).symm⟩
  · exact .inr ⟨v, .inl rfl, printed_eq_error_iff.mp h⟩

theorem bare_eq_register {v : Value} {r : Register} (h : v.bare = .register r) :
    ∃ r', v = .register r' ∧ r'.bare = r := by
  cases v <;> simp only [bare, reduceCtorEq, register.injEq] at h
  exact ⟨_, rfl, h⟩

theorem bare_eq_int {v : Value} {n : Int} (h : v.bare = .int n) : v = .int n := by
  cases v <;> simp only [bare, reduceCtorEq] at h
  exact h

theorem bare_eq_str {v : Value} {text : String} (h : v.bare = .str text) : v = .str text := by
  cases v <;> simp only [bare, reduceCtorEq] at h
  exact h

/-- Only pairs on registers with the same data look like a pair. -/
theorem bare_eq_pair {v : Value} {r : Register} {n : Int}
    (h : v.bare = (Value.tuple [.register r, .int n]).bare) :
    ∃ r', v = .tuple [.register r', .int n] ∧ r'.bare = r.bare := by
  cases v <;> simp only [bare, reduceCtorEq, tuple.injEq, bareAll_eq_map] at h
  obtain ⟨v, rest, rfl, hv, hrest⟩ := List.map_eq_cons_iff.mp h
  obtain ⟨w, rest, rfl, hw, hrest⟩ := List.map_eq_cons_iff.mp hrest
  obtain ⟨r', rfl, hr'⟩ := bare_eq_register hv
  rw [List.map_nil, List.map_eq_nil_iff] at hrest
  exact ⟨r', by rw [bare_eq_int hw, hrest], hr'⟩

end Value

def OperandFault.bare : OperandFault → OperandFault
  | .outOfRange r index position => .outOfRange r.bare index.bare position
  | .noRegisters circuit kind operand => .noRegisters circuit kind operand.bare
  | .wrongKind kind r keyword operand => .wrongKind kind r.bare keyword operand.bare
  | .foreign r operand => .foreign r.bare operand.bare

def UsageFault.bare : UsageFault → UsageFault
  | .operandIndexNotInteger index => .operandIndexNotInteger index.bare
  | .sizesDiffer qubits clbits => .sizesDiffer qubits.bare clbits.bare
  | fault => fault

theorem OperandFault.reason_bare (fault : OperandFault) : fault.bare.reason = fault.reason := by
  cases fault <;> rfl

theorem UsageFault.message_bare (fault : UsageFault) : fault.bare.message = fault.message := by
  unfold message
  cases fault with
  | operandIndexNotInteger _ => simp only [bare, Value.sortName_bare]
  | _ => rfl

namespace Fault

/-- A fault with the values in it bare. -/
def bare : Fault → Fault
  | .operand fault => .operand fault.bare
  | .usage fault => .usage fault.bare
  | fault => fault

/-- What a fault loses does not show in its message. -/
theorem message?_bare (fault : Fault) : fault.bare.message? = fault.message? := by
  cases fault with
  | operand fault => exact congrArg (fun reason => some (Text.quote reason)) fault.reason_bare
  | usage fault => exact congrArg (fun message => some (Text.quote message)) fault.message_bare
  | _ => rfl

theorem bare_eq_self_of_isPrinting {fault : Fault} (h : fault.IsPrinting) : fault.bare = fault := by
  rcases h with rfl | rfl <;> rfl

theorem family?_bare (fault : Fault) : fault.bare.family? = fault.family? := by
  cases fault with
  | operand fault => cases fault <;> rfl
  | _ => rfl

theorem operand?_bare (fault : Fault) : fault.bare.operand? = fault.operand?.map Value.bare := by
  cases fault with
  | operand fault => cases fault <;> rfl
  | _ => rfl

end Fault

end CircuitScribe
