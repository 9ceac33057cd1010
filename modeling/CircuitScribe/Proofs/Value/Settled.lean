import CircuitScribe.Proofs.Circuit.Bare
import CircuitScribe.Value.Collections

namespace CircuitScribe

namespace Value

variable {find find' : Reference → Option Value}

mutual

/-- What a value is at a moment is the same up to registers if what its references lead to is. -/
theorem settled_bare (hfind : ∀ ref, (find ref).map bare = (find' ref).map bare) (v : Value) :
    (v.settled find).bare = (v.settled find').bare := by
  match v with
  | .list items => simp only [settled, bare, settledAll_bare hfind items]
  | .tuple items => simp only [settled, bare, settledAll_bare hfind items]
  | .dict entries => simp only [settled, bare, settledEntries_bare hfind entries]
  | .record k qargs cargs rendered =>
    simp only [settled, bare, settledAll_bare hfind qargs, settledAll_bare hfind cargs]
  | .shared ref =>
    have href := hfind ref
    simp only [settled]
    cases hfound : find ref with
    | none =>
      rw [hfound, Option.map_none, eq_comm, Option.map_eq_none_iff] at href
      rw [href]
    | some w =>
      rw [hfound, Option.map_some, eq_comm, Option.map_eq_some_iff] at href
      obtain ⟨w', hw', hbare⟩ := href
      rw [hw']
      exact hbare.symm
  | .register _ | .instructionSet _ | .circuit _ | .config _ => rfl
  | .null | .bool _ | .int _ | .float _ | .str _ | .slice _ _ _ | .kind _ => rfl
termination_by structural v

theorem settledAll_bare (hfind : ∀ ref, (find ref).map bare = (find' ref).map bare) (items : List Value) :
    bareAll (settledAll find items) = bareAll (settledAll find' items) := by
  match items with
  | [] => rfl
  | v :: vs => simp only [settledAll, bareAll, settled_bare hfind v, settledAll_bare hfind vs]
termination_by structural items

theorem settledEntries_bare (hfind : ∀ ref, (find ref).map bare = (find' ref).map bare)
    (entries : List (String × Value)) :
    bareEntries (settledEntries find entries) = bareEntries (settledEntries find' entries) := by
  match entries with
  | [] => rfl
  | e :: es =>
    simp only [settledEntries, bareEntries, settledEntry_bare hfind e, settledEntries_bare hfind es]
termination_by structural entries

theorem settledEntry_bare (hfind : ∀ ref, (find ref).map bare = (find' ref).map bare) (entry : String × Value) :
    bareEntry (settledEntry find entry) = bareEntry (settledEntry find' entry) := by
  match entry with
  | (key, v) => simp only [settledEntry, bareEntry, settled_bare hfind v]
termination_by structural entry

end

theorem settledAll_eq_map (find : Reference → Option Value) (items : List Value) :
    settledAll find items = items.map (settled find) := by
  induction items with
  | nil => rfl
  | cons v vs ih => rw [settledAll, ih, List.map_cons]

/-- The operands of an instruction hold no reference. -/
theorem settledAll_operands (i : Instruction) :
    settledAll find i.qargs = i.qargs ∧ settledAll find i.cargs = i.cargs := by
  cases i with
  | barrier registers =>
    simp [Instruction.qargs, Instruction.cargs, settledAll_eq_map, Function.comp_def, settled]
  | _ => exact ⟨rfl, rfl⟩

/-- So its record stays as it is. -/
theorem settled_record (i : Instruction) : i.record.value.settled find = i.record.value := by
  obtain ⟨hqargs, hcargs⟩ : settledAll find i.qargs = i.qargs ∧ settledAll find i.cargs = i.cargs :=
    settledAll_operands i
  simp only [Instruction.record, GateRecord.value, settled, hqargs, hcargs]

end Value

end CircuitScribe
