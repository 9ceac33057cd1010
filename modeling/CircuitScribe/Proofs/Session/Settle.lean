import CircuitScribe.Proofs.Session.Gate
import CircuitScribe.Proofs.Value.Settled

namespace CircuitScribe

namespace Value

variable {find : Reference → Option Value} {v : Value}

/-- References that lead to lists and tables, if they lead anywhere. -/
def LeadsToContainers (find : Reference → Option Value) : Prop :=
  ∀ ref w, find ref = some w → (∃ items, w = .list items) ∨ ∃ entries, w = .dict entries

/-- A reference settles as a list or a table, or stays. -/
theorem settled_shared (hfind : LeadsToContainers find) (ref : Reference) :
    (∃ items, (shared ref).settled find = .list items) ∨
      (∃ entries, (shared ref).settled find = .dict entries) ∨
      (shared ref).settled find = .shared ref := by
  simp only [settled]
  cases hfound : find ref with
  | none => exact .inr (.inr rfl)
  | some w =>
    rcases hfind ref w hfound with ⟨items, rfl⟩ | ⟨entries, rfl⟩
    · exact .inl ⟨items, rfl⟩
    · exact .inr (.inl ⟨entries, rfl⟩)

theorem settled_eq_register_iff (hfind : LeadsToContainers find) {r : Register} :
    v.settled find = .register r ↔ v = .register r := by
  cases v with
  | shared ref =>
    rcases settled_shared hfind ref with ⟨_, h⟩ | ⟨_, h⟩ | h <;> simp [h]
  | _ => simp [settled]

theorem settled_eq_int_iff (hfind : LeadsToContainers find) {n : Int} :
    v.settled find = .int n ↔ v = .int n := by
  cases v with
  | shared ref =>
    rcases settled_shared hfind ref with ⟨_, h⟩ | ⟨_, h⟩ | h <;> simp [h]
  | _ => simp [settled]

/-- Nothing settles as the pair of a register and a position but such a pair. -/
theorem settled_eq_pair_iff (hfind : LeadsToContainers find) {r : Register} {n : Int} :
    v.settled find = .tuple [.register r, .int n] ↔ v = .tuple [.register r, .int n] := by
  cases v with
  | shared ref =>
    rcases settled_shared hfind ref with ⟨_, h⟩ | ⟨_, h⟩ | h <;> simp [h]
  | tuple items =>
    simp only [settled, settledAll_eq_map, tuple.injEq, List.map_eq_cons_iff, List.map_eq_nil_iff]
    constructor
    · rintro ⟨v, rest, rfl, hv, w, _, rfl, hw, rfl⟩
      rw [(settled_eq_register_iff hfind).mp hv, (settled_eq_int_iff hfind).mp hw]
    · rintro rfl
      exact ⟨_, _, rfl, rfl, _, _, rfl, rfl, rfl⟩
  | _ => simp [settled]

end Value

namespace Session

variable {s s' : Session}

/-- A value settles at a moment by what its references lead to then, which are lists and tables. -/
theorem exists_settled (s : Session) : ∃ find, Value.LeadsToContainers find ∧
    ∀ v, s.settle v = v.settled find := by
  refine ⟨_, fun ref w hw => ?_, fun v => rfl⟩
  have hfound : ∀ (fuel : Nat) (path : List Reference) (v : Value), s.referent? ref = some v →
      (∃ items, s.settleWithin fuel path v = .list items) ∨
        ∃ entries, s.settleWithin fuel path v = .dict entries := by
    intro fuel path v hv
    cases ref with
    | list cell =>
      obtain ⟨items, _, rfl⟩ := Option.map_eq_some_iff.mp hv
      cases fuel <;> exact .inl ⟨_, rfl⟩
    | table cell =>
      obtain ⟨entries, _, rfl⟩ := Option.map_eq_some_iff.mp hv
      cases fuel <;> exact .inr ⟨_, rfl⟩
    | recordsOf id =>
      obtain ⟨rs, _, rfl⟩ := Option.map_eq_some_iff.mp hv
      cases fuel <;> exact .inl ⟨_, rfl⟩
    | settingsOf id =>
      obtain ⟨reader, _, rfl⟩ := Option.map_eq_some_iff.mp hv
      cases fuel <;> exact .inr ⟨_, rfl⟩
  rw [if_neg List.not_mem_nil, Option.map_eq_some_iff] at hw
  obtain ⟨v, hv, rfl⟩ := hw
  exact hfound _ _ v hv

theorem settle_eq_register_iff {v : Value} {r : Register} : s.settle v = .register r ↔ v = .register r := by
  obtain ⟨find, hfind, hsettle⟩ := s.exists_settled
  rw [hsettle, Value.settled_eq_register_iff hfind]

theorem settle_eq_pair_iff {v : Value} {r : Register} {n : Int} :
    s.settle v = .tuple [.register r, .int n] ↔ v = .tuple [.register r, .int n] := by
  obtain ⟨find, hfind, hsettle⟩ := s.exists_settled
  rw [hsettle, Value.settled_eq_pair_iff hfind]

/-- Two sessions in which values are the same at the moment: with the same attached attributes, and the
    same in all that references lead to. What settings readers have read does not count, apart from
    their settings. -/
structure SameReferents (s s' : Session) : Prop where
  attached : s'.attached = s.attached
  collections : s'.collections = s.collections
  instructionSets : s'.instructionSets = s.instructionSets
  settings : s'.readers.map (·.settings) = s.readers.map (·.settings)

namespace SameReferents

theorem isSome_reader (h : s.SameReferents s') (id : Nat) : s'.readers[id]?.isSome = s.readers[id]?.isSome := by
  have hget := congrArg (·[id]?.isSome) h.settings
  simpa only [List.getElem?_map, Option.isSome_map] using hget

theorem referent? (h : s.SameReferents s') : s'.referent? = s.referent? := by
  funext ref
  cases ref with
  | settingsOf id =>
    have hget := congrArg (fun settings => settings[id]?.map Settings.value) h.settings
    simpa only [Session.referent?, List.getElem?_map, Option.map_map, Function.comp_def] using hget
  | _ => simp only [Session.referent?, h.collections, h.instructionSets]

theorem referenceCount (h : s.SameReferents s') : s'.referenceCount = s.referenceCount := by
  have hlength := congrArg List.length h.settings
  simp only [List.length_map] at hlength
  simp only [Session.referenceCount, h.collections, h.instructionSets, hlength]

theorem settleWithin (h : s.SameReferents s') (fuel : Nat) (path : List Reference) (v : Value) :
    s'.settleWithin fuel path v = s.settleWithin fuel path v := by
  induction fuel generalizing path v with
  | zero => rfl
  | succ fuel ih =>
    have hfollow (ref : Reference) : s'.settleWithin fuel (ref :: path) =
        s.settleWithin fuel (ref :: path) := funext (ih (ref :: path))
    simp only [Session.settleWithin, hfollow, h.referent?]

theorem settle (h : s.SameReferents s') : s'.settle = s.settle := by
  funext v
  simp only [Session.settle, h.referenceCount, h.settleWithin]

theorem attachedTo? (h : s.SameReferents s') : s'.attachedTo? = s.attachedTo? := by
  funext v a
  simp only [Session.attachedTo?, h.attached]

end SameReferents

/-- Two sessions in which values are the same at the moment, and so is all that can be taken from
    them. -/
structure SameValues (s s' : Session) : Prop where
  attached : s'.attached = s.attached
  collections : s'.collections = s.collections
  instructionSets : s'.instructionSets = s.instructionSets
  readers : s'.readers = s.readers

namespace SameValues

theorem sameReferents (h : s.SameValues s') : s.SameReferents s' :=
  ⟨h.attached, h.collections, h.instructionSets, by rw [h.readers]⟩

theorem settle (h : s.SameValues s') : s'.settle = s.settle :=
  h.sameReferents.settle

theorem words (h : s.SameValues s') (hkeywords : s'.keywords = s.keywords) : s'.words = s.words := by
  simp only [Session.words, h.settle, hkeywords]

theorem surroundings (h : s.SameValues s') (hkeywords : s'.keywords = s.keywords)
    (hsettings : s'.settings = s.settings) : s'.surroundings = s.surroundings := by
  simp only [Session.surroundings, h.words hkeywords, hsettings]

theorem circuitNow (h : s.SameValues s') (c : Circuit) : s'.circuitNow c = s.circuitNow c := by
  simp only [Session.circuitNow, h.settle]

theorem circuitAt (h : s.SameValues s') (hcircuits : s'.circuits = s.circuits) :
    s'.circuitAt = s.circuitAt := by
  funext on
  simp only [Session.circuitAt, circuit?, h.settle, hcircuits]

end SameValues

end Session

end CircuitScribe
