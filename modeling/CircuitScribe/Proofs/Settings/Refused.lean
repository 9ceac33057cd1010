import CircuitScribe.Fault.Family
import CircuitScribe.Proofs.Settings.Store

namespace CircuitScribe

theorem Fault.map_eq_error_iff {α β : Type} {x : Except Fault α} {f : α → β} {fault : Fault} :
    x.map f = .error fault ↔ x = .error fault := by
  cases x <;> simp [Except.map]

namespace Settings

/-- What the settings of a document are refused with: that one of them is not valid, or that the
    look-up of one fails because of what its value refers to. -/
def Refused (d : Document) (fault : Fault) : Prop :=
  fault.family? = some .settings ∨
    d.hasSection sectionName = true ∧ ∃ key ∈ SettingsReader.keys, ∃ f,
      d.value? sectionName key = .error f ∧ fault = .interpolation f

variable {files files' : FileTree} {d : Document} {s : Settings} {fault : Fault} {path key : String}
  {value : Value}

theorem fault_of_spacingIn (h : spacingIn d = .error fault) :
    fault.family? = some .settings ∨
      ∃ f, d.value? sectionName "ccx_legacy_spacing" = .error f ∧ fault = .interpolation f := by
  unfold spacingIn at h
  split at h
  · next f hvalue => exact .inr ⟨f, hvalue, (Except.error.inj h).symm⟩
  · cases h
  · split at h <;> cases h
    exact .inl rfl

theorem fault_of_levelIn (h : levelIn d = .error fault) :
    fault.family? = some .settings ∨
      ∃ f, d.value? sectionName "log_level" = .error f ∧ fault = .interpolation f := by
  unfold levelIn at h
  split at h
  · next f hvalue => exact .inr ⟨f, hvalue, (Except.error.inj h).symm⟩
  · cases h
  · split at h
    · cases h
    · split at h <;> cases h
      exact .inl rfl

theorem refused_of_takeFrom (h : (takeFrom s d).2 = .error fault) : Refused d fault := by
  have hrefused {key : String} (hsection : d.hasSection sectionName = true) (hkey : key ∈ SettingsReader.keys)
      (hfault : fault.family? = some .settings ∨
        ∃ f, d.value? sectionName key = .error f ∧ fault = .interpolation f) : Refused d fault :=
    hfault.imp_right fun hlookup => ⟨hsection, key, hkey, hlookup⟩
  unfold takeFrom at h
  split at h
  · cases h
  · next hnot =>
    have hsection : d.hasSection sectionName = true := by simpa using hnot
    split at h
    · next hspacing =>
      obtain rfl := Except.error.inj h
      exact hrefused hsection (by decide) (fault_of_spacingIn hspacing)
    · simp only at h
      split at h
      · next hlevel =>
        obtain rfl := Except.error.inj h
        exact hrefused hsection (by decide) (fault_of_levelIn hlevel)
      · cases h
      · cases h

/-- Settings that are refused are left as they were, unless the spacing was accepted before the level
    was refused: then it has been stored. -/
theorem takeFrom_of_error (h : (takeFrom s d).2 = .error fault) :
    (takeFrom s d).1 = s ∨ ∃ on, spacingIn d = .ok (some on) ∧ levelIn d = .error fault ∧
      (takeFrom s d).1 = s.put (.legacySpacing on) := by
  unfold takeFrom at h ⊢
  split at h
  · cases h
  · next hsection =>
    rw [if_neg hsection]
    cases hspacing : spacingIn d with
    | error f => exact .inl rfl
    | ok spacing =>
      simp only [hspacing] at h ⊢
      cases hlevel : levelIn d with
      | error f =>
        simp only [hlevel, Except.error.injEq] at h
        subst h
        cases spacing with
        | none => exact .inl rfl
        | some on => exact .inr ⟨on, rfl, rfl, rfl⟩
      | ok level =>
        simp only [hlevel] at h
        cases level <;> cases h

theorem refused_of_inForce (hmerge : mergeFile files {} (.str path) = .ok d)
    (h : inForce files (some path) = .error fault) : Refused d fault := by
  rw [inForce_eq hmerge] at h
  exact refused_of_takeFrom (Fault.map_eq_error_iff.mp h)

/-- What a value is refused with that is to be stored among the settings of a document: its text
    cannot be made, a percent sign in the text refers to nothing, or the settings are refused once
    the text is in its place. -/
def StoreRefused (d : Document) (key : String) (value : Value) (fault : Fault) : Prop :=
  value.checkPrint = .error fault ∨
  (∃ position, Document.misplacedPercent? value.text = some position ∧
    fault = .edit (.percentMisplaced value.text position)) ∨
  Refused (d.put sectionName key value.text) fault

theorem storeRefused_of_edit (h : edit d (.str sectionName) key value = .error fault) :
    StoreRefused d key value fault := by
  have hname : sectionName ≠ Document.defaultsName := sectionName_ne_defaultsName
  simp only [edit, hname, if_false] at h
  rcases Fault.bind_eq_error_iff.mp h with hprinted | ⟨text, hprinted, h⟩
  · exact .inl (Value.printed_eq_error_iff.mp hprinted)
  · obtain ⟨_, rfl⟩ := Value.printed_eq_ok_iff.mp hprinted
    split at h
    · next position hpercent => exact .inr (.inl ⟨position, hpercent, (Except.error.inj h).symm⟩)
    · cases h

theorem storeRefused_of_prepare (hkey : key ∈ SettingsReader.keys)
    (hmerge : mergeFile files {} (.str path) = .ok d)
    (h : prepare files [.str path] key value (.str sectionName) = .error fault) :
    StoreRefused d key value fault := by
  have hsources : [Value.str path].foldlM (mergeFile files) {} = .ok d := by
    rw [List.foldlM_cons, hmerge]
    rfl
  rw [prepare, hsources] at h
  change edit d (.str sectionName) key value >>= _ = _ at h
  rcases Fault.bind_eq_error_iff.mp h with hedit | ⟨edited, hedit, h⟩
  · exact storeRefused_of_edit hedit
  · obtain rfl := edit_eq_ok isSectionName_sectionName hedit
    rw [(isKey_of_mem_keys hkey).lower_eq] at h
    split at h
    · next htake =>
      obtain rfl := Except.error.inj h
      exact .inr (.inr (refused_of_takeFrom (congrArg Prod.snd htake)))
    · cases h

/-- Directories and files that cannot be written are reported as settings that cannot be stored. -/
theorem family?_of_writeDocument (h : (writeDocument files path d).2 = .error fault) :
    fault.family? = some .settings := by
  obtain ⟨before, _, ⟨cause, hwrite⟩ | ⟨names, _, _, hwrite⟩ | ⟨names, _, _, hwrite⟩⟩ :=
    writeDocument_cases files path d <;> rw [hwrite] at h <;> cases h <;> rfl

theorem storeRefused_of_store {refs : Referents} {sectionValue : Value} (hkey : key ∈ SettingsReader.keys)
    (hsection : sectionValue = .null ∨ sectionValue = .str sectionName)
    (hmerge : mergeFile files {} (.str path) = .ok d)
    (h : (store refs files (.str key) value sectionValue (.str path)).2 = .error fault) :
    StoreRefused d key value fault := by
  have hnamed : (store refs files (.str key) value (.str sectionName) (.str path)).2 = .error fault := by
    rcases hsection with rfl | rfl
    · exact h
    · exact h
  simp only [store, checkKey, hkey, not_true, and_false, if_false, sources, bind, Except.bind] at hnamed
  cases hprepare : prepare files [.str path] key value (.str sectionName) with
  | error f =>
    simp only [hprepare] at hnamed
    obtain rfl := Except.error.inj hnamed
    exact storeRefused_of_prepare hkey hmerge hprepare
  | ok d' =>
    simp only [hprepare] at hnamed
    exact .inr (.inr (.inl (family?_of_writeDocument hnamed)))

end Settings

end CircuitScribe
