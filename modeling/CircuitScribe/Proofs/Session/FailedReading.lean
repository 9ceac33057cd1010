import CircuitScribe.Proofs.Session.Faults
import CircuitScribe.Proofs.Session.Settle

namespace CircuitScribe

namespace SettingsReader

/-- A step of a settings reader that keeps the name of the file and, if it fails, the settings, but
    for a spacing that has been stored before the level of what has been read is refused. -/
structure LeavesSettings (step : SettingsReader → SettingsReader × Except Fault Unit) : Prop where
  filename : ∀ r, (step r).1.filename = r.filename
  settings : ∀ r fault, (step r).2 = .error fault → (step r).1.settings = r.settings ∨
    ∃ on, Settings.spacingIn (step r).1.document = .ok (some on) ∧
      Settings.levelIn (step r).1.document = .error fault ∧
      (step r).1.settings = r.settings.put (.legacySpacing on)

theorem takeSettings_leaves : LeavesSettings takeSettings where
  filename _ := rfl
  settings _ _ h := Settings.takeFrom_of_error h

/-- A reader has read another document when it fails, or takes its settings from there. -/
theorem read_cases (r : SettingsReader) (files : FileTree) :
    ∃ d, (∃ result, r.read files = ({ r with document := d }, result)) ∨
      r.read files = takeSettings { r with document := d } := by
  have hdocument : ∃ d found, r.readDocument files = ({ r with document := d }, found) := by
    unfold readDocument
    split <;> exact ⟨_, _, rfl⟩
  obtain ⟨d, found, hread⟩ := hdocument
  refine ⟨d, ?_⟩
  simp only [read, hread]
  rcases found with f | (_ | _)
  · exact .inl ⟨_, rfl⟩
  · exact .inl ⟨_, rfl⟩
  · exact .inr rfl

theorem read_leaves (files : FileTree) : LeavesSettings (·.read files) where
  filename r := by
    obtain ⟨d, ⟨result, hread⟩ | hread⟩ := r.read_cases files <;> rw [hread]
    exact takeSettings_leaves.filename _
  settings r fault hfault := by
    obtain ⟨d, ⟨result, hread⟩ | hread⟩ := r.read_cases files <;> rw [hread] at hfault ⊢
    · exact .inl rfl
    · exact takeSettings_leaves.settings _ fault hfault

end SettingsReader

open SettingsReader (LeavesSettings)

namespace Session

variable {s s' : Session} {id : Nat} {r : SettingsReader} {fault : Fault} {target : Value}

/-- The session in which a reader has read something else. -/
def withDocument (s : Session) (id : Nat) (d : Document) : Session :=
  { s with readers := s.readers.modify id fun r => { r with document := d } }

theorem sameReferents_withDocument (s : Session) (id : Nat) (d : Document) :
    s.SameReferents (s.withDocument id d) where
  attached := rfl
  collections := rfl
  instructionSets := rfl
  settings := by
    apply List.ext_getElem?
    intro n
    simp only [withDocument, List.getElem?_map, List.getElem?_modify]
    cases s.readers[n]? with
    | none => rfl
    | some r =>
      simp only [Option.map_eq_map, Option.map_some, Option.some.injEq]
      split <;> rfl

/-- What a reader has read does not show in its settings. -/
theorem attributeOf_settings_withDocument (s : Session) (id : Nat) (d : Document) :
    (s.withDocument id d).attributeOf (.config id) "settings" = s.attributeOf (.config id) "settings" := by
  have hsame := s.sameReferents_withDocument id d
  have hreader := hsame.isSome_reader id
  have hown : (s.withDocument id d).ownAttribute (.config id) "settings" =
      s.ownAttribute (.config id) "settings" := by
    simp only [ownAttribute]
    cases h : s.readers[id]? <;> cases h' : (s.withDocument id d).readers[id]? <;>
      simp [h, h'] at hreader ⊢
  rw [attributeOf, attributeOf, property, property, hsame.settle, hsame.attachedTo?, hown]

/-- The settings of a reader after a call that has failed: as they were, or with a spacing put into them
    that has been read together with a level that is refused. -/
def SettingsLeft (s : Session) (id : Nat) (fault : Fault) (after : Session) : Prop :=
  ∃ d, after = s.withDocument id d ∨
    ∃ on target, Settings.spacingIn d = .ok (some on) ∧ Settings.levelIn d = .error fault ∧
      s.property (.config id) "settings" = .ok target ∧
      (s.withDocument id d).putSettings target [.legacySpacing on] = .ok after

theorem withDocument_eq (hr : s.readers[id]? = some r) (d : Document) :
    s.withDocument id d = { s with readers := s.readers.set id { r with document := d } } := by
  simp only [withDocument, List.modify_eq_set_getElem?, hr]
  rfl

theorem withDocument_of_missing (hr : s.readers[id]? = none) (d : Document) : s.withDocument id d = s := by
  simp only [withDocument, List.modify_eq_set_getElem?, hr]
  rfl

theorem withDocument_self (hr : s.readers[id]? = some r) : s.withDocument id r.document = s := by
  rw [withDocument_eq hr]
  obtain ⟨hlt, rfl⟩ := List.getElem?_eq_some_iff.mp hr
  exact congrArg (fun readers => { s with readers := readers }) (List.set_getElem_self hlt)

theorem settingsLeft_self (s : Session) (id : Nat) (fault : Fault) : s.SettingsLeft id fault s := by
  cases hr : s.readers[id]? with
  | none => exact ⟨{}, .inl (withDocument_of_missing hr {}).symm⟩
  | some r => exact ⟨r.document, .inl (withDocument_self hr).symm⟩

theorem putSettings_nil (s : Session) (target : Value) : s.putSettings target [] = .ok s := by
  unfold putSettings
  split
  · rfl
  · exact congrArg (fun readers => Except.ok { s with readers := readers }) (List.modify_id _ _)
  · rfl

/-- Settings of its own that a reader puts a spacing into are the ones under its reference. -/
theorem putSettings_withDocument (hr : s.readers[id]? = some r) (d : Document) (setting : Setting) :
    (s.withDocument id d).putSettings (.shared (.settingsOf id)) [setting] =
      .ok { s with readers := s.readers.set id { r with document := d, settings := r.settings.put setting } } := by
  have hlt := (List.getElem?_eq_some_iff.mp hr).1
  rw [withDocument_eq hr, putSettings]
  simp only [List.modify_eq_set_getElem?, List.getElem?_set_self hlt, List.set_set]
  rfl

theorem ofTitle?_settings : Attribute.ofTitle? "settings" = some .settings := rfl

theorem settingsLeft_of_useReader_own {step : SettingsReader → SettingsReader × Except Fault Unit}
    (hstep : LeavesSettings step) (hr : s.readers[id]? = some r)
    (hnone : s.attachedTo? (.config id) .settings = none)
    (hfault : (s.useReader (.config id) step).2.result = .error fault) :
    s.SettingsLeft id fault (s.useReader (.config id) step).1 := by
  have hproperty : s.property (.config id) "settings" = .ok (.shared (.settingsOf id)) := by
    simp only [property, ofTitle?_settings, Option.bind_some, hnone, ownAttribute, hr]
  simp only [useReader, hr, hnone] at hfault ⊢
  have hfile := hstep.filename r
  refine ⟨(step r).1.document, ?_⟩
  rcases hstep.settings r fault (Fault.map_eq_error_iff.mp hfault) with hsame | ⟨on, hon, hlevel, hput⟩
  · left
    rw [withDocument_eq hr, ← hfile, ← hsame]
  · refine .inr ⟨on, _, hon, hlevel, hproperty, ?_⟩
    rw [putSettings_withDocument hr, ← hfile, ← hput]

/-- What has been put in place of its settings takes those that a reader comes to without any. -/
theorem settingsLeft_of_useReader_attached {step : SettingsReader → SettingsReader × Except Fault Unit}
    (hstep : LeavesSettings step) (hr : s.readers[id]? = some r)
    (htarget : s.attachedTo? (.config id) .settings = some target)
    (hfault : (s.useReader (.config id) step).2.result = .error fault) :
    s.SettingsLeft id fault (s.useReader (.config id) step).1 := by
  have hproperty : s.property (.config id) "settings" = .ok target := by
    simp only [property, ofTitle?_settings, Option.bind_some, htarget]
  simp only [useReader, hr, htarget] at hfault ⊢
  have hfile := hstep.filename { r with settings := [] }
  have hleft := hstep.settings { r with settings := [] } fault
  generalize step { r with settings := [] } = made at hfault hfile hleft ⊢
  obtain ⟨r', result⟩ := made
  simp only at hfault hfile hleft ⊢
  have hread : { s with readers := s.readers.set id { r' with settings := r.settings } } =
      s.withDocument id r'.document := by
    rw [withDocument_eq hr, hfile]
  rw [hread] at hfault ⊢
  refine ⟨r'.document, ?_⟩
  cases hput : (s.withDocument id r'.document).putSettings target r'.settings with
  | error f => exact .inl rfl
  | ok after =>
    simp only [hput] at hfault
    rcases hleft (Fault.map_eq_error_iff.mp hfault) with hsame | ⟨on, hon, hlevel, hstored⟩
    · rw [hsame, putSettings_nil] at hput
      exact .inl (Except.ok.inj hput).symm
    · rw [hstored] at hput
      exact .inr ⟨on, target, hon, hlevel, hproperty, hput⟩

theorem settingsLeft_of_useReader {step : SettingsReader → SettingsReader × Except Fault Unit}
    (hstep : LeavesSettings step) (hfault : (s.useReader (.config id) step).2.result = .error fault) :
    s.SettingsLeft id fault (s.useReader (.config id) step).1 := by
  cases hr : s.readers[id]? with
  | none =>
    simp only [useReader, hr]
    exact s.settingsLeft_self id fault
  | some r =>
    cases htarget : s.attachedTo? (.config id) .settings with
    | none => exact settingsLeft_of_useReader_own hstep hr htarget hfault
    | some target => exact settingsLeft_of_useReader_attached hstep hr htarget hfault

theorem settingsLeft_of_perform {a : Action} (ha : a ∈ [.readSettings (.config id), .takeSettings (.config id)])
    (hfault : (s.perform a).2.result = .error fault) : s.SettingsLeft id fault (s.perform a).1 := by
  obtain ⟨hact, hafter⟩ := shareReply_eq_error hfault
  have hafter : (s.perform a).1 = (s.act a).1 := hafter
  rw [hafter]
  simp only [List.mem_cons, List.not_mem_nil, or_false] at ha
  rcases ha with rfl | rfl
  · exact settingsLeft_of_useReader (SettingsReader.read_leaves s.files) hact
  · exact settingsLeft_of_useReader SettingsReader.takeSettings_leaves hact

/-- A reader whose call fails has the settings that it had, whatever its file contains and whatever has
    been put in their place, and all that has changed is what it has read. There is one
    exception: if what it has read gives a valid spacing and a level that is refused, which is what
    the call fails with, then the spacing has been put into its settings. -/
theorem settings_of_failed_reading {a : Action} (ha : a ∈ [.readSettings (.config id), .takeSettings (.config id)])
    (hfault : (s.perform a).2.result = .error fault) :
    let after := (s.perform a).1
    ∃ d, (after = s.withDocument id d ∧
        after.attributeOf (.config id) "settings" = s.attributeOf (.config id) "settings") ∨
      ∃ on target, Settings.spacingIn d = .ok (some on) ∧ Settings.levelIn d = .error fault ∧
        s.property (.config id) "settings" = .ok target ∧
        (s.withDocument id d).putSettings target [.legacySpacing on] = .ok after := by
  intro after
  obtain ⟨d, hsame | hstored⟩ := settingsLeft_of_perform ha hfault
  · refine ⟨d, .inl ⟨hsame, ?_⟩⟩
    rw [show after = s.withDocument id d from hsame, attributeOf_settings_withDocument]
  · exact ⟨d, .inr hstored⟩

/-- A file in which nothing but the level is given, and is refused. -/
theorem settings_of_failed_reading_level :
    let s := { withSettingsFile "[default]\nlog_level = loud\n" with readers := [{ filename := .str "a" }] }
    let fault : Fault := .settings (.levelInvalid "LOUD")
    let after := (s.perform (.readSettings (.config 0))).1
    (s.perform (.readSettings (.config 0))).2.result = .error fault ∧
    ∃ d, (after = s.withDocument 0 d ∧
        after.attributeOf (.config 0) "settings" = s.attributeOf (.config 0) "settings") ∨
      ∃ on target, Settings.spacingIn d = .ok (some on) ∧ Settings.levelIn d = .error fault ∧
        s.property (.config 0) "settings" = .ok target ∧
        (s.withDocument 0 d).putSettings target [.legacySpacing on] = .ok after := by
  intro s fault after
  have hread : Document.read {} "a" "[default]\nlog_level = loud\n" =
      ({ sections := [("default", [("log_level", "loud")])] }, none) := by decide +kernel
  have hfault : (s.perform (.readSettings (.config 0))).2.result = .error fault :=
    readSettings_of_takeFrom hread rfl
  exact ⟨hfault, settings_of_failed_reading List.mem_cons_self hfault⟩

/-- A reading that fails because of the level leaves the spacing of the file behind. -/
theorem settings_of_failed_reading_stored :
    let text := "[default]\nccx_legacy_spacing = yes\nlog_level = LOUD\n"
    let s := { withSettingsFile text with readers := [{ filename := .str "a" }] }
    let after := (s.perform (.readSettings (.config 0))).1
    (s.perform (.readSettings (.config 0))).2.result = .error (.settings (.levelInvalid "LOUD")) ∧
      s.attributeOf (.config 0) "settings" = .ok (.dict []) ∧
      after.attributeOf (.config 0) "settings" = .ok (.dict [("ccx_legacy_spacing", .bool true)]) := by
  intro text s after
  let d : Document := { sections := [("default", [("ccx_legacy_spacing", "yes"), ("log_level", "LOUD")])] }
  let r : SettingsReader := { filename := .str "a", settings := [.legacySpacing true], document := d }
  have hread : Document.read {} "a" text = (d, none) := by decide +kernel
  have hdocument : SettingsReader.readDocument { filename := .str "a" } s.files =
      ({ filename := .str "a", document := d }, .ok true) := readDocument_withSettingsFile hread
  have hstep : SettingsReader.read { filename := .str "a" } s.files =
      (r, .error (.settings (.levelInvalid "LOUD"))) := by
    rw [SettingsReader.read, hdocument]
    rfl
  have hperform : s.perform (.readSettings (.config 0)) =
      ({ s with readers := [r] }, ⟨.error (.settings (.levelInvalid "LOUD")), []⟩) := by
    have huse : s.perform (.readSettings (.config 0)) =
        Session.shareReply
          { s with readers := s.readers.set 0 (SettingsReader.read { filename := .str "a" } s.files).1 }
          ⟨(SettingsReader.read { filename := .str "a" } s.files).2.map fun _ => .config 0, []⟩ := rfl
    rw [huse, hstep]
    rfl
  refine ⟨congrArg (·.2.result) hperform, rfl, ?_⟩
  rw [show after = { s with readers := [r] } from congrArg Prod.fst hperform]
  rfl

end Session

end CircuitScribe
