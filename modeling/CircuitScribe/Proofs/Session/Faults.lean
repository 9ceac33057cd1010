import CircuitScribe.Proofs.Session.Defaults
import CircuitScribe.Proofs.Session.Refusal
import CircuitScribe.Proofs.Settings.Refused

namespace CircuitScribe.Session

open Settings (Refused StoreRefused)

variable {s : Session} {d : Document} {fault : Fault} {id : Nat} {r r' : SettingsReader} {found : Bool}
  {key file : String} {value sectionValue path : Value}

/-- A fault of an action is passed on as it is. -/
theorem perform_eq_error_iff {a : Action} :
    (s.perform a).2.result = .error fault ↔ (s.act a).2.result = .error fault := by
  constructor
  · exact fun h => (shareReply_eq_error h).1
  · intro h
    show ((s.act a).1.shareReply (s.act a).2).2.result = .error fault
    rw [shareReply, h]
    exact h

theorem Reads.refused (h : s.Reads d) (hfault : (s.perform .showSettings).2.result = .error fault) :
    Refused d fault := by
  have hresult := perform_eq_error_iff.mp hfault
  rw [act_showSettings] at hresult
  exact Settings.refused_of_inForce h (Fault.map_eq_error_iff.mp hresult)

/-- A reader with its own settings reads its file into its document, if there is one, and then takes
    the settings of the document. -/
theorem act_readSettings (hr : s.readers[id]? = some r) (hown : s.attached.get? (.config id, .settings) = none)
    (hread : r.readDocument s.files = (r', .ok found)) :
    (s.act (.readSettings (.config id))).2.result =
      (if found then (r'.settings.takeFrom r'.document).2 else .ok ()).map fun _ => .config id := by
  have hattached : s.attachedTo? (.config id) .settings = none := hown
  simp only [act, useReader, hr, hattached, SettingsReader.read, hread]
  cases found <;> rfl

theorem refused_of_readSettings (hr : s.readers[id]? = some r)
    (hown : s.attached.get? (.config id, .settings) = none)
    (hread : r.readDocument s.files = (r', .ok found))
    (hfault : (s.perform (.readSettings (.config id))).2.result = .error fault) :
    Refused r'.document fault := by
  have hresult := perform_eq_error_iff.mp hfault
  rw [act_readSettings hr hown hread] at hresult
  cases found with
  | false => cases hresult
  | true => exact Settings.refused_of_takeFrom (Fault.map_eq_error_iff.mp hresult)

theorem storeRefused_of_storeSetting (hkey : key ∈ SettingsReader.keys)
    (hsection : sectionValue = .null ∨ sectionValue = .str Settings.sectionName)
    (htarget : s.IsTarget path file) (hmerge : Settings.mergeFile s.files {} (.str file) = .ok d)
    (hfault : (s.perform (.storeSetting (.str key) value sectionValue path)).2.result = .error fault) :
    StoreRefused d key (s.settle value) fault := by
  have hresult := perform_eq_error_iff.mp hfault
  have hstored : (s.act (.storeSetting (.str key) value sectionValue path)).2.result =
      (Settings.store s.referents s.files (.str key) (s.settle value) sectionValue (.str file)).2.map
        fun _ => Value.null := by
    rcases htarget with ⟨htruth, rfl⟩ | ⟨htruth, rfl⟩ <;> simp only [act, storeSetting, htruth] <;> rfl
  rw [hstored] at hresult
  exact Settings.storeRefused_of_store hkey hsection hmerge (Fault.map_eq_error_iff.mp hresult)

/-- Where a settings file is read without a fault, what goes wrong is a setting that is not valid,
    and is reported as such, unless the look-up of a setting fails because of what its value
    refers to: whether the settings are shown, or a reader with its own settings takes them, or one
    of them is stored. A value to be stored may also be refused before that, because it cannot be
    printed or for a percent sign that refers to nothing. -/
theorem settings_faults (s : Session) :
    (∀ d fault, s.Reads d → (s.perform .showSettings).2.result = .error fault → Refused d fault) ∧
    (∀ id r r' found fault, s.readers[id]? = some r →
      s.attached.get? (.config id, .settings) = none →
      r.readDocument s.files = (r', .ok found) →
      (s.perform (.readSettings (.config id))).2.result = .error fault → Refused r'.document fault) ∧
    (∀ key value sectionValue path file d fault, key ∈ SettingsReader.keys →
      (sectionValue = .null ∨ sectionValue = .str Settings.sectionName) → s.IsTarget path file →
      Settings.mergeFile s.files {} (.str file) = .ok d →
      (s.perform (.storeSetting (.str key) value sectionValue path)).2.result = .error fault →
      StoreRefused d key (s.settle value) fault) :=
  ⟨fun _ _ hreads => hreads.refused, fun _ _ _ _ _ => refused_of_readSettings,
    fun _ _ _ _ _ _ _ => storeRefused_of_storeSetting⟩

section OneFile

variable {text : String} (readers : List SettingsReader)

theorem mergeFile_withSettingsFile (h : Document.read {} "a" text = (d, none)) :
    Settings.mergeFile (withSettingsFile text).files {} (.str "a") = .ok d :=
  reads_withSettingsFile h

/-- A percent sign is not stored among the settings of a file. -/
theorem storeSetting_percent (h : Document.read {} "a" text = (d, none)) :
    (Session.perform { withSettingsFile text with readers := readers }
      (.storeSetting (.str "log_level") (.str "%") .null (.str "a"))).2.result =
        .error (.edit (.percentMisplaced "%" 0)) := by
  have hkey : "log_level" ∈ SettingsReader.keys := by decide
  have hprepare : Settings.prepare (withSettingsFile text).files [.str "a"] "log_level" (.str "%")
      (.str Settings.sectionName) = .error (.edit (.percentMisplaced "%" 0)) := by
    rw [Settings.prepare, List.foldlM_cons, mergeFile_withSettingsFile h]
    rfl
  have hstore (refs : Referents) :
      (Settings.store refs (withSettingsFile text).files (.str "log_level") (.str "%") .null (.str "a")).2 =
        .error (.edit (.percentMisplaced "%" 0)) := by
    simp only [Settings.store, Settings.checkKey, hkey, not_true, and_false, if_false, Settings.sources,
      bind, Except.bind, hprepare]
  rw [perform_eq_error_iff]
  show (Settings.store _ (withSettingsFile text).files (.str "log_level") (.str "%") .null (.str "a")).2.map
    (fun _ => Value.null) = _
  rw [hstore]
  rfl

theorem readDocument_withSettingsFile (h : Document.read {} "a" text = (d, none)) :
    SettingsReader.readDocument { filename := .str "a" } (withSettingsFile text).files =
      ({ filename := .str "a", document := d }, .ok true) := by
  have hmerge : SettingsReader.merge {} "a" text.toUTF8 = (d, .ok ()) := by
    simp only [SettingsReader.merge, Document.readBytes, SettingsReader.fromUTF8?_toUTF8, h]
  simp only [SettingsReader.readDocument, SettingsReader.source?, content?_withSettingsFile, Option.map_some,
    hmerge]
  rfl

theorem showSettings_of_takeFrom (h : Document.read {} "a" text = (d, none))
    (htake : (Settings.takeFrom [] d).2 = .error fault) :
    (Session.perform { withSettingsFile text with readers := readers } .showSettings).2.result =
      .error fault := by
  have hreads : Reads { withSettingsFile text with readers := readers } d := reads_withSettingsFile h
  rw [perform_eq_error_iff, act_showSettings, hreads.settings_eq, htake]
  rfl

theorem readSettings_of_takeFrom (h : Document.read {} "a" text = (d, none))
    (htake : (Settings.takeFrom [] d).2 = .error fault) :
    (Session.perform { withSettingsFile text with readers := [{ filename := .str "a" }] }
      (.readSettings (.config 0))).2.result = .error fault := by
  let s : Session := { withSettingsFile text with readers := [{ filename := .str "a" }] }
  have hreader : s.readers[0]? = some { filename := .str "a" } := rfl
  have hact := act_readSettings hreader rfl (readDocument_withSettingsFile h)
  rw [perform_eq_error_iff, hact, if_pos rfl, htake]
  rfl

end OneFile

/-- A log level that there is not is reported when the settings are shown and when they are read, and a
    percent sign is not stored in its place. -/
theorem settings_faults_level :
    let s := { withSettingsFile "[default]\nlog_level = loud\n" with readers := [{ filename := .str "a" }] }
    let d : Document := { sections := [("default", [("log_level", "loud")])] }
    let level : Fault := .settings (.levelInvalid "LOUD")
    let percent : Fault := .edit (.percentMisplaced "%" 0)
    s.Reads d ∧
      (s.perform .showSettings).2.result = .error level ∧ Refused d level ∧
      (s.perform (.readSettings (.config 0))).2.result = .error level ∧ Refused d level ∧
      (s.perform (.storeSetting (.str "log_level") (.str "%") .null (.str "a"))).2.result = .error percent ∧
      StoreRefused d "log_level" (.str "%") percent := by
  intro s d level percent
  have hread : Document.read {} "a" "[default]\nlog_level = loud\n" = (d, none) := by decide +kernel
  have hreads : s.Reads d := reads_withSettingsFile hread
  have htake : (Settings.takeFrom [] d).2 = .error level := rfl
  have hshown := showSettings_of_takeFrom s.readers hread htake
  have htaken := readSettings_of_takeFrom hread htake
  have hpercent := storeSetting_percent s.readers hread
  obtain ⟨hshow, hreaders, hstores⟩ := settings_faults s
  refine ⟨hreads, hshown, hshow d level hreads hshown, htaken, ?_, hpercent, ?_⟩
  · exact hreaders 0 _ _ true level rfl rfl (readDocument_withSettingsFile hread) htaken
  · exact hstores "log_level" (.str "%") .null (.str "a") "a" d percent (by decide) (.inl rfl)
      (.inl ⟨rfl, rfl⟩) (mergeFile_withSettingsFile hread) hpercent

/-- A percent sign that refers to nothing is not reported as a setting that is not valid: neither in a
    file, when the settings are shown and when they are read, nor as a value to be stored. -/
theorem settings_faults_percent :
    let s := { withSettingsFile "[default]\nccx_legacy_spacing = %\n" with readers := [{ filename := .str "a" }] }
    let d : Document := { sections := [("default", [("ccx_legacy_spacing", "%")])] }
    let store : Action := .storeSetting (.str "log_level") (.str "%") .null (.str "a")
    s.Reads d ∧
    (∃ fault, (s.perform .showSettings).2.result = .error fault ∧ fault.family? ≠ some .settings) ∧
    (∃ fault, (s.perform (.readSettings (.config 0))).2.result = .error fault ∧ fault.family? ≠ some .settings) ∧
    ∃ fault, (s.perform store).2.result = .error fault ∧ fault.family? ≠ some .settings := by
  intro s d store
  have hread : Document.read {} "a" "[default]\nccx_legacy_spacing = %\n" = (d, none) := by decide +kernel
  let stray : Fault := .interpolation ⟨"default", "ccx_legacy_spacing", "%", .strayPercent "%"⟩
  have htake : (Settings.takeFrom [] d).2 = .error stray := rfl
  exact ⟨reads_withSettingsFile hread,
    ⟨stray, showSettings_of_takeFrom s.readers hread htake, nofun⟩,
    ⟨stray, readSettings_of_takeFrom hread htake, nofun⟩,
    _, storeSetting_percent s.readers hread, nofun⟩

end CircuitScribe.Session
