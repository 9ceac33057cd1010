import CircuitScribe.Proofs.Files.Directories
import CircuitScribe.Proofs.Session.Spacing

namespace CircuitScribe

/-- A document without their section has no settings. -/
theorem Settings.takeFrom_of_no_section {d : Document} (h : d.hasSection sectionName = false) (s : Settings) :
    s.takeFrom d = (s, .ok ()) := by
  simp only [takeFrom, h, Bool.not_false, if_true]

namespace Session

/-- The settings file in force is read without a fault and has this document in it. A file that is
    not there is read as one without sections. -/
def Reads (s : Session) (d : Document) : Prop :=
  Settings.mergeFile s.files {} (.str (s.settingsPath.getD SettingsReader.defaultPath)) = .ok d

variable {s t : Session} {d e : Document}

theorem Reads.settings_eq (h : s.Reads d) :
    s.settings = (Settings.takeFrom [] d).2.map fun _ => (Settings.takeFrom [] d).1 :=
  Settings.inForce_eq h

/-- What the settings show depends on their section alone, as look-ups see it: on whether it is
    there, and on the raw values of its options, among which are those defaults that it has no
    option of its own for. Whatever else is in two files, they show the same settings, or fail with the same
    fault, if they agree in this. -/
theorem showSettings_eq_of_section (hs : s.Reads d) (ht : t.Reads e)
    (hsection : d.hasSection Settings.sectionName = e.hasSection Settings.sectionName)
    (hraw : d.hasSection Settings.sectionName = true →
      ∀ key, d.raw? Settings.sectionName key = e.raw? Settings.sectionName key) :
    (s.act .showSettings).2.result = (t.act .showSettings).2.result := by
  have htake : Settings.takeFrom [] d = Settings.takeFrom [] e := by
    cases hthere : d.hasSection Settings.sectionName with
    | true => exact Settings.takeFrom_congr hsection (funext (hraw hthere))
    | false =>
      rw [Settings.takeFrom_of_no_section hthere, Settings.takeFrom_of_no_section (hsection.symm.trans hthere)]
  rw [act_showSettings, act_showSettings, hs.settings_eq, ht.settings_eq, htake]

section OneFile

/-- A session with one file, which is that of the settings. -/
def withSettingsFile (text : String) : Session :=
  { files := { entries := [(["a"], .file text.toUTF8)] }, settingsPath := some "a" }

theorem content?_withSettingsFile (text : String) :
    (withSettingsFile text).files.content? "a" = some text.toUTF8 := by
  have hnul : FileTree.hasNul "a" = false := by decide
  rw [FileTree.content?, hnul, FileTree.find, FileTree.locate_a]
  rfl

theorem reads_withSettingsFile {text : String} (h : Document.read {} "a" text = (d, none)) :
    (withSettingsFile text).Reads d := by
  have hnul : FileTree.hasNul "a" = false := by decide
  have hmerge : SettingsReader.merge {} "a" text.toUTF8 = (d, .ok ()) := by
    simp only [SettingsReader.merge, Document.readBytes, SettingsReader.fromUTF8?_toUTF8, h]
  show Settings.mergeFile (withSettingsFile text).files {} (.str "a") = .ok d
  simp only [Settings.mergeFile, hnul, content?_withSettingsFile, hmerge, Bool.false_eq_true, if_false]

end OneFile

/-- An option of its own hides the default in the one file, and a further section there counts for
    nothing. -/
theorem showSettings_eq_of_section_hidden :
    let s := withSettingsFile "[default]\nlog_level = info\n"
    let t := withSettingsFile "[DEFAULT]\nlog_level = loud\n[default]\nlog_level = info\n[x]\nccx_legacy_spacing = 2\n"
    let d : Document := { sections := [("default", [("log_level", "info")])] }
    let e : Document :=
      { defaults := [("log_level", "loud")],
        sections := [("default", [("log_level", "info")]), ("x", [("ccx_legacy_spacing", "2")])] }
    s.Reads d ∧ t.Reads e ∧ d.hasSection Settings.sectionName = e.hasSection Settings.sectionName ∧
      (∀ key, d.raw? Settings.sectionName key = e.raw? Settings.sectionName key) ∧
      (s.act .showSettings).2.result = (t.act .showSettings).2.result := by
  intro s t d e
  have hs : s.Reads d := reads_withSettingsFile (by decide +kernel)
  have ht : t.Reads e := reads_withSettingsFile (by decide +kernel)
  have hraw : ∀ key, d.raw? Settings.sectionName key = e.raw? Settings.sectionName key := by
    intro key
    have hd : d.options Settings.sectionName = [("log_level", "info")] := rfl
    have he : e.options Settings.sectionName = [("log_level", "info")] := rfl
    simp only [Document.raw?, hd, he]
    by_cases hkey : key = "log_level"
    · rw [hkey]
      rfl
    · simp [d, e, Table.get?_cons, hkey]
  exact ⟨hs, ht, rfl, hraw, showSettings_eq_of_section hs ht rfl fun _ => hraw⟩

/-- Two files whose sections are the same show different settings if one of them has a default. -/
theorem showSettings_eq_of_section_inherited :
    let s := withSettingsFile "[default]\n"
    let t := withSettingsFile "[DEFAULT]\nlog_level = debug\n[default]\n"
    let d : Document := { sections := [("default", [])] }
    let e : Document := { defaults := [("log_level", "debug")], sections := [("default", [])] }
    s.Reads d ∧ t.Reads e ∧ d.hasSection Settings.sectionName = true ∧
      e.hasSection Settings.sectionName = true ∧
      d.options Settings.sectionName = e.options Settings.sectionName ∧
      (s.act .showSettings).2.result ≠ (t.act .showSettings).2.result := by
  intro s t d e
  have hs : s.Reads d := reads_withSettingsFile (by decide +kernel)
  have ht : t.Reads e := reads_withSettingsFile (by decide +kernel)
  have hnone : s.settings = .ok [] := by
    rw [hs.settings_eq]
    rfl
  have hdebug : t.settings = .ok [.logLevel .debug] := by
    rw [ht.settings_eq]
    rfl
  refine ⟨hs, ht, rfl, rfl, rfl, ?_⟩
  rw [act_showSettings, act_showSettings, hnone, hdebug]
  intro heq
  cases heq

end Session

end CircuitScribe
