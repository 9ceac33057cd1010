import CircuitScribe.Proofs.Settings.Store
import CircuitScribe.Session.Action

namespace CircuitScribe.Session

/-- The file that a path stands for in a call: itself, or the file in force if the path counts as
    false. -/
def IsTarget (s : Session) (path : Value) (file : String) : Prop :=
  (path.truth s.referents = .ok true ∧ path = .str file) ∨
    (path.truth s.referents = .ok false ∧ file = s.settingsPath.getD SettingsReader.defaultPath)

variable {s : Session} {key : String} {value sectionValue path v : Value}

theorem shareReply_files (s : Session) (reply : Reply) : (s.shareReply reply).1.files = s.files := by
  unfold shareReply
  split <;> rfl

theorem shareReply_result {reply : Reply} (h : (s.shareReply reply).2.result = .ok v) :
    ∃ result, reply.result = .ok result := by
  unfold shareReply at h
  split at h
  · next result hresult => exact ⟨result, hresult⟩
  · next fault hfault => cases hfault.symm.trans h

theorem settings_chooseSettings {file : String} (hnul : FileTree.hasNul file = false) (s : Session) :
    (s.perform (.chooseSettings (.str file))).1.settings = Settings.inForce s.files (some file) := by
  simp only [perform, act, chooseSettings, hnul, shareReply, share, settings]
  rfl

/-- A setting is stored when a document has been prepared for its file and written to it. -/
theorem storeSetting_eq_ok {name : String}
    (hsection : sectionValue = .null ∧ name = Settings.sectionName ∨ sectionValue = .str name)
    (h : (s.storeSetting (.str key) value sectionValue path).2.result = .ok v) :
    ∃ file d', s.IsTarget path file ∧
      Settings.prepare s.files [.str file] key (s.settle value) (.str name) = .ok d' ∧
      Settings.writeDocument s.files file d' =
        ((s.storeSetting (.str key) value sectionValue path).1.files, .ok ()) := by
  unfold storeSetting at h ⊢
  cases htruth : path.truth s.referents with
  | error fault => simp [htruth] at h
  | ok given =>
    simp only [htruth] at h ⊢
    generalize htarget : (if given then path else .str (s.settingsPath.getD SettingsReader.defaultPath)) =
      target at h ⊢
    cases hstore : Settings.store s.referents s.files (.str key) (s.settle value) sectionValue target with
    | mk files result =>
      cases result with
      | error fault => simp [hstore, Except.map] at h
      | ok =>
        obtain ⟨file, d', rfl, hprepare, hwrite⟩ := Settings.store_eq_ok hsection hstore
        refine ⟨file, d', ?_, hprepare, hwrite⟩
        cases given with
        | true => exact .inl ⟨htruth, htarget⟩
        | false => exact .inr ⟨htruth, (Value.str.inj htarget).symm⟩

/-- Storing one of the settings changes it in its file and nothing else there. The rest of what the
    file had is read from it again as it was, lines within a value included, and whoever chooses
    the file next gets the settings that have been checked. -/
theorem storeSetting_changes_one (hkey : key ∈ SettingsReader.keys)
    (hsection : sectionValue = .null ∨ sectionValue = .str Settings.sectionName)
    (hok : (s.perform (.storeSetting (.str key) value sectionValue path)).2.result = .ok v) :
    ∃ file d d' settings, s.IsTarget path file ∧
      Settings.mergeFile s.files {} (.str file) = .ok d ∧
      Settings.prepare s.files [.str file] key (s.settle value) (.str Settings.sectionName) = .ok d' ∧
      Settings.takeFrom [] d' = (settings, .ok ()) ∧
      Document.ChangedAt d d' Settings.sectionName key (s.settle value).text ∧
      Settings.mergeFile (s.perform (.storeSetting (.str key) value sectionValue path)).1.files {}
        (.str file) = .ok d' ∧
      ((s.perform (.storeSetting (.str key) value sectionValue path)).1.perform
        (.chooseSettings (.str file))).1.settings = .ok settings := by
  have hfiles : (s.perform (.storeSetting (.str key) value sectionValue path)).1.files =
      (s.storeSetting (.str key) value sectionValue path).1.files := shareReply_files _ _
  obtain ⟨result, hresult⟩ := shareReply_result hok
  obtain ⟨file, d', htarget, hprepare, hwrite⟩ :=
    storeSetting_eq_ok (hsection.imp_left (⟨·, rfl⟩)) hresult
  obtain ⟨d, settings, hmerge, hchanged, hafter, htake, hforce⟩ :=
    Settings.prepare_writeDocument hkey hprepare hwrite
  refine ⟨file, d, d', settings, htarget, hmerge, hprepare, htake, hchanged, ?_, ?_⟩
  · rw [hfiles]
    exact hafter
  · rw [settings_chooseSettings (Settings.not_hasNul_of_content? (Settings.writeDocument_eq_ok hwrite)), hfiles]
    exact hforce

section NewFile

variable {name text : String} {d : Document} {settings : Settings}

theorem mergeFile_newFile : Settings.mergeFile {} {} (.str "a") = .ok {} := by
  have hcontent : ({} : FileTree).content? "a" = none := by
    rw [FileTree.content?, FileTree.find, FileTree.locate_a]
    rfl
  rw [Settings.mergeFile, hcontent]
  rfl

theorem writeDocument_newFile (d : Document) : (Settings.writeDocument {} "a" d).2 = .ok () := by
  have hdirectory : FileTree.leading "a".toList = [] := rfl
  have htarget : ({} : FileTree).target "a" = .ok ["a"] := FileTree.target_a (by rintro ⟨⟩)
  have hwrite (content : ByteArray) : ({} : FileTree).write "a" content =
      (FileTree.put {} ["a"] (.file content), .ok ()) := by
    refine FileTree.write_eq_ok_iff.mpr ⟨["a"], htarget, ?_, rfl⟩
    rintro limit ⟨⟩
  simp only [Settings.writeDocument, hdirectory, List.isEmpty_nil, if_true, hwrite]
  rfl

/-- What becomes of a store in a session without files is up to its document alone. -/
theorem storeSetting_newFile
    (hsection : sectionValue = .null ∧ name = Settings.sectionName ∨ sectionValue = .str name)
    (hcheck : Settings.checkKey (.str key) (.str name) = .ok key)
    (hedit : Settings.edit {} (.str name) key (.str text) = .ok d)
    (htake : Settings.takeFrom [] d = (settings, .ok ())) :
    (perform {} (.storeSetting (.str key) (.str text) sectionValue (.str "a"))).2.result = .ok .null := by
  have hprepare : Settings.prepare {} [.str "a"] key (.str text) (.str name) = .ok d := by
    simp only [Settings.prepare, List.foldlM_cons, List.foldlM_nil, mergeFile_newFile, hedit, htake, bind,
      Except.bind, pure, Except.pure]
  have hstore (refs : Referents) :
      (Settings.store refs {} (.str key) (.str text) sectionValue (.str "a")).2 = .ok () := by
    rcases hsection with ⟨rfl, rfl⟩ | rfl
    all_goals
      simp only [Settings.store, hcheck, Settings.sources, bind, Except.bind, hprepare,
        writeDocument_newFile]
  have hreply : (act {} (.storeSetting (.str key) (.str text) sectionValue (.str "a"))).2.result =
      .ok .null := by
    show ((Settings.store _ {} (.str key) (.str text) sectionValue (.str "a")).2.map
      fun _ => Value.null) = _
    rw [hstore]
    rfl
  have hshare (s : Session) {reply : Reply} (h : reply.result = .ok .null) :
      (s.shareReply reply).2.result = .ok .null := by
    simp only [shareReply, h]
    rfl
  exact hshare _ hreply

end NewFile

/-- A log level in small letters, for a file that is not there yet. -/
theorem storeSetting_changes_one_level :
    let change : Action := .storeSetting (.str "log_level") (.str "debug") .null (.str "a")
    "log_level" ∈ SettingsReader.keys ∧ (perform {} change).2.result = .ok .null ∧
      ∃ file d d' settings, IsTarget {} (.str "a") file ∧
        Settings.mergeFile {} {} (.str file) = .ok d ∧
        Settings.prepare {} [.str file] "log_level" (settle {} (.str "debug"))
          (.str Settings.sectionName) = .ok d' ∧
        Settings.takeFrom [] d' = (settings, .ok ()) ∧
        Document.ChangedAt d d' Settings.sectionName "log_level" (settle {} (.str "debug")).text ∧
        Settings.mergeFile (perform {} change).1.files {} (.str file) = .ok d' ∧
        ((perform {} change).1.perform (.chooseSettings (.str file))).1.settings = .ok settings := by
  intro change
  have hkey : "log_level" ∈ SettingsReader.keys := by decide
  have hresult : (perform {} change).2.result = .ok .null :=
    storeSetting_newFile (.inl ⟨rfl, rfl⟩) rfl rfl rfl
  exact ⟨hkey, hresult, storeSetting_changes_one hkey (.inl rfl) hresult⟩

end CircuitScribe.Session
