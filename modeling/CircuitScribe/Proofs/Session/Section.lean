import CircuitScribe.Proofs.Document.Unreadable
import CircuitScribe.Proofs.Files.Directories
import CircuitScribe.Proofs.Session.Store

namespace CircuitScribe

namespace Settings

variable {files files' : FileTree} {d d' : Document} {path key : String}

/-- The option of a section without a name goes to the defaults, but the section is there. -/
theorem mem_keys_of_edit_unnamed {value : Value} (h : edit d (.str "") key value = .ok d') :
    "" ∈ d'.sections.keys := by
  have hne : "" ≠ Document.defaultsName := by decide
  have hsection : "" ∈ (d.withSection "").sections.keys := by
    unfold Document.withSection
    split
    · next hthere => exact Table.has_iff_mem_keys.mp (hthere.resolve_left hne)
    · exact List.mem_map_of_mem (Table.mem_of_get?_eq_some (Table.get?_put_self _ _ _))
  simp only [edit, hne, if_false] at h
  obtain ⟨text, _, h⟩ := Fault.bind_eq_ok_iff.mp h
  split at h
  · cases h
  · rw [← Except.ok.inj h]
    exact hsection

theorem mem_keys_of_prepare_unnamed {sources : List Value} {value : Value}
    (h : prepare files sources key value (.str "") = .ok d) : "" ∈ d.sections.keys := by
  simp only [prepare, Fault.bind_eq_ok_iff] at h
  obtain ⟨merged, _, edited, hedit, h⟩ := h
  split at h
  · cases h
  · obtain rfl := Except.ok.inj h
    exact mem_keys_of_edit_unnamed hedit

/-- There are no settings in a file with a section without a name. -/
theorem inForce_unnamed (h : "" ∈ d.sections.keys) (hcontent : files.content? path = some d.render.toUTF8) :
    ∃ fault, inForce files (some path) = .error fault := by
  obtain ⟨fault, hfault⟩ := Document.read_render_unnamed h {} path
  have hmerge : (SettingsReader.merge {} path d.render.toUTF8).2 = .error (.document fault) := by
    rw [SettingsReader.merge, Document.readBytes, SettingsReader.fromUTF8?_toUTF8]
    simp only
    split
    · next hread =>
      rw [hread] at hfault
      rw [Option.some.inj hfault]
    · next hread =>
      rw [hread] at hfault
      cases hfault
  refine ⟨.document fault, ?_⟩
  simp only [inForce, SettingsReader.read, SettingsReader.readDocument, SettingsReader.source?,
    Option.getD_some, hcontent, Option.map_some, hmerge, Except.map]

end Settings

namespace Session

variable {s : Session} {key name : String} {value path v : Value}

/-- Storing an option of another section than that of the settings leaves the settings of the
    file alone: whoever chooses the file gets the same ones before and after. Of the document
    in it just that option changes, to its value as far as this is read again. The names and the
    value have to be such that their lines are read as the header, the option and its value. -/
theorem storeSetting_other_keeps_settings (hname : Document.IsSectionName name)
    (hne : name ≠ Settings.sectionName) (hkey : Document.IsRawKey key.toList) (hkeyNe : key ≠ "")
    (hvalue : Document.IsWritable key (s.settle value).text)
    (hok : (s.perform (.storeSetting (.str key) value (.str name) path)).2.result = .ok v) :
    ∃ file d settings, s.IsTarget path file ∧
      Settings.mergeFile s.files {} (.str file) = .ok d ∧
      Settings.mergeFile (s.perform (.storeSetting (.str key) value (.str name) path)).1.files {}
        (.str file) =
          .ok (d.put name (Document.optionName key) (Document.rereadValue (s.settle value).text)) ∧
      (s.perform (.chooseSettings (.str file))).1.settings = .ok settings ∧
      ((s.perform (.storeSetting (.str key) value (.str name) path)).1.perform
        (.chooseSettings (.str file))).1.settings = .ok settings := by
  have hfiles : (s.perform (.storeSetting (.str key) value (.str name) path)).1.files =
      (s.storeSetting (.str key) value (.str name) path).1.files := shareReply_files _ _
  obtain ⟨result, hresult⟩ := shareReply_result hok
  obtain ⟨file, d', htarget, hprepare, hwrite⟩ := storeSetting_eq_ok (.inr rfl) hresult
  obtain ⟨d, settings, hmerge, hafter, hbefore, hforce⟩ :=
    Settings.prepare_writeDocument_other hname hne hkey hkeyNe hvalue hprepare hwrite
  have hnul := Settings.not_hasNul_of_content? (Settings.writeDocument_eq_ok hwrite)
  refine ⟨file, d, settings, htarget, hmerge, ?_, ?_, ?_⟩
  · rw [hfiles]
    exact hafter
  · rw [settings_chooseSettings hnul]
    exact hbefore
  · rw [settings_chooseSettings hnul, hfiles]
    exact hforce

/-- Storing an option of a section without a name is accepted, and leaves a file behind that
    nothing can be read from, whatever it was before. -/
theorem storeSetting_unnamed_breaks
    (hok : (s.perform (.storeSetting (.str key) value (.str "") path)).2.result = .ok v) :
    ∃ file fault, s.IsTarget path file ∧
      ((s.perform (.storeSetting (.str key) value (.str "") path)).1.perform
        (.chooseSettings (.str file))).1.settings = .error fault := by
  have hfiles : (s.perform (.storeSetting (.str key) value (.str "") path)).1.files =
      (s.storeSetting (.str key) value (.str "") path).1.files := shareReply_files _ _
  obtain ⟨result, hresult⟩ := shareReply_result hok
  obtain ⟨file, d', htarget, hprepare, hwrite⟩ := storeSetting_eq_ok (.inr rfl) hresult
  have hcontent := Settings.writeDocument_eq_ok hwrite
  obtain ⟨fault, hfault⟩ :=
    Settings.inForce_unnamed (Settings.mem_keys_of_prepare_unnamed hprepare) hcontent
  refine ⟨file, fault, htarget, ?_⟩
  rw [settings_chooseSettings (Settings.not_hasNul_of_content? hcontent), hfiles]
  exact hfault

/-- A note of two lines, with a comment between them, for a file that is not there yet. -/
theorem storeSetting_other_keeps_settings_note :
    let change : Action := .storeSetting (.str "Note") (.str "one\n# not this\ntwo") (.str "extra") (.str "a")
    Document.IsSectionName "extra" ∧ Document.IsRawKey "Note".toList ∧
      Document.IsWritable "Note" "one\n# not this\ntwo" ∧
      (perform {} change).2.result = .ok .null ∧
      ∃ file d settings, IsTarget {} (.str "a") file ∧
        Settings.mergeFile {} {} (.str file) = .ok d ∧
        Settings.mergeFile (perform {} change).1.files {} (.str file) =
          .ok (d.put "extra" "note" "one\ntwo") ∧
        (perform {} (.chooseSettings (.str file))).1.settings = .ok settings ∧
        ((perform {} change).1.perform (.chooseSettings (.str file))).1.settings = .ok settings := by
  intro change
  have hname : Document.IsSectionName "extra" := ⟨by decide, by decide, by decide, by decide⟩
  have hkey : Document.IsRawKey "Note".toList := by
    have hchars : "Note".toList = ['N', 'o', 't', 'e'] := rfl
    have hblank : Text.isBlank 'N' = false ∧ Text.isBlank 'e' = false := by decide
    rw [hchars]
    exact ⟨⟨⟨by simp [hblank], by simp [hblank]⟩, by decide, by decide⟩, by simp [Document.isDelimiter],
      by decide⟩
  have hvalue : Document.IsWritable "Note" "one\n# not this\ntwo" := by
    refine ⟨by decide, fun _ _ hopen => ?_⟩
    exact absurd hopen (by decide)
  have hlower : Document.optionName "Note" = "note" := by decide +kernel
  have hreread : Document.rereadValue "one\n# not this\ntwo" = "one\ntwo" := by decide +kernel
  have hok : (perform {} change).2.result = .ok .null := storeSetting_newFile (.inr rfl) rfl rfl rfl
  obtain ⟨file, d, settings, htarget, hmerge, hafter, hbefore, hlater⟩ :=
    storeSetting_other_keeps_settings hname (by decide) hkey (by decide)
      (show Document.IsWritable "Note" (settle {} (.str "one\n# not this\ntwo")).text from hvalue) hok
  have hchanged : d.put "extra" (Document.optionName "Note")
      (Document.rereadValue (settle {} (.str "one\n# not this\ntwo")).text) = d.put "extra" "note" "one\ntwo" :=
    congrArg₂ (d.put "extra") hlower hreread
  rw [hchanged] at hafter
  exact ⟨hname, hkey, hvalue, hok, file, d, settings, htarget, hmerge, hafter, hbefore, hlater⟩

/-- A note in a section without a name. -/
theorem storeSetting_unnamed_breaks_note :
    let change : Action := .storeSetting (.str "note") (.str "x") (.str "") (.str "a")
    (perform {} change).2.result = .ok .null ∧
      (perform {} (.chooseSettings (.str "a"))).1.settings = .ok [] ∧
      ∃ fault, ((perform {} change).1.perform (.chooseSettings (.str "a"))).1.settings = .error fault := by
  intro change
  have hok : (perform {} change).2.result = .ok .null := storeSetting_newFile (.inr rfl) rfl rfl rfl
  have hbefore : (perform {} (.chooseSettings (.str "a"))).1.settings = .ok [] := by
    rw [settings_chooseSettings (by decide)]
    exact Settings.inForce_of_mergeFile mergeFile_newFile rfl
  obtain ⟨file, fault, ⟨_, hfile⟩ | ⟨htruth, _⟩, hfault⟩ := storeSetting_unnamed_breaks hok
  · rw [← Value.str.inj hfile] at hfault
    exact ⟨hok, hbefore, fault, hfault⟩
  · cases htruth

end Session

end CircuitScribe
