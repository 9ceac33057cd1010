import CircuitScribe.Proofs.Document.Change
import CircuitScribe.Proofs.Document.Reading
import CircuitScribe.Proofs.Document.RoundTrip
import CircuitScribe.Proofs.Files.Directories
import CircuitScribe.Proofs.Settings.Valid
import CircuitScribe.Proofs.Value.Printing

namespace CircuitScribe

namespace SettingsReader

variable {d : Document} {file : String} {content : ByteArray}

theorem merge_canonical (h : merge {} file content = (d, .ok ())) : d.Canonical := by
  unfold merge at h
  split at h
  · cases h
  · next hread =>
    obtain ⟨rfl, _⟩ := Prod.mk.inj h
    exact Document.readBytes_canonical hread

theorem fromUTF8?_toUTF8 (text : String) : String.fromUTF8? text.toUTF8 = some text := by
  simp [String.fromUTF8?, String.toUTF8, text.isValidUTF8, String.fromUTF8]

theorem merge_render (h : d.Writable) (file : String) :
    merge {} file d.render.toUTF8 = (d.reread, .ok ()) := by
  rw [merge, Document.readBytes, fromUTF8?_toUTF8]
  simp only
  rw [h.read_render]

end SettingsReader

namespace Settings

variable {files files' : FileTree} {d d' : Document} {path key text : String}

/-- What is merged into nothing can be written and read again. -/
theorem mergeFile_canonical (h : mergeFile files {} (.str path) = .ok d) : d.Canonical := by
  simp only [mergeFile] at h
  split at h
  · cases h
  · split at h
    · obtain rfl := Except.ok.inj h
      exact Document.canonical_empty
    · split at h
      · cases h
      · next hmerge =>
        obtain rfl := Except.ok.inj h
        exact SettingsReader.merge_canonical hmerge

theorem not_hasNul_of_content? {content : ByteArray} (h : files.content? path = some content) :
    FileTree.hasNul path = false := by
  by_contra hnul
  simp [FileTree.content?, hnul] at h

/-- What has been written is merged again. -/
theorem mergeFile_of_render (h : d.Writable) (hcontent : files.content? path = some d.render.toUTF8) :
    mergeFile files {} (.str path) = .ok d.reread := by
  simp only [mergeFile, not_hasNul_of_content? hcontent, hcontent, SettingsReader.merge_render h path,
    Bool.false_eq_true, if_false]

/-- The settings of a file are those of the document in it, and of no document if there is no
    file. -/
theorem inForce_eq (hmerge : mergeFile files {} (.str path) = .ok d) :
    inForce files (some path) = (takeFrom [] d).2.map fun _ => (takeFrom [] d).1 := by
  simp only [mergeFile] at hmerge
  split at hmerge
  · cases hmerge
  · split at hmerge
    · next hcontent =>
      obtain rfl := Except.ok.inj hmerge
      simp only [inForce, SettingsReader.read, SettingsReader.readDocument, SettingsReader.source?,
        Option.getD_some, hcontent, Option.map_none]
      rfl
    · next hcontent =>
      split at hmerge
      · cases hmerge
      · next hread =>
        obtain rfl := Except.ok.inj hmerge
        simp only [inForce, SettingsReader.read, SettingsReader.readDocument, SettingsReader.source?,
          Option.getD_some, hcontent, Option.map_some, hread, Except.map, SettingsReader.takeSettings]
        cases (takeFrom [] _).2 <;> rfl

theorem inForce_of_mergeFile {settings : Settings} (hmerge : mergeFile files {} (.str path) = .ok d)
    (htake : takeFrom [] d = (settings, .ok ())) : inForce files (some path) = .ok settings := by
  rw [inForce_eq hmerge, htake]
  rfl

variable {name : String}

theorem edit_eq_ok {value : Value} (hname : Document.IsSectionName name)
    (h : edit d (.str name) key value = .ok d') :
    d' = d.put name (Document.optionName key) value.text := by
  simp only [edit, hname.ne_defaults, hname.ne_empty, if_false] at h
  obtain ⟨text, hprinted, h⟩ := Fault.bind_eq_ok_iff.mp h
  obtain ⟨_, rfl⟩ := Value.printed_eq_ok_iff.mp hprinted
  split at h
  · cases h
  · rw [Document.put_withSection] at h
    exact (Except.ok.inj h).symm

/-- The document that a store into a section is about to write. -/
theorem prepare_eq_ok {value : Value} (hname : Document.IsSectionName name)
    (h : prepare files [.str path] key value (.str name) = .ok d') :
    ∃ d settings, mergeFile files {} (.str path) = .ok d ∧
      d' = d.put name (Document.optionName key) value.text ∧
      takeFrom [] d' = (settings, .ok ()) := by
  simp only [prepare, List.foldlM_cons, List.foldlM_nil] at h
  cases hmerge : mergeFile files {} (.str path) with
  | error fault => simp [hmerge, bind, Except.bind] at h
  | ok d =>
    cases hedit : edit d (.str name) key value with
    | error fault => simp [hmerge, hedit, bind, Except.bind, pure, Except.pure] at h
    | ok edited =>
      simp only [hmerge, hedit, bind, Except.bind, pure, Except.pure] at h
      split at h
      · cases h
      · next settings htake =>
        obtain rfl := Except.ok.inj h
        exact ⟨d, settings, rfl, edit_eq_ok hname hedit, htake⟩

theorem unbroken_of_raw? (h : d.Canonical) (hkey : Document.IsKey key)
    (hraw : (d.put sectionName key text).raw? sectionName name ≠ none) :
    Document.Unbroken name.toList := by
  have hdefaults : (d.put sectionName key text).defaults = d.defaults :=
    (Document.changedAt_put sectionName_ne_defaultsName d key text).defaults
  rcases Document.mem_keys_of_raw? hraw with hown | hdefault
  · rw [Document.options_put_self] at hown
    obtain ⟨o, ho, rfl⟩ := List.mem_map.mp hown
    rcases Table.mem_put ho with rfl | ho
    · exact hkey.unbroken
    · exact ((h.options sectionName).key o ho).unbroken
  · rw [hdefaults] at hdefault
    obtain ⟨o, ho, rfl⟩ := List.mem_map.mp hdefault
    exact (h.defaults.key o ho).unbroken

/-- A setting that is accepted leaves a document behind that can be written and read again. -/
theorem canonical_put_of_takeFrom {s s' : Settings} (h : d.Canonical) (hkey : key ∈ SettingsReader.keys)
    (htake : takeFrom s (d.put sectionName key text) = (s', .ok ())) :
    (d.put sectionName key text).Canonical := by
  have hname := sectionName_ne_defaultsName
  have hisKey := isKey_of_mem_keys hkey
  have hraw : (d.put sectionName key text).raw? sectionName key = some (.text text) := by
    have hjoined : (d.put sectionName key text).unjoined = [] :=
      (Document.changedAt_put hname d key text).unjoined.trans h.unjoined
    simp [Document.raw?, Document.options_put_self, Table.get?_put_self, Document.rawIn, hjoined]
  have hline : Document.IsLine text.toList :=
    isLine_of_takeFrom htake (Document.hasSection_put hname d key text) hkey hraw
      fun name => unbroken_of_raw? h hisKey
  have hheader : Document.NoHeader key.toList text.toList := by
    intro hbracket
    simp only [SettingsReader.keys, List.mem_cons, List.not_mem_nil, or_false] at hkey
    rcases hkey with rfl | rfl <;> exact absurd hbracket (by decide)
  refine h.put (fun _ => isSectionName_sectionName) hisKey ⟨⟨[text.toList], ?_, ?_⟩, ?_⟩
  · exact Document.isCollected_single hline hheader
  · simp [List.intercalate]
  · exact Text.trimEnd_eq_self hline.last

/-- A document is stored in two steps, once there are directories for it: the file may not be
    opened, or opened but not filled. -/
theorem writeDocument_cases (files : FileTree) (path : String) (d : Document) :
    ∃ before, files.Keeps before ∧
      ((∃ cause, writeDocument files path d = (before, .error (.settings (.notStored path cause)))) ∨
      (∃ names, before.target path = .ok names ∧ files.Fits d.render.toUTF8 ∧
        writeDocument files path d = (before.put names (.file d.render.toUTF8), .ok ())) ∨
      (∃ names, before.target path = .ok names ∧ ¬ files.Fits d.render.toUTF8 ∧
        writeDocument files path d = (before.put names (.file (before.taken d.render.toUTF8)),
          .error (.settings (.notStored path .contentTooLarge))))) := by
  simp only [writeDocument]
  generalize hmade : (if (FileTree.leading path.toList).isEmpty = true then
    (files, (.ok () : Except FileFault Unit)) else
    files.makeDirectories true (FileTree.leading path.toList)) = made
  have hkeeps : files.Keeps made.1 := by
    rw [← hmade]
    split
    · exact .refl files
    · exact files.makeDirectories_keeps true _
  obtain ⟨before, made⟩ := made
  refine ⟨before, hkeeps, ?_⟩
  cases made with
  | error cause => exact .inl ⟨cause, rfl⟩
  | ok _ =>
    rw [← hkeeps.fits_iff]
    rcases before.write_cases path d.render.toUTF8 with
      ⟨cause, _, hwrite⟩ | ⟨names, htarget, hfits, hwrite⟩ | ⟨names, htarget, hfits, hwrite⟩
    · exact .inl ⟨cause, by simp only [hwrite]; rfl⟩
    · exact .inr (.inl ⟨names, htarget, hfits, by simp only [hwrite]; rfl⟩)
    · exact .inr (.inr ⟨names, htarget, hfits, by simp only [hwrite]; rfl⟩)

theorem writeDocument_eq_ok (h : writeDocument files path d = (files', .ok ())) :
    files'.content? path = some d.render.toUTF8 := by
  obtain ⟨before, _, ⟨cause, hwrite⟩ | ⟨names, htarget, _, hwrite⟩ | ⟨names, _, _, hwrite⟩⟩ :=
    writeDocument_cases files path d
  · rw [hwrite] at h
    cases h
  · rw [hwrite] at h
    obtain ⟨rfl, _⟩ := Prod.mk.inj h
    exact FileTree.content?_put htarget _
  · rw [hwrite] at h
    cases h

theorem checkKey_eq_ok {sectionValue : Value} {checked : String}
    (h : checkKey (.str key) sectionValue = .ok checked) : checked = key := by
  simp only [checkKey] at h
  split at h
  · split at h
    · cases h
    · exact (Except.ok.inj h).symm
  · exact (Except.ok.inj h).symm

/-- A store that succeeds is one to a path. Its document has been checked and then written. -/
theorem store_eq_ok {refs : Referents} {value sectionValue target : Value}
    (hsection : sectionValue = .null ∧ name = sectionName ∨ sectionValue = .str name)
    (h : store refs files (.str key) value sectionValue target = (files', .ok ())) :
    ∃ path d', target = .str path ∧ prepare files [.str path] key value (.str name) = .ok d' ∧
      writeDocument files path d' = (files', .ok ()) := by
  have hnamed : store refs files (.str key) value (.str name) target = (files', .ok ()) := by
    rcases hsection with ⟨rfl, rfl⟩ | rfl
    · exact h
    · exact h
  cases hcheck : checkKey (.str key) (.str name) with
  | error fault => simp [store, hcheck, bind, Except.bind] at hnamed
  | ok checked =>
    obtain rfl := checkKey_eq_ok hcheck
    simp only [store, hcheck, bind, Except.bind] at hnamed
    split at hnamed
    · simp at hnamed
    · next d' path hprepared =>
      exact ⟨path, d', rfl, hprepared, hnamed⟩
    · simp at hnamed

/-- A store into the section of the settings changes one option of the file. What the file
    had before is read again with that option changed, and the settings in it are those
    that have been checked. -/
theorem prepare_writeDocument {value : Value} (hkey : key ∈ SettingsReader.keys)
    (hprepare : prepare files [.str path] key value (.str sectionName) = .ok d')
    (hwrite : writeDocument files path d' = (files', .ok ())) :
    ∃ d settings, mergeFile files {} (.str path) = .ok d ∧
      Document.ChangedAt d d' sectionName key value.text ∧
      mergeFile files' {} (.str path) = .ok d' ∧
      takeFrom [] d' = (settings, .ok ()) ∧ inForce files' (some path) = .ok settings := by
  obtain ⟨d, settings, hmerge, hput, htake⟩ := prepare_eq_ok isSectionName_sectionName hprepare
  rw [(isKey_of_mem_keys hkey).lower_eq] at hput
  subst hput
  have hcanonical := canonical_put_of_takeFrom (mergeFile_canonical hmerge) hkey htake
  have hafter := mergeFile_of_render hcanonical.writable (writeDocument_eq_ok hwrite)
  rw [hcanonical.reread_eq] at hafter
  exact ⟨d, settings, hmerge, Document.changedAt_put sectionName_ne_defaultsName d key value.text,
    hafter, htake, inForce_of_mergeFile hafter htake⟩

/-- What is taken over depends on the section of the settings, as a look-up sees it, alone. -/
theorem takeFrom_congr {s : Settings} (hsection : d'.hasSection sectionName = d.hasSection sectionName)
    (hraw : d'.raw? sectionName = d.raw? sectionName) : takeFrom s d' = takeFrom s d := by
  simp only [takeFrom, spacingIn, levelIn, Document.value?, hsection, hraw]

/-- An option of another section is no setting. -/
theorem takeFrom_put_other {s : Settings} (hname : name ≠ Document.defaultsName) (hne : name ≠ sectionName)
    (d : Document) (key text : String) : takeFrom s (d.put name key text) = takeFrom s d :=
  takeFrom_congr (Document.hasSection_put_of_ne hname hne.symm d key text)
    (Document.raw?_put_of_ne hname hne.symm d key text)

/-- A store into another section leaves the settings of its file alone, and what the file had
    otherwise, if the option can be written. -/
theorem prepare_writeDocument_other {value : Value} (hname : Document.IsSectionName name)
    (hne : name ≠ sectionName) (hkey : Document.IsRawKey key.toList) (hkeyNe : key ≠ "")
    (hvalue : Document.IsWritable key value.text)
    (hprepare : prepare files [.str path] key value (.str name) = .ok d')
    (hwrite : writeDocument files path d' = (files', .ok ())) :
    ∃ d settings, mergeFile files {} (.str path) = .ok d ∧
      mergeFile files' {} (.str path) =
        .ok (d.put name (Document.optionName key) (Document.rereadValue value.text)) ∧
      inForce files (some path) = .ok settings ∧ inForce files' (some path) = .ok settings := by
  obtain ⟨d, settings, hmerge, rfl, htake⟩ := prepare_eq_ok hname hprepare
  have hcanonical := mergeFile_canonical hmerge
  have hisKey := hkey.isKey_optionName hkeyNe
  have hwritable := hcanonical.writable_put hname hisKey hvalue.optionName
  have hafter := mergeFile_of_render hwritable (writeDocument_eq_ok hwrite)
  rw [hcanonical.reread_put hname] at hafter
  rw [takeFrom_put_other hname.ne_defaults hne] at htake
  refine ⟨d, settings, hmerge, hafter, inForce_of_mergeFile hmerge htake, inForce_of_mergeFile hafter ?_⟩
  rw [takeFrom_put_other hname.ne_defaults hne, htake]

end Settings

end CircuitScribe
