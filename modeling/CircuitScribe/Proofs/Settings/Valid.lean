import CircuitScribe.Proofs.Document.Interpolation
import CircuitScribe.Settings.Store

namespace CircuitScribe.Settings

theorem sectionName_ne_defaultsName : sectionName ≠ Document.defaultsName := by decide

theorem isSectionName_sectionName : Document.IsSectionName sectionName :=
  ⟨by decide, sectionName_ne_defaultsName, by decide, by decide⟩

/-- A text without blanks in it. -/
def IsSolid (text : String) : Prop :=
  ∀ c ∈ text.toList, Text.isBlank c = false

theorem isSolid_iff {text : String} : IsSolid text ↔ text.toList.all (!Text.isBlank ·) = true := by
  simp [IsSolid]

/-- A text without blanks fits into one line. -/
theorem IsSolid.isLine {text : String} (h : IsSolid text) : Document.IsLine text.toList := by
  refine ⟨⟨fun c hc => h c (List.mem_of_mem_head? hc), fun c hc => h c (List.mem_of_mem_getLast? hc)⟩, ?_, ?_⟩
  · exact fun hfeed => (Document.ne_lineEnd_of_not_blank (h _ hfeed)).1 rfl
  · exact fun hreturn => (Document.ne_lineEnd_of_not_blank (h _ hreturn)).2 rfl

/-- The keys of the settings are stored under the names that they have. -/
theorem isKey_of_mem_keys {key : String} (h : key ∈ SettingsReader.keys) : Document.IsKey key := by
  have hkeys : SettingsReader.keys.all (fun key => key.toList.all (!Text.isBlank ·) && key ≠ "" &&
      key.toList.all (!Document.isDelimiter ·) && key.toList.head? ≠ some '#' &&
      key.toList.head? ≠ some ';' && Document.optionName key = key) = true := by
    decide +kernel
  have hkey := List.all_eq_true.mp hkeys key h
  simp only [Bool.and_eq_true, decide_eq_true_eq] at hkey
  obtain ⟨⟨⟨⟨⟨hsolid, hne⟩, hdelimiter⟩, hhash⟩, hsemicolon⟩, hlower⟩ := hkey
  refine ⟨(isSolid_iff.mpr hsolid).isLine, hne, ?_, ?_, hlower⟩
  · simpa using hdelimiter
  · exact not_or.mpr ⟨hhash, hsemicolon⟩

theorem IsSolid.of_lower {text : String} (h : IsSolid (Text.lower text)) : IsSolid text := by
  intro c hc
  by_contra hblank
  rw [Bool.not_eq_false] at hblank
  refine Bool.false_ne_true ((h c ?_).symm.trans hblank)
  rw [Text.toList_lower]
  exact (Text.mem_lowerAfter_iff (.inl hblank)).mpr hc

theorem IsSolid.of_upper {text : String} (h : IsSolid (Text.upper text)) : IsSolid text := by
  intro c hc
  by_contra hblank
  rw [Bool.not_eq_false] at hblank
  exact Bool.false_ne_true ((h c (Text.mem_upper_of_isBlank hblank hc)).symm.trans hblank)

/-- The words of a switch have no blanks in them. -/
theorem isSolid_of_switch? {word : String} {on : Bool} (h : switch? word = some on) : IsSolid word := by
  have hwords : ∀ w ∈ ["1", "yes", "true", "on", "0", "no", "false", "off"], IsSolid w := by
    simp only [isSolid_iff]
    decide
  apply IsSolid.of_lower
  apply hwords
  unfold switch? at h
  simp only at h
  split at h
  · next hon => exact List.mem_append_left ["0", "no", "false", "off"] hon
  · split at h
    · next hoff => exact List.mem_append_right ["1", "yes", "true", "on"] hoff
    · cases h

/-- Nor have the names of the log levels. -/
theorem isSolid_of_ofName? {word : String} {level : Severity}
    (h : Severity.ofName? (Text.upper word) = some level) : IsSolid word := by
  have hname : level.name = Text.upper word := by simpa using List.find?_some h
  apply IsSolid.of_upper
  rw [← hname, isSolid_iff]
  cases level <;> decide

variable {s s' : Settings} {d : Document} {key text : String}

/-- The value of a setting that has been taken over has no blanks in it. -/
theorem isSolid_of_takeFrom (h : takeFrom s d = (s', .ok ())) (hsection : d.hasSection sectionName = true)
    (hkey : key ∈ SettingsReader.keys) :
    ∃ word?, d.value? sectionName key = .ok word? ∧ ∀ word, word? = some word → IsSolid word := by
  unfold takeFrom at h
  rw [hsection] at h
  simp only [Bool.not_true, Bool.false_eq_true, if_false] at h
  cases hspacing : spacingIn d with
  | error fault => simp [hspacing] at h
  | ok spacing =>
    cases hlevel : levelIn d with
    | error fault => simp [hspacing, hlevel] at h
    | ok level =>
      simp only [SettingsReader.keys, List.mem_cons, List.not_mem_nil, or_false] at hkey
      rcases hkey with rfl | rfl
      · unfold spacingIn at hspacing
        cases hvalue : d.value? sectionName "ccx_legacy_spacing" with
        | error fault => simp [hvalue] at hspacing
        | ok word? =>
          refine ⟨word?, rfl, ?_⟩
          rintro word rfl
          cases hswitch : switch? word with
          | none => simp [hvalue, hswitch] at hspacing
          | some on => exact isSolid_of_switch? hswitch
      · unfold levelIn at hlevel
        cases hvalue : d.value? sectionName "log_level" with
        | error fault => simp [hvalue] at hlevel
        | ok word? =>
          refine ⟨word?, rfl, ?_⟩
          rintro word rfl
          by_cases hempty : word = ""
          · rw [hempty]
            simp [IsSolid]
          · cases hname : Severity.ofName? (Text.upper word) with
            | none => simp [hvalue, hempty, hname] at hlevel
            | some severity => exact isSolid_of_ofName? hname

/-- A raw value that has been taken over fits into one line, whatever it refers to. -/
theorem isLine_of_takeFrom (h : takeFrom s d = (s', .ok ())) (hsection : d.hasSection sectionName = true)
    (hkey : key ∈ SettingsReader.keys) (hraw : d.raw? sectionName key = some (.text text))
    (hnames : ∀ name, d.raw? sectionName name ≠ none → Document.Unbroken name.toList) :
    Document.IsLine text.toList := by
  obtain ⟨word?, hvalue, hsolid⟩ := isSolid_of_takeFrom h hsection hkey
  unfold Document.value? at hvalue
  rw [(isKey_of_mem_keys hkey).lower_eq, hraw] at hvalue
  simp only at hvalue
  cases hexpand : Document.expand (d.raw? sectionName) Document.maxDepth (.text text) with
  | error cause => simp [hexpand] at hvalue
  | ok expanded? =>
    cases expanded? with
    | none => simp [hexpand] at hvalue
    | some expanded =>
      rw [hexpand] at hvalue
      have hword := hsolid _ (Except.ok.inj hvalue).symm
      rw [IsSolid, String.toList_ofList] at hword
      exact Document.isLine_of_expand hexpand hword hnames

end CircuitScribe.Settings
