import CircuitScribe.Proofs.Document.Repeated
import CircuitScribe.Proofs.Session.FailedReading
import CircuitScribe.Proofs.Session.Growth
import CircuitScribe.Proofs.Session.Still
import CircuitScribe.Proofs.Settings.Writes

namespace CircuitScribe

namespace SettingsReader

/-- A step that makes the same of a reader when it is taken again: it reads `d`, and then `d'`, which has
    the same content, and it puts the same settings into those that are there both times. -/
structure Repeats (step : SettingsReader → SettingsReader × Except Fault Unit) (r : SettingsReader)
    (d d' : Document) (given : Settings) (result : Except Fault Unit) : Prop where
  apart : given.Pairwise Settings.Apart
  alone : given.foldl Settings.put [] = given
  same : d.SameContent d'
  first : ∀ settings, step { r with settings := settings } =
    ({ r with document := d, settings := given.foldl Settings.put settings }, result)
  second : ∀ settings, step { r with document := d, settings := settings } =
    ({ r with document := d', settings := given.foldl Settings.put settings }, result)

variable {step : SettingsReader → SettingsReader × Except Fault Unit} {r : SettingsReader}
  {d d' : Document} {result : Except Fault Unit}

/-- A step that takes no settings repeats if it reads the same again. -/
theorem repeats_of_no_settings (hsame : d.SameContent d')
    (hfirst : ∀ settings, step { r with settings := settings } =
      ({ r with document := d, settings := settings }, result))
    (hsecond : ∀ settings, step { r with document := d, settings := settings } =
      ({ r with document := d', settings := settings }, result)) : Repeats step r d d' [] result :=
  ⟨.nil, rfl, hsame, hfirst, hsecond⟩

/-- So does a step that takes the settings of what it has read. -/
theorem repeats_of_takeSettings (hsame : d.SameContent d')
    (hfirst : ∀ settings, step { r with settings := settings } =
      takeSettings { r with document := d, settings := settings })
    (hsecond : ∀ settings, step { r with document := d, settings := settings } =
      takeSettings { r with document := d', settings := settings }) :
    Repeats step r d d' (Settings.takeFrom [] d).1 (Settings.takeFrom [] d).2 where
  apart := Settings.takeFrom_apart d
  alone := (congrArg Prod.fst (Settings.takeFrom_eq [] d)).symm
  same := hsame
  first settings := by
    rw [hfirst, takeSettings, Settings.takeFrom_eq]
  second settings := by
    rw [hsecond, takeSettings, Settings.takeFrom_of_sameContent hsame, Settings.takeFrom_eq]

theorem merge_again (d : Document) (path : String) (content : ByteArray) :
    (merge (merge d path content).1 path content).2 = (merge d path content).2 ∧
      (merge d path content).1.SameContent (merge (merge d path content).1 path content).1 := by
  have hmerge (d : Document) : merge d path content = ((d.readBytes path content).1,
      match (d.readBytes path content).2 with
      | some fault => .error (.document fault)
      | none => .ok ()) := by
    unfold merge
    rcases d.readBytes path content with ⟨d', fault | fault⟩ <;> rfl
  obtain ⟨hfault, hsame⟩ := d.readBytes_again path content
  simp only [hmerge, hfault]
  exact ⟨trivial, hsame⟩

/-- A file is found again if it has been found, and is read to the same end. -/
theorem exists_readDocument_again (r : SettingsReader) (files : FileTree) :
    ∃ d d' found, d.SameContent d' ∧
      (∀ settings, readDocument { r with settings := settings } files =
        ({ r with document := d, settings := settings }, found)) ∧
      ∀ settings, readDocument { r with document := d, settings := settings } files =
        ({ r with document := d', settings := settings }, found) := by
  have hsource (settings : Settings) (d : Document) :
      source? { r with document := d, settings := settings } files = r.source? files := rfl
  cases hfile : r.source? files with
  | error fault =>
    refine ⟨_, _, .error fault, .refl r.document, fun settings => ?_, fun settings => ?_⟩ <;>
      simp only [readDocument, hsource, hfile]
  | ok file =>
    cases file with
    | none =>
      refine ⟨_, _, .ok false, .refl r.document, fun settings => ?_, fun settings => ?_⟩ <;>
        simp only [readDocument, hsource, hfile]
    | some file =>
      obtain ⟨path, content⟩ := file
      obtain ⟨hresult, hsame⟩ := merge_again r.document path content
      refine ⟨_, _, (merge r.document path content).2.map fun _ => true, hsame, fun settings => ?_,
        fun settings => ?_⟩
      · simp only [readDocument, hsource, hfile]
      · simp only [readDocument, hsource, hfile, hresult]

/-- Reading a file repeats: either no settings are taken, or the same from both documents. -/
theorem exists_repeats_read (r : SettingsReader) (files : FileTree) :
    ∃ d d' given result, Repeats (·.read files) r d d' given result := by
  obtain ⟨d, d', found, hsame, hfirst, hsecond⟩ := r.exists_readDocument_again files
  rcases found with fault | (_ | _)
  · refine ⟨d, d', [], .error fault, repeats_of_no_settings hsame ?_ ?_⟩ <;>
      intro settings <;> simp only [read, hfirst, hsecond]
  · refine ⟨d, d', [], .ok (), repeats_of_no_settings hsame ?_ ?_⟩ <;>
      intro settings <;> simp only [read, hfirst, hsecond]
  · refine ⟨_, _, _, _, repeats_of_takeSettings hsame ?_ ?_⟩ <;>
      intro settings <;> simp only [read, hfirst, hsecond]

end SettingsReader

open SettingsReader (Repeats)

namespace Session

variable {s s' : Session} {id : Nat} {r : SettingsReader} {d d' : Document} {given : Settings}
  {result : Except Fault Unit} {step : SettingsReader → SettingsReader × Except Fault Unit} {target : Value}

/-- What the settings of a reader are put into: what has taken their place, if anything has. -/
def settingsTarget (s : Session) (id : Nat) : Value :=
  (s.attachedTo? (.config id) .settings).getD (.shared (.settingsOf id))

theorem putSettings_withDocument_comm (s : Session) (id : Nat) (d : Document) (target : Value)
    (given : Settings) : (s.withDocument id d).putSettings target given =
      (s.putSettings target given).map (·.withDocument id d) := by
  unfold putSettings
  split
  · rfl
  · refine congrArg Except.ok (congrArg (fun readers => { s with readers := readers }) ?_)
    apply List.ext_getElem?
    intro n
    simp only [withDocument, List.getElem?_modify]
    cases s.readers[n]? with
    | none => rfl
    | some r =>
      simp only [Option.map_eq_map, Option.map_some]
      split <;> split <;> rfl
  · split <;> rfl

/-- Settings that are put somewhere a second time are there already. -/
theorem putSettings_again (hgiven : given.Pairwise Settings.Apart)
    (h : s.putSettings target given = .ok s') : s'.putSettings target given = .ok s' := by
  unfold putSettings at h ⊢
  split at h
  · cases h
    simp only [(Collections.writes_put _).foldl_again hgiven]
  · cases h
    simp only [List.modify_modify_eq, Function.comp_def, Settings.writes_put.foldl_again hgiven]
  · split at h
    · next hempty =>
      cases h
      exact if_pos hempty
    · cases h

/-- The settings of a reader are all that other settings can change in it. -/
theorem exists_reader_of_putSettings (hr : s.readers[id]? = some r)
    (h : s.putSettings target given = .ok s') :
    ∃ settings, s'.readers[id]? = some { r with settings := settings } := by
  unfold putSettings at h
  split at h
  · cases h
    exact ⟨r.settings, hr⟩
  · cases h
    simp only [List.getElem?_modify, hr, Option.map_eq_map, Option.map_some]
    split <;> exact ⟨_, rfl⟩
  · split at h <;> cases h
    exact ⟨r.settings, hr⟩

theorem putSettings_files (h : s.putSettings target given = .ok s') : s'.files = s.files := by
  unfold putSettings at h
  split at h
  · cases h
    rfl
  · cases h
    rfl
  · split at h <;> cases h
    rfl

theorem readers_withDocument (hr : s.readers[id]? = some r) (d : Document) :
    (s.withDocument id d).readers[id]? = some { r with document := d } := by
  simp only [withDocument, List.getElem?_modify, hr, if_true]
  rfl

/-- A step that reads `d` and puts settings into those that are there. -/
theorem useReader_of_step (hr : s.readers[id]? = some r) (halone : given.foldl Settings.put [] = given)
    (hstep : ∀ settings, step { r with settings := settings } =
      ({ r with document := d, settings := given.foldl Settings.put settings }, result)) :
    s.useReader (.config id) step =
      match (s.withDocument id d).putSettings (s.settingsTarget id) given with
      | .ok s' => (s', { result := result.map fun _ => .config id })
      | .error fault => (s.withDocument id d, { result := .error fault }) := by
  have hlt := (List.getElem?_eq_some_iff.mp hr).1
  cases htarget : s.attachedTo? (.config id) .settings with
  | none =>
    have hown := hstep r.settings
    simp only [useReader, hr, htarget, settingsTarget, Option.getD_none, hown, putSettings]
    simp only [withDocument_eq hr, List.modify_eq_set_getElem?, List.getElem?_set_self hlt, List.set_set]
    rfl
  | some target =>
    rw [withDocument_eq hr]
    cases hput : putSettings { s with readers := s.readers.set id { r with document := d } } target given <;>
      simp only [useReader, hr, htarget, settingsTarget, Option.getD_some, hstep, halone, hput]

theorem settingsTarget_congr (hattached : s'.attached = s.attached) (id : Nat) :
    s'.settingsTarget id = s.settingsTarget id := by
  rw [settingsTarget, settingsTarget, attachedTo?, attachedTo?, hattached]

/-- The session and the reply of a step that repeats, and of the same step right after it. -/
theorem useReader_again (hr : s.readers[id]? = some r) (h : Repeats step r d d' given result) :
    let first := s.useReader (.config id) step
    first.1.useReader (.config id) step = (first.1.withDocument id d', first.2) ∧ first.1.files = s.files ∧
      ∃ settings, first.1.readers[id]? = some { r with document := d, settings := settings } := by
  intro first
  have hfirst : first = _ := useReader_of_step hr h.alone h.first
  have hread := readers_withDocument hr d
  cases hput : (s.withDocument id d).putSettings (s.settingsTarget id) given with
  | error fault =>
    simp only [hput] at hfirst
    rw [hfirst]
    refine ⟨?_, rfl, r.settings, hread⟩
    have htarget : (s.withDocument id d).settingsTarget id = s.settingsTarget id := settingsTarget_congr rfl id
    rw [useReader_of_step hread h.alone h.second, htarget, putSettings_withDocument_comm, hput]
    rfl
  | ok after =>
    simp only [hput] at hfirst
    rw [hfirst]
    have hattached : after.attached = s.attached := (putSettings_still hput).attached
    obtain ⟨settings, hafter⟩ := exists_reader_of_putSettings hread hput
    have hfiles : after.files = s.files := putSettings_files (s := s.withDocument id d) hput
    refine ⟨?_, hfiles, settings, hafter⟩
    rw [useReader_of_step hafter h.alone h.second, settingsTarget_congr hattached,
      putSettings_withDocument_comm, putSettings_again h.apart hput]
    rfl

/-- A step that succeeds gives the reader back. -/
theorem useReader_result (s : Session) (id : Nat) (step : SettingsReader → SettingsReader × Except Fault Unit) :
    ∃ result : Except Fault Unit, (s.useReader (.config id) step).2 =
      { result := result.map fun _ => .config id } := by
  simp only [useReader]
  split
  · exact ⟨_, rfl⟩
  · split
    · exact ⟨_, rfl⟩
    · exact ⟨.error _, rfl⟩
  · exact ⟨.error _, rfl⟩

theorem perform_readSettings (s : Session) (id : Nat) :
    s.perform (.readSettings (.config id)) = s.useReader (.config id) (·.read s.files) := by
  let used := s.useReader (.config id) (·.read s.files)
  have hperform : s.perform (.readSettings (.config id)) = used.1.shareReply used.2 := rfl
  obtain ⟨result, hreply⟩ : ∃ result : Except Fault Unit, used.2 = { result := result.map fun _ => .config id } :=
    s.useReader_result id _
  rw [hperform, show s.useReader _ _ = (used.1, used.2) from rfl, hreply]
  cases result with
  | error fault => exact shareReply_error _ fault []
  | ok _ => exact shareReply_ok rfl []

/-- The call of a reader right after the same call, which has made the same of it. -/
theorem readSettings_twice (s : Session) (id : Nat) :
    let first := s.perform (.readSettings (.config id))
    ∃ d, first.1.perform (.readSettings (.config id)) = (first.1.withDocument id d, first.2) ∧
      ∀ r, first.1.readers[id]? = some r → r.document.SameContent d := by
  simp only [perform_readSettings]
  cases hr : s.readers[id]? with
  | none =>
    have huse : s.useReader (.config id) (·.read s.files) = (s, { result := .error (.value .noAttribute) }) := by
      simp only [useReader, hr]
    rw [huse]
    exact ⟨{}, by rw [withDocument_of_missing hr, huse], by simp [hr]⟩
  | some r =>
    obtain ⟨d, d', given, result, hrepeats⟩ := r.exists_repeats_read s.files
    obtain ⟨hsecond, hfiles, settings, hreader⟩ := useReader_again hr hrepeats
    refine ⟨d', ?_, fun r' hr' => ?_⟩
    · rw [hfiles]
      exact hsecond
    · obtain rfl := Option.some.inj (hreader.symm.trans hr')
      exact hrepeats.same

/-- Reading a file that has not changed a second time comes to the same end as the first time,
    wherever that was, and finds what is there already: no section, raw value or setting is
    different afterwards. -/
theorem readSettings_again (s : Session) (id : Nat) :
    let first := s.perform (.readSettings (.config id))
    let second := first.1.perform (.readSettings (.config id))
    second.2 = first.2 ∧
      second.1.attributeOf (.config id) "settings" = first.1.attributeOf (.config id) "settings" ∧
      ∃ d, second.1 = first.1.withDocument id d ∧
        ∀ r, first.1.readers[id]? = some r → r.document.SameContent d ∧ d.raw? = r.document.raw? := by
  intro first second
  obtain ⟨d, hsecond, hsame⟩ := s.readSettings_twice id
  have hsecond : second = (first.1.withDocument id d, first.2) := hsecond
  rw [hsecond]
  exact ⟨rfl, attributeOf_settings_withDocument _ id d, d, rfl, fun r hr => ⟨hsame r hr, (hsame r hr).raw?⟩⟩

end Session

end CircuitScribe
