import CircuitScribe.Proofs.Document.Edits
import CircuitScribe.Proofs.Settings.Store
import CircuitScribe.Value.Collections

namespace CircuitScribe

namespace Settings

/-- Settings with different keys do not get in the way of each other. -/
def Apart (setting setting' : Setting) : Prop :=
  setting.key ≠ setting'.key

/-- A setting shows in settings as the one that stands for its key. -/
def Shows (s : Settings) (setting : Setting) : Prop :=
  s.find? (·.key = setting.key) = some setting

theorem shows_put (s : Settings) (setting : Setting) : (s.put setting).Shows setting := by
  induction s with
  | nil => simp [Shows, put]
  | cons first rest ih =>
    by_cases hkey : first.key = setting.key
    · simp [Shows, put, hkey]
    · simpa [Shows, put, hkey] using ih

theorem put_of_shows {s : Settings} {setting : Setting} (h : s.Shows setting) : s.put setting = s := by
  induction s with
  | nil => simp [Shows] at h
  | cons first rest ih =>
    by_cases hkey : first.key = setting.key
    · have hfirst : first = setting := by simpa [Shows, hkey] using h
      simp [put, hfirst]
    · have hrest : Shows rest setting := by simpa [Shows, hkey] using h
      simp [put, hkey, ih hrest]

theorem Shows.put {s : Settings} {setting other : Setting} (h : s.Shows setting) (hne : Apart setting other) :
    (s.put other).Shows setting := by
  induction s with
  | nil => simp [Shows] at h
  | cons first rest ih =>
    by_cases hother : first.key = other.key
    · have hfirst : first.key ≠ setting.key := fun hkey => hne (hkey.symm.trans hother)
      have hrest : Shows rest setting := by simpa [Shows, hfirst] using h
      simpa [Shows, Settings.put, hother, hne.symm] using hrest
    · by_cases hkey : first.key = setting.key
      · have hfirst : first = setting := by simpa [Shows, hkey] using h
        subst hfirst
        simp [Shows, Settings.put, hother]
      · have hrest : Shows rest setting := by simpa [Shows, hkey] using h
        simpa [Shows, Settings.put, hother, hkey] using ih hrest

theorem writes_put : Writes put Shows Apart where
  shown_write := shows_put
  write_of_shown := put_of_shows
  shown_of_apart := Shows.put

variable {d d' : Document}

/-- The settings of a document are the same whatever they are put into. -/
theorem takeFrom_eq (s : Settings) (d : Document) :
    takeFrom s d = ((takeFrom [] d).1.foldl put s, (takeFrom [] d).2) := by
  unfold takeFrom
  split
  · rfl
  cases spacingIn d with
  | error fault => rfl
  | ok spacing =>
    rcases levelIn d with fault | (_ | level) <;> cases spacing <;> simp [put, Setting.key]

theorem takeFrom_apart (d : Document) : (takeFrom [] d).1.Pairwise Apart := by
  unfold takeFrom
  split
  · exact .nil
  cases spacingIn d with
  | error fault => exact .nil
  | ok spacing =>
    rcases levelIn d with fault | (_ | level) <;> cases spacing <;> simp [put, Setting.key, Apart]

theorem takeFrom_of_sameContent (h : d.SameContent d') (s : Settings) : takeFrom s d' = takeFrom s d :=
  takeFrom_congr (congrFun h.hasSection _) (congrFun h.raw? _)

end Settings

/-- Settings that go to a shared table show there under their keys, if there is that table at all. -/
theorem Collections.writes_put (cell : Nat) :
    Writes (fun (c : Collections) (setting : Setting) => c.put cell setting.key setting.value)
      (fun c setting => ∀ table, c.tables[cell]? = some table → table.get? setting.key = some setting.value)
      Settings.Apart where
  shown_write c setting table htable := by
    simp only [put, Array.getElem?_modify, if_true, Option.map_eq_some_iff] at htable
    obtain ⟨before, _, rfl⟩ := htable
    exact Table.get?_put_self _ _ _
  write_of_shown {c setting} h := by
    have htables : c.tables.modify cell (·.put setting.key setting.value) = c.tables := by
      refine Array.ext_getElem? fun n => ?_
      rw [Array.getElem?_modify]
      split
      · next hn =>
        subst hn
        cases htable : c.tables[cell]? with
        | none => rfl
        | some table => exact congrArg some (Table.put_of_get? (h table htable))
      · rfl
    rw [put, htables]
  shown_of_apart {c setting setting'} h hne table htable := by
    simp only [put, Array.getElem?_modify, if_true, Option.map_eq_some_iff] at htable
    obtain ⟨before, hbefore, rfl⟩ := htable
    rw [Table.get?_put_of_ne hne]
    exact h before hbefore

end CircuitScribe
