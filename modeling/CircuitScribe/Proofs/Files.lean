import CircuitScribe.Files
import Mathlib.Tactic.Common

namespace CircuitScribe.FileTree

variable {t t' : FileTree} {path : String} {names other : List String}

theorem node?_put_self (t : FileTree) (h : names ≠ []) (n : Node) :
    (t.put names n).node? names = some n := by
  cases names with
  | nil => exact absurd rfl h
  | cons name rest => exact Table.get?_put_self t.entries (name :: rest) n

theorem node?_put_of_ne (t : FileTree) (hne : other ≠ names) (n : Node) :
    (t.put names n).node? other = t.node? other := by
  cases other with
  | nil => rfl
  | cons name rest => exact Table.get?_put_of_ne hne t.entries n

/-- A way through directories stays open when something is put where no directory is. -/
theorem enter_put {place reached way : List String} (hnot : t.node? names ≠ some .directory) (n : Node)
    (h : t.enter place way = .ok reached) : (t.put names n).enter place way = .ok reached := by
  induction way generalizing place with
  | nil => exact h
  | cons name rest ih =>
    simp only [enter] at h ⊢
    split
    · next hhere =>
      rw [if_pos hhere] at h
      exact ih h
    · next hhere =>
      rw [if_neg hhere] at h
      split
      · next hup =>
        rw [if_pos hup] at h
        exact ih h
      · next hup =>
        rw [if_neg hup] at h
        split
        · next hlong =>
          rw [if_pos hlong] at h
          cases h
        · next hlong =>
          rw [if_neg hlong] at h
          cases hnode : t.node? (place ++ [name]) with
          | none => simp [hnode] at h
          | some node =>
            cases node with
            | file content => simp [hnode] at h
            | directory =>
              have hne : place ++ [name] ≠ names := by
                rintro rfl
                exact hnot hnode
              rw [node?_put_of_ne t hne, hnode]
              simp only [hnode] at h
              exact ih h

theorem locate_put {place : Place} (hnot : t.node? names ≠ some .directory) (n : Node)
    (h : t.locate path = .ok place) : (t.put names n).locate path = .ok place := by
  unfold locate at h ⊢
  cases hlast : (namesOf path).getLast? with
  | none =>
    rw [hlast] at h
    exact h
  | some last =>
    rw [hlast] at h
    by_cases hempty : path = ""
    · simp [hempty, bind, Except.bind] at h
    · by_cases hfits : pathFits path = true
      · simp only [hempty, hfits, if_false, Bool.not_true, Bool.false_eq_true] at h ⊢
        cases henter : t.enter [] (namesOf path).dropLast with
        | error code => simp [henter, bind, Except.bind] at h
        | ok parent =>
          rw [henter] at h
          rw [enter_put hnot n henter]
          exact h
      · simp [hempty, hfits, bind, Except.bind] at h

/-- An opening for writing leads to a name in a directory, at which no directory is. -/
theorem target_eq_ok (h : t.target path = .ok names) :
    hasNul path = false ∧ endsInSlash path = false ∧ t.node? names ≠ some .directory ∧
      ∃ parent last, t.locate path = .ok (.name parent last) ∧ nameFits last = true ∧
        names = parent ++ [last] := by
  unfold target at h
  by_cases hnul : hasNul path = true
  · simp [hnul, bind, Except.bind] at h
  · simp only [hnul, if_false, Bool.false_eq_true] at h
    cases hlocate : t.locate path with
    | error code => simp [hlocate] at h
    | ok place =>
      cases place with
      | directory => simp [hlocate] at h
      | name parent last =>
        by_cases hslash : endsInSlash path = true
        · simp [hlocate, hslash] at h
        · by_cases hfits : nameFits last = true
          · simp only [hlocate, hslash, lookUp, hfits, if_true, if_false, Bool.false_eq_true] at h
            split at h
            · next hlookUp => cases hlookUp
            · cases h
            · next node hother hnode =>
              obtain rfl : parent ++ [last] = names := Except.ok.inj h
              obtain rfl : t.node? (parent ++ [last]) = node := Except.ok.inj hnode
              exact ⟨by simpa using hnul, by simpa using hslash, hother, parent, last, rfl, hfits, rfl⟩
          · simp [hlocate, hslash, lookUp, hfits] at h

theorem lookUp_put (t : FileTree) {last : String} (hfits : nameFits last = true) (parent : List String)
    (n : Node) : (t.put (parent ++ [last]) n).lookUp parent last = .ok (some n) := by
  rw [lookUp, if_pos hfits, node?_put_self t (by simp)]

/-- A content that a file can take as a whole. -/
def Fits (t : FileTree) (content : ByteArray) : Prop :=
  ∀ limit, t.sizeLimit = some limit → content.size ≤ limit

/-- What a file takes of a content: all of it, or what lies below the bound. -/
def taken (t : FileTree) (content : ByteArray) : ByteArray :=
  match t.sizeLimit with
  | none => content
  | some limit => if content.size ≤ limit then content else content.extract 0 limit

theorem put_put (t : FileTree) (names : List String) (m n : Node) :
    (t.put names m).put names n = t.put names n := by
  simp [put, Table.put_put]

/-- Writing succeeds exactly with what fits. -/
theorem fill_of_fits {content : ByteArray} (h : t.Fits content) (names : List String) :
    t.fill names content = (t.put names (.file content), .ok ()) := by
  unfold fill
  cases hlimit : t.sizeLimit with
  | none => rfl
  | some limit => simp [h limit hlimit]

theorem fill_of_not_fits {content : ByteArray} (h : ¬ t.Fits content) (names : List String) :
    t.fill names content = (t.put names (.file (t.taken content)), .error .contentTooLarge) := by
  simp only [Fits, not_forall] at h
  obtain ⟨limit, hlimit, hsize⟩ := h
  simp [fill, taken, hlimit, hsize]

theorem create_eq_ok_iff : t.create path = .ok (names, t') ↔
    t.target path = .ok names ∧ t' = t.put names (.file ByteArray.empty) := by
  unfold create
  cases t.target path with
  | error fault => simp [Except.map]
  | ok found =>
    simp only [Except.map, Except.ok.injEq, Prod.mk.injEq]
    constructor
    · rintro ⟨rfl, rfl⟩
      exact ⟨rfl, rfl⟩
    · rintro ⟨rfl, rfl⟩
      exact ⟨rfl, rfl⟩

theorem create_eq_error_iff {fault : FileFault} :
    t.create path = .error fault ↔ t.target path = .error fault := by
  unfold create
  cases t.target path <;> simp [Except.map]

/-- A file is written in two steps: it may not be opened, or opened but not filled. -/
theorem write_cases (t : FileTree) (path : String) (content : ByteArray) :
    (∃ fault, t.target path = .error fault ∧ t.write path content = (t, .error fault)) ∨
    (∃ names, t.target path = .ok names ∧ t.Fits content ∧
      t.write path content = (t.put names (.file content), .ok ())) ∨
    (∃ names, t.target path = .ok names ∧ ¬ t.Fits content ∧
      t.write path content = (t.put names (.file (t.taken content)), .error .contentTooLarge)) := by
  unfold write
  cases htarget : t.target path with
  | error fault =>
    rw [create_eq_error_iff.mpr htarget]
    exact .inl ⟨fault, rfl, rfl⟩
  | ok names =>
    rw [create_eq_ok_iff.mpr ⟨htarget, rfl⟩]
    have hlimit : (t.put names (.file ByteArray.empty)).Fits content ↔ t.Fits content := Iff.rfl
    by_cases hfits : t.Fits content
    · exact .inr (.inl ⟨names, rfl, hfits, by simp only [fill_of_fits (hlimit.mpr hfits), put_put]⟩)
    · refine .inr (.inr ⟨names, rfl, hfits, ?_⟩)
      have hfill := fill_of_not_fits (hlimit.not.mpr hfits) names
      rw [put_put] at hfill
      exact hfill

theorem write_eq_ok_iff {content : ByteArray} : t.write path content = (t', .ok ()) ↔
    ∃ names, t.target path = .ok names ∧ t.Fits content ∧ t.put names (.file content) = t' := by
  rcases t.write_cases path content with
    ⟨fault, htarget, hwrite⟩ | ⟨names, htarget, hfits, hwrite⟩ | ⟨names, htarget, hfits, hwrite⟩
  · simp [htarget, hwrite]
  · simp [htarget, hwrite, hfits]
  · simp [htarget, hwrite, hfits]

/-- A written file has the content that it was written with. -/
theorem content?_put (h : t.target path = .ok names) (content : ByteArray) :
    (t.put names (.file content)).content? path = some content := by
  obtain ⟨hnul, hslash, hnot, parent, last, hlocate, hfits, rfl⟩ := target_eq_ok h
  have hfind : (t.put (parent ++ [last]) (.file content)).find path = .ok (.file content) := by
    simp only [find, locate_put hnot _ hlocate, lookUp_put t hfits, hslash, bind, Except.bind]
    rfl
  simp [content?, hnul, hfind]

end CircuitScribe.FileTree
