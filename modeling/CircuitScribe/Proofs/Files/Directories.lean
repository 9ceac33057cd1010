import CircuitScribe.Proofs.Files

namespace CircuitScribe.FileTree

/-- Two trees with the same files, and room for the same. All that is in the first is in the second,
    which may have further directories. -/
structure Keeps (t t' : FileTree) : Prop where
  sizeLimit : t'.sizeLimit = t.sizeLimit
  node : ∀ names n, t.node? names = some n → t'.node? names = some n
  file : ∀ names content, t'.node? names = some (.file content) → t.node? names = some (.file content)

variable {t t' t₁ t₂ t₃ : FileTree} {path : String} {mayExist : Bool}

theorem Keeps.refl (t : FileTree) : t.Keeps t := ⟨rfl, fun _ _ h => h, fun _ _ h => h⟩

theorem Keeps.trans (h : t₁.Keeps t₂) (h' : t₂.Keeps t₃) : t₁.Keeps t₃ :=
  ⟨h'.sizeLimit.trans h.sizeLimit, fun names n hn => h'.node names n (h.node names n hn),
    fun names content hn => h.file names content (h'.file names content hn)⟩

theorem keeps_put_directory {names : List String} (hne : names ≠ []) (hfree : t.node? names = none) :
    t.Keeps (t.put names .directory) := by
  refine ⟨rfl, ?_, ?_⟩
  · intro other n hn
    have hother : other ≠ names := by
      rintro rfl
      simp [hfree] at hn
    rw [node?_put_of_ne t hother, hn]
  · intro other content hn
    by_cases hother : other = names
    · rw [hother, node?_put_self t hne] at hn
      cases hn
    · rwa [node?_put_of_ne t hother] at hn

/-- A new directory is made where nothing is. -/
theorem makeDirectory_keeps (h : t.makeDirectory path = .ok t') : t.Keeps t' := by
  unfold makeDirectory at h
  by_cases hnul : hasNul path = true
  · simp [hnul, bind, Except.bind] at h
  · simp only [hnul, if_false, Bool.false_eq_true] at h
    cases hlocate : t.locate path with
    | error code => simp [hlocate] at h
    | ok place =>
      cases place with
      | directory => simp [hlocate] at h
      | name parent last =>
        by_cases hfits : nameFits last = true
        · simp only [hlocate, lookUp, hfits, if_true] at h
          cases hnode : t.node? (parent ++ [last]) with
          | some node => simp [hnode] at h
          | none =>
            rw [hnode] at h
            obtain rfl : t.put (parent ++ [last]) .directory = t' := Except.ok.inj h
            exact keeps_put_directory (by simp) hnode
        · simp [hlocate, lookUp, hfits] at h

/-- What fits goes by the bound alone. -/
theorem Keeps.fits_iff (h : t.Keeps t') (content : ByteArray) : t'.Fits content ↔ t.Fits content := by
  rw [Fits, h.sizeLimit, Fits]

/-- One more directory, or none if that is refused. -/
theorem keeps_finish (t : FileTree) (path : String) (refused : FileFault → Except FileFault Unit) :
    t.Keeps (match t.makeDirectory path with
      | .ok t' => (t', (.ok () : Except FileFault Unit))
      | .error fault => (t, refused fault)).1 := by
  cases hmake : t.makeDirectory path with
  | ok t' => exact makeDirectory_keeps hmake
  | error fault => exact .refl t

/-- Directories that are made on the way to a refusal are all that it leaves behind. -/
theorem makeDirectories_keeps (t : FileTree) (mayExist : Bool) (path : List Char) :
    t.Keeps (t.makeDirectories mayExist path).1 := by
  fun_induction makeDirectories t mayExist path with
  | case1 path hmissing t' hmade hdot ih =>
    rw [hmade] at ih
    exact ih
  | case2 path finish hmissing t' hmade hdot ih =>
    rw [hmade] at ih
    exact ih.trans (keeps_finish t' _ _)
  | case3 path hmissing t' _ hmade hdot ih =>
    rw [hmade] at ih
    exact ih
  | case4 path finish hmissing t' _ hmade hdot ih =>
    rw [hmade] at ih
    exact ih.trans (keeps_finish t' _ _)
  | case5 path hmissing t' fault _ hmade ih =>
    rw [hmade] at ih
    exact ih
  | case6 path finish hnone => exact keeps_finish t _ _

/-- A path of one name. -/
theorem namesOf_a : namesOf "a" = ["a"] := by
  rw [namesOf, String.splitOn, if_neg (by decide), String.splitOnAux, if_neg (by decide +kernel),
    if_neg (by decide +kernel), String.splitOnAux, if_pos (by decide +kernel)]
  decide +kernel

theorem locate_a (t : FileTree) : t.locate "a" = .ok (.name [] "a") := by
  rw [locate, namesOf_a]
  rfl

theorem target_a {t : FileTree} (h : t.node? ["a"] ≠ some .directory) : t.target "a" = .ok ["a"] := by
  have hlookUp : t.lookUp [] "a" = .ok (t.node? ["a"]) := rfl
  simp only [target, locate_a, hlookUp]
  cases hnode : t.node? ["a"] with
  | none => rfl
  | some n =>
    cases n with
    | directory => exact absurd hnode h
    | file content => rfl

end CircuitScribe.FileTree
