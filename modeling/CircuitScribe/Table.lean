namespace CircuitScribe

/-- A finite map that keeps the order in which its keys were first put. -/
abbrev Table (κ α : Type) := List (κ × α)

namespace Table

variable {κ α : Type} [BEq κ]

def get? (t : Table κ α) (key : κ) : Option α :=
  t.lookup key

def has (t : Table κ α) (key : κ) : Bool :=
  t.any (·.1 == key)

/-- A present key keeps its place and takes the new value; an absent one goes last. -/
def put : Table κ α → κ → α → Table κ α
  | [], key, a => [(key, a)]
  | (k, b) :: rest, key, a => if k == key then (k, a) :: rest else (k, b) :: put rest key a

/-- The keys of a table, in the order in which they were first put. -/
def keys (t : Table κ α) : List κ :=
  t.map (·.1)

@[simp] theorem get?_nil (key : κ) : get? ([] : Table κ α) key = none := rfl

theorem get?_cons (entry : κ × α) (t : Table κ α) (key : κ) :
    get? (entry :: t) key = if key == entry.1 then some entry.2 else get? t key := by
  obtain ⟨k, a⟩ := entry
  simp only [get?, List.lookup_cons]
  cases key == k <;> rfl

theorem get?_map {β : Type} (f : α → β) (t : Table κ α) (key : κ) :
    get? (t.map fun entry => (entry.1, f entry.2)) key = (t.get? key).map f := by
  induction t with
  | nil => rfl
  | cons entry rest ih =>
    rw [List.map_cons, get?_cons, get?_cons, ih]
    split <;> rfl

variable [LawfulBEq κ]

theorem get?_put_self (t : Table κ α) (key : κ) (a : α) : (t.put key a).get? key = some a := by
  induction t with
  | nil => simp [put, get?_cons]
  | cons entry rest ih =>
    obtain ⟨k, b⟩ := entry
    by_cases hk : k = key
    · simp [put, hk, get?_cons]
    · simp [put, hk, Ne.symm hk, get?_cons, ih]

theorem get?_put_of_ne {key other : κ} (hne : other ≠ key) (t : Table κ α) (a : α) :
    (t.put key a).get? other = t.get? other := by
  induction t with
  | nil => simp [put, get?_cons, hne]
  | cons entry rest ih =>
    obtain ⟨k, b⟩ := entry
    by_cases hk : k = key
    · simp [put, hk, get?_cons, hne]
    · simp [put, hk, get?_cons, ih]

theorem mem_of_get?_eq_some {t : Table κ α} {key : κ} {a : α} (h : t.get? key = some a) :
    (key, a) ∈ t := by
  induction t with
  | nil => simp at h
  | cons entry rest ih =>
    obtain ⟨k, b⟩ := entry
    rw [get?_cons] at h
    split at h
    · next hk => simp_all
    · exact List.mem_cons_of_mem _ (ih h)

theorem get?_eq_none_iff {t : Table κ α} {key : κ} : t.get? key = none ↔ key ∉ t.keys := by
  induction t with
  | nil => simp [keys]
  | cons entry rest ih =>
    obtain ⟨k, b⟩ := entry
    rw [get?_cons]
    by_cases hk : key = k
    · simp [hk, keys]
    · have hrest : (k :: keys rest) = keys ((k, b) :: rest) := rfl
      rw [← hrest, if_neg (by simpa using hk), ih]
      simp [hk]

theorem mem_put {t : Table κ α} {key : κ} {a : α} {entry : κ × α} (h : entry ∈ t.put key a) :
    entry = (key, a) ∨ entry ∈ t := by
  induction t with
  | nil => exact .inl (List.mem_singleton.mp h)
  | cons first rest ih =>
    obtain ⟨k, b⟩ := first
    simp only [put] at h
    split at h
    · next hk =>
      rcases List.mem_cons.mp h with rfl | hrest
      · exact .inl (by rw [eq_of_beq hk])
      · exact .inr (List.mem_cons_of_mem _ hrest)
    · rcases List.mem_cons.mp h with rfl | hrest
      · exact .inr List.mem_cons_self
      · exact (ih hrest).imp id (List.mem_cons_of_mem _)

theorem has_iff_mem_keys {t : Table κ α} {key : κ} : t.has key = true ↔ key ∈ t.keys := by
  simp [has, keys]

/-- A present key keeps its place. -/
theorem keys_put_of_mem {t : Table κ α} {key : κ} (h : key ∈ t.keys) (a : α) :
    (t.put key a).keys = t.keys := by
  induction t with
  | nil => simp [keys] at h
  | cons entry rest ih =>
    obtain ⟨k, b⟩ := entry
    by_cases hk : k = key
    · simp [put, hk, keys]
    · have hrest : key ∈ keys rest := by simpa [keys, Ne.symm hk] using h
      have hput := ih hrest
      simp only [keys] at hput
      simp [put, hk, keys, hput]

/-- An absent key goes last. -/
theorem put_of_not_mem {t : Table κ α} {key : κ} (h : key ∉ t.keys) (a : α) :
    t.put key a = t ++ [(key, a)] := by
  induction t with
  | nil => rfl
  | cons entry rest ih =>
    obtain ⟨k, b⟩ := entry
    have hne : k ≠ key := by
      rintro rfl
      simp [keys] at h
    have hrest : key ∉ keys rest := fun hmem => h (by simpa [keys] using Or.inr hmem)
    simp [put, hne, ih hrest]

theorem put_put (t : Table κ α) (key : κ) (a b : α) : (t.put key a).put key b = t.put key b := by
  induction t with
  | nil => simp [put]
  | cons entry rest ih =>
    obtain ⟨k, c⟩ := entry
    by_cases hk : k = key
    · simp [put, hk]
    · simp [put, hk, ih]

/-- Values may be changed before or after one is put. -/
theorem map_put {β : Type} (f : α → β) (t : Table κ α) (key : κ) (a : α) :
    (t.put key a).map (fun entry => (entry.1, f entry.2)) =
      put (t.map fun entry => (entry.1, f entry.2)) key (f a) := by
  induction t with
  | nil => rfl
  | cons entry rest ih =>
    obtain ⟨k, b⟩ := entry
    by_cases hk : k = key
    · simp [put, hk]
    · simp [put, hk, ih]

theorem get?_concat_self {t : Table κ α} {key : κ} (h : key ∉ t.keys) (a : α) :
    get? (t ++ [(key, a)]) key = some a := by
  rw [← put_of_not_mem h, get?_put_self]

theorem put_concat_self {t : Table κ α} {key : κ} (h : key ∉ t.keys) (a b : α) :
    put (t ++ [(key, a)]) key b = t ++ [(key, b)] := by
  rw [← put_of_not_mem h, put_put, put_of_not_mem h]

theorem keys_put_of_not_mem {t : Table κ α} {key : κ} (h : key ∉ t.keys) (a : α) :
    (t.put key a).keys = t.keys ++ [key] := by
  simp [put_of_not_mem h, keys]

theorem keys_put [DecidableEq κ] (t : Table κ α) (key : κ) (a : α) :
    (t.put key a).keys = if key ∈ t.keys then t.keys else t.keys ++ [key] := by
  split
  · next hmem => exact keys_put_of_mem hmem a
  · next hmem => exact keys_put_of_not_mem hmem a

theorem keys_put_nodup {t : Table κ α} (h : t.keys.Nodup) (key : κ) (a : α) :
    (t.put key a).keys.Nodup := by
  by_cases hmem : key ∈ t.keys
  · rw [keys_put_of_mem hmem]
    exact h
  · rw [keys_put_of_not_mem hmem]
    exact List.nodup_append.mpr ⟨h, by simp, by
      intro x hx y hy hxy
      rw [List.mem_singleton] at hy
      exact hmem (hy ▸ hxy ▸ hx)⟩

end Table

end CircuitScribe
