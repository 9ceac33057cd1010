import CircuitScribe.Table
import Mathlib.Data.List.Induction

namespace CircuitScribe

/-- What a kind of writes has in common: a write shows in the state that it leaves behind, a write that
    shows has nothing left to do, and it stays shown after every write that is apart from it. -/
structure Writes {σ ε : Type} (write : σ → ε → σ) (Shown : σ → ε → Prop) (Apart : ε → ε → Prop) : Prop where
  shown_write : ∀ s e, Shown (write s e) e
  write_of_shown : ∀ {s e}, Shown s e → write s e = s
  shown_of_apart : ∀ {s e e'}, Shown s e → Apart e e' → Shown (write s e') e

namespace Writes

variable {σ ε : Type} {write : σ → ε → σ} {Shown : σ → ε → Prop} {Apart : ε → ε → Prop} {es : List ε}

/-- Writes that are apart from each other are all shown in the end. -/
theorem shown_foldl (hw : Writes write Shown Apart) (hes : es.Pairwise Apart) (s : σ) :
    ∀ e ∈ es, Shown (es.foldl write s) e := by
  induction es using List.reverseRecOn with
  | nil => simp
  | append_singleton es last ih =>
    obtain ⟨hbefore, _, hlast⟩ := List.pairwise_append.mp hes
    intro e he
    rw [List.foldl_append]
    rcases List.mem_append.mp he with he | he
    · exact hw.shown_of_apart (ih hbefore e he) (hlast e he last List.mem_cons_self)
    · rw [List.mem_singleton.mp he]
      exact hw.shown_write _ last

theorem foldl_of_shown (hw : Writes write Shown Apart) {s : σ} (h : ∀ e ∈ es, Shown s e) :
    es.foldl write s = s := by
  induction es with
  | nil => rfl
  | cons e rest ih =>
    rw [List.forall_mem_cons] at h
    rw [List.foldl_cons, hw.write_of_shown h.1]
    exact ih h.2

/-- Doing them all a second time makes no difference. -/
theorem foldl_again (hw : Writes write Shown Apart) (hes : es.Pairwise Apart) (s : σ) :
    es.foldl write (es.foldl write s) = es.foldl write s :=
  hw.foldl_of_shown (hw.shown_foldl hes s)

end Writes

/-- A table that has a value under a key already is not changed by putting it there. -/
theorem Table.put_of_get? {κ α : Type} [BEq κ] [LawfulBEq κ] {t : Table κ α} {key : κ} {a : α}
    (h : t.get? key = some a) : t.put key a = t := by
  induction t with
  | nil => simp at h
  | cons entry rest ih =>
    obtain ⟨k, b⟩ := entry
    rw [Table.get?_cons] at h
    by_cases hk : k = key
    · simp only [hk, beq_self_eq_true, if_true, Option.some.injEq] at h
      simp [Table.put, hk, h]
    · have hrest : Table.get? rest key = some a := by simpa [Ne.symm hk] using h
      simp [Table.put, hk, ih hrest]

end CircuitScribe
