/-
A store of cells that are shared by their handles and only move forward.

A handle is the index of its cell. Cells are added at the end and
changed in place; no handle is ever given to another cell. Where every
change moves a cell along a relation that is reflexive and transitive,
so does every run of changes.
-/
import Mathlib.Data.List.Basic

namespace Cells

variable {α : Type} {R : α → α → Prop} {cells cells' cells'' : List α}

/-- Every cell is still there, moved along `R`. -/
def Forward (R : α → α → Prop) (cells cells' : List α) : Prop :=
  ∀ (handle : Nat) (a : α), cells[handle]? = some a →
    ∃ b, cells'[handle]? = some b ∧ R a b

theorem Forward.refl (hrefl : ∀ a, R a a) (cells : List α) :
    Forward R cells cells :=
  fun _ a ha => ⟨a, ha, hrefl a⟩

theorem Forward.trans (htrans : ∀ a b c, R a b → R b c → R a c)
    (h : Forward R cells cells') (h' : Forward R cells' cells'') :
    Forward R cells cells'' := by
  intro handle a ha
  obtain ⟨b, hb, hab⟩ := h handle a ha
  obtain ⟨c, hc, hbc⟩ := h' handle b hb
  exact ⟨c, hc, htrans a b c hab hbc⟩

/-- New cells leave the old ones alone. -/
theorem forward_append (hrefl : ∀ a, R a a) (cells more : List α) :
    Forward R cells (cells ++ more) := by
  intro handle a ha
  have hlt := (List.getElem?_eq_some_iff.mp ha).choose
  refine ⟨a, ?_, hrefl a⟩
  rw [List.getElem?_append_left hlt, ha]

/-- One cell moves. -/
theorem forward_modify (hrefl : ∀ a, R a a) {handle : Nat} {f : α → α}
    (h : ∀ a, cells[handle]? = some a → R a (f a)) :
    Forward R cells (cells.modify handle f) := by
  intro other a ha
  by_cases heq : handle = other
  · subst heq
    refine ⟨f a, ?_, h a ha⟩
    rw [List.getElem?_modify_eq, ha]
    rfl
  · refine ⟨a, ?_, hrefl a⟩
    rw [List.getElem?_modify_ne _ _ heq, ha]

/-- With one more cell a handle is that of an old cell or of the new
one. -/
theorem of_concat {new a : α} {handle : Nat}
    (h : (cells ++ [new])[handle]? = some a) :
    cells[handle]? = some a ∨ handle = cells.length ∧ a = new := by
  rcases Nat.lt_or_ge handle cells.length with hlt | hge
  · rw [List.getElem?_append_left hlt] at h
    exact .inl h
  · rw [List.getElem?_append_right hge] at h
    obtain ⟨hzero, hnew⟩ := List.getElem?_eq_some_iff.mp h
    rw [List.getElem_singleton] at hnew
    rw [List.length_singleton] at hzero
    exact .inr ⟨by omega, hnew.symm⟩

/-- With one cell changed a handle is that of the changed cell or of
another, which is as it was. -/
theorem of_modify {handle other : Nat} {f : α → α} {a : α}
    (h : (cells.modify handle f)[other]? = some a) :
    handle = other ∧ (∃ b, cells[handle]? = some b ∧ a = f b)
      ∨ handle ≠ other ∧ cells[other]? = some a := by
  by_cases heq : handle = other
  · subst heq
    rw [List.getElem?_modify_eq] at h
    obtain ⟨b, hb, hf⟩ := Option.map_eq_some_iff.mp h
    exact .inl ⟨rfl, b, hb, hf.symm⟩
  · rw [List.getElem?_modify_ne _ _ heq] at h
    exact .inr ⟨heq, h⟩

/-- Where every step moves the cells forward, a run does, as long as the
steps keep what they need. -/
theorem forward_foldl {σ β : Type} {Inv : σ → Prop} {cellsOf : σ → List α}
    {step : σ → β → σ} (hrefl : ∀ a, R a a)
    (htrans : ∀ a b c, R a b → R b c → R a c)
    (hstep : ∀ s b, Inv s →
      Inv (step s b) ∧ Forward R (cellsOf s) (cellsOf (step s b)))
    {s : σ} (h : Inv s) (bs : List β) :
    Inv (bs.foldl step s)
      ∧ Forward R (cellsOf s) (cellsOf (bs.foldl step s)) := by
  induction bs generalizing s with
  | nil => exact ⟨h, Forward.refl hrefl _⟩
  | cons b bs ih =>
      obtain ⟨hinv, hforward⟩ := hstep s b h
      obtain ⟨hend, hrest⟩ := ih hinv
      exact ⟨hend, hforward.trans htrans hrest⟩

end Cells
