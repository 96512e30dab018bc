/-
Two marks on each cell, and demands to set them.

A cell is handled, unhandled, or neither. A demand asks for cells to be
marked as the one or the other, and is settled from what the marks were
before: a cell to be handled becomes handled and loses its other mark, a
cell to be unhandled gets that mark unless it had one of the two.

# What goes wrong

The second rule looks at the marks from before. So a cell that had
neither, and is asked for as both, ends up with both (`Clashes`); no
other cell does. To be settled one after the other is harmless: once a
cell has a mark it keeps one.
-/
import Mathlib.Logic.Basic

/-- Which cells are handled, and which are unhandled. -/
structure Marks (κ : Type*) where
  handled : κ → Prop
  unhandled : κ → Prop

namespace Marks

variable {κ : Type*} {d m m₁ m' : Marks κ} {ds : List (Marks κ)} {c : κ}

/-- The cell has one of the marks. -/
def Marked (m : Marks κ) (c : κ) : Prop := m.handled c ∨ m.unhandled c

/-- No cell has both. -/
def Exclusive (m : Marks κ) : Prop := ∀ c, ¬ (m.handled c ∧ m.unhandled c)

/-- The demand `d`, settled from the marks `m`. -/
structure Settles (d m m' : Marks κ) : Prop where
  handled : ∀ c, m'.handled c ↔ m.handled c ∨ d.handled c
  unhandled : ∀ c, m'.unhandled c ↔ (m.unhandled c ∧ ¬ d.handled c)
    ∨ (d.unhandled c ∧ ¬ m.Marked c)

/-- A cell without a mark, asked for as both. -/
def Clashes (d m : Marks κ) (c : κ) : Prop :=
  d.handled c ∧ d.unhandled c ∧ ¬ m.Marked c

-- ========================================================== one demand

/-- A demand for nothing changes nothing. -/
theorem Settles.of_unmarked (h : ∀ c, ¬ d.Marked c) : d.Settles m m := by
  refine ⟨fun c => ?_, fun c => ?_⟩
  · exact (or_iff_left fun hd => h c (.inl hd)).symm
  · have hno : ¬ (d.unhandled c ∧ ¬ m.Marked c) :=
      fun hd => h c (.inr hd.1)
    rw [or_iff_left hno]
    exact (and_iff_left fun hd => h c (.inl hd)).symm

/-- A cell that has a mark keeps one. -/
theorem Settles.marked_of (h : d.Settles m m') (hc : m.Marked c) :
    m'.Marked c := by
  rcases hc with hhandled | hunhandled
  · exact .inl ((h.handled c).mpr (.inl hhandled))
  · by_cases hd : d.handled c
    · exact .inl ((h.handled c).mpr (.inr hd))
    · exact .inr ((h.unhandled c).mpr (.inl ⟨hunhandled, hd⟩))

/-- A cell that is asked for as unhandled gets a mark. -/
theorem Settles.serves (h : d.Settles m m') (hd : d.unhandled c) :
    m'.Marked c := by
  by_cases hc : m.Marked c
  · exact h.marked_of hc
  · exact .inr ((h.unhandled c).mpr (.inr ⟨hd, hc⟩))

/-- A cell becomes unhandled only if it had no mark and is asked for. -/
theorem Settles.newly (h : d.Settles m m') (hc : m'.unhandled c) :
    m.unhandled c ∨ (d.unhandled c ∧ ¬ m.Marked c) := by
  rcases (h.unhandled c).mp hc with ⟨hold, -⟩ | hnew
  · exact .inl hold
  · exact .inr hnew

/-- A cell that is not asked for stays as it is. -/
theorem Settles.untouched (h : d.Settles m m') (hd : ¬ d.Marked c) :
    (m'.handled c ↔ m.handled c) ∧ (m'.unhandled c ↔ m.unhandled c) := by
  have hhandled : ¬ d.handled c := fun hh => hd (.inl hh)
  have hunhandled : ¬ d.unhandled c := fun hu => hd (.inr hu)
  rw [h.handled c, h.unhandled c]
  simp only [hhandled, hunhandled, or_false, not_false_eq_true, and_true,
    false_and, and_self]

/-- Where no cell had both marks, a cell has both exactly if it clashes. -/
theorem Settles.exclusive_iff (h : d.Settles m m') (hm : m.Exclusive) :
    m'.Exclusive ↔ ∀ c, ¬ d.Clashes m c := by
  constructor
  · rintro hexclusive c ⟨hhandled, hunhandled, hnone⟩
    exact hexclusive c ⟨(h.handled c).mpr (.inr hhandled),
      (h.unhandled c).mpr (.inr ⟨hunhandled, hnone⟩)⟩
  · rintro hclash c ⟨hhandled, hunhandled⟩
    rcases (h.unhandled c).mp hunhandled with ⟨hold, hnot⟩ | ⟨hd, hnone⟩
    · rcases (h.handled c).mp hhandled with hbefore | hasked
      · exact hm c ⟨hbefore, hold⟩
      · exact hnot hasked
    · rcases (h.handled c).mp hhandled with hbefore | hasked
      · exact hnone (.inl hbefore)
      · exact hclash c ⟨hasked, hd, hnone⟩

-- ======================================================= many demands

/-- Demands, settled one after the other. -/
inductive SettlesAll : List (Marks κ) → Marks κ → Marks κ → Prop where
  | nil {m : Marks κ} : SettlesAll [] m m
  | cons {d m m₁ m' : Marks κ} {ds : List (Marks κ)} : d.Settles m m₁ →
      SettlesAll ds m₁ m' → SettlesAll (d :: ds) m m'

theorem SettlesAll.marked_of (h : SettlesAll ds m m') (hc : m.Marked c) :
    m'.Marked c := by
  induction h with
  | nil => exact hc
  | cons hd _ ih => exact ih (hd.marked_of hc)

theorem SettlesAll.serves (h : SettlesAll ds m m') (hd : d ∈ ds)
    (hc : d.unhandled c) : m'.Marked c := by
  induction h with
  | nil => cases hd
  | cons hfirst hrest ih =>
      rcases List.mem_cons.mp hd with rfl | hlater
      · exact hrest.marked_of (hfirst.serves hc)
      · exact ih hlater

theorem SettlesAll.newly (h : SettlesAll ds m m') (hc : m'.unhandled c) :
    m.unhandled c ∨ (¬ m.Marked c ∧ ∃ d ∈ ds, d.unhandled c) := by
  induction h with
  | nil => exact .inl hc
  | cons hfirst _ ih =>
      rcases ih hc with hbefore | ⟨hnone, d, hd, hasked⟩
      · rcases hfirst.newly hbefore with hold | ⟨hasked, hnone⟩
        · exact .inl hold
        · exact .inr ⟨hnone, _, List.mem_cons_self, hasked⟩
      · exact .inr ⟨fun hm => hnone (hfirst.marked_of hm), d,
          List.mem_cons_of_mem _ hd, hasked⟩

/-- No cell gets both marks if none clashes with the marks from before
all of the demands. -/
theorem SettlesAll.exclusive (h : SettlesAll ds m m') (hm : m.Exclusive)
    (hclash : ∀ d ∈ ds, ∀ c, ¬ d.Clashes m c) : m'.Exclusive := by
  induction h with
  | nil => exact hm
  | cons hfirst _ ih =>
      refine ih ?_ ?_
      · exact (hfirst.exclusive_iff hm).mpr
          (hclash _ List.mem_cons_self)
      · rintro d hd c ⟨hhandled, hunhandled, hnone⟩
        refine hclash d (List.mem_cons_of_mem _ hd) c
          ⟨hhandled, hunhandled, fun hc => hnone (hfirst.marked_of hc)⟩

theorem SettlesAll.untouched (h : SettlesAll ds m m')
    (hd : ∀ d ∈ ds, ¬ d.Marked c) :
    (m'.handled c ↔ m.handled c) ∧ (m'.unhandled c ↔ m.unhandled c) := by
  induction h with
  | nil => exact ⟨Iff.rfl, Iff.rfl⟩
  | cons hfirst _ ih =>
      obtain ⟨hhandled, hunhandled⟩ :=
        ih fun d hlater => hd d (List.mem_cons_of_mem _ hlater)
      obtain ⟨hhandled', hunhandled'⟩ :=
        hfirst.untouched (hd _ List.mem_cons_self)
      exact ⟨hhandled.trans hhandled', hunhandled.trans hunhandled'⟩

/-- Of demands that ask for different cells, one that clashes leaves a
cell with both marks. -/
theorem SettlesAll.not_clashes (h : SettlesAll ds m m')
    (hapart : ds.Pairwise fun d e => ∀ c, ¬ (d.Marked c ∧ e.Marked c))
    (hexclusive : m'.Exclusive) : ∀ d ∈ ds, ∀ c, ¬ d.Clashes m c := by
  induction h with
  | nil =>
      intro d hd
      cases hd
  | cons hfirst hrest ih =>
      obtain ⟨hothers, hlater⟩ := List.pairwise_cons.mp hapart
      rintro d hd c ⟨hhandled, hunhandled, hnone⟩
      rcases List.mem_cons.mp hd with rfl | hmem
      · -- nobody behind it asks for the cell
        obtain ⟨hkept, hkept'⟩ := hrest.untouched (c := c) fun e he hboth =>
          hothers e he c ⟨.inl hhandled, hboth⟩
        refine hexclusive c ⟨hkept.mpr ?_, hkept'.mpr ?_⟩
        · exact (hfirst.handled c).mpr (.inr hhandled)
        · exact (hfirst.unhandled c).mpr (.inr ⟨hunhandled, hnone⟩)
      · -- the first does not ask for it
        obtain ⟨hkept, hkept'⟩ := hfirst.untouched (c := c) fun hboth =>
          hothers d hmem c ⟨hboth, .inl hhandled⟩
        refine ih hlater hexclusive d hmem c ⟨hhandled, hunhandled, ?_⟩
        exact fun hm => hnone (hm.imp hkept.mp hkept'.mp)

end Marks

-- ============================================================== a loop

section Loop

variable {σ α : Type*} {f : σ → α → σ} {I Q : σ → Prop} {R : α → Prop}

/-- A loop each turn of which may set a mark. -/
theorem Marks.foldl_sets (hstep : ∀ s a, I s → I (f s a)
      ∧ (Q (f s a) ↔ Q s ∨ R a)) (as : List α) {s : σ} (hs : I s) :
    I (as.foldl f s) ∧ (Q (as.foldl f s) ↔ Q s ∨ ∃ a ∈ as, R a) := by
  induction as generalizing s with
  | nil => exact ⟨hs, by simp⟩
  | cons a as ih =>
      obtain ⟨hinv, hfirst⟩ := hstep s a hs
      obtain ⟨hend, hrest⟩ := ih hinv
      refine ⟨hend, ?_⟩
      rw [List.foldl_cons, hrest, hfirst, or_assoc]
      simp only [List.mem_cons, exists_eq_or_imp]

/-- A loop each turn of which may clear a mark. -/
theorem Marks.foldl_clears (hstep : ∀ s a, I s → I (f s a)
      ∧ (Q (f s a) ↔ Q s ∧ ¬ R a)) (as : List α) {s : σ} (hs : I s) :
    I (as.foldl f s) ∧ (Q (as.foldl f s) ↔ Q s ∧ ¬ ∃ a ∈ as, R a) := by
  induction as generalizing s with
  | nil => exact ⟨hs, by simp⟩
  | cons a as ih =>
      obtain ⟨hinv, hfirst⟩ := hstep s a hs
      obtain ⟨hend, hrest⟩ := ih hinv
      refine ⟨hend, ?_⟩
      rw [List.foldl_cons, hrest, hfirst, and_assoc, ← not_or]
      simp only [List.mem_cons, exists_eq_or_imp]

end Loop
