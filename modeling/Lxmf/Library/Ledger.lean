/-
Ids from a counter, and the records kept under them.

A ledger hands out ids from a counter. An id is waiting, then out of
hand, then gone; a record of it may be kept while it waits, another once
it has failed. Names are unique (`Sound`) as long as the counter is
above every id that is named anywhere, and each change of a ledger is
shown to keep this. Starting over forgets what waits and rebuilds it
from the records: then the counter has to be above the failed ids too.
-/
import Mathlib.Data.List.Nodup

/-- The state of the ids. -/
structure Ledger where
  nextId : Nat
  waiting : List Nat
  out : List Nat
  recorded : Nat → Prop
  failed : Nat → Prop

namespace Ledger

variable {l : Ledger}

/-- Every id named is below the counter, and each is in one place. -/
structure Sound (l : Ledger) : Prop where
  waiting_lt : ∀ id ∈ l.waiting, id < l.nextId
  out_lt : ∀ id ∈ l.out, id < l.nextId
  recorded_lt : ∀ id, l.recorded id → id < l.nextId
  failed_lt : ∀ id, l.failed id → id < l.nextId
  waiting_nodup : l.waiting.Nodup
  out_nodup : l.out.Nodup
  apart : ∀ id ∈ l.waiting, id ∉ l.out
  out_unrecorded : ∀ id ∈ l.out, ¬ l.recorded id
  failed_gone : ∀ id, l.failed id →
    id ∉ l.waiting ∧ id ∉ l.out ∧ ¬ l.recorded id

/-- The next id is unused. -/
theorem Sound.unused (h : l.Sound) :
    ¬ l.recorded l.nextId ∧ ¬ l.failed l.nextId :=
  ⟨fun hrec => Nat.lt_irrefl _ (h.recorded_lt _ hrec),
    fun hfail => Nat.lt_irrefl _ (h.failed_lt _ hfail)⟩

/-- An id is handed out, and a record of it kept. -/
theorem Sound.issue (h : l.Sound) :
    Sound { l with
      nextId := l.nextId + 1
      waiting := l.waiting ++ [l.nextId]
      recorded := fun id => id = l.nextId ∨ l.recorded id } where
  waiting_lt id hid := by
    rcases List.mem_append.mp hid with hold | hnew
    · exact Nat.lt_succ_of_lt (h.waiting_lt id hold)
    · rw [List.mem_singleton.mp hnew]
      exact Nat.lt_succ_self _
  out_lt id hid := Nat.lt_succ_of_lt (h.out_lt id hid)
  recorded_lt id hid := by
    rcases hid with rfl | hold
    · exact Nat.lt_succ_self _
    · exact Nat.lt_succ_of_lt (h.recorded_lt id hold)
  failed_lt id hid := Nat.lt_succ_of_lt (h.failed_lt id hid)
  waiting_nodup := by
    refine List.nodup_append'.mpr
      ⟨h.waiting_nodup, List.nodup_singleton _, ?_⟩
    intro id hold hnew
    rw [List.mem_singleton.mp hnew] at hold
    exact Nat.lt_irrefl _ (h.waiting_lt _ hold)
  out_nodup := h.out_nodup
  apart id hid hout := by
    rcases List.mem_append.mp hid with hold | hnew
    · exact h.apart id hold hout
    · rw [List.mem_singleton.mp hnew] at hout
      exact Nat.lt_irrefl _ (h.out_lt _ hout)
  out_unrecorded id hid hrec := by
    rcases hrec with rfl | hold
    · exact Nat.lt_irrefl _ (h.out_lt _ hid)
    · exact h.out_unrecorded id hid hold
  failed_gone id hid := by
    obtain ⟨hwait, hout, hrec⟩ := h.failed_gone id hid
    have hne : id ≠ l.nextId := Nat.ne_of_lt (h.failed_lt id hid)
    refine ⟨?_, hout, ?_⟩
    · intro hmem
      rcases List.mem_append.mp hmem with hold | hnew
      · exact hwait hold
      · exact hne (List.mem_singleton.mp hnew)
    · intro hmem
      rcases hmem with hnew | hold
      · exact hne hnew
      · exact hrec hold

/-- Whatever waits or is out may be dropped, and moved about. -/
theorem Sound.shrink (h : l.Sound) {waiting out : List Nat}
    (hwaiting : waiting ⊆ l.waiting) (hnodup : waiting.Nodup)
    (hout : out ⊆ l.out) (houtNodup : out.Nodup) :
    Sound { l with waiting := waiting, out := out } where
  waiting_lt id hid := h.waiting_lt id (hwaiting hid)
  out_lt id hid := h.out_lt id (hout hid)
  recorded_lt := h.recorded_lt
  failed_lt := h.failed_lt
  waiting_nodup := hnodup
  out_nodup := houtNodup
  apart id hid hmem := h.apart id (hwaiting hid) (hout hmem)
  out_unrecorded id hid := h.out_unrecorded id (hout hid)
  failed_gone id hid := by
    obtain ⟨hwait, hnotout, hrec⟩ := h.failed_gone id hid
    exact ⟨fun hmem => hwait (hwaiting hmem),
      fun hmem => hnotout (hout hmem), hrec⟩

/-- A waiting id is recorded once more. -/
theorem Sound.record (h : l.Sound) {kept : Nat} (hmem : kept ∈ l.waiting) :
    Sound { l with recorded := fun id => id = kept ∨ l.recorded id } where
  waiting_lt := h.waiting_lt
  out_lt := h.out_lt
  recorded_lt id hid := by
    rcases hid with rfl | hold
    · exact h.waiting_lt id hmem
    · exact h.recorded_lt id hold
  failed_lt := h.failed_lt
  waiting_nodup := h.waiting_nodup
  out_nodup := h.out_nodup
  apart := h.apart
  out_unrecorded id hid hrec := by
    rcases hrec with rfl | hold
    · exact h.apart id hmem hid
    · exact h.out_unrecorded id hid hold
  failed_gone id hid := by
    obtain ⟨hwait, hout, hrec⟩ := h.failed_gone id hid
    refine ⟨hwait, hout, ?_⟩
    intro hnow
    rcases hnow with rfl | hold
    · exact hwait hmem
    · exact hrec hold

/-- The first that waits goes out, its record deleted. -/
theorem Sound.send {first : Nat} {rest : List Nat} (h : l.Sound)
    (hwaiting : l.waiting = first :: rest) :
    Sound { l with
      waiting := rest
      out := l.out ++ [first]
      recorded := fun id => id ≠ first ∧ l.recorded id } := by
  have hnodup := h.waiting_nodup
  rw [hwaiting] at hnodup
  obtain ⟨hfirst, hrest⟩ := List.nodup_cons.mp hnodup
  have hmem : first ∈ l.waiting := hwaiting ▸ List.mem_cons_self
  have hsub (id : Nat) (hid : id ∈ rest) : id ∈ l.waiting :=
    hwaiting ▸ List.mem_cons_of_mem first hid
  refine {
    waiting_lt := fun id hid => h.waiting_lt id (hsub id hid)
    out_lt := ?_
    recorded_lt := fun id hid => h.recorded_lt id hid.2
    failed_lt := h.failed_lt
    waiting_nodup := hrest
    out_nodup := ?_
    apart := ?_
    out_unrecorded := ?_
    failed_gone := ?_ }
  · intro id hid
    rcases List.mem_append.mp hid with hold | hnew
    · exact h.out_lt id hold
    · rw [List.mem_singleton.mp hnew]
      exact h.waiting_lt first hmem
  · refine List.nodup_append'.mpr ⟨h.out_nodup, List.nodup_singleton _, ?_⟩
    intro id hold hnew
    rw [List.mem_singleton.mp hnew] at hold
    exact h.apart first hmem hold
  · intro id hid hout
    rcases List.mem_append.mp hout with hold | hnew
    · exact h.apart id (hsub id hid) hold
    · rw [List.mem_singleton.mp hnew] at hid
      exact hfirst hid
  · intro id hid hrec
    rcases List.mem_append.mp hid with hold | hnew
    · exact h.out_unrecorded id hold hrec.2
    · exact hrec.1 (List.mem_singleton.mp hnew)
  · intro id hid
    obtain ⟨hwait, hout, hrec⟩ := h.failed_gone id hid
    refine ⟨fun hmem' => hwait (hsub id hmem'), ?_, fun hnow => hrec hnow.2⟩
    intro hnow
    rcases List.mem_append.mp hnow with hold | hnew
    · exact hout hold
    · rw [List.mem_singleton.mp hnew] at hwait
      exact hwait hmem

/-- One that is out fails. -/
theorem Sound.fail {gone : Nat} (h : l.Sound) (hmem : gone ∈ l.out) :
    Sound { l with
      out := l.out.erase gone
      failed := fun id => id = gone ∨ l.failed id } where
  waiting_lt := h.waiting_lt
  out_lt id hid := h.out_lt id (List.mem_of_mem_erase hid)
  recorded_lt := h.recorded_lt
  failed_lt id hid := by
    rcases hid with rfl | hold
    · exact h.out_lt id hmem
    · exact h.failed_lt id hold
  waiting_nodup := h.waiting_nodup
  out_nodup := h.out_nodup.erase gone
  apart id hid hout := h.apart id hid (List.mem_of_mem_erase hout)
  out_unrecorded id hid := h.out_unrecorded id (List.mem_of_mem_erase hid)
  failed_gone id hid := by
    rcases hid with rfl | hold
    · refine ⟨fun hwait => h.apart id hwait hmem, ?_,
        h.out_unrecorded id hmem⟩
      exact h.out_nodup.not_mem_erase
    · obtain ⟨hwait, hout, hrec⟩ := h.failed_gone id hold
      exact ⟨hwait, fun hnow => hout (List.mem_of_mem_erase hnow), hrec⟩

/-- The first that waits fails before it went out. -/
theorem Sound.giveUp {first : Nat} {rest : List Nat} (h : l.Sound)
    (hwaiting : l.waiting = first :: rest) :
    Sound { l with
      waiting := rest
      recorded := fun id => id ≠ first ∧ l.recorded id
      failed := fun id => id = first ∨ l.failed id } := by
  have hmem : first ∈ l.waiting := hwaiting ▸ List.mem_cons_self
  have hfirst : first ∉ l.out := h.apart first hmem
  have hfailed := (h.send hwaiting).fail
    (List.mem_append_right l.out (List.mem_singleton_self first))
  have hout : (l.out ++ [first]).erase first = l.out := by
    rw [List.erase_append_right [first] hfirst]
    simp
  simp only [hout] at hfailed
  exact hfailed

/-- Starting over from the records, with a counter above all ids. -/
theorem Sound.restart (h : l.Sound) (nextId : Nat) (waiting : List Nat)
    (hnodup : waiting.Nodup) (hwaiting : ∀ id ∈ waiting, l.recorded id)
    (hrecorded : ∀ id, l.recorded id → id < nextId)
    (hfailed : ∀ id, l.failed id → id < nextId) :
    Sound { l with nextId := nextId, waiting := waiting, out := [] } where
  waiting_lt id hid := hrecorded id (hwaiting id hid)
  out_lt id hid := by cases hid
  recorded_lt := hrecorded
  failed_lt := hfailed
  waiting_nodup := hnodup
  out_nodup := List.nodup_nil
  apart id _ hout := by cases hout
  out_unrecorded id hid := by cases hid
  failed_gone id hid := by
    obtain ⟨_, _, hrec⟩ := h.failed_gone id hid
    exact ⟨fun hwait => hrec (hwaiting id hwait), nofun, hrec⟩

end Ledger
