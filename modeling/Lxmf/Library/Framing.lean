/-
Byte stuffing: bodies between flags, and what a reader makes of a stream
that is cut by flags.

# Stuffing

A body is sent between two flags. A flag or an escape inside the body is
replaced by an escape and the masked letter, so that no flag is left
inside (`flag_not_mem_stuff`) and the body can be read back
(`unstuff_stuff`).

# Scanning

`scan` is a reader of limited room: outside a frame it waits for a flag,
inside it collects letters up to the next one, and it gives the frame up
when it outgrows the room. A flag opens or closes a frame by turns, and
nothing in the stream says which. So frames sent one after the other are
all read when the reader starts outside (`scanAll_frames`), and none of
them is when it starts inside (`scanAll_frames_of_open`): there it takes
what lies between the frames for their bodies.
-/
import Mathlib.Data.List.Basic

namespace Framing

/-- The letters a framing gives a meaning to. -/
structure Alphabet (α : Type*) where
  flag : α
  escape : α
  mask : α → α
  mask_mask : ∀ a, mask (mask a) = a
  mask_flag : mask flag ≠ flag
  mask_escape : mask escape ≠ flag
  flag_ne_escape : flag ≠ escape

variable {α : Type*} [DecidableEq α] (A : Alphabet α)

-- =========================================================== stuffing

/-- A letter as it stands inside a frame. -/
def Alphabet.stuffOne (a : α) : List α :=
  if a = A.flag ∨ a = A.escape then [A.escape, A.mask a] else [a]

/-- A body as it stands inside a frame. -/
def Alphabet.stuff (body : List α) : List α := body.flatMap A.stuffOne

/-- A body between its flags. -/
def Alphabet.enclose (body : List α) : List α :=
  A.flag :: A.stuff body ++ [A.flag]

/-- Read the inside of a frame back. The flag tells whether the next
letter is escaped, before and after. -/
def Alphabet.unstuff : Bool → List α → List α × Bool
  | escaped, [] => ([], escaped)
  | true, a :: rest =>
      (A.mask a :: (unstuff false rest).1, (unstuff false rest).2)
  | false, a :: rest =>
      if a = A.escape then unstuff true rest
      else (a :: (unstuff false rest).1, (unstuff false rest).2)

variable {A}

theorem flag_not_mem_stuffOne (a : α) : A.flag ∉ A.stuffOne a := by
  unfold Alphabet.stuffOne
  split
  case isTrue h =>
    rcases h with rfl | rfl
    · simp [A.flag_ne_escape, Ne.symm A.mask_flag]
    · simp [A.flag_ne_escape, Ne.symm A.mask_escape]
  case isFalse h =>
    simp only [List.mem_singleton]
    exact fun heq => h (.inl heq.symm)

theorem flag_not_mem_stuff (body : List α) : A.flag ∉ A.stuff body := by
  unfold Alphabet.stuff
  rw [List.mem_flatMap]
  rintro ⟨a, _, ha⟩
  exact flag_not_mem_stuffOne a ha

theorem length_stuffOne_le (a : α) : (A.stuffOne a).length ≤ 2 := by
  unfold Alphabet.stuffOne
  split <;> simp

/-- Stuffing doubles a body at most. -/
theorem length_stuff_le (body : List α) :
    (A.stuff body).length ≤ 2 * body.length := by
  induction body with
  | nil => simp [Alphabet.stuff]
  | cons a body ih =>
      have hone := length_stuffOne_le (A := A) a
      unfold Alphabet.stuff at ih ⊢
      rw [List.flatMap_cons, List.length_append, List.length_cons]
      omega

theorem unstuff_stuffOne_append (a : α) (rest : List α) :
    A.unstuff false (A.stuffOne a ++ rest)
      = (a :: (A.unstuff false rest).1, (A.unstuff false rest).2) := by
  unfold Alphabet.stuffOne
  split
  case isTrue h =>
    show A.unstuff false (A.escape :: A.mask a :: rest) = _
    rw [Alphabet.unstuff, if_pos rfl, Alphabet.unstuff, A.mask_mask]
  case isFalse h =>
    show A.unstuff false (a :: rest) = _
    rw [Alphabet.unstuff, if_neg fun heq => h (.inr heq)]

theorem unstuff_stuff (body : List α) :
    A.unstuff false (A.stuff body) = (body, false) := by
  induction body with
  | nil => rfl
  | cons a body ih =>
      unfold Alphabet.stuff at ih ⊢
      rw [List.flatMap_cons, unstuff_stuffOne_append, ih]

/-- Unstuffing does not lengthen. -/
theorem length_unstuff_le (escaped : Bool) (inside : List α) :
    (A.unstuff escaped inside).1.length ≤ inside.length := by
  induction inside generalizing escaped with
  | nil => simp [Alphabet.unstuff]
  | cons a inside ih =>
      cases escaped with
      | true => simpa [Alphabet.unstuff] using ih false
      | false =>
          unfold Alphabet.unstuff
          split
          case isTrue =>
            have htail := ih true
            rw [List.length_cons]
            omega
          case isFalse => simpa using ih false

-- =========================================================== scanning

variable (A)

/-- One letter at a reader: what it has collected since the flag that
opened a frame, if one is open, and the inside of a frame just closed. -/
def Alphabet.scan (room : Nat) :
    Option (List α) → α → Option (List α) × Option (List α)
  | none, a => if a = A.flag then (some [], none) else (none, none)
  | some inside, a =>
      if a = A.flag then (none, some inside)
      else if inside.length < room then (some (inside ++ [a]), none)
      else (none, none)

/-- A stream at a reader, with the insides of all frames it closed. -/
def Alphabet.scanAll (room : Nat) :
    Option (List α) → List α → Option (List α) × List (List α)
  | s, [] => (s, [])
  | s, a :: rest =>
      let next := A.scan room s a
      let later := scanAll room next.1 rest
      (later.1, next.2.toList ++ later.2)

variable {A} {room : Nat}

theorem scan_flag_outside :
    A.scan room none A.flag = (some [], none) := if_pos rfl

theorem scan_outside {a : α} (h : a ≠ A.flag) :
    A.scan room none a = (none, none) := if_neg h

theorem scan_flag_inside (inside : List α) :
    A.scan room (some inside) A.flag = (none, some inside) := if_pos rfl

theorem scan_inside {inside : List α} {a : α} (h : a ≠ A.flag)
    (hroom : inside.length < room) :
    A.scan room (some inside) a = (some (inside ++ [a]), none) := by
  show (if a = A.flag then _ else _) = _
  rw [if_neg h, if_pos hroom]

theorem scan_outgrown {inside : List α} {a : α} (h : a ≠ A.flag)
    (hroom : room ≤ inside.length) :
    A.scan room (some inside) a = (none, none) := by
  show (if a = A.flag then _ else _) = _
  rw [if_neg h, if_neg (Nat.not_lt.mpr hroom)]

theorem scanAll_cons (s : Option (List α)) (a : α) (rest : List α) :
    A.scanAll room s (a :: rest)
      = ((A.scanAll room (A.scan room s a).1 rest).1,
        (A.scan room s a).2.toList
          ++ (A.scanAll room (A.scan room s a).1 rest).2) := rfl

theorem scanAll_append (s : Option (List α)) (before after : List α) :
    A.scanAll room s (before ++ after)
      = ((A.scanAll room (A.scanAll room s before).1 after).1,
        (A.scanAll room s before).2
          ++ (A.scanAll room (A.scanAll room s before).1 after).2) := by
  induction before generalizing s with
  | nil => rfl
  | cons a before ih =>
      rw [List.cons_append, scanAll_cons, scanAll_cons, ih,
        List.append_assoc]

/-- Outside a frame nothing happens until a flag comes. -/
theorem scanAll_outside {letters : List α} (h : A.flag ∉ letters) :
    A.scanAll room none letters = (none, []) := by
  induction letters with
  | nil => rfl
  | cons a letters ih =>
      obtain ⟨hne, hrest⟩ := not_or.mp fun hor =>
        h (List.mem_cons.mpr hor)
      rw [scanAll_cons, scan_outside (Ne.symm hne), ih hrest]
      rfl

/-- Inside a frame letters are collected as long as there is room. -/
theorem scanAll_inside {inside letters : List α} (h : A.flag ∉ letters)
    (hroom : inside.length + letters.length ≤ room) :
    A.scanAll room (some inside) letters
      = (some (inside ++ letters), []) := by
  induction letters generalizing inside with
  | nil => simp [Alphabet.scanAll]
  | cons a letters ih =>
      obtain ⟨hne, hrest⟩ := not_or.mp fun hor =>
        h (List.mem_cons.mpr hor)
      rw [List.length_cons] at hroom
      have hlater : (inside ++ [a]).length + letters.length ≤ room := by
        rw [List.length_append, List.length_singleton]
        omega
      rw [scanAll_cons, scan_inside (Ne.symm hne) (by omega),
        ih hrest hlater, List.append_assoc]
      rfl

theorem scanAll_flag_outside :
    A.scanAll room none [A.flag] = (some [], []) := by
  rw [scanAll_cons, scan_flag_outside]
  rfl

theorem scanAll_flag_inside (inside : List α) :
    A.scanAll room (some inside) [A.flag] = (none, [inside]) := by
  rw [scanAll_cons, scan_flag_inside]
  rfl

/-- A frame that fits is read by a reader outside one. -/
theorem scanAll_frame {inside : List α} (h : A.flag ∉ inside)
    (hroom : inside.length ≤ room) :
    A.scanAll room none (A.flag :: inside ++ [A.flag])
      = (none, [inside]) := by
  rw [List.cons_append, ← List.singleton_append, scanAll_append,
    scanAll_flag_outside, scanAll_append,
    scanAll_inside h (by simpa using hroom), List.nil_append,
    scanAll_flag_inside]
  simp

/-- Frames one after the other are read, each and in order. -/
theorem scanAll_frames {insides : List (List α)}
    (h : ∀ inside ∈ insides,
      A.flag ∉ inside ∧ inside.length ≤ room) :
    A.scanAll room none
        (insides.flatMap fun inside => A.flag :: inside ++ [A.flag])
      = (none, insides) := by
  induction insides with
  | nil => rfl
  | cons inside insides ih =>
      obtain ⟨hflag, hroom⟩ := h inside List.mem_cons_self
      rw [List.flatMap_cons, scanAll_append, scanAll_frame hflag hroom,
        ih fun other hother => h other (List.mem_cons_of_mem _ hother)]
      simp

/-- A reader that starts inside a frame closes it with the first flag it
meets, skips the body, and opens a frame with the flag that ends it. -/
theorem scanAll_frame_of_open {open' inside : List α}
    (h : A.flag ∉ inside) :
    A.scanAll room (some open') (A.flag :: inside ++ [A.flag])
      = (some [], [open']) := by
  rw [List.cons_append, ← List.singleton_append, scanAll_append,
    scanAll_flag_inside, scanAll_append, scanAll_outside h,
    scanAll_flag_outside]
  simp

/-- A reader that starts inside a frame reads no body of the frames that
follow, but what it has collected and the empty gaps between them. -/
theorem scanAll_frames_of_open {open' : List α}
    {insides : List (List α)}
    (h : ∀ inside ∈ insides, A.flag ∉ inside) (hne : insides ≠ []) :
    A.scanAll room (some open')
        (insides.flatMap fun inside => A.flag :: inside ++ [A.flag])
      = (some [], open' :: List.replicate (insides.length - 1) []) := by
  induction insides generalizing open' with
  | nil => exact absurd rfl hne
  | cons inside insides ih =>
      rw [List.flatMap_cons, scanAll_append,
        scanAll_frame_of_open (h inside List.mem_cons_self)]
      rcases insides with _ | ⟨other, insides⟩
      · rfl
      · rw [ih (fun inner hinner =>
          h inner (List.mem_cons_of_mem _ hinner)) (by simp)]
        simp [List.replicate_succ]

end Framing
