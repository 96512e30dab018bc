/-
Packets over a TCP stream and over UDP datagrams.

# The window

The receive task of TCP pushes every byte through a window of
`BUFFER_SIZE` bytes and looks for two flags in it. Between two bytes the
window shows one flag at most, so what the task does is what a scanner of
the framing library does whose room is two less than the window
(`Shows`, `push_step`). A run of the task is a run of the scanner, up to
the first frame it panics on (`foldl_push`).

# Frames

A frame that was sent is a framed body of the library, within the window
of the receiver, since both buffers have one size (`tcpSend_eq`). A frame
that is received is decoded whatever it is (`readFrame_eq`).

# Datagrams

A datagram is a packet, and no datagram says where another one starts.
The only state between two of them is whether the receive task still
runs (`foldl_step`).
-/
import Lxmf.Interfaces
import Lxmf.Library.Framing
import Lxmf.Proofs.Wire

namespace Lxmf.Reticulum

open Framing

/-- The alphabet of the interface. -/
def hdlc : Alphabet UInt8 where
  flag := hdlcFrameFlag
  escape := hdlcEscapeByte
  mask byte := byte ^^^ hdlcEscapeMask
  mask_mask byte := by
    rw [UInt8.xor_assoc, UInt8.xor_self, UInt8.xor_zero]
  mask_flag := by decide
  mask_escape := by decide
  flag_ne_escape := by decide

-- ============================================================= encode

section Encode

variable {capacity : Nat}

theorem encodeByte_eq (b : OutputBuffer capacity) (byte : UInt8) :
    Hdlc.encodeByte b byte = b.write (hdlc.stuffOne byte) := by
  unfold Hdlc.encodeByte Alphabet.stuffOne
  split
  case isTrue h => exact congrArg b.write (if_pos h).symm
  case isFalse h => exact congrArg b.write (if_neg h).symm

theorem foldlM_encodeByte (data : Bytes) (b : OutputBuffer capacity) :
    data.foldlM Hdlc.encodeByte b = b.write (hdlc.stuff data) := by
  induction data generalizing b with
  | nil => rfl
  | cons byte data ih =>
      rw [List.foldlM_cons, encodeByte_eq]
      show _ = b.write (hdlc.stuffOne byte ++ hdlc.stuff data)
      rw [write_append]
      exact congrArg _ (funext ih)

theorem encode_eq (data : Bytes) (b : OutputBuffer capacity) :
    Hdlc.encode data b = b.write (hdlc.enclose data) := by
  show _ = b.write (([hdlcFrameFlag] ++ hdlc.stuff data)
    ++ [hdlcFrameFlag])
  rw [write_append, write_append]
  unfold Hdlc.encode OutputBuffer.writeByte
  simp only [foldlM_encodeByte, bind_assoc]

end Encode

-- =============================================================== find

theorem findFrom_skip {byte : UInt8} (h : byte ≠ hdlc.flag) (i : Nat)
    (start : Option Nat) (data : Bytes) :
    Hdlc.findFrom i start (byte :: data)
      = Hdlc.findFrom (i + 1) start data := if_pos h

theorem findFrom_append {before : Bytes} (h : hdlc.flag ∉ before)
    (i : Nat) (start : Option Nat) (after : Bytes) :
    Hdlc.findFrom i start (before ++ after)
      = Hdlc.findFrom (i + before.length) start after := by
  induction before generalizing i with
  | nil => rfl
  | cons byte before ih =>
      obtain ⟨hne, hrest⟩ := not_or.mp fun hor => h (List.mem_cons.mpr hor)
      rw [List.cons_append, findFrom_skip (Ne.symm hne), ih hrest,
        List.length_cons, Nat.add_assoc, Nat.add_comm 1]

theorem findFrom_none {data : Bytes} (h : hdlc.flag ∉ data) (i : Nat)
    (start : Option Nat) : Hdlc.findFrom i start data = none := by
  have happend := findFrom_append h i start []
  rwa [List.append_nil] at happend

theorem find_none {data : Bytes} (h : hdlc.flag ∉ data) :
    Hdlc.find data = none := findFrom_none h 0 none

theorem findFrom_flag (i : Nat) (data : Bytes) :
    Hdlc.findFrom i none (hdlc.flag :: data)
      = Hdlc.findFrom (i + 1) (some i) data := by
  rw [Hdlc.findFrom, if_neg fun h => h rfl]

theorem find_one {before after : Bytes} (hbefore : hdlc.flag ∉ before)
    (hafter : hdlc.flag ∉ after) :
    Hdlc.find (before ++ hdlc.flag :: after) = none := by
  unfold Hdlc.find
  rw [findFrom_append hbefore, findFrom_flag, findFrom_none hafter]

theorem find_two {before inside after : Bytes}
    (hbefore : hdlc.flag ∉ before) (hinside : hdlc.flag ∉ inside) :
    Hdlc.find (before ++ hdlc.flag :: inside ++ hdlc.flag :: after)
      = some (before.length, before.length + inside.length + 1) := by
  unfold Hdlc.find
  rw [List.append_assoc, findFrom_append hbefore, List.cons_append,
    findFrom_flag, findFrom_append hinside, Hdlc.findFrom,
    if_neg fun h => h rfl]
  congr 2 <;> omega

-- ============================================================= decode

section Decode

variable {capacity : Nat}

variable (started : Bool) (output : OutputBuffer capacity) (data : Bytes)

theorem decodeFrom_escaped (byte : UInt8) :
    Hdlc.decodeFrom started true output (byte :: data)
      = output.write [byte ^^^ hdlcEscapeMask]
        >>= fun output => Hdlc.decodeFrom started false output data := rfl

theorem decodeFrom_escape :
    Hdlc.decodeFrom started false output (hdlc.escape :: data)
      = Hdlc.decodeFrom started true output data := rfl

theorem decodeFrom_plain {byte : UInt8} (hflag : byte ≠ hdlc.flag)
    (hescape : byte ≠ hdlc.escape) :
    Hdlc.decodeFrom started false output (byte :: data)
      = output.write [byte]
        >>= fun output => Hdlc.decodeFrom started false output data := by
  show (if byte = hdlc.flag then _ else if byte = hdlc.escape then _
    else _) = _
  rw [if_neg hflag, if_neg hescape]
  rfl

/-- What stands inside a frame, read back to its closing flag. -/
theorem decodeFrom_eq {inside : Bytes} (h : hdlc.flag ∉ inside)
    (escape : Bool) (output : OutputBuffer capacity)
    (hroom : output.bytes.length + inside.length + 1 ≤ capacity) :
    Hdlc.decodeFrom true escape output (inside ++ [hdlc.flag])
      = if (hdlc.unstuff escape inside).2 then
          .error (.error .outOfMemory)
        else output.write (hdlc.unstuff escape inside).1 := by
  induction inside generalizing escape output with
  | nil =>
      cases escape with
      | true =>
          rw [List.length_nil] at hroom
          rw [List.nil_append, decodeFrom_escaped,
            write_of_fits (by simpa using hroom)]
          rfl
      | false => rfl
  | cons byte inside ih =>
      obtain ⟨hne, hrest⟩ := not_or.mp fun hor => h (List.mem_cons.mpr hor)
      rw [List.length_cons] at hroom
      have hone (a : UInt8) : output.write [a]
          = .ok ⟨output.bytes ++ [a], by simp; omega⟩ :=
        write_of_fits (by simp; omega)
      have hlater (a : UInt8) : (output.bytes ++ [a]).length
          + inside.length + 1 ≤ capacity := by
        rw [List.length_append, List.length_singleton]
        omega
      have hstep (a : UInt8) (read : Bytes) :
          (OutputBuffer.mk (output.bytes ++ [a])
              (by simp; omega) : OutputBuffer capacity).write read
            = output.write (a :: read) := by
        have hsplit := write_append output [a] read
        rw [hone, Except.ok_bind] at hsplit
        exact hsplit.symm
      rw [List.cons_append]
      cases escape with
      | true =>
          rw [decodeFrom_escaped, hone, Except.ok_bind,
            ih hrest false _ (hlater _), hstep]
          rfl
      | false =>
          unfold Alphabet.unstuff
          by_cases hescape : byte = hdlc.escape
          · subst hescape
            rw [decodeFrom_escape, if_pos rfl, ih hrest true _ (by omega)]
          · rw [decodeFrom_plain _ _ _ (Ne.symm hne) hescape,
              if_neg hescape, hone, Except.ok_bind,
              ih hrest false _ (hlater _), hstep]

end Decode

/-- What becomes of the inside of a frame. -/
def frameBody (inside : Bytes) : Except Fault Packet :=
  if (hdlc.unstuff false inside).2 then .error (.error .outOfMemory)
  else Packet.deserialize (hdlc.unstuff false inside).1

variable {packetSize : Nat}

theorem readFrame_eq {inside : Bytes} (h : hdlc.flag ∉ inside)
    (hroom : inside.length + 2 ≤ tcpBufferSize packetSize) :
    readFrame packetSize (hdlc.flag :: inside ++ [hdlc.flag])
      = frameBody inside := by
  have hdecode : Hdlc.decode (hdlc.flag :: inside ++ [hdlc.flag])
      (.new : OutputBuffer (tcpBufferSize packetSize))
        = Hdlc.decodeFrom true false .new (inside ++ [hdlc.flag]) := rfl
  have hlength := length_unstuff_le (A := hdlc) false inside
  unfold readFrame frameBody
  rw [hdecode, decodeFrom_eq h false _ (by
    show 0 + _ + 1 ≤ _
    omega)]
  split
  case isTrue => rfl
  case isFalse =>
    rw [write_of_fits (by
      show 0 + _ ≤ _
      omega)]
    rfl

-- ============================================================= window

/-- The bytes of the window before the next one, by the state of a
scanner: no flag, or one flag and the inside of a frame behind it. -/
inductive Window : Option Bytes → Bytes → Prop where
  | outside {seen : Bytes} : hdlc.flag ∉ seen → Window none seen
  | inside {before inside : Bytes} : hdlc.flag ∉ before →
      hdlc.flag ∉ inside →
      Window (some inside) (before ++ hdlc.flag :: inside)

/-- The buffer of the receive task between two bytes. -/
structure Shows (packetSize : Nat) (s : Option Bytes)
    (buffer : Bytes) : Prop where
  cells : ∃ seen, seen.length + 1 = tcpBufferSize packetSize
    ∧ Window s seen
    ∧ buffer = seen ++ List.replicate (packetSize + 1) 0

theorem flag_not_mem_zeros (n : Nat) :
    hdlc.flag ∉ List.replicate n (0 : UInt8) := by
  intro h
  exact absurd (List.eq_of_mem_replicate h) (by decide)

theorem shows_start (hsize : 0 < packetSize) :
    Shows packetSize none (TcpReceiver.start packetSize).rxBuffer := by
  refine ⟨List.replicate (tcpBufferSize packetSize - 1) 0, ?_, ?_, ?_⟩
  · rw [List.length_replicate]
    unfold tcpBufferSize
    omega
  · exact .outside (flag_not_mem_zeros _)
  · rw [List.replicate_append_replicate]
    show List.replicate _ _ = _
    refine congrArg (List.replicate · 0) ?_
    unfold tcpBufferSize
    omega

/-- The next byte goes behind the window. -/
theorem set_next {seen : Bytes}
    (hlength : seen.length + 1 = tcpBufferSize packetSize)
    (byte : UInt8) :
    (seen ++ List.replicate (packetSize + 1) 0).set
        (tcpBufferSize packetSize - 1) byte
      = seen ++ byte :: List.replicate packetSize 0 := by
  rw [List.set_append_right _ _ (by omega)]
  congr 1
  rw [show tcpBufferSize packetSize - 1 - seen.length = 0 by omega]
  rfl

/-- The window moves on by one byte. -/
theorem shiftLeft_eq {seen : Bytes} (hseen : seen ≠ [])
    (hsize : 0 < packetSize) (byte : UInt8) :
    shiftLeft (seen ++ byte :: List.replicate packetSize 0)
      = (seen.drop 1 ++ [byte])
        ++ List.replicate (packetSize + 1) 0 := by
  have hpositive : 0 < seen.length := List.length_pos_iff.mpr hseen
  have hsplit : seen ++ byte :: List.replicate packetSize 0
      = (seen ++ byte :: List.replicate (packetSize - 1) 0) ++ [0] := by
    rw [List.append_assoc, List.cons_append,
      show [(0 : UInt8)] = List.replicate 1 0 from rfl,
      List.replicate_append_replicate,
      show packetSize - 1 + 1 = packetSize by omega]
  have hlast : (seen ++ byte :: List.replicate packetSize 0).drop
      ((seen ++ byte :: List.replicate packetSize 0).length - 1) = [0] := by
    rw [hsplit, List.length_append, List.length_singleton,
      Nat.add_sub_cancel, List.drop_left]
  unfold shiftLeft
  rw [hlast, List.drop_append_of_le_length (by omega), List.append_assoc,
    List.append_assoc, List.cons_append, List.cons_append,
    List.nil_append, List.replicate_succ']

/-- A frame that was read is overwritten. -/
theorem fillZero_eq (before inside after : Bytes) :
    fillZero (before ++ hdlc.flag :: inside ++ hdlc.flag :: after)
        before.length (before.length + inside.length + 1)
      = before ++ List.replicate (inside.length + 2) 0 ++ after := by
  have hlength : (before ++ hdlc.flag :: inside ++ [hdlc.flag]).length
      = before.length + inside.length + 1 + 1 := by
    simp only [List.length_append, List.length_cons, List.length_nil]
    omega
  unfold fillZero
  rw [show before.length + inside.length + 1 + 1 - before.length
    = inside.length + 2 by omega]
  congr 1
  · rw [List.append_assoc, List.take_left]
  · rw [show before ++ hdlc.flag :: inside ++ hdlc.flag :: after
      = (before ++ hdlc.flag :: inside ++ [hdlc.flag]) ++ after by simp]
    exact List.drop_left' hlength

/-- The frame between two flags of a buffer. -/
theorem frame_eq (before inside after : Bytes) :
    ((before ++ hdlc.flag :: inside ++ hdlc.flag :: after).take
        (before.length + inside.length + 1 + 1)).drop before.length
      = hdlc.flag :: inside ++ [hdlc.flag] := by
  have hlength : (before ++ (hdlc.flag :: inside ++ [hdlc.flag])).length
      = before.length + inside.length + 1 + 1 := by
    simp only [List.length_append, List.length_cons, List.length_nil]
    omega
  rw [show before ++ hdlc.flag :: inside ++ hdlc.flag :: after
    = (before ++ (hdlc.flag :: inside ++ [hdlc.flag])) ++ after by simp,
    List.take_left' hlength, List.drop_left]

-- ============================================================ receiver

/-- Room of the scanner that the window is. -/
def tcpRoom (packetSize : Nat) : Nat := tcpBufferSize packetSize - 2

/-- Frames on top of what was received, and whether one of them made the
task panic. -/
def readFrames (received : List Packet) :
    List Bytes → List Packet × Bool
  | [] => (received, false)
  | inside :: frames =>
      match frameBody inside with
      | .ok packet => readFrames (received ++ [packet]) frames
      | .error .panic => (received, true)
      | .error (.error _) => readFrames received frames

/-- A byte without a second flag in the window. -/
theorem push_shift {rx : TcpReceiver} {seen : Bytes}
    (halive : rx.crashed = false) (hsize : 0 < packetSize)
    (hlength : seen.length + 1 = tcpBufferSize packetSize)
    (hbuffer : rx.rxBuffer
      = seen ++ List.replicate (packetSize + 1) 0) {byte : UInt8}
    (hfind : Hdlc.find (seen ++ byte :: List.replicate packetSize 0)
      = none) :
    rx.push packetSize byte
      = { rx with rxBuffer := (seen.drop 1 ++ [byte])
            ++ List.replicate (packetSize + 1) 0 } := by
  have hseen : seen ≠ [] := by
    rintro rfl
    unfold tcpBufferSize at hlength
    simp at hlength
    omega
  unfold TcpReceiver.push
  rw [if_neg (by simp [halive])]
  simp only [hbuffer, set_next hlength, hfind, shiftLeft_eq hseen hsize]

/-- A byte that is the second flag in the window. -/
theorem push_frame {rx : TcpReceiver} {before inside : Bytes}
    (halive : rx.crashed = false) (hbefore : hdlc.flag ∉ before)
    (hinside : hdlc.flag ∉ inside)
    (hlength : (before ++ hdlc.flag :: inside).length + 1
      = tcpBufferSize packetSize)
    (hbuffer : rx.rxBuffer = (before ++ hdlc.flag :: inside)
      ++ List.replicate (packetSize + 1) 0) :
    ((rx.push packetSize hdlc.flag).received,
        (rx.push packetSize hdlc.flag).crashed)
      = readFrames rx.received [inside]
    ∧ ((rx.push packetSize hdlc.flag).crashed = false →
      (rx.push packetSize hdlc.flag).rxBuffer
        = (before ++ List.replicate (inside.length + 1) 0)
          ++ List.replicate (packetSize + 1) 0) := by
  have hzeros : List.replicate (inside.length + 2) (0 : UInt8)
      ++ List.replicate packetSize 0
        = List.replicate (inside.length + 1) 0
          ++ List.replicate (packetSize + 1) 0 := by
    rw [List.replicate_append_replicate, List.replicate_append_replicate,
      show inside.length + 2 + packetSize
        = inside.length + 1 + (packetSize + 1) by omega]
  have hframe : readFrame packetSize (hdlc.flag :: inside ++ [hdlc.flag])
      = frameBody inside := by
    refine readFrame_eq hinside ?_
    rw [List.length_append, List.length_cons] at hlength
    omega
  have hpush : rx.push packetSize hdlc.flag
      = match frameBody inside with
        | .ok packet =>
            { rx with
              rxBuffer := before ++ List.replicate (inside.length + 2) 0
                ++ List.replicate packetSize 0
              received := rx.received ++ [packet] }
        | .error .panic =>
            { rx with
              rxBuffer := (before ++ hdlc.flag :: inside)
                ++ hdlc.flag :: List.replicate packetSize 0
              crashed := true }
        | .error (.error _) =>
            { rx with
              rxBuffer := before ++ List.replicate (inside.length + 2) 0
                ++ List.replicate packetSize 0 } := by
    unfold TcpReceiver.push
    rw [if_neg (by simp [halive])]
    rcases hbody : frameBody inside with (_ | _) | _ <;>
      simp only [hbuffer, set_next hlength, find_two hbefore hinside,
        fillZero_eq, frame_eq, hframe, hbody]
  rw [hpush]
  unfold readFrames
  split
  case h_1 packet =>
    refine ⟨?_, fun _ => ?_⟩
    · rw [halive]
      rfl
    · rw [List.append_assoc, hzeros, List.append_assoc]
  case h_2 => exact ⟨rfl, fun h => by cases h⟩
  case h_3 =>
    refine ⟨?_, fun _ => ?_⟩
    · rw [halive]
      rfl
    · rw [List.append_assoc, hzeros, List.append_assoc]

/-- One byte: the window does what a scanner does. -/
theorem push_step {rx : TcpReceiver} {s : Option Bytes}
    (halive : rx.crashed = false) (hsize : 0 < packetSize)
    (hshows : Shows packetSize s rx.rxBuffer) (byte : UInt8) :
    ((rx.push packetSize byte).received,
        (rx.push packetSize byte).crashed)
      = readFrames rx.received
          (hdlc.scan (tcpRoom packetSize) s byte).2.toList
    ∧ ((rx.push packetSize byte).crashed = false →
      Shows packetSize (hdlc.scan (tcpRoom packetSize) s byte).1
        (rx.push packetSize byte).rxBuffer) := by
  obtain ⟨seen, hlength, hwindow, hbuffer⟩ := hshows.cells
  have hzeros := flag_not_mem_zeros packetSize
  have hnext : (seen.drop 1 ++ [byte]).length + 1
      = tcpBufferSize packetSize := by
    have hsome : 2 ≤ tcpBufferSize packetSize := by
      unfold tcpBufferSize
      omega
    rw [List.length_append, List.length_drop, List.length_singleton]
    omega
  cases hwindow with
  | outside hseen =>
      have hdrop : hdlc.flag ∉ seen.drop 1 :=
        fun h => hseen (List.mem_of_mem_drop h)
      by_cases hbyte : byte = hdlc.flag
      · subst hbyte
        rw [push_shift halive hsize hlength hbuffer
          (find_one hseen hzeros), scan_flag_outside]
        refine ⟨by rw [halive]; rfl, fun _ => ⟨_, hnext, ?_, rfl⟩⟩
        exact .inside hdrop (by simp)
      · have hnone : hdlc.flag ∉ seen ++ byte
            :: List.replicate packetSize 0 := by
          rw [List.mem_append, List.mem_cons]
          rintro (h | h | h)
          · exact hseen h
          · exact hbyte h.symm
          · exact hzeros h
        rw [push_shift halive hsize hlength hbuffer (find_none hnone),
          scan_outside hbyte]
        refine ⟨by rw [halive]; rfl, fun _ => ⟨_, hnext, ?_, rfl⟩⟩
        refine .outside fun h => ?_
        rcases List.mem_append.mp h with h | h
        · exact hdrop h
        · exact hbyte (List.mem_singleton.mp h).symm
  | @inside before inside hbefore hinside =>
      have hcells : before.length + inside.length + 2
          = tcpBufferSize packetSize := by
        rw [← hlength, List.length_append, List.length_cons]
        omega
      by_cases hbyte : byte = hdlc.flag
      · subst hbyte
        obtain ⟨hreceived, hcleared⟩ :=
          push_frame halive hbefore hinside hlength hbuffer
        rw [scan_flag_inside]
        refine ⟨hreceived, fun h => ⟨_, ?_, .outside ?_, hcleared h⟩⟩
        · rw [List.length_append, List.length_replicate]
          omega
        · rw [List.mem_append]
          rintro (h | h)
          · exact hbefore h
          · exact flag_not_mem_zeros _ h
      · have hlater : hdlc.flag ∉ inside ++ [byte] := by
          rw [List.mem_append, List.mem_singleton]
          rintro (h | h)
          · exact hinside h
          · exact hbyte h.symm
        have hfind : Hdlc.find ((before ++ hdlc.flag :: inside)
            ++ byte :: List.replicate packetSize 0) = none := by
          rw [List.append_assoc, List.cons_append]
          refine find_one hbefore ?_
          rw [List.mem_append, List.mem_cons]
          rintro (h | h | h)
          · exact hinside h
          · exact hbyte h.symm
          · exact hzeros h
        rw [push_shift halive hsize hlength hbuffer hfind]
        by_cases hroom : inside.length < tcpRoom packetSize
        · rw [scan_inside hbyte hroom]
          refine ⟨by rw [halive]; rfl, fun _ => ⟨_, hnext, ?_, rfl⟩⟩
          rcases before with _ | ⟨first, before⟩
          · unfold tcpRoom at hroom
            rw [List.length_nil] at hcells
            omega
          · show Window _ ((before ++ hdlc.flag :: inside) ++ [byte])
            rw [List.append_assoc, List.cons_append]
            exact .inside (fun h => hbefore (List.mem_cons_of_mem _ h))
              hlater
        · rw [scan_outgrown hbyte (Nat.not_lt.mp hroom)]
          refine ⟨by rw [halive]; rfl, fun _ => ⟨_, hnext, ?_, rfl⟩⟩
          rcases before with _ | ⟨first, before⟩
          · exact .outside hlater
          · unfold tcpRoom at hroom
            rw [List.length_cons] at hcells
            omega

-- ================================================================ runs

theorem push_crashed {rx : TcpReceiver} (h : rx.crashed = true)
    (input : Bytes) : input.foldl (TcpReceiver.push packetSize) rx = rx := by
  induction input with
  | nil => rfl
  | cons byte input ih =>
      have hpush : rx.push packetSize byte = rx := if_pos h
      rw [List.foldl_cons, hpush, ih]

theorem readFrames_append (received : List Packet)
    (before after : List Bytes) :
    readFrames received (before ++ after)
      = if (readFrames received before).2 then readFrames received before
        else readFrames (readFrames received before).1 after := by
  induction before generalizing received with
  | nil => rfl
  | cons inside before ih =>
      rcases hbody : frameBody inside with (e | _) | packet
      · simp only [List.cons_append, readFrames, hbody, ih]
      · simp [readFrames, hbody]
      · simp only [List.cons_append, readFrames, hbody, ih]

/-- A stream: the receive task is a scanner, up to a panic. -/
theorem foldl_push {rx : TcpReceiver} {s : Option Bytes}
    (halive : rx.crashed = false) (hsize : 0 < packetSize)
    (hshows : Shows packetSize s rx.rxBuffer) (input : Bytes) :
    ((input.foldl (TcpReceiver.push packetSize) rx).received,
        (input.foldl (TcpReceiver.push packetSize) rx).crashed)
      = readFrames rx.received
          (hdlc.scanAll (tcpRoom packetSize) s input).2
    ∧ ((input.foldl (TcpReceiver.push packetSize) rx).crashed = false →
      Shows packetSize (hdlc.scanAll (tcpRoom packetSize) s input).1
        (input.foldl (TcpReceiver.push packetSize) rx).rxBuffer) := by
  induction input generalizing rx s with
  | nil =>
      refine ⟨?_, fun _ => hshows⟩
      show (rx.received, rx.crashed) = (rx.received, false)
      rw [halive]
  | cons byte input ih =>
      obtain ⟨hreceived, hwindow⟩ := push_step halive hsize hshows byte
      rw [List.foldl_cons, scanAll_cons, readFrames_append, ← hreceived]
      by_cases hcrash : (rx.push packetSize byte).crashed = true
      · rw [push_crashed hcrash, if_pos hcrash]
        refine ⟨rfl, fun h => ?_⟩
        rw [hcrash] at h
        cases h
      · rw [if_neg hcrash]
        rw [Bool.not_eq_true] at hcrash
        exact ih hcrash (hwindow hcrash)

/-- The same on a fresh stream. -/
theorem foldl_push_start (hsize : 0 < packetSize) (input : Bytes) :
    (((TcpReceiver.start packetSize).read packetSize input).received,
        ((TcpReceiver.start packetSize).read packetSize input).crashed)
      = readFrames []
          (hdlc.scanAll (tcpRoom packetSize) none input).2
    ∧ (((TcpReceiver.start packetSize).read packetSize input).crashed
        = false →
      Shows packetSize (hdlc.scanAll (tcpRoom packetSize) none input).1
        ((TcpReceiver.start packetSize).read packetSize input).rxBuffer) :=
  foldl_push rfl hsize (shows_start hsize) input

/-- Where a stream is cut makes no difference. -/
theorem foldl_read (rx : TcpReceiver) (chunks : List Bytes) :
    chunks.foldl (TcpReceiver.read packetSize) rx
      = rx.read packetSize chunks.flatten := by
  unfold TcpReceiver.read
  rw [List.foldl_flatten]

-- ============================================================= sending

theorem tcpSend_eq (hsize : HoldsFields packetSize) (p : Packet) :
    tcpSend packetSize p = hdlc.enclose p.wire := by
  have hwire := p.length_wire_le
  have hstuffed := length_stuff_le (A := hdlc) p.wire
  unfold HoldsFields at hsize
  have hserialize : p.serialize
      (.new : OutputBuffer (tcpBufferSize packetSize))
        = .ok ⟨p.wire, by unfold tcpBufferSize; omega⟩ := by
    rw [serialize_eq, write_of_fits (by
      show 0 + _ ≤ _
      unfold tcpBufferSize
      omega)]
    rfl
  have hencode : Hdlc.encode p.wire
      (.new : OutputBuffer (tcpBufferSize packetSize))
        = .ok ⟨hdlc.enclose p.wire, by
            unfold Alphabet.enclose tcpBufferSize
            rw [List.length_append, List.length_cons,
              List.length_singleton]
            omega⟩ := by
    rw [encode_eq, write_of_fits (by
      show 0 + _ ≤ _
      unfold Alphabet.enclose tcpBufferSize
      rw [List.length_append, List.length_cons, List.length_singleton]
      omega)]
    rfl
  unfold tcpSend
  simp only [hserialize, hencode]

theorem flatMap_tcpSend (hsize : HoldsFields packetSize)
    (packets : List Packet) :
    packets.flatMap (tcpSend packetSize)
      = (packets.map fun p => hdlc.stuff p.wire).flatMap
          fun inside => hdlc.flag :: inside ++ [hdlc.flag] := by
  rw [List.flatMap_map]
  exact List.flatMap_congr fun p _ => tcpSend_eq hsize p

/-- Frames that were sent fit the window of a receiver. -/
theorem length_stuff_wire (hsize : HoldsFields packetSize) (p : Packet) :
    (hdlc.stuff p.wire).length ≤ tcpRoom packetSize := by
  have hwire := p.length_wire_le
  have hstuffed := length_stuff_le (A := hdlc) p.wire
  unfold HoldsFields at hsize
  unfold tcpRoom tcpBufferSize
  omega

theorem frameBody_stuff {p : Packet} (h : p.Addressed) :
    frameBody (hdlc.stuff p.wire) = .ok p.onWire := by
  unfold frameBody
  rw [unstuff_stuff]
  exact deserialize_wire h

theorem frameBody_nil : frameBody [] = .error (.error .outOfMemory) := rfl

theorem readFrames_sent {packets : List Packet}
    (h : ∀ p ∈ packets, p.Addressed) (received : List Packet) :
    readFrames received (packets.map fun p => hdlc.stuff p.wire)
      = (received ++ packets.map Packet.onWire, false) := by
  induction packets generalizing received with
  | nil => simp [readFrames]
  | cons p packets ih =>
      simp only [List.map_cons, readFrames,
        frameBody_stuff (h p List.mem_cons_self)]
      rw [ih fun other hother => h other (List.mem_cons_of_mem _ hother)]
      simp

theorem readFrames_empty (received : List Packet) (n : Nat) :
    readFrames received (List.replicate n []) = (received, false) := by
  induction n with
  | zero => rfl
  | succ n ih =>
      rw [List.replicate_succ]
      simp only [readFrames, frameBody_nil]
      exact ih

/-- One frame and gaps behind it. -/
theorem readFrames_gaps (received : List Packet) (inside : Bytes)
    (n : Nat) :
    (readFrames received (inside :: List.replicate n [])).1
      = received ++ (readFrames [] [inside]).1 := by
  rcases hbody : frameBody inside with (e | _) | packet
  · simp [readFrames, hbody, readFrames_empty]
  · simp [readFrames, hbody]
  · simp [readFrames, hbody, readFrames_empty]

/-- A scanner outside a frame takes every packet that was sent. -/
theorem scan_sent (hsize : HoldsFields packetSize)
    (packets : List Packet) :
    hdlc.scanAll (tcpRoom packetSize) none
        ((packets.map fun p => hdlc.stuff p.wire).flatMap
          fun inside => hdlc.flag :: inside ++ [hdlc.flag])
      = (none, packets.map fun p => hdlc.stuff p.wire) := by
  refine scanAll_frames fun inside hinside => ?_
  obtain ⟨p, _, rfl⟩ := List.mem_map.mp hinside
  exact ⟨flag_not_mem_stuff _, length_stuff_wire hsize p⟩

/-- A scanner inside a frame takes none of them. -/
theorem scan_sent_of_open {inside : Bytes} {packets : List Packet}
    (hne : packets ≠ []) :
    hdlc.scanAll (tcpRoom packetSize) (some inside)
        ((packets.map fun p => hdlc.stuff p.wire).flatMap
          fun inside => hdlc.flag :: inside ++ [hdlc.flag])
      = (some [], inside :: List.replicate
          ((packets.map fun p => hdlc.stuff p.wire).length - 1) []) := by
  refine scanAll_frames_of_open (fun other hother => ?_) (by simpa)
  obtain ⟨p, _, rfl⟩ := List.mem_map.mp hother
  exact flag_not_mem_stuff _

theorem packetSize_pos (hsize : HoldsFields packetSize) :
    0 < packetSize := by
  unfold HoldsFields at hsize
  omega

/-- However the stream is cut into reads, a receiver gets the packets
that were sent on it, all of them and in order. -/
theorem stream_delivers (packetSize : Nat) (packets : List Packet)
    (chunks : List Bytes) (hsize : HoldsFields packetSize)
    (haddressed : ∀ p ∈ packets, p.Addressed)
    (hchunks : chunks.flatten = packets.flatMap (tcpSend packetSize)) :
    (chunks.foldl (TcpReceiver.read packetSize)
        (.start packetSize)).received = packets.map Packet.onWire
      ∧ (chunks.foldl (TcpReceiver.read packetSize)
        (.start packetSize)).crashed = false := by
  have hpositive := packetSize_pos hsize
  have hrun := (foldl_push_start hpositive chunks.flatten).1
  have hscan := scan_sent hsize packets
  rw [hchunks, flatMap_tcpSend hsize, hscan, readFrames_sent haddressed]
    at hrun
  rw [← flatMap_tcpSend hsize, ← hchunks, ← foldl_read,
    List.nil_append] at hrun
  exact Prod.mk.injEq .. ▸ hrun

/-- What the compiler makes of a `Packet` on a 64-bit target. -/
abbrev docSize : Nat := 2176

def docPacket : Packet where
  header := { hops := 3 }
  ifac := none
  destination := List.Vector.replicate destinationLength 0x11
  transport := none
  context := .none
  data := safeWrite emptyData [0x7e, 0x68, 0x7d]

theorem docPacket_addressed : docPacket.Addressed := nofun

theorem stream_delivers_doc :
    ([(tcpSend docSize docPacket).take 5,
        (tcpSend docSize docPacket).drop 5].foldl
          (TcpReceiver.read docSize) (.start docSize)).received
        = [docPacket.onWire]
      ∧ ([(tcpSend docSize docPacket).take 5,
        (tcpSend docSize docPacket).drop 5].foldl
          (TcpReceiver.read docSize) (.start docSize)).crashed = false :=
  stream_delivers docSize [docPacket] _ (by decide)
    (by simpa using docPacket_addressed) (by simp)

/-- A flag in the window is an open frame. -/
theorem Shows.open_of_mem {s : Option Bytes} {buffer : Bytes}
    (h : Shows packetSize s buffer) (hflag : hdlc.flag ∈ buffer) :
    ∃ inside, s = some inside := by
  obtain ⟨seen, _, hwindow, rfl⟩ := h.cells
  cases hwindow with
  | outside hseen =>
      rcases List.mem_append.mp hflag with hflag | hflag
      · exact absurd hflag hseen
      · exact absurd hflag (flag_not_mem_zeros _)
  | inside => exact ⟨_, rfl⟩

theorem Shows.mem_of_open {inside buffer : Bytes}
    (h : Shows packetSize (some inside) buffer) : hdlc.flag ∈ buffer := by
  obtain ⟨seen, _, hwindow, rfl⟩ := h.cells
  cases hwindow with
  | inside => simp

/-- A flag on a fresh stream stands in the window. -/
theorem flag_mem_window (hpositive : 0 < packetSize) :
    hdlcFrameFlag ∈ ((TcpReceiver.start packetSize).read packetSize
      [hdlcFrameFlag]).rxBuffer := by
  obtain ⟨hreceived, hwindow⟩ :=
    foldl_push_start hpositive [hdlc.flag]
  rw [scanAll_flag_outside] at hreceived hwindow
  exact (hwindow (congrArg Prod.snd hreceived)).mem_of_open

/-- A receiver whose window shows a flag between two frames has lost the
step: of all packets that follow, whatever they are, none is passed on.
What it may pass on is one packet, which it reads from the bytes before
them. -/
theorem stream_out_of_step (packetSize : Nat) (noise : Bytes)
    (hsize : HoldsFields packetSize)
    (hflag : hdlcFrameFlag ∈
      ((TcpReceiver.start packetSize).read packetSize noise).rxBuffer) :
    ∃ garbled : List Packet, garbled.length ≤ 1
      ∧ ∀ packets : List Packet, packets ≠ [] →
        (((TcpReceiver.start packetSize).read packetSize noise).read
            packetSize (packets.flatMap (tcpSend packetSize))).received
          = ((TcpReceiver.start packetSize).read packetSize noise).received
            ++ garbled := by
  have hpositive := packetSize_pos hsize
  obtain ⟨_, hwindow⟩ := foldl_push_start hpositive noise
  set rx := (TcpReceiver.start packetSize).read packetSize noise with hrx
  by_cases hcrash : rx.crashed = true
  · refine ⟨[], by simp, fun packets _ => ?_⟩
    unfold TcpReceiver.read
    rw [push_crashed hcrash, List.append_nil]
  · rw [Bool.not_eq_true] at hcrash
    have hshows := hwindow hcrash
    obtain ⟨inside, hopen⟩ := hshows.open_of_mem hflag
    rw [hopen] at hshows
    refine ⟨(readFrames [] [inside]).1, ?_, fun packets hpackets => ?_⟩
    · unfold readFrames
      rcases frameBody inside with (_ | _) | _ <;> simp [readFrames]
    · have hrun := (foldl_push hcrash hpositive hshows
        (packets.flatMap (tcpSend packetSize))).1
      have hscan := @scan_sent_of_open packetSize inside packets hpackets
      rw [flatMap_tcpSend hsize, hscan, ← flatMap_tcpSend hsize] at hrun
      have hreceived := congrArg Prod.fst hrun
      rw [readFrames_gaps] at hreceived
      exact hreceived

theorem stream_out_of_step_doc :
    ∃ garbled : List Packet, garbled.length ≤ 1
      ∧ ∀ packets : List Packet, packets ≠ [] →
        (((TcpReceiver.start docSize).read docSize [hdlcFrameFlag]).read
            docSize (packets.flatMap (tcpSend docSize))).received
          = ((TcpReceiver.start docSize).read docSize
              [hdlcFrameFlag]).received ++ garbled :=
  stream_out_of_step docSize [hdlcFrameFlag] (by decide)
    (flag_mem_window (by decide))

/-- The frames of a stream, as a scanner cuts it. -/
def frames (packetSize : Nat) (stream : Bytes) : List Bytes :=
  (hdlc.scanAll (tcpRoom packetSize) none stream).2

theorem readFrames_panics (received : List Packet) (cut : List Bytes) :
    (readFrames received cut).2 = true
      ↔ ∃ inside ∈ cut, frameBody inside = .error .panic := by
  induction cut generalizing received with
  | nil => simp [readFrames]
  | cons inside cut ih =>
      rcases hbody : frameBody inside with (e | _) | packet
      · simp [readFrames, hbody, ih]
      · simp [readFrames, hbody]
      · simp [readFrames, hbody, ih]

theorem frameBody_panics (inside : Bytes) :
    frameBody inside = .error .panic
      ↔ (hdlc.unstuff false inside).2 = false
        ∧ leastLength (hdlc.unstuff false inside).1 + packetMdu
          < (hdlc.unstuff false inside).1.length := by
  obtain ⟨hshort, hlong, henough⟩ :=
    deserialize_length (hdlc.unstuff false inside).1
  unfold frameBody
  by_cases hopen : (hdlc.unstuff false inside).2 = true
  · simp [hopen]
  · rw [if_neg hopen]
    rw [Bool.not_eq_true] at hopen
    constructor
    · intro hpanic
      refine ⟨hopen, ?_⟩
      by_contra hle
      by_cases hleast : (hdlc.unstuff false inside).1.length
          < leastLength (hdlc.unstuff false inside).1
      · rw [hshort hleast] at hpanic
        cases hpanic
      · obtain ⟨p, hp⟩ :=
          henough (Nat.not_lt.mp hleast) (Nat.not_lt.mp hle)
        rw [hp] at hpanic
        cases hpanic
    · exact fun h => hlong h.2

/-- The receive task panics on exactly the streams with a frame that
holds more than a packet does, whatever else the stream is and however it
is cut into reads. -/
theorem stream_panics_iff (packetSize : Nat) (chunks : List Bytes)
    (hsize : HoldsFields packetSize) :
    (chunks.foldl (TcpReceiver.read packetSize)
        (.start packetSize)).crashed = true
      ↔ ∃ inside ∈ frames packetSize chunks.flatten,
        (hdlc.unstuff false inside).2 = false
          ∧ leastLength (hdlc.unstuff false inside).1 + packetMdu
            < (hdlc.unstuff false inside).1.length := by
  have hpositive := packetSize_pos hsize
  have hrun := (foldl_push_start hpositive chunks.flatten).1
  have hcrashed := congrArg Prod.snd hrun
  simp only at hcrashed
  rw [foldl_read, hcrashed, readFrames_panics]
  exact exists_congr fun inside => and_congr_right fun _ =>
    frameBody_panics inside

theorem stream_panics_iff_doc :
    ([hdlcFrameFlag :: List.replicate 2100 0x00, [hdlcFrameFlag]].foldl
        (TcpReceiver.read docSize) (.start docSize)).crashed = true
      ↔ ∃ inside ∈ frames docSize
          [hdlcFrameFlag :: List.replicate 2100 0x00,
            [hdlcFrameFlag]].flatten,
        (hdlc.unstuff false inside).2 = false
          ∧ leastLength (hdlc.unstuff false inside).1 + packetMdu
            < (hdlc.unstuff false inside).1.length :=
  stream_panics_iff docSize _ (by decide)

-- ============================================================ datagrams

/-- A datagram that holds no more than a packet. -/
def Bounded (datagram : Bytes) : Prop :=
  datagram.length ≤ leastLength datagram + packetMdu

instance (datagram : Bytes) : Decidable (Bounded datagram) :=
  inferInstanceAs (Decidable (_ ≤ _))

/-- The receive task outlives the event. -/
def UdpEvent.survived (forwards : Bool) : UdpEvent → Bool
  | .datagram bytes => decide (Bounded bytes)
  | .recvError => !forwards
  | .packet _ => true

/-- The socket is closed and bound again. -/
def UdpEvent.rebinds : UdpEvent → Bool
  | .datagram bytes => decide (bytes = [])
  | .recvError => true
  | .packet _ => false

/-- The packet a datagram is. -/
def UdpEvent.read : UdpEvent → Option Packet
  | .datagram bytes =>
      match Packet.deserialize bytes with
      | .ok p => some p
      | .error _ => none
  | .recvError => none
  | .packet _ => none

/-- The datagram a packet leaves in, if there is an address for it. -/
def UdpEvent.write (packetSize : Nat) (forwards : Bool) :
    UdpEvent → Option Bytes
  | .packet p => if forwards then udpSend packetSize p else none
  | .recvError => none
  | .datagram _ => none

theorem leastLength_le (input : Bytes) :
    leastLength input ≤ 3 + 2 * destinationLength := by
  unfold leastLength
  split
  · split <;> omega
  · omega

theorem leastLength_take {input : Bytes} {n : Nat} (hn : 0 < n) :
    leastLength (input.take n) = leastLength input := by
  obtain ⟨m, rfl⟩ := Nat.exists_eq_add_of_lt hn
  rw [Nat.zero_add]
  cases input with
  | nil => rfl
  | cons byte input => rfl

/-- What an event that the receive task outlives does: a packet is passed
on or sent, or the socket is bound again. -/
theorem step_survived {udp : UdpInterface} {event : UdpEvent}
    (hsize : HoldsFields packetSize) (hreceiving : udp.receiving = true)
    (hsurvived : event.survived udp.forwards = true) :
    udp.step packetSize event
      = { udp with
          bindings := udp.bindings + event.rebinds.toNat
          received := udp.received ++ event.read.toList
          sent := udp.sent
            ++ (event.write packetSize udp.forwards).toList } := by
  cases event with
  | datagram bytes =>
      have hbounded : Bounded bytes := of_decide_eq_true hsurvived
      have hleast := leastLength_le bytes
      have htake : bytes.take (udpBufferSize packetSize) = bytes := by
        refine List.take_of_length_le ?_
        unfold HoldsFields at hsize
        unfold Bounded at hbounded
        unfold udpBufferSize
        omega
      obtain ⟨hshort, _, henough⟩ := deserialize_length bytes
      unfold UdpInterface.step UdpInterface.receive
      dsimp only
      rw [if_neg (by simp [hreceiving]), htake]
      by_cases hnil : bytes = []
      · subst hnil
        have hread : (UdpEvent.datagram []).read = none := by decide
        rw [if_pos rfl, hread]
        simp [UdpInterface.rebind, UdpEvent.rebinds, UdpEvent.write]
      · rw [if_neg hnil]
        by_cases hlt : bytes.length < leastLength bytes
        · simp [UdpEvent.read, UdpEvent.write, UdpEvent.rebinds, hnil,
            hshort hlt]
        · obtain ⟨p, hp⟩ := henough (Nat.not_lt.mp hlt) hbounded
          simp [UdpEvent.read, UdpEvent.write, UdpEvent.rebinds, hnil, hp]
  | recvError =>
      have hnone : udp.forwards = false := by
        simpa [UdpEvent.survived] using hsurvived
      unfold UdpInterface.step UdpInterface.fail
      simp [hreceiving, hnone, UdpInterface.rebind, UdpEvent.read,
        UdpEvent.write, UdpEvent.rebinds]
  | packet p =>
      obtain ⟨forwards, _, _, _, _⟩ := udp
      unfold UdpInterface.step UdpInterface.transmit
      cases forwards <;>
        simp [UdpEvent.read, UdpEvent.write, UdpEvent.rebinds]

/-- Any other ends it. -/
theorem step_ended {udp : UdpInterface} {event : UdpEvent}
    (hsize : HoldsFields packetSize) (hreceiving : udp.receiving = true)
    (hended : event.survived udp.forwards = false) :
    udp.step packetSize event = { udp with receiving := false } := by
  cases event with
  | datagram bytes =>
      have hbounded : ¬ Bounded bytes := of_decide_eq_false hended
      have hleast := leastLength_le bytes
      unfold HoldsFields at hsize
      have hlong : Packet.deserialize
          (bytes.take (udpBufferSize packetSize)) = .error .panic := by
        refine (deserialize_length _).2.1 ?_
        unfold Bounded at hbounded
        rw [leastLength_take (by unfold udpBufferSize; omega),
          List.length_take]
        unfold udpBufferSize
        omega
      have hnil : bytes ≠ [] := by
        rintro rfl
        exact hbounded (Nat.zero_le _)
      unfold UdpInterface.step UdpInterface.receive
      dsimp only
      rw [if_neg (by simp [hreceiving]), if_neg hnil, hlong]
  | recvError =>
      have hforwards : udp.forwards = true := by
        simpa [UdpEvent.survived] using hended
      unfold UdpInterface.step UdpInterface.fail
      simp [hreceiving, hforwards]
  | packet p => cases hended

/-- The receive task is gone for good. -/
theorem foldl_step_deaf {udp : UdpInterface}
    (hdeaf : udp.receiving = false) (events : List UdpEvent) :
    events.foldl (UdpInterface.step packetSize) udp
      = { udp with
          sent := udp.sent ++ events.filterMap
            (UdpEvent.write packetSize udp.forwards) } := by
  induction events generalizing udp with
  | nil => simp
  | cons event events ih =>
      have hstep : udp.step packetSize event = { udp with sent := udp.sent
          ++ (event.write packetSize udp.forwards).toList } := by
        obtain ⟨forwards, receiving, _, _, _⟩ := udp
        obtain rfl : receiving = false := hdeaf
        cases event with
        | datagram bytes =>
            unfold UdpInterface.step UdpInterface.receive
            simp [UdpEvent.write]
        | recvError =>
            unfold UdpInterface.step UdpInterface.fail
            simp [UdpEvent.write]
        | packet p =>
            unfold UdpInterface.step UdpInterface.transmit
            cases forwards <;> simp [UdpEvent.write]
      rw [List.foldl_cons, hstep, ih (by exact hdeaf)]
      cases hwrite : event.write packetSize udp.forwards <;>
        simp [hwrite]

/-- A run of a UDP interface: up to the first event that ends its receive
task it takes every datagram, and none after it; what it sends does not
depend on them. -/
theorem foldl_step {udp : UdpInterface} (hsize : HoldsFields packetSize)
    (hreceiving : udp.receiving = true) (events : List UdpEvent) :
    events.foldl (UdpInterface.step packetSize) udp
      = { forwards := udp.forwards
          receiving := events.all (UdpEvent.survived udp.forwards)
          bindings := udp.bindings
            + (events.takeWhile (UdpEvent.survived udp.forwards)).countP
              UdpEvent.rebinds
          received := udp.received
            ++ (events.takeWhile (UdpEvent.survived udp.forwards)).filterMap
              UdpEvent.read
          sent := udp.sent
            ++ events.filterMap
              (UdpEvent.write packetSize udp.forwards) } := by
  induction events generalizing udp with
  | nil => simp [← hreceiving]
  | cons event events ih =>
      rw [List.foldl_cons]
      cases hsurvived : event.survived udp.forwards with
      | true =>
          rw [step_survived hsize hreceiving hsurvived,
            ih (by exact hreceiving)]
          cases hread : event.read <;>
            cases hwrite : event.write packetSize udp.forwards <;>
            cases hrebinds : event.rebinds <;>
            simp [hsurvived, hread, hwrite, hrebinds, Nat.add_assoc,
              Nat.add_comm 1]
      | false =>
          rw [step_ended hsize hreceiving hsurvived, foldl_step_deaf rfl]
          have hwrite : event.write packetSize udp.forwards = none := by
            cases event with
            | packet p => cases hsurvived
            | _ => rfl
          simp [hsurvived, hwrite]

/-- What a node sends is a datagram that a peer takes. -/
theorem read_udpSend (hsize : HoldsFields packetSize) {p : Packet}
    (h : p.Addressed) :
    udpSend packetSize p = some p.wire ∧ Bounded p.wire
      ∧ (UdpEvent.datagram p.wire).read = some p.onWire := by
  have hread := deserialize_wire h
  have hlength := p.length_wire_le
  unfold HoldsFields at hsize
  refine ⟨?_, ?_, ?_⟩
  · unfold udpSend
    rw [serialize_eq, write_of_fits (by
      show 0 + _ ≤ _
      unfold udpBufferSize
      omega)]
    rfl
  · by_contra hbounded
    rw [(deserialize_length p.wire).2.1 (Nat.not_le.mp hbounded)] at hread
    cases hread
  · simp only [UdpEvent.read, hread]

/-- In any run of a UDP interface the receive task runs until a datagram
comes that holds more than a packet, or, if the interface has a forward
address, until `recv_from` fails. Up to then it takes every datagram, those
of other nodes as the packets they sent, and binds the socket again after
an empty one and, without a forward address, after an error; and nothing
thereafter. With a forward address the interface goes on sending all the
while. -/
theorem udp_deaf_after_oversized (packetSize : Nat) (forwards : Bool)
    (events : List UdpEvent) (hsize : HoldsFields packetSize) :
    let udp := events.foldl (UdpInterface.step packetSize) (.bound forwards)
    let survived := events.takeWhile (UdpEvent.survived forwards)
    udp.received = survived.filterMap UdpEvent.read
      ∧ udp.bindings = 1 + survived.countP UdpEvent.rebinds
      ∧ udp.sent = events.filterMap (UdpEvent.write packetSize forwards)
      ∧ (udp.receiving ↔ (∀ bytes, .datagram bytes ∈ events → Bounded bytes)
        ∧ (.recvError ∈ events → forwards = false))
      ∧ ∀ p : Packet, p.Addressed →
        ∃ bytes, udpSend packetSize p = some bytes ∧ Bounded bytes
          ∧ (UdpEvent.datagram bytes).read = some p.onWire := by
  have hrun := @foldl_step packetSize (.bound forwards) hsize rfl events
  rw [hrun]
  refine ⟨List.nil_append _, rfl, List.nil_append _, ?_,
    fun p hp => ⟨p.wire, read_udpSend hsize hp⟩⟩
  show events.all (UdpEvent.survived forwards) = true ↔ _
  rw [List.all_eq_true]
  constructor
  · intro h
    refine ⟨fun bytes hmem => of_decide_eq_true (h _ hmem), fun hmem => ?_⟩
    simpa [UdpEvent.survived] using h _ hmem
  · rintro ⟨hbounded, herror⟩ event hevent
    cases event with
    | datagram bytes => exact decide_eq_true (hbounded bytes hevent)
    | recvError => simp [UdpEvent.survived, herror hevent]
    | packet p => rfl

def docLong : Bytes := List.replicate 2100 0x00

/-- An empty datagram, a packet, too long a datagram and a packet again. -/
def docDatagrams : List UdpEvent :=
  [.datagram [], .datagram docPacket.wire, .datagram docLong,
    .packet docPacket, .datagram docPacket.wire]

theorem udp_deaf_after_oversized_doc :
    let udp := docDatagrams.foldl (UdpInterface.step docSize) (.bound true)
    udp.bindings = 2 ∧ udp.receiving = false
      ∧ udp.received
        = (docDatagrams.take 2).filterMap UdpEvent.read
      ∧ udp.sent = (udpSend docSize docPacket).toList := by
  have hlong : ¬ Bounded docLong := by
    unfold Bounded docLong
    rw [List.length_replicate]
    decide
  have hshort : Bounded docPacket.wire := by decide
  have hnil : Bounded [] := by decide
  have htaken : docDatagrams.takeWhile (UdpEvent.survived true)
      = docDatagrams.take 2 := by
    simp [docDatagrams, UdpEvent.survived, hlong, hshort, hnil]
  obtain ⟨hreceived, hbindings, hsent, hreceiving, _⟩ :=
    udp_deaf_after_oversized docSize true docDatagrams (by decide)
  rw [htaken] at hreceived hbindings
  refine ⟨hbindings, ?_, hreceived, ?_⟩
  · by_contra htrue
    exact hlong ((hreceiving.mp (Bool.of_not_eq_false htrue)).1 _
      (by simp [docDatagrams]))
  · rw [hsent]
    simp [docDatagrams, UdpEvent.write, List.filterMap_cons]
    cases udpSend docSize docPacket <;> rfl

end Lxmf.Reticulum
