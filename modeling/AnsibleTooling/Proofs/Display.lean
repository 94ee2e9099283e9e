import AnsibleTooling.Environment
import Mathlib.Tactic.SplitIfs

set_option autoImplicit false

namespace AnsibleTooling

theorem forall_byte {holds : UInt8 -> Prop}
    (each : ∀ number : Fin 256, holds (UInt8.ofFin number)) (byte : UInt8) : holds byte :=
  each byte.toFin

namespace Text

theorem encode_append (text other : String) :
    encode (text ++ other) = encode text ++ encode other := by
  rw [encode, String.toList_append, List.flatMap_append]
  rfl

namespace Utf8

def Reader.Within : Reader -> Prop
  | .boundary => False
  | .inside .. => True

theorem start_gives (byte : UInt8) : (start byte).1 ≠ [] ∨ (start byte).2.Within := by
  unfold start
  split_ifs <;> simp [Reader.Within]

theorem step_gives (reader : Reader) (byte : UInt8) :
    (reader.step byte).1 ≠ [] ∨ (reader.step byte).2.Within := by
  cases reader with
  | boundary => exact start_gives byte
  | inside value remaining low high =>
    simp only [Reader.step]
    split_ifs <;> simp [Reader.Within]

theorem scan_ne_nil (reader : Reader) (bytes : Bytes) (begun : reader.Within ∨ bytes ≠ []) :
    reader.scan bytes ≠ [] := by
  induction bytes generalizing reader with
  | nil =>
    cases reader with
    | boundary => simp [Reader.Within] at begun
    | inside value remaining low high => simp [Reader.scan, Reader.finish]
  | cons byte rest ih =>
    -- A byte that gives nothing yet leaves the reader inside a character, which gives something.
    simp only [Reader.scan, ne_eq, List.append_eq_nil_iff, not_and]
    intro silent
    have within := (step_gives reader byte).resolve_left (not_not_intro silent)
    exact ih _ (.inl within)

theorem toNat_ofNat_of_lt {number : Nat} (small : number < 256) :
    (UInt8.ofNat number).toNat = number := by
  rw [UInt8.toNat_ofNat', Nat.mod_eq_of_lt small]

theorem step_inside {value remaining number : Nat} {low high : UInt8} (small : number < 256)
    (above : low.toNat ≤ number) (below : number ≤ high.toNat) :
    (Reader.inside value remaining low high).step (UInt8.ofNat number) =
      if remaining ≤ 1 then ([some (Char.ofNat (value * 64 + (number - 0x80)))], .boundary)
      else ([], .inside (value * 64 + (number - 0x80)) (remaining - 1) 0x80 0xBF) := by
  have within :
      (decide (low ≤ UInt8.ofNat number) && decide (UInt8.ofNat number ≤ high)) = true := by
    simp [UInt8.le_iff_toNat_le, toNat_ofNat_of_lt small, above, below]
  simp only [Reader.step, within, toNat_ofNat_of_lt small, if_true]

theorem start_single {number : Nat} (small : number < 0x80) :
    start (UInt8.ofNat number) = ([some (Char.ofNat number)], .boundary) := by
  have lower : UInt8.ofNat number < 0x80 := by
    rw [UInt8.lt_iff_toNat_lt, toNat_ofNat_of_lt (by omega)]
    exact small
  rw [start, if_pos lower, toNat_ofNat_of_lt (by omega)]

theorem start_several {number : Nat} (above : 0xC2 ≤ number) (below : number < 0xF5) :
    start (UInt8.ofNat number) = ([],
      if number < 0xE0 then .inside (number - 0xC0) 1 0x80 0xBF
      else if number < 0xF0 then
        .inside (number - 0xE0) 2 (if number = 0xE0 then 0xA0 else 0x80)
          (if number = 0xED then 0x9F else 0xBF)
      else
        .inside (number - 0xF0) 3 (if number = 0xF0 then 0x90 else 0x80)
          (if number = 0xF4 then 0x8F else 0xBF)) := by
  have small : number < 256 := by omega
  have less (bound : UInt8) : UInt8.ofNat number < bound ↔ number < bound.toNat := by
    rw [UInt8.lt_iff_toNat_lt, toNat_ofNat_of_lt small]
  have same (byte : UInt8) : (UInt8.ofNat number == byte) = decide (number = byte.toNat) := by
    rw [Bool.eq_iff_iff, beq_iff_eq, decide_eq_true_eq, ← UInt8.toNat_inj,
      toNat_ofNat_of_lt small]
  simp only [start, less, same, toNat_ofNat_of_lt small, UInt8.reduceToNat, decide_eq_true_eq]
  rw [if_neg (by omega), if_neg (by omega)]
  split
  · rfl
  split <;> rfl

theorem continuation_low (number : Nat) : (0x80 : UInt8).toNat ≤ number % 64 + 128 := by
  simp

theorem continuation_high (number : Nat) : number % 64 + 128 ≤ (0xBF : UInt8).toNat := by
  have bounded := Nat.mod_lt number (by decide : 0 < 64)
  simp
  omega

theorem scan_last {value number : Nat} {low high : UInt8} {rest : Bytes} (small : number < 256)
    (above : low.toNat ≤ number) (below : number ≤ high.toNat) :
    (Reader.inside value 1 low high).scan (UInt8.ofNat number :: rest) =
      some (Char.ofNat (value * 64 + (number - 0x80))) :: Reader.boundary.scan rest := by
  rw [Reader.scan, step_inside small above below]
  rfl

theorem scan_middle {value remaining number : Nat} {low high : UInt8} {rest : Bytes}
    (small : number < 256) (above : low.toNat ≤ number) (below : number ≤ high.toNat) :
    (Reader.inside value (remaining + 2) low high).scan (UInt8.ofNat number :: rest) =
      (Reader.inside (value * 64 + (number - 0x80)) (remaining + 1) 0x80 0xBF).scan rest := by
  rw [Reader.scan, step_inside small above below, if_neg (by omega)]
  rfl

theorem scan_first {number : Nat} {rest : Bytes} (above : 0xC2 ≤ number) (below : number < 0xF5) :
    Reader.boundary.scan (UInt8.ofNat number :: rest) =
      (start (UInt8.ofNat number)).2.scan rest := by
  rw [Reader.scan, Reader.step, start_several above below]
  rfl

theorem scan_encodeChar (char : Char) (rest : Bytes) :
    Reader.boundary.scan (String.utf8EncodeChar char ++ rest) =
      some char :: Reader.boundary.scan rest := by
  have valid : char.toNat < 0xD800 ∨ 0xDFFF < char.toNat ∧ char.toNat < 0x110000 := char.valid
  have back := Char.ofNat_toNat char
  unfold String.utf8EncodeChar
  rw [show char.val.toNat = char.toNat from rfl]
  generalize char.toNat = value at valid back
  subst back
  dsimp only
  -- One case for each number of bytes; the first byte tells it, and bounds the second.
  split
  next small =>
    simp only [List.cons_append, List.nil_append, Reader.scan, Reader.step,
      start_single (Nat.lt_succ_of_le small)]
  simp only [apply_ite (· ++ rest), List.cons_append, List.nil_append]
  split
  next single double =>
    rw [scan_first (by omega) (by omega), start_several (by omega) (by omega), if_pos (by omega),
      scan_last (by omega) (continuation_low _) (continuation_high _)]
    refine congrArg (fun number => some (Char.ofNat number) :: Reader.boundary.scan rest) ?_
    omega
  split
  next triple =>
    have low : (if value / 4096 % 16 + 224 = 0xE0 then (0xA0 : UInt8) else 0x80).toNat ≤
        value / 64 % 64 + 128 := by
      split
      next edge =>
        simp only [UInt8.reduceToNat]
        omega
      next => exact continuation_low _
    have high : value / 64 % 64 + 128 ≤
        (if value / 4096 % 16 + 224 = 0xED then (0x9F : UInt8) else 0xBF).toNat := by
      split
      next edge =>
        simp only [UInt8.reduceToNat]
        omega
      next => exact continuation_high _
    rw [scan_first (by omega) (by omega), start_several (by omega) (by omega), if_neg (by omega),
      if_pos (by omega), scan_middle (by omega) low high,
      scan_last (by omega) (continuation_low _) (continuation_high _)]
    refine congrArg (fun number => some (Char.ofNat number) :: Reader.boundary.scan rest) ?_
    omega
  next quadruple =>
    have low : (if value / 262144 % 8 + 240 = 0xF0 then (0x90 : UInt8) else 0x80).toNat ≤
        value / 4096 % 64 + 128 := by
      split
      next edge =>
        simp only [UInt8.reduceToNat]
        omega
      next => exact continuation_low _
    have high : value / 4096 % 64 + 128 ≤
        (if value / 262144 % 8 + 240 = 0xF4 then (0x8F : UInt8) else 0xBF).toNat := by
      split
      next edge =>
        simp only [UInt8.reduceToNat]
        omega
      next => exact continuation_high _
    rw [scan_first (by omega) (by omega), start_several (by omega) (by omega), if_neg (by omega),
      if_neg (by omega), scan_middle (by omega) low high,
      scan_middle (by omega) (continuation_low _) (continuation_high _),
      scan_last (by omega) (continuation_low _) (continuation_high _)]
    refine congrArg (fun number => some (Char.ofNat number) :: Reader.boundary.scan rest) ?_
    omega

theorem scan_encode (chars : List Char) :
    Reader.boundary.scan (chars.flatMap String.utf8EncodeChar) = chars.map some := by
  induction chars with
  | nil => rfl
  | cons char rest ih => rw [List.flatMap_cons, scan_encodeChar, ih, List.map_cons]

end Utf8

theorem decode_encode (text : String) : decode (encode text) = text := by
  rw [decode, scan, encode, Utf8.scan_encode, List.map_map]
  have same : (fun unit : Utf8.Unit => unit.getD replacement) ∘ some = id := rfl
  rw [same, List.map_id, String.ofList_toList]

theorem decode?_encode (text : String) : decode? (encode text) = some text := by
  have read (chars : List Char) : (chars.map some).mapM id = some chars := by
    induction chars with
    | nil => rfl
    | cons char rest ih => simp [ih]
  rw [decode?, scan, encode, Utf8.scan_encode, read, Option.map_some, String.ofList_toList]

theorem decode_ne_empty {bytes : Bytes} (some : bytes ≠ []) : decode bytes ≠ "" := by
  intro nothing
  have units := congrArg String.toList nothing
  have scanned := Utf8.scan_ne_nil .boundary bytes (.inr some)
  simp [decode, scan] at units
  exact scanned units

end Text

theorem Path.joinText_ne_nil (base : Path) {part : String} (some : Text.encode part ≠ []) :
    (base.joinText part).bytes ≠ [] := by
  unfold Path.joinText Path.join Path.ofText
  split_ifs <;> simp [some]

theorem Environment.python_display_ne_empty (storage : Path) (platform : Platform) :
    (Environment.python storage platform).display ≠ "" := by
  refine Text.decode_ne_empty (Path.joinText_ne_nil _ ?_)
  cases platform <;> decide

end AnsibleTooling
