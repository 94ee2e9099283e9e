import AnsibleTooling.Json.Printer
import AnsibleTooling.Proofs.Display
import AnsibleTooling.Proofs.ValueEnds
import Mathlib.Tactic.IntervalCases

set_option autoImplicit false

namespace AnsibleTooling

namespace Text

theorem encode_ofList (chars : List Char) : encode (String.ofList chars) = encodeChars chars := by
  rw [encode, String.toList_ofList]
  rfl

theorem encodeChars_append (chars others : List Char) :
    encodeChars (chars ++ others) = encodeChars chars ++ encodeChars others :=
  List.flatMap_append

end Text

namespace Json

def ofTexts (texts : List (String × String)) : List Member :=
  texts.map fun (key, text) => (key, .text text)

namespace Parser

theorem isSpace_ofNat {number : Nat} (small : number < 256) :
    isSpace (UInt8.ofNat number) = true ↔ number ∈ [32, 10, 9, 13] := by
  have same (byte : UInt8) : UInt8.ofNat number = byte ↔ number = byte.toNat := by
    rw [← UInt8.toNat_inj, Text.Utf8.toNat_ofNat_of_lt small]
  simp [isSpace, same, or_assoc]

theorem isSpace_utf8EncodeChar (char : Char) :
    (String.utf8EncodeChar char).all isSpace = true ↔ char ∈ [' ', '\n', '\t', '\r'] := by
  have named (other : Char) : char = other ↔ char.toNat = other.toNat := Char.toNat_inj.symm
  simp only [List.mem_cons, List.not_mem_nil, or_false, named]
  unfold String.utf8EncodeChar
  rw [show char.val.toNat = char.toNat from rfl]
  generalize char.toNat = number
  dsimp only
  -- Of several bytes the first is past all white space.
  split_ifs <;> simp only [List.all_cons, List.all_nil, Bool.and_true, Bool.and_eq_true]
  · rw [isSpace_ofNat (by omega)]
    simp
  all_goals
    rw [isSpace_ofNat (by omega)]
    simp only [List.mem_cons, List.not_mem_nil, or_false, Char.reduceToNat]
    omega

theorem isSpace_encode (text : String) :
    (Text.encode text).all isSpace = true ↔
      ∀ char ∈ text.toList, char ∈ [' ', '\n', '\t', '\r'] := by
  rw [Text.encode, List.all_flatMap, List.all_eq_true]
  exact forall₂_congr fun char _ => isSpace_utf8EncodeChar char

def Plain (byte : UInt8) : Prop :=
  byte ≠ 34 ∧ byte ≠ 92 ∧ ¬ byte < 32

theorem plain_ofNat {number : Nat} (small : number < 256) (printed : 32 ≤ number)
    (quote : number ≠ 34) (slash : number ≠ 92) : Plain (UInt8.ofNat number) := by
  have back := Text.Utf8.toNat_ofNat_of_lt small
  refine ⟨fun same => quote ?_, fun same => slash ?_, ?_⟩
  · rw [← back, same]
    rfl
  · rw [← back, same]
    rfl
  · rw [UInt8.lt_iff_toNat_lt, back]
    exact Nat.not_lt.mpr printed

theorem plain_utf8EncodeChar {char : Char} (printed : 32 ≤ char.toNat) (quote : char ≠ '"')
    (slash : char ≠ '\\') : ∀ byte ∈ String.utf8EncodeChar char, Plain byte := by
  have apart {other : Char} (differs : char ≠ other) : char.toNat ≠ other.toNat := fun same =>
    differs (Char.toNat_inj.mp same)
  have quote_number : char.toNat ≠ 34 := apart quote
  have slash_number : char.toNat ≠ 92 := apart slash
  unfold String.utf8EncodeChar
  rw [show char.val.toNat = char.toNat from rfl]
  generalize char.toNat = number at printed quote_number slash_number
  dsimp only
  -- Where there are several bytes, each is at least 128.
  split_ifs <;>
    simp (disch := omega) only [List.mem_cons, List.not_mem_nil, or_false, forall_eq_or_imp,
      forall_eq, plain_ofNat, and_self]

theorem escape_control {number : Nat} (small : number < 32) (rest : Bytes) :
    escape (Text.encodeChars (['u', '0', '0'] ++ byteDigits number) ++ rest) =
      .ok (Char.ofNat number, rest) := by
  interval_cases number <;> rfl

theorem escapeChar_cases (char : Char) :
    (escapeChar char = [char] ∧ ∀ byte ∈ String.utf8EncodeChar char, Plain byte) ∨
      ∃ code, escapeChar char = '\\' :: code ∧
        ∀ rest, escape (Text.encodeChars code ++ rest) = .ok (char, rest) := by
  have named {number : Nat} (same : char.toNat = number) : Char.ofNat number = char := by
    rw [← same, Char.ofNat_toNat]
  unfold escapeChar
  split_ifs with quote slash newline carriage tab backspace feed control
  · exact .inr ⟨['"'], rfl, fun rest => by rw [eq_of_beq quote]; rfl⟩
  · exact .inr ⟨['\\'], rfl, fun rest => by rw [eq_of_beq slash]; rfl⟩
  · exact .inr ⟨['n'], rfl, fun rest => by rw [eq_of_beq newline]; rfl⟩
  · exact .inr ⟨['r'], rfl, fun rest => by rw [eq_of_beq carriage]; rfl⟩
  · exact .inr ⟨['t'], rfl, fun rest => by rw [eq_of_beq tab]; rfl⟩
  · exact .inr ⟨['b'], rfl, fun rest => by rw [← named (eq_of_beq backspace)]; rfl⟩
  · exact .inr ⟨['f'], rfl, fun rest => by rw [← named (eq_of_beq feed)]; rfl⟩
  · exact .inr ⟨['u', '0', '0'] ++ byteDigits char.toNat, rfl, fun rest => by
      rw [escape_control control, Char.ofNat_toNat]⟩
  · exact .inl ⟨rfl, plain_utf8EncodeChar (Nat.not_lt.mp control) (by simpa using quote)
      (by simpa using slash)⟩

theorem textEnd_plain {bytes : Bytes} (plain : ∀ byte ∈ bytes, Plain byte) (fuel : Nat)
    (taken rest : Bytes) :
    textEnd (fuel + bytes.length) taken (bytes ++ rest) =
      textEnd fuel (bytes.reverse ++ taken) rest := by
  induction bytes generalizing taken with
  | nil => rfl
  | cons byte bytes ih =>
    obtain ⟨⟨quote, slash, control⟩, others⟩ := List.forall_mem_cons.mp plain
    rw [List.length_cons, ← Nat.add_assoc, List.cons_append, textEnd, if_neg (by simpa using quote),
      if_neg (by simpa using slash), if_neg control, ih others, List.reverse_cons,
      List.append_assoc]
    rfl

theorem textEnd_more {fuel : Nat} {taken bytes : Bytes} {text : String} {rest : Bytes}
    (reads : textEnd fuel taken bytes = .ok (text, rest)) (more : Nat) :
    textEnd (fuel + more) taken bytes = .ok (text, rest) := by
  simpa using textEnd_append reads more []

theorem textEnd_escapeChar {fuel : Nat} {char : Char} {taken rest : Bytes} {text : String}
    {left : Bytes}
    (reads : textEnd fuel ((String.utf8EncodeChar char).reverse ++ taken) rest = .ok (text, left)) :
    textEnd (fuel + (Text.encodeChars (escapeChar char)).length) taken
      (Text.encodeChars (escapeChar char) ++ rest) = .ok (text, left) := by
  rcases escapeChar_cases char with ⟨same, plain⟩ | ⟨code, coded, escapes⟩
  · have bytes : Text.encodeChars (escapeChar char) = String.utf8EncodeChar char := by
      rw [same]
      exact List.append_nil _
    rw [bytes, textEnd_plain plain]
    exact reads
  · have bytes : Text.encodeChars (escapeChar char) = 92 :: Text.encodeChars code := by
      rw [coded]
      rfl
    rw [bytes, List.length_cons, Nat.add_comm _ 1, ← Nat.add_assoc]
    refine textEnd_more ?_ _
    exact Reading.bind_ok.mpr ⟨_, escapes rest, reads⟩

theorem textEnd_written (chars : List Char) (fuel : Nat) (taken rest : Bytes) :
    textEnd (fuel + 1 + (Text.encodeChars (chars.flatMap escapeChar)).length) taken
        (Text.encodeChars (chars.flatMap escapeChar) ++ 34 :: rest) =
      .ok (Text.decode (taken.reverse ++ Text.encodeChars chars), rest) := by
  induction chars generalizing taken fuel with
  | nil => simp [textEnd, Text.encodeChars]
  | cons char chars ih =>
    rw [List.flatMap_cons, Text.encodeChars_append, List.length_append, List.append_assoc,
      Nat.add_comm (Text.encodeChars (escapeChar char)).length, ← Nat.add_assoc]
    refine textEnd_escapeChar ((ih ..).trans ?_)
    simp [Text.encodeChars]

theorem textAfterQuote_written (text : String) (rest : Bytes) :
    textAfterQuote (Text.encodeChars (text.toList.flatMap escapeChar) ++ 34 :: rest) =
      .ok (text, rest) := by
  have written := textEnd_written text.toList (rest.length + 1) [] rest
  have fuel : (Text.encodeChars (text.toList.flatMap escapeChar) ++ 34 :: rest).length + 1 =
      rest.length + 1 + 1 + (Text.encodeChars (text.toList.flatMap escapeChar)).length := by
    rw [List.length_append, List.length_cons]
    omega
  rw [textAfterQuote, fuel, written]
  exact congrArg (fun read => Except.ok (read, rest)) (Text.decode_encode text)

theorem encode_renderText (text : String) :
    Text.encode (renderText text) =
      34 :: (Text.encodeChars (text.toList.flatMap escapeChar) ++ [34]) := by
  rw [renderText, Text.encode_ofList, Text.encodeChars_append, Text.encodeChars_append]
  rfl

theorem skipSpace_quoted (text : String) (rest : Bytes) :
    skipSpace (Text.encode (renderText text) ++ rest) = Text.encode (renderText text) ++ rest := by
  rw [encode_renderText]
  rfl

theorem value_written (depth : Nat) (text : String) (rest : Bytes) :
    value depth (Text.encode (renderText text) ++ rest) = .ok (.text text, rest) := by
  unfold value
  rw [skipSpace_quoted, encode_renderText, List.cons_append, List.append_assoc]
  exact Reading.bind_ok.mpr ⟨_, textAfterQuote_written text rest, rfl⟩

theorem member_written (depth : Nat) (key text : String) (rest : Bytes) :
    member (value depth)
        (Text.encode (renderText key) ++ 58 :: (Text.encode (renderText text) ++ rest)) =
      .ok ((key, .text text), rest) := by
  rw [encode_renderText, List.cons_append, List.append_assoc]
  refine Reading.bind_ok.mpr ⟨_, textAfterQuote_written key _, ?_⟩
  exact Reading.bind_ok.mpr ⟨_, value_written depth text rest, rfl⟩

theorem encode_renderMembers (key text : String) (texts : List (String × String)) :
    Text.encode (renderMembers .compact 0 (ofTexts ((key, text) :: texts))) =
      44 :: (Text.encode (renderText key) ++ 58 :: (Text.encode (renderText text) ++
        Text.encode (renderMembers .compact 0 (ofTexts texts)))) := by
  have comma : Text.encode "," = [44] := rfl
  have colon : Text.encode ":" = [58] := rfl
  simp only [ofTexts, List.map_cons, renderMembers, render, Layout.compact, Text.encode_append,
    comma, colon, List.append_assoc, List.cons_append, List.nil_append]

theorem members_written (depth : Nat) {fuel : Nat} (texts : List (String × String))
    (enough : texts.length < fuel) (taken : List Member) (rest : Bytes) :
    members (value depth) fuel false taken
        (Text.encode (renderMembers .compact 0 (ofTexts texts)) ++ 125 :: rest) =
      .ok (.object (taken.reverse ++ ofTexts texts), rest) := by
  induction texts generalizing fuel taken with
  | nil =>
    obtain ⟨fuel, rfl⟩ := Nat.exists_eq_add_one_of_ne_zero (Nat.ne_of_gt enough)
    rw [ofTexts, List.map_nil, List.append_nil]
    rfl
  | cons first texts ih =>
    obtain ⟨key, text⟩ := first
    obtain ⟨fuel, rfl⟩ := Nat.exists_eq_add_one_of_ne_zero (Nat.ne_zero_of_lt enough)
    have others := ih (Nat.lt_of_succ_lt_succ enough) ((key, .text text) :: taken)
    rw [List.reverse_cons, List.append_assoc] at others
    have first_read := member_written depth key text
      (Text.encode (renderMembers .compact 0 (ofTexts texts)) ++ 125 :: rest)
    rw [encode_renderMembers, List.cons_append, List.append_assoc, List.cons_append,
      List.append_assoc]
    rw [← skipSpace_quoted] at first_read
    exact Reading.bind_ok.mpr ⟨_, first_read, others⟩

theorem members_quoted (item : ItemReader) (fuel : Nat) (taken : List Member) (key : String)
    (rest : Bytes) :
    members item (fuel + 1) true taken (Text.encode (renderText key) ++ rest) = (do
      let (first, left) <- member item (Text.encode (renderText key) ++ rest)
      members item fuel false (first :: taken) left) := by
  rw [encode_renderText]
  rfl

theorem value_object (depth : Nat) (rest : Bytes) :
    value (depth + 2) (123 :: rest) =
      members (value (depth + 1)) (rest.length + 1) true [] rest := by
  rw [value]
  rfl

theorem length_le_renderMembers (texts : List (String × String)) :
    texts.length ≤ (Text.encode (renderMembers .compact 0 (ofTexts texts))).length := by
  induction texts with
  | nil => exact Nat.zero_le _
  | cons first texts ih =>
    obtain ⟨key, text⟩ := first
    rw [encode_renderMembers]
    simp only [List.length_cons, List.length_append]
    omega

theorem encode_compact (key text : String) (texts : List (String × String)) :
    Text.encode (Value.object (ofTexts ((key, text) :: texts))).compact =
      123 :: (Text.encode (renderText key) ++ 58 :: (Text.encode (renderText text) ++
        (Text.encode (renderMembers .compact 0 (ofTexts texts)) ++ [125]))) := by
  have opened : Text.encode "\x7b" = [123] := rfl
  have closed : Text.encode "\x7d" = [125] := rfl
  have colon : Text.encode ":" = [58] := rfl
  have nothing : Text.encode "" = [] := rfl
  simp only [ofTexts, List.map_cons, Value.compact, render, Layout.compact, Text.encode_append,
    opened, closed, colon, nothing, List.append_assoc, List.cons_append, List.nil_append]

end Parser

theorem parseWritten_compact (texts : List (String × String)) :
    parseWritten (Text.encode (Value.object (ofTexts texts)).compact) =
      .ok (.object (ofTexts texts)) := by
  refine parseWritten_ok.mpr ⟨[], ?_, rfl⟩
  cases texts with
  | nil => rfl
  | cons first texts =>
    obtain ⟨key, text⟩ := first
    rw [Parser.encode_compact]
    generalize behind : Text.encode (renderMembers .compact 0 (ofTexts texts)) ++ [125] = rest
    have enough : texts.length < (Text.encode (renderText key) ++
        58 :: (Text.encode (renderText text) ++ rest)).length := by
      have bound := Parser.length_le_renderMembers texts
      simp only [← behind, List.length_append, List.length_cons]
      omega
    have first_read := Parser.member_written 127 key text rest
    have others := Parser.members_written 127 texts enough [(key, .text text)] []
    rw [behind] at others
    refine (Parser.value_object 126 _).trans ?_
    rw [Parser.members_quoted]
    exact Reading.bind_ok.mpr ⟨_, first_read, others⟩

end Json

end AnsibleTooling
