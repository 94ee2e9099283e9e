import AnsibleTooling.Proofs.Gating
import Mathlib.Data.Bool.AllAny

set_option autoImplicit false

namespace AnsibleTooling

def Path.namesFrom (directory path : Path) : List Bytes :=
  let parts := if path.isAbsolute then path.parts else directory.parts ++ path.parts
  parts.filter fun part => !part.isEmpty && part != here

theorem Path.names_eq (path : Path) :
    path.names = (Files.nameSteps path).filter (· != here) := by
  simp [names, Files.nameSteps, List.filter_filter, Bool.and_comm]

theorem Path.names_absolute (directory path : Path) :
    (Path.absolute directory path).names = namesFrom directory path := by
  unfold namesFrom absolute
  cases rooted : path.isAbsolute with
  | true => simp [join, rooted, names]
  | false =>
    rw [names_eq, Files.nameSteps_join rooted]
    simp [Files.nameSteps, List.filter_filter, Bool.and_comm]

namespace Uri

def hexDigit? (char : Char) : Option Nat :=
  if '0' ≤ char ∧ char ≤ '9' then some (char.toNat - 48)
  else if 'A' ≤ char ∧ char ≤ 'F' then some (char.toNat - 55)
  else if 'a' ≤ char ∧ char ≤ 'f' then some (char.toNat - 87)
  else none

def percentDecode : List Char -> Bytes
  | [] => []
  | '%' :: high :: low :: rest =>
    match hexDigit? high, hexDigit? low with
    | some first, some second => UInt8.ofNat (first * 16 + second) :: percentDecode rest
    | _, _ => 37 :: percentDecode (high :: low :: rest)
  | char :: rest => String.utf8EncodeChar char ++ percentDecode rest

def segments (uri : String) : List (List Char) :=
  ((uri.toList.drop scheme.length).splitOn '/').filter (· != [])

theorem encodeByte_plain (byte : UInt8) : isPlain byte = true ->
    String.utf8EncodeChar (Char.ofNat byte.toNat) = [byte] ∧ Char.ofNat byte.toNat ≠ '%' := by
  revert byte
  exact forall_byte (by decide +kernel)

theorem upperDigit_hex (byte : UInt8) :
    hexDigit? (upperDigit (byte.toNat / 16)) = some (byte.toNat / 16) ∧
      hexDigit? (upperDigit (byte.toNat % 16)) = some (byte.toNat % 16) := by
  revert byte
  exact forall_byte (by decide +kernel)

theorem hexDigit?_percent : hexDigit? '%' = none := by decide

theorem encodeByte_chars (byte : UInt8) : ∀ char ∈ encodeByte byte,
    char.toNat < 128 ∧ char ∉ [' ', '?', '#', '/'] := by
  refine List.all_iff_forall_prop.mp ?_
  revert byte
  exact forall_byte (by decide +kernel)

theorem percentDecode_cons {char : Char} (plain : char ≠ '%') (rest : List Char) :
    percentDecode (char :: rest) = String.utf8EncodeChar char ++ percentDecode rest := by
  rw [percentDecode]
  simp [plain]

theorem percentDecode_encodeByte (byte : UInt8) (rest : List Char) :
    percentDecode (encodeByte byte ++ rest) = byte :: percentDecode rest := by
  unfold encodeByte
  split
  next plain =>
    obtain ⟨single, unmarked⟩ := encodeByte_plain byte plain
    rw [List.singleton_append, percentDecode_cons unmarked, single]
    rfl
  next =>
    obtain ⟨high, low⟩ := upperDigit_hex byte
    simp only [List.cons_append, List.nil_append, percentDecode, high, low]
    rw [Nat.div_add_mod']
    simp

theorem percentDecode_encode (name : Bytes) : percentDecode (name.flatMap encodeByte) = name := by
  induction name with
  | nil => rfl
  | cons byte rest ih => rw [List.flatMap_cons, percentDecode_encodeByte, ih]

theorem encode_ne_nil {name : Bytes} (named : name ≠ []) : name.flatMap encodeByte ≠ [] := by
  intro nothing
  have back := percentDecode_encode name
  rw [nothing] at back
  exact named back.symm

theorem encode_chars {name : Bytes} {char : Char} (member : char ∈ name.flatMap encodeByte) :
    char.toNat < 128 ∧ char ∉ [' ', '?', '#', '/'] := by
  obtain ⟨byte, _, inByte⟩ := List.mem_flatMap.mp member
  exact encodeByte_chars byte char inByte

theorem flatMap_eq_intercalate (separator first : List Char) (parts : List (List Char)) :
    first ++ parts.flatMap (separator ++ ·) = separator.intercalate (first :: parts) := by
  induction parts generalizing first with
  | nil => simp
  | cons part rest ih => simp [List.intercalate_cons_cons, ← ih]

theorem toList_ofNames (names : List Bytes) : (ofNames names).toList =
    scheme.toList ++ if names.isEmpty then ['/'] else names.flatMap encodeName := by
  rw [ofNames, String.toList_append]
  split
  · rfl
  · rw [String.toList_ofList]

theorem segments_ofNames {names : List Bytes} (named : ∀ name ∈ names, name ≠ []) :
    segments (ofNames names) = names.map (·.flatMap encodeByte) := by
  rw [segments, toList_ofNames, ← String.length_toList, List.drop_left]
  cases names with
  | nil => decide
  | cons name rest =>
    have parts : (name :: rest).flatMap encodeName =
        ['/'].intercalate ([] :: (name :: rest).map (·.flatMap encodeByte)) := by
      rw [← flatMap_eq_intercalate, List.nil_append, List.flatMap_map]
      rfl
    have undivided : ∀ part ∈ [] :: (name :: rest).map (·.flatMap encodeByte), '/' ∉ part := by
      simp only [List.forall_mem_cons, List.not_mem_nil, not_false_eq_true, true_and]
      rintro part member divided
      obtain ⟨_, _, rfl⟩ := List.mem_map.mp member
      exact (encode_chars divided).2 (by simp)
    rw [List.isEmpty_cons, if_neg Bool.false_ne_true, parts,
      List.splitOn_intercalate '/' undivided (by simp), List.filter_cons_of_neg (by simp),
      List.filter_eq_self]
    rintro part member
    obtain ⟨_, isName, rfl⟩ := List.mem_map.mp member
    simpa using encode_ne_nil (named _ isName)

theorem decode_segments {names : List Bytes} (named : ∀ name ∈ names, name ≠ []) :
    (segments (ofNames names)).map percentDecode = names := by
  rw [segments_ofNames named, List.map_map]
  have same : percentDecode ∘ (fun name : Bytes => name.flatMap encodeByte) = id :=
    funext percentDecode_encode
  rw [same, List.map_id]

def Escaped (chars : List Char) : Prop :=
  ∀ after, '%' :: after <:+ chars -> ∃ high low more,
    after = high :: low :: more ∧ (hexDigit? high).isSome ∧ (hexDigit? low).isSome

theorem escaped_nil : Escaped [] := by
  intro after ends
  simp at ends

theorem Escaped.cons {chars : List Char} (escaped : Escaped chars) {char : Char}
    (plain : char ≠ '%') : Escaped (char :: chars) := by
  intro after ends
  rcases List.suffix_cons_iff.mp ends with same | later
  · cases same
    contradiction
  · exact escaped after later

theorem Escaped.escape {chars : List Char} (escaped : Escaped chars) {high low : Char}
    (first : (hexDigit? high).isSome) (second : (hexDigit? low).isSome) :
    Escaped ('%' :: high :: low :: chars) := by
  have digit {char : Char} (hex : (hexDigit? char).isSome) : char ≠ '%' := by
    rintro rfl
    rw [hexDigit?_percent] at hex
    cases hex
  intro after ends
  rcases List.suffix_cons_iff.mp ends with same | later
  · cases same
    exact ⟨high, low, chars, rfl, first, second⟩
  · exact (escaped.cons (digit second)).cons (digit first) after later

theorem Escaped.encodeByte {chars : List Char} (escaped : Escaped chars) (byte : UInt8) :
    Escaped (encodeByte byte ++ chars) := by
  unfold Uri.encodeByte
  split
  next plain => exact escaped.cons (encodeByte_plain byte plain).2
  next =>
    obtain ⟨high, low⟩ := upperDigit_hex byte
    exact escaped.escape (by simp [high]) (by simp [low])

theorem Escaped.encode {chars : List Char} (escaped : Escaped chars) (name : Bytes) :
    Escaped (name.flatMap Uri.encodeByte ++ chars) := by
  induction name with
  | nil => exact escaped
  | cons byte rest ih =>
    rw [List.flatMap_cons, List.append_assoc]
    exact ih.encodeByte byte

theorem Escaped.append {chars : List Char} (escaped : Escaped chars) {plain : List Char}
    (unmarked : '%' ∉ plain) : Escaped (plain ++ chars) := by
  induction plain with
  | nil => exact escaped
  | cons char rest ih =>
    rw [List.mem_cons, not_or] at unmarked
    exact (ih unmarked.2).cons (Ne.symm unmarked.1)

theorem escaped_names (names : List Bytes) : Escaped (names.flatMap encodeName) := by
  induction names with
  | nil => exact escaped_nil
  | cons name rest ih => exact (ih.encode name).cons (by decide)

theorem escaped_ofNames (names : List Bytes) : Escaped (ofNames names).toList := by
  rw [toList_ofNames]
  refine Escaped.append ?_ (by decide)
  split
  · exact escaped_nil.cons (by decide)
  · exact escaped_names names

theorem chars_ofNames (names : List Bytes) :
    ∀ char ∈ (ofNames names).toList, char.toNat < 128 ∧ char ∉ [' ', '?', '#'] := by
  have marks : ∀ char ∈ scheme.toList ++ ['/'], char.toNat < 128 ∧ char ∉ [' ', '?', '#'] :=
    List.all_iff_forall_prop.mp (by decide)
  intro char member
  rw [toList_ofNames, List.mem_append] at member
  rcases member with inScheme | inNames
  · exact marks char (List.mem_append_left _ inScheme)
  · split at inNames
    · exact marks char (List.mem_append_right _ inNames)
    · obtain ⟨name, _, inName⟩ := List.mem_flatMap.mp inNames
      rcases List.mem_cons.mp inName with rfl | encoded
      · exact marks '/' (by decide)
      · obtain ⟨ascii, unmarked⟩ := encode_chars encoded
        exact ⟨ascii, by simp_all⟩

def EndsInExtension (segment : List Char) : Prop :=
  ∃ stem extension, segment = stem ++ extension ∧ stem ≠ [] ∧
    extension.map Char.toLower ∈ [".yml".toList, ".yaml".toList]

theorem encodeByte_letter (byte : UInt8) : 97 ≤ (Server.lowerByte byte).toNat ->
    (Server.lowerByte byte).toNat ≤ 122 ->
    (encodeByte byte).map Char.toLower = [Char.ofNat (Server.lowerByte byte).toNat] := by
  revert byte
  exact forall_byte (by decide +kernel)

theorem encode_letters {name : Bytes}
    (letters : ∀ byte ∈ name.map Server.lowerByte, 97 ≤ byte.toNat ∧ byte.toNat ≤ 122) :
    (name.flatMap encodeByte).map Char.toLower =
      (name.map Server.lowerByte).map fun byte => Char.ofNat byte.toNat := by
  induction name with
  | nil => rfl
  | cons byte rest ih =>
    rw [List.map_cons, List.forall_mem_cons] at letters
    rw [List.flatMap_cons, List.map_append, encodeByte_letter byte letters.1.1 letters.1.2,
      ih letters.2]
    rfl

theorem endsInExtension_of_isAnsible {document : Path} (concerned : Gating.IsAnsible document) :
    ∃ name, document.fileName? = some name ∧ EndsInExtension (name.flatMap encodeByte) := by
  obtain ⟨stem, extension, named, some, fits⟩ := concerned
  refine ⟨_, named, stem.flatMap encodeByte, '.' :: extension.flatMap encodeByte, ?_,
    encode_ne_nil some, ?_⟩
  · rw [List.flatMap_append, List.flatMap_cons]
    rfl
  · have lower : (extension.flatMap encodeByte).map Char.toLower =
        (extension.map Server.lowerByte).map fun byte => Char.ofNat byte.toNat := by
      refine encode_letters (List.all_iff_forall_prop.mp ?_)
      rcases fits with fits | fits <;> rw [fits] <;> decide
    rw [List.map_cons, lower]
    rcases fits with fits | fits <;> rw [fits] <;> decide

/-- What a URI is, by the names on the way to its document. -/
structure Identifies (names : List Bytes) (uri : String) : Prop where
  schemed : scheme.toList <+: uri.toList
  decoded : (segments uri).map percentDecode = names
  ascii : ∀ char ∈ uri.toList, char.toNat < 128 ∧ char ∉ [' ', '?', '#']
  escaped : Escaped uri.toList

theorem named_namesFrom (directory path : Path) :
    ∀ name ∈ Path.namesFrom directory path, name ≠ [] := by
  intro name member
  have kept := (List.mem_filter.mp member).2
  rintro rfl
  cases kept

theorem document_eq (directory path : Path) :
    document directory path = ofNames (Path.namesFrom directory path) := by
  rw [document, Path.names_absolute]

theorem ofNames_inj {names others : List Bytes} (named : ∀ name ∈ names, name ≠ [])
    (alsoNamed : ∀ name ∈ others, name ≠ []) : ofNames names = ofNames others ↔ names = others := by
  refine ⟨fun same => ?_, congrArg ofNames⟩
  rw [← decode_segments named, same, decode_segments alsoNamed]

theorem getLast?_namesFrom {directory path : Path} {name : Bytes}
    (named : path.fileName? = some name) :
    (Path.namesFrom directory path).getLast? = some name := by
  have last : path.names.getLast? = some name := by
    unfold Path.fileName? at named
    split at named
    next found => split at named <;> simp_all
    next => cases named
  unfold Path.namesFrom
  split
  · exact last
  · rw [List.filter_append, List.getLast?_append]
    change path.names.getLast?.or _ = _
    rw [last]
    rfl

theorem document_identifies (directory path : Path) :
    Identifies (Path.namesFrom directory path) (document directory path) ∧
      (∀ place other, document directory path = document place other ↔
        Path.namesFrom directory path = Path.namesFrom place other) ∧
      (Server.isAnsibleDocument path = true -> ∃ last,
        (segments (document directory path)).getLast? = some last ∧ EndsInExtension last) ∧
      ∀ (S : Type) (world : World S), world.workPath = directory ->
        path.isAbsolute = true ∨ world.hasWorkDir = true ->
        Session.documentUri world path = .ok (document directory path) := by
  have named := named_namesFrom directory path
  refine ⟨?_, fun place other => ?_, fun concerned => ?_, ?_⟩
  · rw [document_eq]
    refine ⟨?_, decode_segments named, chars_ofNames _, escaped_ofNames _⟩
    rw [toList_ofNames]
    exact List.prefix_append _ _
  · rw [document_eq, document_eq, ofNames_inj named (named_namesFrom place other)]
  · obtain ⟨name, isName, ends⟩ :=
      endsInExtension_of_isAnsible ((Gating.isAnsibleDocument_iff path).mp concerned)
    rw [document_eq, segments_ofNames named, List.getLast?_map, getLast?_namesFrom isName]
    exact ⟨_, rfl, ends⟩
  · rintro S world rfl reachable
    rw [Session.documentUri, if_pos (by simpa using reachable)]

example : document (Path.ofText "/srv/a b") (Path.ofText "./../%/é.YML/") =
    "file:///srv/a%20b/../%25/%C3%A9.YML" := by decide +kernel

end Uri

end AnsibleTooling
