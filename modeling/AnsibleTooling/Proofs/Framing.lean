import AnsibleTooling.Proofs.Display
import AnsibleTooling.Rpc.Frame

set_option autoImplicit false

namespace AnsibleTooling.Rpc.Frame

theorem header_append {size : Option Nat} {line bytes rest : Bytes} {found : Nat}
    (complete : header size line bytes = .complete found rest) (more : Bytes) :
    header size line (bytes ++ more) = .complete found (rest ++ more) ∧
      rest.length < bytes.length := by
  induction bytes generalizing size line with
  | nil => cases complete
  | cons byte bytes ih =>
    rw [List.cons_append]
    unfold header at complete ⊢
    split at complete
    next other =>
      obtain ⟨longer, shorter⟩ := ih complete
      exact ⟨by rw [if_pos other, longer], Nat.lt_succ_of_lt shorter⟩
    next ends =>
      rw [if_neg ends]
      split at complete
      next => cases complete
      next =>
        cases size with
        | none => cases complete
        | some size =>
          dsimp only at complete ⊢
          split at complete
          next fits =>
            cases complete
            exact ⟨if_pos fits, Nat.lt_succ_self _⟩
          next => cases complete
      next =>
        obtain ⟨longer, shorter⟩ := ih complete
        exact ⟨longer, Nat.lt_succ_of_lt shorter⟩
      next =>
        obtain ⟨longer, shorter⟩ := ih complete
        exact ⟨longer, Nat.lt_succ_of_lt shorter⟩

theorem read_append {bytes rest : Bytes} {text : String}
    (complete : read bytes = .complete text rest) (more : Bytes) :
    read (bytes ++ more) = .complete text (rest ++ more) ∧ rest.length < bytes.length := by
  unfold read at complete ⊢
  split at complete
  next => cases complete
  next => cases complete
  next size body headed =>
    obtain ⟨longer, shorter⟩ := header_append headed more
    rw [longer]
    split at complete
    next => cases complete
    next enough =>
      have enough : size ≤ body.length := Nat.not_lt.mp enough
      cases decodes : Text.decode? (body.take size) with
      | none =>
        rw [decodes] at complete
        cases complete
      | some found =>
        rw [decodes] at complete
        cases complete
        refine ⟨?_, ?_⟩
        · dsimp only
          rw [if_neg (by simp; omega), List.take_append_of_le_length enough, decodes,
            List.drop_append_of_le_length enough]
          rfl
        · rw [List.length_drop]
          omega

theorem readSome_enough {fuel : Nat} {bytes : Bytes} (enough : bytes.length < fuel) :
    readSome fuel bytes = readAll bytes := by
  have same (fuel : Nat) : ∀ (other : Nat) (bytes : Bytes), bytes.length < fuel ->
      bytes.length < other -> readSome fuel bytes = readSome other bytes := by
    induction fuel with
    | zero => intro _ _ none; omega
    | succ fuel ih =>
      intro other bytes first second
      cases other with
      | zero => omega
      | succ other =>
        unfold readSome
        split
        next => rfl
        next => rfl
        next text rest complete =>
          have shorter := (read_append complete []).2
          rw [ih other rest (by omega) (by omega)]
  exact same _ _ _ enough (Nat.lt_succ_self _)

theorem readAll_broken {bytes rest : Bytes} {text : String}
    (complete : read bytes = .complete text rest) (unfit : message? text = none) :
    readAll bytes = { bodies := [(text, none)], rest := [], isBroken := true } := by
  simp only [readAll, readSome, complete, unfit]

theorem readAll_next {bytes rest : Bytes} {text : String} {message : Message}
    (complete : read bytes = .complete text rest) (fits : message? text = some message) :
    readAll bytes =
      { readAll rest with bodies := (text, some message) :: (readAll rest).bodies } := by
  have shorter := (read_append complete []).2
  rw [← readSome_enough shorter]
  simp only [readAll, readSome, complete, fits]

-- A stream can be read in parts: what is left of the first comes before the second.
theorem readAll_append {bytes : Bytes} (intact : (readAll bytes).isBroken = false) (more : Bytes) :
    readAll (bytes ++ more) =
      { readAll ((readAll bytes).rest ++ more) with
        bodies := (readAll bytes).bodies ++ (readAll ((readAll bytes).rest ++ more)).bodies } := by
  induction long : bytes.length using Nat.strongRecOn generalizing bytes with
  | _ length ih =>
    cases reads : read bytes with
    | incomplete =>
      have nothing : readAll bytes = { bodies := [], rest := bytes, isBroken := false } := by
        simp only [readAll, readSome, reads]
      rw [nothing, List.nil_append]
    | broken =>
      simp [readAll, readSome, reads] at intact
    | complete text rest =>
      obtain ⟨longer, shorter⟩ := read_append reads more
      cases fits : message? text with
      | none => simp [readAll_broken reads fits] at intact
      | some message =>
        rw [readAll_next reads fits] at intact ⊢
        rw [readAll_next longer fits, ih rest.length (long ▸ shorter) intact rfl, List.cons_append]

def messages (stream : Bytes) : List Message :=
  (readAll stream).bodies.filterMap Prod.snd

theorem messages_append {stream : Bytes} (intact : (readAll stream).isBroken = false)
    (more : Bytes) :
    messages (stream ++ more) = messages stream ++ messages ((readAll stream).rest ++ more) := by
  rw [messages, readAll_append intact, List.filterMap_append]
  rfl

-- The line in front of a body, without its end.
def lengthLine (size : Nat) : String :=
  "Content-Length: " ++ size.repr

theorem write_eq (message : Message) :
    let body := Text.encode message.toJson.compact
    write message = (Text.encode (lengthLine body.length) ++ [carriageReturn]) ++
      lineFeed :: ([carriageReturn] ++ lineFeed :: body) := by
  have ends : Text.encode "\x0d\n\x0d\n" =
      [carriageReturn, lineFeed, carriageReturn, lineFeed] := by decide
  intro body
  have written : write message =
      Text.encode (lengthLine body.length) ++ Text.encode "\x0d\n\x0d\n" ++ body := by
    rw [← Text.encode_append]
    rfl
  simp [written, ends]

theorem header_skips {size : Option Nat} {taken line : Bytes} (inner : lineFeed ∉ line)
    (rest : Bytes) :
    header size taken (line ++ lineFeed :: rest) =
      header size (line.reverse ++ taken) (lineFeed :: rest) := by
  induction line generalizing taken with
  | nil => rfl
  | cons byte line ih =>
    rw [List.mem_cons, not_or] at inner
    have other : (byte != lineFeed) = true := by simpa using Ne.symm inner.1
    have taken_next : header size taken (byte :: (line ++ lineFeed :: rest)) =
        header size (byte :: taken) (line ++ lineFeed :: rest) := by
      conv =>
        lhs
        unfold header
      exact if_pos other
    rw [List.cons_append, taken_next, ih inner.2, List.reverse_cons, List.append_assoc]
    rfl

theorem header_length {old : Option Nat} {line : Bytes} {size : Nat} (inner : lineFeed ∉ line)
    (found : HeaderLine.ofBytes line = .length size) (rest : Bytes) :
    header old [] (line ++ lineFeed :: rest) = header (some size) [] rest := by
  rw [header_skips inner, List.append_nil]
  conv =>
    lhs
    unfold header
  rw [if_neg (by simp), List.reverse_reverse, found]

theorem header_blank {size : Nat} (short : size < sizeBound) (rest : Bytes) :
    header (some size) [] (carriageReturn :: lineFeed :: rest) = .complete size rest := by
  have blank : HeaderLine.ofBytes [carriageReturn] = .blank := rfl
  have inner : lineFeed ∉ [carriageReturn] := by decide
  have skips := @header_skips (some size) [] [carriageReturn] inner rest
  rw [List.singleton_append] at skips
  rw [skips, header, if_neg (by simp), List.append_nil, List.reverse_reverse, blank]
  exact if_pos short

theorem size?_toDigits {size : Nat} (small : size < sizeBound) :
    size? (Nat.toDigits 10 size) = some size := by
  have digits (char : Char) (there : char ∈ Nat.toDigits 10 size) : char.isDigit = true :=
    Nat.isDigit_of_mem_toDigits (by decide) (by decide) there
  have value : (Nat.toDigits 10 size).foldl
      (fun size digit => size * 10 + (digit.toNat - 48)) 0 = size := by
    have value := @Nat.ofDigitChars_toDigits 10 size (by decide) (by decide)
    simp only [Nat.ofDigitChars_eq_foldl, Nat.mul_comm 10] at value
    exact value
  have unsigned : (Nat.toDigits 10 size).head? ≠ some '+' := fun signed =>
    absurd (digits _ (List.mem_of_mem_head? signed)) (by decide)
  have large : size < Nat.pow 2 64 := Nat.lt_trans small (by decide)
  simp [size?, unsigned, value, large, Nat.toDigits_ne_nil]
  exact digits

theorem isLengthName_written : isLengthName "Content-Length".toList = true := by
  simp [isLengthName, lowerChar]

theorem ofBytes_lengthLine {size : Nat} (small : size < sizeBound) :
    HeaderLine.ofBytes (Text.encode (lengthLine size) ++ [carriageReturn]) = .length size := by
  have named : splitField (lengthLine size).toList =
      some ("Content-Length".toList, Nat.toDigits 10 size) := by
    simp [lengthLine, splitField, String.toList_append, Nat.toList_repr]
  have first : Text.encode "Content-Length: " ≠ [] := by decide
  have some : (Text.encode (lengthLine size)).isEmpty = false := by
    simp [lengthLine, Text.encode_append, first]
  simp only [HeaderLine.ofBytes, List.getLast?_concat, List.dropLast_concat, bne_self_eq_false,
    Bool.false_eq_true, if_false, some, Text.decode?_encode, Option.bind_some, named,
    isLengthName_written, if_true, size?_toDigits small]
  rfl

theorem digit_inner {char : Char} (digit : char.isDigit = true) :
    lineFeed ∉ String.utf8EncodeChar char := by
  obtain ⟨above, below⟩ : 48 ≤ char.val.toNat ∧ char.val.toNat ≤ 57 := by
    simpa [Char.isDigit, UInt32.le_iff_toNat_le] using digit
  unfold String.utf8EncodeChar
  dsimp only
  rw [if_pos (by omega), List.mem_singleton]
  intro same
  have same := congrArg UInt8.toNat same
  rw [Text.Utf8.toNat_ofNat_of_lt (by omega)] at same
  simp only [lineFeed, UInt8.reduceToNat] at same
  omega

theorem lengthLine_inner (size : Nat) : lineFeed ∉ Text.encode (lengthLine size) := by
  have name : lineFeed ∉ Text.encode "Content-Length: " := by decide
  rw [lengthLine, Text.encode_append, List.mem_append, not_or]
  refine ⟨name, ?_⟩
  rw [Text.encode, Nat.toList_repr, List.mem_flatMap]
  rintro ⟨char, there, feeds⟩
  exact digit_inner (Nat.isDigit_of_mem_toDigits (by decide) (by decide) there) feeds

def IsShort (message : Message) : Prop :=
  (Text.encode message.toJson.compact).length < sizeBound

-- What is written of a message is read as that message, whatever comes behind it.
theorem read_write {message : Message} (short : IsShort message) (rest : Bytes) :
    read (write message ++ rest) = .complete message.toJson.compact rest := by
  have inner (size : Nat) : lineFeed ∉ Text.encode (lengthLine size) ++ [carriageReturn] := by
    rw [List.mem_append, not_or]
    exact ⟨lengthLine_inner size, by decide⟩
  have headed : header none [] (write message ++ rest) =
      .complete (Text.encode message.toJson.compact).length
        (Text.encode message.toJson.compact ++ rest) := by
    rw [write_eq, List.append_assoc, List.cons_append,
      header_length (inner _) (ofBytes_lengthLine short)]
    exact header_blank short _
  rw [read, headed]
  dsimp only
  rw [if_neg (by simp), List.take_left, List.drop_left, Text.decode?_encode]
  rfl

-- Bodies one after the other, and what is left behind them.
inductive Reads : Bytes -> List String -> Bytes -> Prop
  | done (rest : Bytes) : Reads rest [] rest
  | next {bytes rest left : Bytes} {text : String} {texts : List String}
    (first : read bytes = .complete text rest) (others : Reads rest texts left) :
    Reads bytes (text :: texts) left

theorem reads_written {messages : List Message} (short : ∀ message ∈ messages, IsShort message)
    (rest : Bytes) :
    Reads (messages.flatMap write ++ rest) (messages.map fun message => message.toJson.compact)
      rest := by
  induction messages with
  | nil => exact .done rest
  | cons message messages ih =>
    rw [List.forall_mem_cons] at short
    rw [List.flatMap_cons, List.append_assoc]
    exact .next (read_write short.1 _) (ih short.2)

end AnsibleTooling.Rpc.Frame
