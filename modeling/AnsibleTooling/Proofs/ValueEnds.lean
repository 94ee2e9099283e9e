import AnsibleTooling.Proofs.NumberEnds
import Mathlib.Data.List.TakeWhile

set_option autoImplicit false

namespace AnsibleTooling.Json

theorem Reading.bind_ok {A B : Type} {reading : Reading A} {next : A -> Reading B} {result : B} :
    reading >>= next = .ok result ↔ ∃ read, reading = .ok read ∧ next read = .ok result := by
  cases reading with
  | error failure => simp [bind, Except.bind]
  | ok read => simp [bind, Except.bind]

/-- The reader's own last byte ends what it reads, so that bytes behind it stay where they are. -/
def Closes {A : Type} (read : Bytes -> Reading (A × Bytes)) : Prop :=
  ∀ ⦃bytes : Bytes⦄ ⦃result : A⦄ ⦃rest : Bytes⦄, read bytes = .ok (result, rest) ->
    ∀ extra, read (bytes ++ extra) = .ok (result, rest ++ extra)

/-- Bytes behind what the reader leaves stay where they are, if it leaves any. -/
def Extends {A : Type} (read : Bytes -> Reading (A × Bytes)) : Prop :=
  ∀ ⦃bytes : Bytes⦄ ⦃result : A⦄ ⦃rest : Bytes⦄, read bytes = .ok (result, rest) -> rest ≠ [] ->
    ∀ extra, read (bytes ++ extra) = .ok (result, rest ++ extra)

theorem Extends.bind {A B : Type} {read : Bytes -> Reading (A × Bytes)}
    {next longer : A -> Bytes -> Reading (B × Bytes)} (extends_read : Extends read) {extra : Bytes}
    (unread : ∀ first result, next first [] ≠ .ok result)
    (extends_next : ∀ {first bytes result rest}, next first bytes = .ok (result, rest) ->
      longer first (bytes ++ extra) = .ok (result, rest ++ extra))
    {bytes : Bytes} {result : B} {rest : Bytes}
    (reads : (do
      let (first, rest) <- read bytes
      next first rest) = .ok (result, rest)) :
    (do
      let (first, rest) <- read (bytes ++ extra)
      longer first rest) = .ok (result, rest ++ extra) := by
  obtain ⟨⟨first, left⟩, first_read, reads⟩ := Reading.bind_ok.mp reads
  have left_some : left ≠ [] := by
    rintro rfl
    exact unread _ _ reads
  exact Reading.bind_ok.mpr ⟨_, extends_read first_read left_some extra, extends_next reads⟩

namespace Parser

theorem skipSpace_append {bytes : Bytes} {byte : UInt8} {rest : Bytes}
    (found : skipSpace bytes = byte :: rest) (extra : Bytes) :
    skipSpace (bytes ++ extra) = byte :: (rest ++ extra) := by
  have shown : (List.dropWhile isSpace bytes).isEmpty = false := by
    rw [← skipSpace, found]
    rfl
  rw [skipSpace, List.dropWhile_append, if_neg (by simp [shown]), ← skipSpace, found]
  rfl

theorem skipSpace_reads {A : Type} {problem : Problem} {next : UInt8 -> Bytes -> Reading A}
    {bytes : Bytes} {result : A}
    (reads : (match skipSpace bytes with
      | [] => failNext problem []
      | byte :: rest => next byte rest) = .ok result) :
    ∃ byte rest, next byte rest = .ok result ∧
      ∀ extra, skipSpace (bytes ++ extra) = byte :: (rest ++ extra) := by
  cases found : skipSpace bytes with
  | nil =>
    rw [found] at reads
    cases reads
  | cons byte rest =>
    rw [found] at reads
    exact ⟨byte, rest, reads, skipSpace_append found⟩

theorem codeUnit_closes : Closes codeUnit := by
  intro bytes unit rest reads extra
  match bytes with
  | [] | [_] | [_, _] | [_, _, _] => cases reads
  | a :: b :: c :: d :: more =>
    simp only [codeUnit, List.cons_append] at reads ⊢
    split at reads
    next digits found =>
      cases reads
      rfl
    next => cases reads

theorem expectByte_append {byte : UInt8} {bytes rest : Bytes}
    (reads : expectByte byte bytes = .ok rest) (extra : Bytes) :
    expectByte byte (bytes ++ extra) = .ok (rest ++ extra) := by
  cases bytes with
  | nil => cases reads
  | cons next more =>
    simp only [expectByte, List.cons_append] at reads ⊢
    split_ifs at reads ⊢
    · cases reads
      rfl
    · cases reads

theorem unicodeEscape_closes : Closes unicodeEscape := by
  intro bytes char rest reads extra
  obtain ⟨⟨unit, more⟩, first, reads⟩ := Reading.bind_ok.mp reads
  refine Reading.bind_ok.mpr ⟨_, codeUnit_closes first extra, ?_⟩
  dsimp only at reads ⊢
  split_ifs at reads ⊢ with low high
  · cases reads
  · obtain ⟨slash, slash_read, reads⟩ := Reading.bind_ok.mp reads
    obtain ⟨letter, letter_read, reads⟩ := Reading.bind_ok.mp reads
    obtain ⟨⟨second, last⟩, second_read, reads⟩ := Reading.bind_ok.mp reads
    refine Reading.bind_ok.mpr ⟨_, expectByte_append slash_read extra, ?_⟩
    refine Reading.bind_ok.mpr ⟨_, expectByte_append letter_read extra, ?_⟩
    refine Reading.bind_ok.mpr ⟨_, codeUnit_closes second_read extra, ?_⟩
    dsimp only at reads ⊢
    split_ifs at reads ⊢ with paired
    · obtain ⟨rfl, rfl⟩ := Prod.mk.inj (Except.ok.inj reads)
      rfl
    · cases reads
  · obtain ⟨rfl, rfl⟩ := Prod.mk.inj (Except.ok.inj reads)
    rfl

theorem escape_closes : Closes escape := by
  intro bytes char rest reads extra
  cases bytes with
  | nil => cases reads
  | cons byte more =>
    simp only [escape, List.cons_append] at reads ⊢
    split at reads
    case h_9 => exact unicodeEscape_closes reads extra
    case h_10 => cases reads
    all_goals
      obtain ⟨rfl, rfl⟩ := Prod.mk.inj (Except.ok.inj reads)
      rfl

theorem textEnd_append {fuel : Nat} {taken bytes : Bytes} {text : String} {rest : Bytes}
    (reads : textEnd fuel taken bytes = .ok (text, rest)) (more : Nat) (extra : Bytes) :
    textEnd (fuel + more) taken (bytes ++ extra) = .ok (text, rest ++ extra) := by
  induction fuel generalizing taken bytes with
  | zero => cases reads
  | succ fuel ih =>
    rw [Nat.add_right_comm]
    cases bytes with
    | nil => cases reads
    | cons byte bytes =>
      simp only [textEnd, List.cons_append] at reads ⊢
      split_ifs at reads ⊢ with quote slash control
      · cases reads
        rfl
      · obtain ⟨⟨char, behind⟩, escaped, reads⟩ := Reading.bind_ok.mp reads
        exact Reading.bind_ok.mpr ⟨_, escape_closes escaped extra, ih reads⟩
      · cases reads
      · exact ih reads

theorem length_append_succ (bytes extra : Bytes) :
    (bytes ++ extra).length + 1 = bytes.length + 1 + extra.length := by
  rw [List.length_append]
  omega

theorem textAfterQuote_closes : Closes textAfterQuote := by
  intro bytes text rest reads extra
  rw [textAfterQuote, length_append_succ]
  exact textEnd_append reads extra.length extra

theorem word_closes (value : Value) (letters : List Char) : Closes (word value letters) := by
  intro bytes result rest reads extra
  induction letters generalizing bytes with
  | nil =>
    cases reads
    rfl
  | cons letter letters ih =>
    cases bytes with
    | nil => cases reads
    | cons byte bytes =>
      simp only [word, List.cons_append] at reads ⊢
      split_ifs at reads ⊢
      · exact ih reads
      · cases reads

section

variable {item : ItemReader} (steady : Steady item)
include steady

theorem items_append {fuel : Nat} {first : Bool} {taken : List Value} {bytes : Bytes}
    {value : Value} {rest : Bytes}
    (reads : items item fuel first taken bytes = .ok (value, rest)) (more : Nat) (extra : Bytes) :
    items item (fuel + more) first taken (bytes ++ extra) = .ok (value, rest ++ extra) := by
  induction fuel generalizing first taken bytes value rest with
  | zero => cases reads
  | succ fuel ih =>
    have extends_item : Extends item := fun _ _ _ reads some => steady.append reads (.inr some)
    have unread (value : Value) (result : Value × Bytes) :
        items item fuel false (value :: taken) [] ≠ .ok result := by
      cases fuel <;> exact nofun
    rw [Nat.add_right_comm]
    simp only [items] at reads ⊢
    obtain ⟨byte, behind, reads, longer⟩ := skipSpace_reads reads
    rw [longer]
    dsimp only at reads ⊢
    split_ifs at reads ⊢ with closed start comma
    · cases reads
      rfl
    · exact extends_item.bind unread ih reads
    · obtain ⟨after, later, reads, longer⟩ := skipSpace_reads reads
      rw [longer]
      dsimp only at reads ⊢
      split_ifs at reads ⊢ with trailing
      · cases reads
      · exact extends_item.bind unread ih reads
    · cases reads

theorem member_extends : Extends (member item) := by
  intro bytes result rest reads some extra
  cases bytes with
  | nil => cases reads
  | cons byte behind =>
    simp only [member, List.cons_append] at reads ⊢
    split_ifs at reads ⊢ with quote brace
    · obtain ⟨⟨key, left⟩, key_read, reads⟩ := Reading.bind_ok.mp reads
      refine Reading.bind_ok.mpr ⟨_, textAfterQuote_closes key_read extra, ?_⟩
      dsimp only at reads ⊢
      obtain ⟨colon, after, reads, longer⟩ := skipSpace_reads reads
      rw [longer]
      dsimp only at reads ⊢
      split_ifs at reads ⊢
      · obtain ⟨⟨value, last⟩, value_read, reads⟩ := Reading.bind_ok.mp reads
        cases reads
        exact Reading.bind_ok.mpr ⟨_, steady.append value_read (.inr some) extra, rfl⟩
      · cases reads
    · cases reads
    · cases reads

theorem members_append {fuel : Nat} {first : Bool} {taken : List Member} {bytes : Bytes}
    {value : Value} {rest : Bytes}
    (reads : members item fuel first taken bytes = .ok (value, rest)) (more : Nat)
    (extra : Bytes) :
    members item (fuel + more) first taken (bytes ++ extra) = .ok (value, rest ++ extra) := by
  induction fuel generalizing first taken bytes value rest with
  | zero => cases reads
  | succ fuel ih =>
    have unread (member : Member) (result : Value × Bytes) :
        members item fuel false (member :: taken) [] ≠ .ok result := by
      cases fuel <;> exact nofun
    rw [Nat.add_right_comm]
    simp only [members] at reads ⊢
    obtain ⟨byte, behind, reads, longer⟩ := skipSpace_reads reads
    rw [longer]
    dsimp only at reads ⊢
    split_ifs at reads ⊢ with closed start comma
    · cases reads
      rfl
    · exact (member_extends steady).bind unread ih reads
    · cases next : skipSpace behind with
      | nil =>
        rw [next] at reads
        cases reads
      | cons after later =>
        rw [skipSpace_append next]
        rw [next] at reads
        exact (member_extends steady).bind unread ih reads
    · cases reads

end

theorem value_steady (depth : Nat) : Steady (value depth) := by
  induction depth using Nat.strongRecOn with
  | _ depth ih =>
    constructor
    · intro bytes result rest reads ended extra
      unfold value at reads ⊢
      obtain ⟨byte, behind, reads, longer⟩ := skipSpace_reads reads
      rw [longer]
      dsimp only at reads ⊢
      -- The first byte tells what is read, and for a container how many may be open, whether it is.
      split at reads
      next => exact word_closes _ _ reads extra
      next => exact word_closes _ _ reads extra
      next => exact word_closes _ _ reads extra
      next => exact (Number.unsigned_steady true).append reads ended extra
      next =>
        obtain ⟨⟨text, left⟩, text_read, reads⟩ := Reading.bind_ok.mp reads
        cases reads
        exact Reading.bind_ok.mpr ⟨_, textAfterQuote_closes text_read extra, rfl⟩
      next =>
        rw [length_append_succ]
        exact items_append (ih _ (by omega)) reads extra.length extra
      next =>
        rw [length_append_succ]
        exact members_append (ih _ (by omega)) reads extra.length extra
      next => cases reads
      next => cases reads
      next =>
        split_ifs at reads ⊢
        · exact (Number.unsigned_steady false).append reads ended extra
        · cases reads
    · intro result rest reads
      unfold value at reads
      cases reads

end Parser

theorem parseWritten_ok {document : Bytes} {value : Value} :
    parseWritten document = .ok value ↔
      ∃ rest, Parser.value depthLimit document = .ok (value, rest) ∧ Parser.skipSpace rest = [] := by
  rw [parseWritten, Reading.bind_ok]
  constructor
  · rintro ⟨⟨read, rest⟩, value_read, reads⟩
    dsimp only at reads
    split_ifs at reads with blank
    · cases reads
      exact ⟨rest, value_read, List.isEmpty_iff.mp blank⟩
    · cases reads
  · rintro ⟨rest, value_read, blank⟩
    exact ⟨_, value_read, if_pos (List.isEmpty_iff.mpr blank)⟩

theorem parseWritten_append {document : Bytes} {value : Value}
    (reads : parseWritten document = .ok value) (ended : value.EndsItself) (extra : Bytes) :
    parseWritten (document ++ extra) =
      if extra.all Parser.isSpace then .ok value
      else failNext .trailingCharacters (Parser.skipSpace extra) := by
  obtain ⟨rest, value_read, blank⟩ := parseWritten_ok.mp reads
  have longer := (Parser.value_steady depthLimit).append value_read (.inl ended) extra
  have behind : Parser.skipSpace (rest ++ extra) = Parser.skipSpace extra :=
    List.dropWhile_append.trans (if_pos (List.isEmpty_iff.mpr blank))
  have spaces : (Parser.skipSpace extra).isEmpty = extra.all Parser.isSpace := by
    rw [Bool.eq_iff_iff, List.isEmpty_iff, Parser.skipSpace, List.dropWhile_eq_nil_iff,
      List.all_eq_true]
  rw [parseWritten, longer, ← spaces]
  simp only [bind, Except.bind, behind]

end AnsibleTooling.Json
