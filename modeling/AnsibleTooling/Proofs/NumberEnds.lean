import AnsibleTooling.Json.Parser
import Mathlib.Tactic.SplitIfs

set_option autoImplicit false

namespace AnsibleTooling.Json

/-- The value ends with a byte of its own. A number is over only where the next byte is none of
it. -/
def Value.EndsItself : Value -> Prop
  | .integer _ => False
  | .float _ => False
  | _ => True

/-- A reader whose value is the same with more bytes behind it, once it has ended: by itself, or
because something is left. -/
structure Steady (read : Parser.ItemReader) : Prop where
  append : ∀ {bytes : Bytes} {value : Value} {rest : Bytes},
    read bytes = .ok (value, rest) -> value.EndsItself ∨ rest ≠ [] ->
      ∀ extra, read (bytes ++ extra) = .ok (value, rest ++ extra)
  nil : ∀ {value : Value} {rest : Bytes},
    read [] = .ok (value, rest) -> ¬ (value.EndsItself ∨ rest ≠ [])

structure Cuts {A : Type} (cut : Bytes -> A × Bytes) : Prop where
  append : ∀ {bytes : Bytes}, (cut bytes).2 ≠ [] ->
    ∀ extra, cut (bytes ++ extra) = ((cut bytes).1, (cut bytes).2 ++ extra)
  nil : (cut []).2 = []

namespace Steady

theorem of_error {read : Parser.ItemReader}
    (fails : ∀ bytes, ∃ failure, read bytes = .error failure) : Steady read := by
  constructor
  · intro bytes value rest reads
    obtain ⟨failure, failed⟩ := fails bytes
    cases failed.symm.trans reads
  · intro value rest reads
    obtain ⟨failure, failed⟩ := fails []
    cases failed.symm.trans reads

theorem of_number {value : Value} (number : ¬ value.EndsItself) :
    Steady fun bytes => .ok (value, bytes) := by
  constructor
  · intro bytes read rest reads _ extra
    cases reads
    rfl
  · intro read rest reads
    cases reads
    simpa using number

theorem after {A : Type} {cut : Bytes -> A × Bytes} {next : A -> Parser.ItemReader}
    (cuts : Cuts cut) (steady : ∀ taken, Steady (next taken)) :
    Steady fun bytes => next (cut bytes).1 (cut bytes).2 := by
  constructor
  · intro bytes value rest reads ended extra
    by_cases left : (cut bytes).2 = []
    · -- What is made of nothing has not ended.
      rw [left] at reads
      exact absurd ended ((steady _).nil reads)
    · rw [cuts.append left]
      exact (steady _).append reads ended extra
  · intro value rest reads
    rw [cuts.nil] at reads
    exact (steady _).nil reads

theorem byHead {read other : Parser.ItemReader} (steady : Steady other) (nil : read [] = other [])
    (cons : ∀ byte, (∃ one, Steady one ∧ ∀ rest, read (byte :: rest) = one rest) ∨
      ∀ rest, read (byte :: rest) = other (byte :: rest)) :
    Steady read := by
  constructor
  · intro bytes value rest reads ended extra
    cases bytes with
    | nil =>
      rw [nil] at reads
      exact absurd ended (steady.nil reads)
    | cons byte bytes =>
      rcases cons byte with ⟨one, one_steady, taken⟩ | left
      · rw [taken] at reads
        rw [List.cons_append, taken]
        exact one_steady.append reads ended extra
      · rw [left] at reads
        rw [List.cons_append, left]
        exact steady.append reads ended extra
  · intro value rest reads
    rw [nil] at reads
    exact steady.nil reads

end Steady

namespace Number

theorem startsWithDigit_cuts : Cuts fun bytes => (startsWithDigit bytes, bytes) := by
  refine ⟨fun {bytes} left extra => ?_, rfl⟩
  cases bytes with
  | nil => exact absurd rfl left
  | cons byte rest => rfl

theorem dropDigits_cuts :
    Cuts fun bytes => ((bytes.length - (dropDigits bytes).length : Int), dropDigits bytes) := by
  refine ⟨fun {bytes} left extra => ?_, rfl⟩
  have shown : (dropDigits bytes).isEmpty = false := by simpa using left
  have kept : dropDigits (bytes ++ extra) = dropDigits bytes ++ extra :=
    List.dropWhile_append.trans (if_neg (by simpa [dropDigits] using shown))
  simp only [kept, List.length_append, Prod.mk.injEq, and_true]
  omega

theorem takeDigits_cuts (limit value count : Nat) :
    Cuts fun bytes =>
      let (value, count, rest) := takeDigits limit value count bytes
      ((value, count), rest) := by
  refine ⟨fun {bytes} left extra => ?_, rfl⟩
  induction bytes generalizing value count with
  | nil => exact absurd rfl left
  | cons byte rest ih =>
    simp only [takeDigits, List.cons_append] at left ⊢
    cases digit : digit? byte with
    | none => rfl
    | some number =>
      simp only [digit] at left ⊢
      split_ifs at left ⊢ with below
      · exact ih _ _ left
      · rfl

section

variable {one other : Parser.ItemReader}

theorem ifDigit_steady (one_steady : Steady one) (other_steady : Steady other) :
    Steady fun bytes => if startsWithDigit bytes then one bytes else other bytes :=
  @Steady.after Bool _ (fun more bytes => if more then one bytes else other bytes)
    startsWithDigit_cuts fun more => by cases more <;> simpa

theorem takeDigits_steady (limit value count : Nat) {next : Nat -> Nat -> Parser.ItemReader}
    (steady : ∀ value count, Steady (next value count)) :
    Steady fun bytes =>
      let (value, count, rest) := takeDigits limit value count bytes
      next value count rest :=
  @Steady.after (Nat × Nat) _ (fun taken => next taken.1 taken.2)
    (takeDigits_cuts limit value count) fun _ => steady ..

theorem dropDigits_steady {next : Parser.ItemReader} (steady : Steady next) :
    Steady fun bytes => next (dropDigits bytes) :=
  @Steady.after Int _ (fun _ => next) dropDigits_cuts fun _ => steady

end

section

variable (negative : Bool) (significand : Nat) (exponent : Int)

theorem ofParts_steady : Steady (ofParts negative significand exponent) := by
  unfold ofParts
  cases scaled? significand exponent with
  | none => exact .of_error fun _ => ⟨_, rfl⟩
  | some magnitude => exact .of_number id

def exponentDigits (down : Bool) (bytes : Bytes) : Reading (Value × Bytes) :=
  match bytes with
  | [] => failHere .missingValue []
  | byte :: after =>
    if (digit? byte).isNone then failHere .invalidNumber after
    else
      let (value, _, rest) := takeDigits exponentLimit 0 0 bytes
      if startsWithDigit rest then
        if significand != 0 && !down then failHere .numberOutOfRange (rest.drop 1)
        else .ok (.float (.finite negative .zero), dropDigits rest)
      else ofParts negative significand (if down then exponent - value else exponent + value) rest

theorem exponentDigits_steady (down : Bool) :
    Steady (exponentDigits negative significand exponent down) := by
  have past : Steady fun rest =>
      if significand != 0 && !down then failHere .numberOutOfRange (rest.drop 1)
      else .ok (.float (.finite negative .zero), dropDigits rest) := by
    split_ifs
    · exact .of_error fun _ => ⟨_, rfl⟩
    · exact dropDigits_steady (.of_number id)
  have taken := takeDigits_steady exponentLimit 0 0 fun value _ => ifDigit_steady past
    (ofParts_steady negative significand (if down then exponent - value else exponent + value))
  constructor
  · intro bytes value rest reads ended extra
    cases bytes with
    | nil => cases reads
    | cons byte after =>
      rw [List.cons_append]
      rw [exponentDigits] at reads ⊢
      by_cases missing : (digit? byte).isNone
      · rw [if_pos missing] at reads
        cases reads
      · rw [if_neg missing] at reads ⊢
        exact @taken.append (byte :: after) value rest reads ended extra
  · intro value rest reads
    cases reads

theorem exponentPart_steady : Steady (exponentPart negative significand exponent) := by
  have steady := exponentDigits_steady negative significand exponent
  refine .byHead (steady false) rfl fun byte => ?_
  by_cases plus : byte = 43
  · exact .inl ⟨_, steady false, fun rest => by rw [plus]; rfl⟩
  by_cases minus : byte = 45
  · exact .inl ⟨_, steady true, fun rest => by rw [minus]; rfl⟩
  exact .inr fun rest => by simp [exponentPart, exponentDigits, plus, minus]

theorem afterDigits_steady : Steady (afterDigits negative significand exponent) := by
  have marked := exponentPart_steady negative significand exponent
  refine .byHead (ofParts_steady negative significand exponent) rfl fun byte => ?_
  by_cases lower : byte = 101
  · exact .inl ⟨_, marked, fun rest => by rw [lower]; rfl⟩
  by_cases upper : byte = 69
  · exact .inl ⟨_, marked, fun rest => by rw [upper]; rfl⟩
  exact .inr fun rest => by simp [afterDigits, lower, upper]

def afterFraction (count : Nat) (rest : Bytes) : Reading (Value × Bytes) :=
  if startsWithDigit rest then afterDigits negative significand exponent (dropDigits rest)
  else if count == 0 then
    if rest.isEmpty then failNext .missingValue rest else failNext .invalidNumber rest
  else afterDigits negative significand exponent rest

theorem afterFraction_steady (count : Nat) :
    Steady (afterFraction negative significand exponent count) := by
  have steady := afterDigits_steady negative significand exponent
  refine ifDigit_steady (dropDigits_steady steady) ?_
  split_ifs
  · refine .of_error fun bytes => ?_
    split_ifs <;> exact ⟨_, rfl⟩
  · exact steady

theorem fractionPart_steady : Steady (fractionPart negative significand exponent) :=
  takeDigits_steady significandLimit significand 0 fun value count =>
    afterFraction_steady negative value (exponent - count) count

def afterInteger (bytes : Bytes) : Reading (Value × Bytes) :=
  match bytes with
  | 46 :: after => fractionPart negative significand exponent after
  | _ => afterDigits negative significand exponent bytes

theorem afterInteger_steady : Steady (afterInteger negative significand exponent) := by
  refine .byHead (afterDigits_steady negative significand exponent) rfl fun byte => ?_
  by_cases point : byte = 46
  · exact .inl ⟨_, fractionPart_steady .., fun rest => by rw [point]; rfl⟩
  exact .inr fun rest => by simp [afterInteger, point]

theorem longInteger_steady : Steady (longInteger negative significand) :=
  Steady.after dropDigits_cuts (afterInteger_steady negative significand)

theorem wholeNumber_open : ¬ (wholeNumber negative significand).EndsItself := by
  unfold wholeNumber
  split_ifs <;> exact id

def afterWhole (rest : Bytes) : Reading (Value × Bytes) :=
  if startsWithDigit rest then longInteger negative significand rest
  else
    match rest with
    | 46 :: more => fractionPart negative significand 0 more
    | 101 :: more => exponentPart negative significand 0 more
    | 69 :: more => exponentPart negative significand 0 more
    | _ => .ok (wholeNumber negative significand, rest)

theorem afterWhole_steady : Steady (afterWhole negative significand) := by
  refine ifDigit_steady (longInteger_steady negative significand) ?_
  have marked := exponentPart_steady negative significand 0
  refine .byHead (.of_number (wholeNumber_open negative significand)) rfl fun byte => ?_
  by_cases point : byte = 46
  · exact .inl ⟨_, fractionPart_steady negative significand 0, fun rest => by rw [point]; rfl⟩
  by_cases lower : byte = 101
  · exact .inl ⟨_, marked, fun rest => by rw [lower]; rfl⟩
  by_cases upper : byte = 69
  · exact .inl ⟨_, marked, fun rest => by rw [upper]; rfl⟩
  exact .inr fun rest => by simp [point, lower, upper]

theorem unsigned_cons_steady (byte : UInt8) :
    Steady fun rest => unsigned negative (byte :: rest) := by
  simp only [unsigned]
  cases digit? byte with
  | none => exact .of_error fun _ => ⟨_, rfl⟩
  | some first =>
    cases zero : first == 0 with
    | true =>
      simp only [zero, Bool.true_and, if_true]
      exact ifDigit_steady (.of_error fun _ => ⟨_, rfl⟩) (afterWhole_steady negative 0)
    | false =>
      simp only [zero, Bool.false_and, Bool.false_eq_true, if_false]
      exact takeDigits_steady _ _ _ fun significand _ => afterWhole_steady negative significand

theorem unsigned_steady : Steady (unsigned negative) := by
  constructor
  · intro bytes value rest reads ended extra
    cases bytes with
    | nil => cases reads
    | cons byte bytes => exact (unsigned_cons_steady negative byte).append reads ended extra
  · intro value rest reads
    cases reads

end

end Number

end AnsibleTooling.Json
