import AnsibleTooling.Proofs.Display
import AnsibleTooling.Proofs.Pointers
import Mathlib.Data.List.Sort
import Mathlib.Data.List.Nodup

set_option autoImplicit false

namespace AnsibleTooling

namespace Text

theorem ofNat_cons_lt {number other : Nat} {rest more : Bytes} (small : number < 256)
    (otherSmall : other < 256) :
    UInt8.ofNat number :: rest < UInt8.ofNat other :: more ↔
      number < other ∨ number = other ∧ rest < more := by
  rw [List.cons_lt_cons_iff, UInt8.lt_iff_toNat_lt, ← UInt8.toNat_inj,
    Utf8.toNat_ofNat_of_lt small, Utf8.toNat_ofNat_of_lt otherSmall]

theorem utf8EncodeChar_lt {char other : Char} (less : char < other) (rest more : Bytes) :
    String.utf8EncodeChar char ++ rest < String.utf8EncodeChar other ++ more := by
  have valid : other.toNat < 0xD800 ∨ 0xDFFF < other.toNat ∧ other.toNat < 0x110000 := other.valid
  have twice (number : Nat) : number / 4096 = number / 64 / 64 := by omega
  have thrice (number : Nat) : number / 262144 = number / 64 / 64 / 64 := by omega
  have lower : char.toNat < other.toNat := less
  unfold String.utf8EncodeChar
  rw [show char.val.toNat = char.toNat from rfl, show other.val.toNat = other.toNat from rfl]
  generalize char.toNat = value at lower
  generalize other.toNat = greater at lower valid
  simp only [twice, thrice]
  -- The first byte tells how many there are, and more of them make a greater character.
  split_ifs <;>
    simp (disch := omega) only [List.cons_append, List.nil_append, ofNat_cons_lt] <;> omega

theorem flatMap_encode_lt {chars others : List Char} (less : chars < others) :
    chars.flatMap String.utf8EncodeChar < others.flatMap String.utf8EncodeChar := by
  induction others generalizing chars with
  | nil => exact absurd less (List.not_lt_nil _)
  | cons other others ih =>
    rw [List.flatMap_cons]
    cases chars with
    | nil =>
      have begun : String.utf8EncodeChar other ≠ [] := String.utf8EncodeChar_ne_nil
      cases first : String.utf8EncodeChar other with
      | nil => exact absurd first begun
      | cons byte bytes => exact List.nil_lt_cons ..
    | cons char chars =>
      rw [List.flatMap_cons]
      rcases List.cons_lt_cons_iff.mp less with lower | ⟨rfl, later⟩
      · exact utf8EncodeChar_lt lower ..
      · exact List.append_left_lt (ih later)

theorem encode_lt_encode {text other : String} (less : text < other) :
    encode text < encode other :=
  flatMap_encode_lt (String.lt_iff.mp less)

end Text

namespace Json

def Ordered (members : List Member) : Prop :=
  members.Pairwise fun member later => member.1 < later.1

def HeldLast (members : List Member) (key : String) (value : Value) : Prop :=
  ∃ before after, members = before ++ (key, value) :: after ∧ key ∉ after.map Prod.fst

theorem mem_insertMember {key : String} {value : Value} {members : List Member} {member : Member}
    (inside : member ∈ insertMember key value members) :
    member = (key, value) ∨ member ∈ members := by
  induction members with
  | nil => exact .inl (List.mem_singleton.mp inside)
  | cons first rest ih =>
    obtain ⟨other, held⟩ := first
    simp only [insertMember] at inside
    split_ifs at inside with before same
    · exact List.mem_cons.mp inside
    · exact (List.mem_cons.mp inside).imp_right (List.mem_cons_of_mem _)
    · rcases List.mem_cons.mp inside with rfl | later
      · exact .inr List.mem_cons_self
      · exact (ih later).imp_right (List.mem_cons_of_mem _)

theorem Ordered.insertMember {members : List Member} (ordered : Ordered members) (key : String)
    (value : Value) : Ordered (insertMember key value members) := by
  induction members with
  | nil => exact List.pairwise_singleton ..
  | cons first rest ih =>
    obtain ⟨other, held⟩ := first
    obtain ⟨least, rest_ordered⟩ := List.pairwise_cons.mp ordered
    simp only [Json.insertMember]
    split_ifs with before same
    · refine List.pairwise_cons.mpr ⟨fun member inside => ?_, ordered⟩
      rcases List.mem_cons.mp inside with rfl | later
      · exact before
      · exact String.lt_trans before (least member later)
    · subst same
      exact List.pairwise_cons.mpr ⟨least, rest_ordered⟩
    · refine List.pairwise_cons.mpr ⟨fun member inside => ?_, ih rest_ordered⟩
      rcases mem_insertMember inside with rfl | later
      · exact Std.lt_of_le_of_ne (String.not_lt.mp before) (Ne.symm same)
      · exact least member later

theorem Ordered.distinct {members : List Member} (ordered : Ordered members) :
    (members.map Prod.fst).Nodup := by
  refine List.pairwise_map.mpr (List.Pairwise.imp ?_ ordered)
  intro member later less same
  exact String.lt_irrefl later.1 (same ▸ less)

theorem Ordered.ext {members others : List Member} (ordered : Ordered members)
    (others_ordered : Ordered others) (same : ∀ member, member ∈ members ↔ member ∈ others) :
    members = others := by
  refine List.Perm.eq_of_pairwise (fun _ _ _ _ less greater => ?_) ordered others_ordered
    ((List.perm_ext_iff_of_nodup ordered.distinct.of_map others_ordered.distinct.of_map).mpr same)
  exact absurd (String.lt_trans less greater) (String.lt_irrefl _)

theorem Ordered.get?_iff {members : List Member} (ordered : Ordered members) {key : String}
    {value : Value} : (Value.object members).get? key = some value ↔ (key, value) ∈ members := by
  induction members with
  | nil => simp [Value.get?]
  | cons first rest ih =>
    obtain ⟨other, held⟩ := first
    obtain ⟨least, rest_ordered⟩ := List.pairwise_cons.mp ordered
    rw [Value.get?_cons, List.mem_cons, Prod.mk.injEq]
    split_ifs with same
    · subst same
      have alone : (key, value) ∉ rest := fun later => String.lt_irrefl key (least _ later)
      simp [alone, eq_comm]
    · simp [same, ih rest_ordered]

section

variable {members : List Member} {key : String} {value : Value}

theorem heldLast_concat {other : String} {held : Value} :
    HeldLast (members ++ [(other, held)]) key value ↔
      if key = other then value = held else HeldLast members key value := by
  constructor
  · rintro ⟨before, after, cut, last⟩
    rcases List.eq_nil_or_concat' after with rfl | ⟨after, final, rfl⟩
    · obtain ⟨-, same⟩ := List.append_inj' cut rfl
      obtain ⟨rfl, rfl⟩ : other = key ∧ held = value := by simpa using same
      simp
    · rw [← List.cons_append, ← List.append_assoc] at cut
      obtain ⟨earlier, same⟩ := List.append_inj' cut rfl
      obtain rfl : (other, held) = final := by simpa using same
      obtain ⟨unheld, apart⟩ : key ∉ after.map Prod.fst ∧ key ≠ other := by
        simpa [not_or] using last
      rw [if_neg apart]
      exact ⟨before, after, earlier, unheld⟩
  · split_ifs with same
    · rintro rfl
      exact ⟨members, [], by rw [same], List.not_mem_nil⟩
    · rintro ⟨before, after, rfl, last⟩
      refine ⟨before, after ++ [(other, held)], by simp, ?_⟩
      simpa [not_or, same] using last

theorem get?_ofMembers_iff :
    (Value.ofMembers members).get? key = some value ↔ HeldLast members key value := by
  induction members using List.reverseRec with
  | nil => simp [Value.ofMembers, Value.get?, HeldLast]
  | append_singleton earlier last ih =>
    obtain ⟨other, held⟩ := last
    rw [Value.get?_ofMembers_concat, heldLast_concat]
    split_ifs with same
    · exact Option.some_inj.trans eq_comm
    · exact ih

theorem heldLast_of_nodup (distinct : (members.map Prod.fst).Nodup) :
    HeldLast members key value ↔ (key, value) ∈ members := by
  rw [← get?_ofMembers_iff, Value.get?_ofMembers distinct]

theorem exists_heldLast : (∃ value, HeldLast members key value) ↔ key ∈ members.map Prod.fst := by
  induction members using List.reverseRec with
  | nil => simp [HeldLast]
  | append_singleton earlier last ih =>
    obtain ⟨other, held⟩ := last
    simp only [heldLast_concat]
    split_ifs with same <;> simp [same, ← ih]

end

theorem foldl_insertMember_ordered (members : List Member) {sorted : List Member}
    (ordered : Ordered sorted) :
    Ordered (members.foldl (fun sorted (key, value) => insertMember key value sorted) sorted) := by
  induction members generalizing sorted with
  | nil => exact ordered
  | cons member rest ih => exact ih (ordered.insertMember ..)

theorem ofMembers_eq (members : List Member) :
    ∃ kept, Value.ofMembers members = .object kept ∧ Ordered kept ∧
      ∀ key value, (key, value) ∈ kept ↔ HeldLast members key value := by
  have ordered := foldl_insertMember_ordered members List.Pairwise.nil
  exact ⟨_, rfl, ordered, fun key value => by rw [← ordered.get?_iff, ← get?_ofMembers_iff]; rfl⟩

end Json

end AnsibleTooling
