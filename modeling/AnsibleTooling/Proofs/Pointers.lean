import AnsibleTooling.Json.Pointer
import Mathlib.Data.List.Induction

set_option autoImplicit false

namespace AnsibleTooling.Json

namespace Value

theorem get?_cons (wanted other : String) (held : Value) (rest : List Member) :
    (object ((other, held) :: rest)).get? wanted =
      if wanted = other then some held else (object rest).get? wanted := by
  simp only [get?]
  by_cases same : wanted = other
  · rw [List.find?_cons_of_pos (by simp [same]), if_pos same]
    rfl
  · rw [List.find?_cons_of_neg (by simp [Ne.symm same]), if_neg same]

theorem get?_insertMember (key wanted : String) (value : Value) (members : List Member) :
    (object (insertMember key value members)).get? wanted =
      if wanted = key then some value else (object members).get? wanted := by
  induction members with
  | nil => exact get?_cons ..
  | cons member rest ih =>
    obtain ⟨other, held⟩ := member
    simp only [insertMember]
    split
    next => rw [get?_cons]
    next =>
      split
      next equal =>
        subst equal
        rw [get?_cons, get?_cons]
        by_cases same : wanted = key <;> simp only [same, if_true, if_false]
      next apart =>
        rw [get?_cons, get?_cons, ih]
        by_cases same : wanted = other
        · subst same
          simp only [if_true, Ne.symm apart, if_false]
        · simp only [same, if_false]

theorem get?_ofMembers_concat (key wanted : String) (value : Value) (members : List Member) :
    (ofMembers (members ++ [(key, value)])).get? wanted =
      if wanted = key then some value else (ofMembers members).get? wanted := by
  unfold ofMembers
  rw [List.foldl_append]
  exact get?_insertMember ..

theorem get?_ofMembers {members : List Member} (distinct : (members.map Prod.fst).Nodup)
    {key : String} {value : Value} :
    (ofMembers members).get? key = some value ↔ (key, value) ∈ members := by
  induction members using List.reverseRec with
  | nil => simp [ofMembers, get?]
  | append_singleton earlier last ih =>
    obtain ⟨other, held⟩ := last
    rw [List.map_append, List.nodup_append] at distinct
    obtain ⟨distinct, _, apart⟩ := distinct
    rw [get?_ofMembers_concat, List.mem_append, List.mem_singleton, Prod.mk.injEq]
    split
    next same =>
      subst same
      have unheld : (key, value) ∉ earlier := fun member =>
        apart key (List.mem_map_of_mem member) key (by simp) rfl
      simp [unheld, eq_comm]
    next other => simp [ih distinct, other]

end Value

namespace Pointer

theorem splitAtChar_eq (separator : Char) (chars : List Char) :
    splitAtChar separator chars = chars.splitOn separator := by
  rw [List.splitOn_eq_splitOnP]
  induction chars with
  | nil => rfl
  | cons char rest ih =>
    rw [splitAtChar, ih, List.splitOnP_cons_eq_if_modifyHead]
    cases parts : rest.splitOnP (· == separator) with
    | nil => exact (List.splitOnP_ne_nil _ _ parts).elim
    | cons part others => rfl

section

variable {code char : Char} {token : List Char}

theorem replacePair_eq_self (plain : '~' ∉ token) : replacePair code char token = token := by
  fun_induction replacePair code char token with
  | case1 | case2 => simp at plain
  | case3 other rest _ ih => rw [ih (List.not_mem_of_not_mem_cons plain)]
  | case4 => rfl

theorem mem_replacePair {kept : Char} (uncoded : kept ≠ code) (plain : kept ≠ '~')
    (member : kept ∈ token) : kept ∈ replacePair code char token := by
  fun_induction replacePair code char token with
  | case1 next rest isCode ih =>
    obtain rfl := eq_of_beq isCode
    simp_all
  | case2 next rest _ ih => simp_all
  | case3 other rest _ ih => simpa using (List.mem_cons.mp member).imp_right ih
  | case4 => simp at member

theorem replacePair_shows (coded : '~' ∈ token) :
    '~' ∈ replacePair code char token ∨ char ∈ replacePair code char token := by
  fun_induction replacePair code char token with
  | case1 | case2 => simp
  | case3 other rest _ ih =>
    rcases List.mem_cons.mp coded with rfl | later
    · simp
    · simpa using (ih later).imp (List.mem_cons_of_mem _) (List.mem_cons_of_mem _)
  | case4 => simp at coded

theorem unescape_eq {name : String} (unmarked : '~' ∉ name.toList) (undivided : '/' ∉ name.toList) :
    unescape token = name ↔ token = name.toList := by
  by_cases coded : '~' ∈ token
  · -- The name has neither of what an escape stands for.
    have shows : '~' ∈ (unescape token).toList ∨ '/' ∈ (unescape token).toList := by
      simp only [unescape, String.toList_ofList]
      rcases @replacePair_shows '1' '/' token coded with marked | divided
      · exact .inl ((replacePair_shows marked).elim id id)
      · exact .inr (mem_replacePair (by decide) (by decide) divided)
    constructor
    · rintro rfl
      exact absurd shows (by simp [unmarked, undivided])
    · rintro rfl
      exact absurd coded unmarked
  · rw [unescape, @replacePair_eq_self '1' '/' token coded, replacePair_eq_self coded]
    exact ⟨fun same => by simp [← same], fun same => by simp [same]⟩

end

end Pointer

end AnsibleTooling.Json
