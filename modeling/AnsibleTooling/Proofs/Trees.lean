import AnsibleTooling.Toml.Basic
import Mathlib.Data.List.Forall2
import Mathlib.Data.List.Nodup

set_option autoImplicit false

namespace AnsibleTooling.Toml

def names (entries : List Entry) : List String :=
  entries.map fun entry => entry.1.name

inductive Node.Tidy : Node -> Prop
  | scalar (value : Scalar) (span : Span) : Tidy (.scalar value span)
  | array {items : List Node} {span : Span} (each : ∀ item ∈ items, Tidy item) :
    Tidy (.array items span)
  | table {origin : Origin} {span : Option Span} {entries : List Entry}
    (distinct : (names entries).Nodup) (each : ∀ entry ∈ entries, Tidy entry.2) :
    Tidy (.table origin span entries)
  | tables {items : List Node} (each : ∀ item ∈ items, Tidy item) : Tidy (.tables items)

structure Tidy (entries : List Entry) : Prop where
  distinct : (names entries).Nodup
  each : ∀ entry ∈ entries, entry.2.Tidy

theorem tidy_table {origin : Origin} {span : Option Span} {entries : List Entry} :
    (Node.table origin span entries).Tidy ↔ Tidy entries := by
  constructor
  · rintro ⟨⟩
    constructor <;> assumption
  · intro tidy
    exact .table tidy.distinct tidy.each

theorem tidy_tables {items : List Node} :
    (Node.tables items).Tidy ↔ ∀ item ∈ items, item.Tidy := by
  constructor
  · rintro ⟨⟩
    assumption
  · exact .tables

theorem tidy_nil : Tidy [] := by
  constructor <;> simp [names]

theorem hasKey_iff {name : String} {entries : List Entry} :
    hasKey name entries = true ↔ name ∈ names entries := by
  simp only [hasKey, names, List.any_eq_true, beq_iff_eq, List.mem_map]

section

variable {key : Key} {node : Node} {entries : List Entry}

theorem Tidy.concat (tidy : Tidy entries) (fresh : hasKey key.name entries = false)
    (nodeTidy : node.Tidy) : Tidy (entries ++ [(key, node)]) := by
  constructor
  · have absent : key.name ∉ names entries := by rw [<- hasKey_iff, fresh]; simp
    simp only [names, List.map_append, List.map_cons, List.map_nil]
    exact (List.nodup_append_comm.mp (List.nodup_cons.mpr ⟨absent, tidy.distinct⟩))
  · intro entry member
    rcases List.mem_append.mp member with earlier | last
    · exact tidy.each entry earlier
    · rw [List.mem_singleton.mp last]
      exact nodeTidy

theorem Tidy.filter (tidy : Tidy entries) (keep : Entry -> Bool) : Tidy (entries.filter keep) := by
  constructor
  · exact tidy.distinct.sublist (List.filter_sublist.map _)
  · intro entry member
    exact tidy.each entry (List.mem_filter.mp member).1

theorem find?_cons {name : String} :
    find? name ((key, node) :: entries) =
      if key.name = name then some node else find? name entries := by
  by_cases same : key.name = name
  · simp [find?, List.find?_cons_of_pos, same]
  · simp [find?, List.find?_cons_of_neg, same]

theorem find?_eq_none_iff {name : String} : find? name entries = none ↔ name ∉ names entries := by
  simp [find?, names]

theorem find?_eq_some_iff {name : String} (distinct : (names entries).Nodup) :
    find? name entries = some node ↔ ∃ entry ∈ entries, entry.1.name = name ∧ entry.2 = node := by
  induction entries with
  | nil => simp [find?]
  | cons entry rest ih =>
    obtain ⟨unnamed, distinct⟩ := List.nodup_cons.mp distinct
    rw [find?_cons, List.exists_mem_cons_iff, <- ih distinct]
    by_cases same : entry.1.name = name
    · -- No later entry has the key.
      have absent : find? name rest ≠ some node := by
        intro found
        obtain ⟨other, member, isName, _⟩ := (ih distinct).mp found
        exact unnamed (List.mem_map.mpr ⟨other, member, isName.trans same.symm⟩)
      simp [same, absent]
    · simp [same]

theorem Tidy.found {name : String} (tidy : Tidy entries) (found : find? name entries = some node) :
    node.Tidy := by
  obtain ⟨entry, isEntry, rfl⟩ := Option.map_eq_some_iff.mp found
  exact tidy.each entry (List.mem_of_find?_eq_some isEntry)

end

inductive Node.Alike : Node -> Node -> Prop
  | scalar (value : Scalar) (span other : Span) : Alike (.scalar value span) (.scalar value other)
  | array {items others : List Node} {span other : Span} (each : List.Forall₂ Alike items others) :
    Alike (.array items span) (.array others other)
  | table {entries moved others : List Entry} {origin other : Origin} {span place : Option Span}
    (reordered : entries.Perm moved) (named : names moved = names others)
    (each : List.Forall₂ Alike (moved.map Prod.snd) (others.map Prod.snd)) :
    Alike (.table origin span entries) (.table other place others)
  | tables {items others : List Node} (each : List.Forall₂ Alike items others) :
    Alike (.tables items) (.tables others)

def Entry.Alike (entry other : Entry) : Prop :=
  entry.1.name = other.1.name ∧ entry.2.Alike other.2

def Alike (entries others : List Entry) : Prop :=
  ∃ moved, entries.Perm moved ∧ List.Forall₂ Entry.Alike moved others

theorem forall₂_alike {entries others : List Entry} :
    List.Forall₂ Entry.Alike entries others ↔ names entries = names others ∧
      List.Forall₂ Node.Alike (entries.map Prod.snd) (others.map Prod.snd) := by
  induction entries generalizing others with
  | nil => cases others <;> simp [names]
  | cons entry rest ih =>
    cases others with
    | nil => simp [names]
    | cons other others =>
      simp only [List.forall₂_cons, ih, Entry.Alike, names, List.map_cons, List.cons.injEq]
      tauto

theorem alike_table {entries others : List Entry} {origin other : Origin}
    {span place : Option Span} :
    (Node.table origin span entries).Alike (.table other place others) ↔ Alike entries others := by
  constructor
  · rintro (_ | _ | ⟨reordered, named, each⟩)
    exact ⟨_, reordered, forall₂_alike.mpr ⟨named, each⟩⟩
  · rintro ⟨moved, reordered, each⟩
    obtain ⟨named, each⟩ := forall₂_alike.mp each
    exact .table reordered named each

theorem forall₂_right {A B : Type} {R : A -> B -> Prop} {P : B -> Prop} {items : List A}
    {others : List B} (each : List.Forall₂ R items others)
    (leads : ∀ item ∈ items, ∀ other, R item other -> P other) : ∀ other ∈ others, P other := by
  induction each with
  | nil => simp
  | cons related _ ih =>
    rw [List.forall_mem_cons] at leads ⊢
    exact ⟨leads.1 _ related, ih leads.2⟩

theorem Node.Tidy.alike {node other : Node} (tidy : node.Tidy) (alike : node.Alike other) :
    other.Tidy := by
  induction tidy generalizing other with
  | scalar =>
    cases alike
    exact .scalar ..
  | array _ ih =>
    cases alike with
    | array each => exact .array (forall₂_right each fun item member _ => ih item member)
  | tables _ ih =>
    cases alike with
    | tables each => exact .tables (forall₂_right each fun item member _ => ih item member)
  | table distinct _ ih =>
    cases alike with
    | table reordered named each =>
      refine .table (named ▸ (reordered.map _).nodup_iff.mp distinct) ?_
      have each := forall₂_right each fun node member other => by
        obtain ⟨entry, isEntry, rfl⟩ := List.mem_map.mp member
        exact @ih entry (reordered.mem_iff.mpr isEntry) other
      exact fun entry member => each entry.2 (List.mem_map_of_mem member)

section

variable {entries others : List Entry}

theorem Tidy.alike (tidy : Tidy entries) (alike : Alike entries others) : Tidy others :=
  tidy_table.mp ((tidy_table.mpr tidy).alike
    (@alike_table entries others .header .header none none |>.mpr alike))

theorem find?_perm {name : String} (distinct : (names entries).Nodup)
    (reordered : entries.Perm others) : find? name entries = find? name others := by
  have otherDistinct : (names others).Nodup := (reordered.map _).nodup_iff.mp distinct
  ext node
  rw [find?_eq_some_iff distinct, find?_eq_some_iff otherDistinct]
  simp only [reordered.mem_iff]

theorem find?_forall₂ {name : String} (each : List.Forall₂ Entry.Alike entries others) :
    Option.Rel Node.Alike (find? name entries) (find? name others) := by
  induction each with
  | nil => exact .none
  | cons alike _ ih =>
    rw [find?_cons, find?_cons, alike.1]
    split
    · exact .some alike.2
    · exact ih

theorem Alike.found (alike : Alike entries others) (distinct : (names entries).Nodup)
    (name : String) : Option.Rel Node.Alike (find? name entries) (find? name others) := by
  obtain ⟨moved, reordered, each⟩ := alike
  rw [find?_perm distinct reordered]
  exact find?_forall₂ each

end

end AnsibleTooling.Toml
