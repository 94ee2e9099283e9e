import AnsibleTooling.Proofs.Trees
import AnsibleTooling.Settings.Decode

set_option autoImplicit false

namespace AnsibleTooling.Settings

open Toml (Node Span Scalar Entry Tidy Alike find? names)

abbrev Layout := List (String × (Node -> Prop))

namespace Layout

def keys (layout : Layout) : List String :=
  layout.map Prod.fst

def Table (layout : Layout) (entries : List Entry) : Prop :=
  ∀ entry ∈ entries, ∃ part ∈ layout, part.1 = entry.1.name ∧ part.2 entry.2

def Row (layout : Layout) (items : List Node) : Prop :=
  ∀ pair ∈ layout.zip items, pair.1.2 pair.2

def Section (layout : Layout) : Node -> Prop
  | .table _ _ entries => layout.Table entries
  | .array items _ => layout.Row items
  | .tables items => layout.Row items
  | .scalar .. => False

end Layout

def paired (keys : List String) (items : List Node) : List Entry :=
  (keys.zip items).map fun (name, item) => ({ name, span := { start := 0, stop := 0 } }, item)

def contents? (keys : List String) : Node -> Option (List Entry)
  | .table _ _ entries => some entries
  | .array items _ => some (paired keys items)
  | .tables items => some (paired keys items)
  | .scalar .. => none

def row? : Node -> Option (List Node)
  | .array items _ => some items
  | .tables items => some items
  | _ => none

def held {A : Type} (read : Node -> Option A) (entries : List Entry) (key : String)
    (default : A) : A :=
  ((find? key entries).bind read).getD default

def sectionOf? {S : Type} (layout : Layout) (of : List Entry -> S) (node : Node) : Option S :=
  (contents? layout.keys node).map of

section

variable {keys : List String} {items : List Node}

theorem names_paired : names (paired keys items) = keys.take items.length := by
  induction keys generalizing items with
  | nil => simp [paired, names]
  | cons name keys ih =>
    cases items with
    | nil => rfl
    | cons item items => exact congrArg (name :: ·) ih

theorem tidy_paired (distinct : keys.Nodup) (tidy : ∀ item ∈ items, item.Tidy) :
    Tidy (paired keys items) := by
  constructor
  · rw [names_paired]
    exact distinct.sublist (List.take_sublist _ _)
  · intro entry member
    obtain ⟨⟨name, item⟩, isPair, rfl⟩ := List.mem_map.mp member
    exact tidy item (List.of_mem_zip isPair).2

theorem tidy_contents {node : Node} (distinct : keys.Nodup) (tidy : node.Tidy)
    {entries : List Entry} (held : contents? keys node = some entries) : Tidy entries := by
  cases tidy with
  | scalar => cases held
  | array each | tables each => exact Option.some.inj held ▸ tidy_paired distinct each
  | table distinct each => exact Option.some.inj held ▸ ⟨distinct, each⟩

theorem Layout.table_paired {layout : Layout} (distinct : layout.keys.Nodup) :
    layout.Table (paired layout.keys items) ↔ layout.Row items := by
  induction layout generalizing items with
  | nil => simp [Layout.Table, Layout.Row, Layout.keys, paired]
  | cons part rest ih =>
    obtain ⟨unnamed, distinct⟩ := List.nodup_cons.mp distinct
    cases items with
    | nil => simp [Layout.Table, Layout.Row, paired]
    | cons item items =>
      have first : (∃ other ∈ part :: rest, other.1 = part.1 ∧ other.2 item) ↔ part.2 item := by
        constructor
        · rintro ⟨other, member, same, takes⟩
          rcases List.mem_cons.mp member with rfl | later
          · exact takes
          · exact absurd (List.mem_map.mpr ⟨other, later, same⟩) unnamed
        · exact fun takes => ⟨part, by simp, rfl, takes⟩
      -- The part of a later key is a later one.
      have others : Layout.Table (part :: rest) (paired (Layout.keys rest) items) ↔
          Layout.Table rest (paired (Layout.keys rest) items) := by
        refine forall₂_congr fun entry member => ?_
        have named : entry.1.name ∈ names (paired (Layout.keys rest) items) :=
          List.mem_map_of_mem member
        rw [names_paired] at named
        have apart : part.1 ≠ entry.1.name :=
          fun same => unnamed (same ▸ List.mem_of_mem_take named)
        simp [apart]
      show (∀ entry ∈ _ :: paired (Layout.keys rest) items, _) ↔
        ∀ pair ∈ (part, item) :: List.zip rest items, _
      rw [List.forall_mem_cons, List.forall_mem_cons]
      exact and_congr first (others.trans (ih distinct))

theorem Layout.section_iff {layout : Layout} (distinct : layout.keys.Nodup) {node : Node} :
    layout.Section node ↔ ∃ entries ∈ contents? layout.keys node, layout.Table entries := by
  cases node with
  | scalar => simp [Layout.Section, contents?]
  | array | tables => simp [Layout.Section, contents?, Layout.table_paired distinct]
  | table => simp [Layout.Section, contents?]

end

section

variable {S : Type} {fields : List (Field S)} {value result : S}

theorem assignEntry_eq_ok (distinct : (fields.map Field.key).Nodup) {entry : Entry} :
    assignEntry fields value entry = .ok result ↔
      ∃ field ∈ fields, field.key = entry.1.name ∧ field.assign value entry.2 = .ok result := by
  obtain ⟨key, node⟩ := entry
  simp only [assignEntry]
  cases found : fields.find? fun field => field.key == key.name with
  | none =>
    have unnamed := List.find?_eq_none.mp found
    simp only [reduceCtorEq, false_iff]
    rintro ⟨field, member, same, _⟩
    exact unnamed field member (by simp [same])
  | some field =>
    have member := List.mem_of_find?_eq_some found
    have named : field.key = key.name := by simpa using List.find?_some found
    have only {other : Field S} (isOther : other ∈ fields) (same : other.key = key.name) :
        other = field :=
      List.inj_on_of_nodup_map distinct isOther member (same.trans named.symm)
    constructor
    · intro done
      refine ⟨field, member, named, ?_⟩
      cases assigned : field.assign value node with
      | error refusal => simp [assigned, Except.mapError] at done
      | ok next => simpa [assigned, Except.mapError] using done
    · rintro ⟨other, isOther, same, done⟩
      rw [only isOther same] at done
      simp [done, Except.mapError]

theorem ofEntries_cons {entry : Entry} {entries : List Entry} :
    ofEntries fields value (entry :: entries) = .ok result ↔
      ∃ next, assignEntry fields value entry = .ok next ∧
        ofEntries fields next entries = .ok result := by
  simp only [ofEntries, List.foldlM_cons, bind, Except.bind]
  cases assignEntry fields value entry <;> simp

theorem ofEntries_append {entries others : List Entry} :
    ofEntries fields value (entries ++ others) = .ok result ↔
      ∃ next, ofEntries fields value entries = .ok next ∧
        ofEntries fields next others = .ok result := by
  simp only [ofEntries, List.foldlM_append, bind, Except.bind]
  cases entries.foldlM (assignEntry fields) value <;> simp

theorem ofItems_eq_ok (distinct : (fields.map Field.key).Nodup) {items : List Node} :
    ofItems fields value items = .ok result ↔
      ofEntries fields value (paired (fields.map Field.key) items) = .ok result := by
  suffices shorter : ∀ {left : List (Field S)}, left ⊆ fields ->
      ((left.zip items).foldlM (fun value pair => pair.1.assign value pair.2) value =
        .ok result ↔ ofEntries fields value (paired (left.map Field.key) items) = .ok result) from
    shorter (fun _ member => member)
  intro left within
  induction left generalizing items value with
  | nil => simp [paired, ofEntries]
  | cons field left ih =>
    obtain ⟨member, within⟩ := List.cons_subset.mp within
    cases items with
    | nil => simp [paired, ofEntries]
    | cons item items =>
      have own {next : S} :
          assignEntry fields value
            ({ name := field.key, span := { start := 0, stop := 0 } }, item) = .ok next ↔
          field.assign value item = .ok next := by
        rw [assignEntry_eq_ok distinct]
        constructor
        · rintro ⟨other, isOther, same, done⟩
          rwa [List.inj_on_of_nodup_map distinct isOther member same] at done
        · exact fun done => ⟨field, member, rfl, done⟩
      show _ ↔ ofEntries fields value (_ :: paired (left.map Field.key) items) = .ok result
      rw [ofEntries_cons]
      simp only [own, <- ih within, List.zip_cons_cons, List.foldlM_cons, bind, Except.bind]
      cases field.assign value item <;> simp

theorem decodeSection_eq_ok (distinct : (fields.map Field.key).Nodup) {name : String}
    {node : Node} :
    decodeSection name fields value node = .ok result ↔
      ∃ entries ∈ contents? (fields.map Field.key) node,
        ofEntries fields value entries = .ok result := by
  cases node with
  | scalar scalar => cases scalar <;> simp [decodeSection, contents?, wrongType]
  | array | tables => simp [decodeSection, contents?, ofItems_eq_ok distinct]
  | table => simp [decodeSection, contents?]

def Field.Takes (part : String × (Node -> Prop)) (field : Field S) : Prop :=
  field.key = part.1 ∧ ∀ value node, (∃ result, field.assign value node = .ok result) ↔ part.2 node

structure Layout.Describes (layout : Layout) (fields : List (Field S)) : Prop where
  distinct : layout.keys.Nodup
  parts : List.Forall₂ Field.Takes layout fields

variable {layout : Layout}

theorem Layout.Describes.keys (describes : layout.Describes fields) :
    fields.map Field.key = layout.keys := by
  have parts := describes.parts
  clear describes
  induction parts with
  | nil => rfl
  | cons part _ ih => simp [Layout.keys, part.1, ih]

theorem Layout.Describes.apart (describes : layout.Describes fields) :
    (fields.map Field.key).Nodup :=
  describes.keys ▸ describes.distinct

theorem Layout.Describes.assignEntry (describes : layout.Describes fields) {entry : Entry} :
    (∃ result, assignEntry fields value entry = .ok result) ↔
      ∃ part ∈ layout, part.1 = entry.1.name ∧ part.2 entry.2 := by
  simp only [assignEntry_eq_ok describes.apart]
  have parts := describes.parts
  clear describes
  induction parts with
  | nil => simp
  | cons part _ ih =>
    obtain ⟨same, takes⟩ := part
    simp [exists_or, ih, same, takes]

theorem Layout.Describes.ofEntries (describes : layout.Describes fields) {entries : List Entry} :
    (∃ result, ofEntries fields value entries = .ok result) ↔ layout.Table entries := by
  induction entries generalizing value with
  | nil => simp [Settings.ofEntries, Layout.Table, pure, Except.pure]
  | cons entry rest ih =>
    simp only [ofEntries_cons, Layout.Table, List.forall_mem_cons]
    constructor
    · rintro ⟨result, next, assigned, done⟩
      exact ⟨describes.assignEntry.mp ⟨next, assigned⟩, ih.mp ⟨result, done⟩⟩
    · rintro ⟨known, others⟩
      obtain ⟨next, assigned⟩ := describes.assignEntry.mpr known
      obtain ⟨result, done⟩ := ih.mpr others
      exact ⟨result, next, assigned, done⟩

theorem Layout.Describes.decodeSection (describes : layout.Describes fields) {name : String}
    {node : Node} :
    (∃ result, decodeSection name fields value node = .ok result) ↔ layout.Section node := by
  simp only [decodeSection_eq_ok describes.apart, Layout.section_iff describes.distinct,
    describes.keys]
  constructor
  · rintro ⟨result, entries, areEntries, done⟩
    exact ⟨entries, areEntries, describes.ofEntries.mp ⟨result, done⟩⟩
  · rintro ⟨entries, areEntries, fits⟩
    obtain ⟨result, done⟩ := describes.ofEntries.mpr fits
    exact ⟨result, entries, areEntries, done⟩

def Field.Stores {A : Type} (field : Field S) (key : String) (get : S -> A)
    (read : Node -> Option A) : Prop :=
  ∀ ⦃value : S⦄ ⦃node : Node⦄ ⦃result : S⦄, node.Tidy -> field.assign value node = .ok result ->
    if field.key = key then read node = some (get result) else get result = get value

theorem held_ofEntries (distinct : (fields.map Field.key).Nodup) {entries : List Entry}
    (tidy : Tidy entries) (done : ofEntries fields value entries = .ok result) {A : Type}
    (key : String) (get : S -> A) (read : Node -> Option A)
    (stores : ∀ field ∈ fields, field.Stores key get read) :
    get result = held read entries key (get value) := by
  induction entries generalizing value with
  | nil =>
    obtain rfl := Except.ok.inj done
    rfl
  | cons entry rest ih =>
    obtain ⟨next, assigned, done⟩ := ofEntries_cons.mp done
    obtain ⟨field, member, named, assigned⟩ := (assignEntry_eq_ok distinct).mp assigned
    obtain ⟨entryTidy, restTidy⟩ := List.forall_mem_cons.mp tidy.each
    obtain ⟨unnamed, restDistinct⟩ := List.nodup_cons.mp tidy.distinct
    have stored := stores field member entryTidy assigned
    have later := ih ⟨restDistinct, restTidy⟩ done
    obtain ⟨⟨name, span⟩, node⟩ := entry
    rw [named] at stored
    rw [held] at later
    rw [later, held, Toml.find?_cons]
    by_cases same : name = key
    · -- No later entry has the key.
      have absent : find? key rest = none := Toml.find?_eq_none_iff.mpr (same ▸ unnamed)
      rw [if_pos same] at stored ⊢
      simp [absent, stored]
    · rw [if_neg same] at stored ⊢
      rw [stored]

end

section

variable {S A : Type} {name : String} {decoder : Decoder A} {set : S -> A -> S}

@[simp] theorem of_key : (Field.of name decoder set).key = name := rfl

theorem of_assign {value result : S} {node : Node} :
    (Field.of name decoder set).assign value node = .ok result ↔
      ∃ given, decoder node = .ok given ∧ set value given = result := by
  simp only [Field.of]
  cases decoder node <;> simp [Except.map]

@[simp] theorem of_stores {B : Type} {key : String} {get : S -> B} {read : Node -> Option B} :
    (Field.of name decoder set).Stores key get read ↔
      ∀ value node given, node.Tidy -> decoder node = .ok given ->
        if name = key then read node = some (get (set value given))
        else get (set value given) = get value := by
  constructor
  · intro stores value node given tidy isGiven
    exact stores tidy (of_assign.mpr ⟨given, isGiven, rfl⟩)
  · intro stores value node result tidy done
    obtain ⟨given, isGiven, rfl⟩ := of_assign.mp done
    exact stores value node given tidy isGiven

theorem of_takes {takes : Node -> Prop}
    (same : ∀ node, (∃ given, decoder node = .ok given) ↔ takes node) :
    Field.Takes (name, takes) (Field.of name decoder set) := by
  refine ⟨rfl, fun value node => ?_⟩
  simp only [of_assign, <- same]
  constructor
  · rintro ⟨result, given, isGiven, _⟩
    exact ⟨given, isGiven⟩
  · rintro ⟨given, isGiven⟩
    exact ⟨_, given, isGiven, rfl⟩

end

section

variable {keys : List String} {A : Type}

theorem held_congr {read : Node -> Option A}
    (heeds : ∀ {node other : Node}, node.Tidy -> node.Alike other -> read node = read other)
    {entries others : List Entry} (tidy : Tidy entries) (alike : Alike entries others)
    (key : String) (default : A) :
    held read entries key default = held read others key default := by
  have found := alike.found tidy.distinct key
  simp only [held]
  generalize isNode : find? key entries = node, find? key others = other at found
  cases found with
  | none => rfl
  | some alike => simp [heeds (tidy.found isNode) alike]

theorem alike_paired {items others : List Node} (each : List.Forall₂ Node.Alike items others) :
    Alike (paired keys items) (paired keys others) := by
  refine ⟨_, .refl _, ?_⟩
  induction each generalizing keys with
  | nil => cases keys <;> exact .nil
  | cons alike _ ih =>
    cases keys with
    | nil => exact .nil
    | cons name keys => exact .cons ⟨rfl, alike⟩ ih

theorem alike_contents {node other : Node} (alike : node.Alike other) :
    Option.Rel Alike (contents? keys node) (contents? keys other) := by
  cases alike with
  | scalar => exact .none
  | array each | tables each => exact .some (alike_paired each)
  | table reordered named each =>
    exact .some ⟨_, reordered, Toml.forall₂_alike.mpr ⟨named, each⟩⟩

def Heeds (takes : Node -> Prop) : Prop :=
  ∀ ⦃node other : Node⦄, node.Alike other -> (takes node ↔ takes other)

namespace Layout

variable {layout : Layout}

theorem table_congr (heeds : ∀ part ∈ layout, Heeds part.2) {entries others : List Entry}
    (alike : Alike entries others) : layout.Table entries ↔ layout.Table others := by
  obtain ⟨moved, reordered, each⟩ := alike
  have same : layout.Table entries ↔ layout.Table moved := by
    simp only [Layout.Table, reordered.mem_iff]
  rw [same]
  clear same reordered
  induction each with
  | nil => rfl
  | cons alike _ ih =>
    simp only [Layout.Table, List.forall_mem_cons]
    refine and_congr ?_ ih
    refine exists_congr fun part => and_congr_right fun member => ?_
    rw [alike.1, heeds part member alike.2]

theorem row_congr (heeds : ∀ part ∈ layout, Heeds part.2) {items others : List Node}
    (each : List.Forall₂ Node.Alike items others) : layout.Row items ↔ layout.Row others := by
  induction each generalizing layout with
  | nil => rfl
  | cons alike _ ih =>
    cases layout with
    | nil => simp [Layout.Row]
    | cons part rest =>
      obtain ⟨first, others⟩ := List.forall_mem_cons.mp heeds
      simp only [Layout.Row, List.zip_cons_cons, List.forall_mem_cons]
      exact and_congr (first alike) (ih others)

theorem heeds_section (heeds : ∀ part ∈ layout, Heeds part.2) : Heeds layout.Section := by
  intro node other alike
  cases alike with
  | scalar => rfl
  | array each | tables each => exact row_congr heeds each
  | table reordered named each =>
    exact table_congr heeds ⟨_, reordered, Toml.forall₂_alike.mpr ⟨named, each⟩⟩

end Layout

end

/-- Fields read a table as a layout says, into what the values say. -/
structure Reads {S : Type} (fields : List (Field S)) (initial : S) (layout : Layout)
    (of : List Entry -> S) : Prop where
  describes : layout.Describes fields
  heeds : ∀ part ∈ layout, Heeds part.2
  heeds_of : ∀ {entries others : List Entry},
    Tidy entries -> Alike entries others -> of entries = of others
  gives : ∀ {entries : List Entry} {result : S}, Tidy entries ->
    ofEntries fields initial entries = .ok result -> result = of entries

section

variable {S : Type} {fields : List (Field S)} {initial : S} {layout : Layout}
  {of : List Entry -> S} {name : String} {node other : Node}

theorem Reads.decoded (reads : Reads fields initial layout of) (node : Node) (given : S)
    (tidy : node.Tidy) (done : decodeSection name fields initial node = .ok given) :
    sectionOf? layout of node = some given := by
  obtain ⟨entries, areEntries, done⟩ := (decodeSection_eq_ok reads.describes.apart).mp done
  rw [reads.describes.keys] at areEntries
  have entriesTidy := tidy_contents reads.describes.distinct tidy areEntries
  rw [sectionOf?, Option.mem_def.mp areEntries, reads.gives entriesTidy done]
  rfl

theorem Reads.takes (reads : Reads fields initial layout of) {R : Type} {key : String}
    {set : R -> S -> R} :
    Field.Takes (key, layout.Section) (Field.of key (decodeSection name fields initial) set) :=
  of_takes fun _ => reads.describes.decodeSection

theorem Reads.heeds_section (reads : Reads fields initial layout of) : Heeds layout.Section :=
  Layout.heeds_section reads.heeds

theorem Reads.congr (reads : Reads fields initial layout of) (tidy : node.Tidy)
    (alike : node.Alike other) :
    sectionOf? layout of node = sectionOf? layout of other := by
  have alike := @alike_contents layout.keys _ _ alike
  simp only [sectionOf?]
  generalize areEntries : contents? layout.keys node = entries,
    contents? layout.keys other = others at alike
  cases alike with
  | none => rfl
  | some alike =>
    have tidy := tidy_contents reads.describes.distinct tidy areEntries
    exact congrArg some (reads.heeds_of tidy alike)

theorem Reads.row (reads : Reads fields initial layout of) {items : List Node}
    (isRow : row? node = some items) {origin : Toml.Origin} {span : Option Span} {given : S} :
    decodeSection name fields initial (.table origin span (paired layout.keys items)) = .ok given ↔
      decodeSection name fields initial node = .ok given := by
  rw [decodeSection_eq_ok reads.describes.apart, decodeSection_eq_ok reads.describes.apart,
    reads.describes.keys]
  cases node with
  | scalar | table => cases isRow
  | array | tables =>
    obtain rfl := Option.some.inj isRow
    rfl

end

end AnsibleTooling.Settings
