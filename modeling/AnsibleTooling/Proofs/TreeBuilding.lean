import AnsibleTooling.Proofs.Trees
import AnsibleTooling.Toml.Document

set_option autoImplicit false

namespace AnsibleTooling.Toml

def KeepsNode (edit : Node -> Option Node) : Prop :=
  ∀ ⦃node edited : Node⦄, node.Tidy -> edit node = some edited -> edited.Tidy

def Edit.Keeps (edit : Edit) : Prop :=
  ∀ ⦃origin : Origin⦄ ⦃entries edited : List Entry⦄,
    Tidy entries -> edit origin entries = some edited -> Tidy edited

section

variable {edit : Node -> Option Node}

theorem editLast_tidy (keeps : KeepsNode edit) {items edited : List Node}
    (tidy : ∀ item ∈ items, item.Tidy) (done : editLast edit items = some edited) :
    ∀ item ∈ edited, item.Tidy := by
  induction items generalizing edited with
  | nil => simp [editLast] at done
  | cons item rest ih =>
    cases rest with
    | nil =>
      obtain ⟨last, isLast, rfl⟩ := Option.map_eq_some_iff.mp done
      simpa using keeps (tidy item (by simp)) isLast
    | cons second others =>
      obtain ⟨later, isLater, rfl⟩ := Option.map_eq_some_iff.mp done
      have laterTidy := ih (fun held member => tidy held (List.mem_cons_of_mem _ member)) isLater
      intro held member
      rcases List.mem_cons.mp member with rfl | member
      · exact tidy held (by simp)
      · exact laterTidy held member

theorem names_editEntry {name : String} {entries edited : List Entry}
    (done : editEntry name edit entries = some edited) : names edited = names entries := by
  induction entries generalizing edited with
  | nil => simp [editEntry] at done
  | cons entry rest ih =>
    simp only [editEntry] at done
    split at done
    · obtain ⟨_, _, rfl⟩ := Option.map_eq_some_iff.mp done
      rfl
    · obtain ⟨later, isLater, rfl⟩ := Option.map_eq_some_iff.mp done
      simpa [names] using ih isLater

theorem editEntry_tidy (keeps : KeepsNode edit) {name : String} {entries edited : List Entry}
    (tidy : Tidy entries) (done : editEntry name edit entries = some edited) : Tidy edited := by
  refine ⟨(names_editEntry done).symm ▸ tidy.distinct, ?_⟩
  have each := tidy.each
  clear tidy
  induction entries generalizing edited with
  | nil => simp [editEntry] at done
  | cons entry rest ih =>
    rw [List.forall_mem_cons] at each
    simp only [editEntry] at done
    split at done
    · obtain ⟨changed, isChanged, rfl⟩ := Option.map_eq_some_iff.mp done
      exact List.forall_mem_cons.mpr ⟨keeps each.1 isChanged, each.2⟩
    · obtain ⟨later, isLater, rfl⟩ := Option.map_eq_some_iff.mp done
      exact List.forall_mem_cons.mpr ⟨each.1, ih isLater each.2⟩

end

theorem keeps_enter (through : Origin) (isItem : Bool) {inner : Edit} (keeps : inner.Keeps) :
    KeepsNode fun
      | .table origin span entries =>
        if isItem || opens through origin then (inner origin entries).map (.table origin span ·)
        else none
      | _ => none := by
  intro node edited tidy done
  cases node with
  | table origin span entries =>
    dsimp only at done
    split at done
    · obtain ⟨changed, isChanged, rfl⟩ := Option.map_eq_some_iff.mp done
      exact tidy_table.mpr (keeps (tidy_table.mp tidy) isChanged)
    · simp at done
  | scalar | array | tables => simp at done

theorem keeps_descend (through : Origin) {edit : Edit} (keeps : edit.Keeps) (keys : List Key) :
    Edit.Keeps (descend through edit keys) := by
  induction keys with
  | nil => exact keeps
  | cons key keys ih =>
    intro origin entries edited tidy done
    simp only [descend] at done
    split at done
    next present =>
      refine editEntry_tidy ?_ tidy done
      intro node edited tidy done
      cases node with
      | tables items =>
        obtain ⟨items, areItems, rfl⟩ := Option.map_eq_some_iff.mp done
        exact .tables (editLast_tidy (keeps_enter through true ih) (tidy_tables.mp tidy) areItems)
      | scalar | array | table => exact keeps_enter through false ih tidy done
    next absent =>
      obtain ⟨created, isCreated, rfl⟩ := Option.map_eq_some_iff.mp done
      exact tidy.concat (by simpa using absent) (tidy_table.mpr (ih tidy_nil isCreated))

theorem keeps_insertValue (dotted : Bool) (key : Key) {value : Node} (valueTidy : value.Tidy) :
    (insertValue dotted key value).Keeps := by
  intro origin entries edited tidy done
  simp only [insertValue] at done
  split at done
  · simp at done
  · split at done
    · simp at done
    next fresh =>
      obtain rfl := Option.some.inj done
      exact tidy.concat (by simpa using fresh) valueTidy

theorem keeps_addValue (keys : List Key) {value : Node} (valueTidy : value.Tidy) :
    Edit.Keeps (addValue keys value) := by
  intro origin entries edited tidy done
  simp only [addValue] at done
  split at done
  · simp at done
  · exact keeps_descend _ (keeps_insertValue _ _ valueTidy) _ tidy done

theorem keeps_editTables (key : Key) {edit : List Node -> List Node}
    (keeps : ∀ items, (∀ item ∈ items, item.Tidy) -> ∀ item ∈ edit items, item.Tidy) :
    Edit.Keeps (editTables key edit) := by
  intro origin entries edited tidy done
  simp only [editTables] at done
  split at done
  next present =>
    refine editEntry_tidy ?_ tidy done
    intro node edited tidy done
    cases node with
    | tables items =>
      obtain rfl := Option.some.inj done
      exact .tables (keeps items (tidy_tables.mp tidy))
    | scalar | array | table => simp at done
  next fresh =>
    obtain rfl := Option.some.inj done
    exact tidy.concat (by simpa using fresh) (.tables (keeps [] (by simp)))

theorem foldlM_keeps {A B : Type} {P : B -> Prop} {step : B -> A -> Option B} {items : List A}
    (keeps : ∀ item ∈ items, ∀ ⦃before after⦄, P before -> step before item = some after -> P after)
    {first last : B} (holds : P first) (done : items.foldlM step first = some last) : P last := by
  induction items generalizing first with
  | nil => exact Option.some.inj done ▸ holds
  | cons item rest ih =>
    rw [List.foldlM_cons] at done
    obtain ⟨second, isSecond, done⟩ := Option.bind_eq_some_iff.mp done
    exact ih (fun item member => keeps item (List.mem_cons_of_mem _ member))
      (keeps item (by simp) holds isSecond) done

theorem bracesOf_tidy {members : List (List Key × Node)} {entries : List Entry}
    (tidy : ∀ member ∈ members, member.2.Tidy) (done : bracesOf members = some entries) :
    Tidy entries :=
  foldlM_keeps (P := Tidy) (fun member isMember _ _ before added =>
    keeps_addValue member.1 (tidy member isMember) before added) tidy_nil done

namespace Reader

def Yields {A : Type} (reader : Reader A) (P : A -> Prop) : Prop :=
  ∀ ⦃cursor next : Cursor⦄ ⦃value : A⦄, reader cursor = some (value, next) -> P value

section

variable {A B : Type} {P : A -> Prop} {Q : B -> Prop} {first : Reader A} {rest : A -> Reader B}

theorem yields_pure {value : A} (holds : P value) : Yields (pure value) P := by
  intro cursor next given same
  obtain ⟨rfl, -⟩ := Prod.mk.inj (Option.some.inj same)
  exact holds

theorem yields_fail : Yields (fail : Reader A) P := by
  intro cursor next value same
  cases same

theorem Yields.bind (yields : Yields first P) (after : ∀ value, P value -> Yields (rest value) Q) :
    Yields (first >>= rest) Q := by
  intro cursor last value done
  obtain ⟨⟨middle, between⟩, isMiddle, done⟩ := Option.bind_eq_some_iff.mp done
  exact after middle (yields isMiddle) done

theorem yields_bind (after : ∀ value, Yields (rest value) Q) : Yields (first >>= rest) Q :=
  Yields.bind (P := fun _ => True) (fun _ _ _ _ => trivial) fun value _ => after value

theorem yields_withSpan (yields : Yields first P) :
    Yields (withSpan first) fun found => P found.1 :=
  yields_bind fun _ => yields.bind fun _ holds => yields_bind fun _ => yields_pure holds

end

end Reader

open Reader

theorem yields_placed {reader : Reader (Span -> Node)}
    (yields : Yields reader fun node => ∀ span, (node span).Tidy) :
    Yields (placed reader) Node.Tidy :=
  (yields_withSpan yields).bind fun found tidy => yields_pure (tidy found.2)

theorem yields_plainValue : Yields plainValue Node.Tidy := by
  refine yields_placed (yields_bind fun char => ?_)
  split
  all_goals
    refine yields_bind fun _ => yields_pure fun _ => ?_
    exact .scalar ..

section

variable {item : Reader Node}

theorem yields_arrayItems (yields : Yields item Node.Tidy) (fuel : Nat) {taken : List Node}
    (tidy : ∀ held ∈ taken, held.Tidy) :
    Yields (arrayItems item fuel taken) fun items => ∀ held ∈ items, held.Tidy := by
  induction fuel generalizing taken with
  | zero => exact yields_fail
  | succ fuel ih =>
    refine yields_bind fun _ => yields_bind fun _ => yields_bind fun closed => ?_
    split
    · exact yields_pure (by simpa using tidy)
    · refine yields.bind fun next nextTidy => yields_bind fun _ => yields_bind fun _ =>
        yields_bind fun more => ?_
      have tidy : ∀ held ∈ next :: taken, held.Tidy := List.forall_mem_cons.mpr ⟨nextTidy, tidy⟩
      split
      · exact ih tidy
      · exact yields_bind fun _ =>
          yields_pure fun held member => tidy held (List.mem_reverse.mp member)

theorem yields_braceMembers (yields : Yields item Node.Tidy) (fuel : Nat)
    {taken : List (List Key × Node)} (tidy : ∀ held ∈ taken, held.2.Tidy) :
    Yields (braceMembers item fuel taken) fun members => ∀ held ∈ members, held.2.Tidy := by
  induction fuel generalizing taken with
  | zero => exact yields_fail
  | succ fuel ih =>
    refine yields_bind fun keys => yields_bind fun _ => yields_bind fun _ =>
      yields.bind fun next nextTidy => yields_bind fun _ => yields_bind fun more => ?_
    have tidy : ∀ held ∈ (keys, next) :: taken, held.2.Tidy :=
      List.forall_mem_cons.mpr ⟨nextTidy, tidy⟩
    split
    · exact ih tidy
    · exact yields_bind fun _ =>
        yields_pure fun held member => tidy held (List.mem_reverse.mp member)

theorem yields_array (yields : Yields item Node.Tidy) : Yields (array item) Node.Tidy := by
  refine yields_placed (yields_bind fun _ => yields_bind fun _ => ?_)
  exact (yields_arrayItems yields _ (by simp)).bind fun _ tidy => yields_pure fun _ => .array tidy

theorem yields_bracesOf {members : List (List Key × Node)} (tidy : ∀ held ∈ members, held.2.Tidy) :
    Yields (match bracesOf members with
      | some entries => pure fun span => Node.table .braces (some span) entries
      | none => fail) fun node : Span -> Node => ∀ span, (node span).Tidy := by
  split
  next entries made => exact yields_pure fun _ => tidy_table.mpr (bracesOf_tidy tidy made)
  next => exact yields_fail

theorem yields_braces (yields : Yields item Node.Tidy) : Yields (braces item) Node.Tidy := by
  refine yields_placed (yields_bind fun _ => yields_bind fun _ => yields_bind fun closed => ?_)
  split
  · exact (yields_pure (by simp)).bind fun _ => yields_bracesOf
  · exact yields_bind fun _ =>
      (yields_braceMembers yields _ (by simp)).bind fun _ => yields_bracesOf

end

theorem yields_value (depth : Nat) : Yields (value depth) Node.Tidy := by
  induction depth with
  | zero => exact yields_plainValue
  | succ depth ih =>
    refine yields_bind fun char => ?_
    split
    · exact yields_array ih
    · exact yields_braces ih
    · exact yields_plainValue

def Statement.Tidy : Statement -> Prop
  | .assignment _ value => value.Tidy
  | .header .. => True
  | .arrayHeader .. => True

theorem yields_statement :
    Yields statement fun found => ∀ statement ∈ found, statement.Tidy := by
  refine yields_bind fun _ => yields_bind fun char => ?_
  split
  case h_1 => exact yields_pure (by simp)
  case h_2 => exact yields_bind fun _ => yields_bind fun _ => yields_pure (by simp)
  case h_3 | h_4 => exact yields_bind fun _ => yields_pure (by simp)
  case h_5 =>
    refine yields_bind fun double => ?_
    split
    all_goals
      refine yields_bind fun _ => yields_bind fun _ => yields_pure ?_
      simp [Statement.Tidy]
  case h_6 =>
    refine yields_bind fun _ => yields_bind fun _ => yields_bind fun _ =>
      (yields_value _).bind fun value tidy => yields_bind fun _ => yields_pure ?_
    simpa [Statement.Tidy] using tidy

theorem yields_statements (fuel : Nat) {taken : List Statement}
    (tidy : ∀ held ∈ taken, held.Tidy) :
    Yields (statements fuel taken) fun read => ∀ held ∈ read, held.Tidy := by
  induction fuel generalizing taken with
  | zero => exact yields_fail
  | succ fuel ih =>
    refine yields_bind fun rest => ?_
    split
    · exact yields_pure (by simpa using tidy)
    · refine yields_statement.bind fun found foundTidy => ?_
      split
      next statement =>
        exact ih (List.forall_mem_cons.mpr ⟨foundTidy statement rfl, tidy⟩)
      next => exact ih tidy

structure Draft.Tidy (draft : Draft) : Prop where
  root : Toml.Tidy draft.root
  current : Toml.Tidy draft.current.entries

theorem locate_tidy {keys : List Key} {entries : List Entry} {node : Node} (tidy : Tidy entries)
    (found : locate keys entries = some node) : node.Tidy := by
  induction keys generalizing entries with
  | nil => simp [locate] at found
  | cons key keys ih =>
    simp only [locate] at found
    split at found
    · simp at found
    next reached isReached =>
      have reachedTidy := tidy.found isReached
      split at found
      · exact Option.some.inj found ▸ reachedTidy
      · split at found
        · exact ih (tidy_table.mp reachedTidy) found
        next items =>
          split at found
          next isLast =>
            have lastTidy := tidy_tables.mp reachedTidy _ (List.mem_of_getLast? isLast)
            exact ih (tidy_table.mp lastTidy) found
          next => simp at found
        · simp at found

theorem reopened_tidy {found : Option Node} {entries : List Entry}
    (tidy : ∀ node ∈ found, node.Tidy) (opened : reopened found = some entries) :
    Tidy entries := by
  unfold reopened at opened
  split at opened
  · exact Option.some.inj opened ▸ tidy_nil
  · exact Option.some.inj opened ▸ tidy_table.mp (tidy _ rfl)
  · simp at opened

namespace Draft

variable {draft : Draft}

theorem Tidy.close (tidy : draft.Tidy) {entries : List Entry}
    (closed : draft.close = some entries) : Toml.Tidy entries := by
  simp only [Draft.close] at closed
  split at closed
  · exact Option.some.inj closed ▸ tidy.current
  next key isLast =>
    have table : (Node.table .header draft.current.span draft.current.entries).Tidy :=
      tidy_table.mpr tidy.current
    refine keeps_descend .parent ?_ _ tidy.root closed
    split
    · refine keeps_editTables key fun items each => ?_
      simpa [or_imp, forall_and] using ⟨each, table⟩
    · -- Without a dot, an insertion asks nothing of where the table came from.
      exact keeps_insertValue false key table

variable {root : List Entry} {keys : List Key} {span : Span}

theorem openTable_tidy (tidy : Toml.Tidy root) (opened : openTable root keys span = some draft) :
    draft.Tidy := by
  simp only [openTable, bind, Option.bind_eq_some_iff, pure, Option.some.injEq] at opened
  obtain ⟨key, isLast, entries, reopens, cleared, clears, rfl⟩ := opened
  constructor
  · refine keeps_descend .parent ?_ _ tidy clears
    intro origin before after beforeTidy done
    exact Option.some.inj done ▸ beforeTidy.filter _
  · exact reopened_tidy (fun node found => locate_tidy tidy found) reopens

theorem openItem_tidy (tidy : Toml.Tidy root) (opened : openItem root keys span = some draft) :
    draft.Tidy := by
  simp only [openItem, bind, Option.bind_eq_some_iff, pure, Option.some.injEq] at opened
  obtain ⟨key, isLast, placed, places, rfl⟩ := opened
  exact ⟨keeps_descend .parent (keeps_editTables key fun _ each => each) _ tidy places, tidy_nil⟩

theorem Tidy.add (tidy : draft.Tidy) {statement : Statement} (statementTidy : statement.Tidy)
    {next : Draft} (added : draft.add statement = some next) : next.Tidy := by
  cases statement with
  | header keys span =>
    obtain ⟨root, closed, opened⟩ := Option.bind_eq_some_iff.mp added
    exact openTable_tidy (tidy.close closed) opened
  | arrayHeader keys span =>
    obtain ⟨root, closed, opened⟩ := Option.bind_eq_some_iff.mp added
    exact openItem_tidy (tidy.close closed) opened
  | assignment keys value =>
    obtain ⟨current, extended, made⟩ := Option.bind_eq_some_iff.mp added
    obtain rfl := Option.some.inj made
    obtain ⟨entries, isAdded, made⟩ := Option.bind_eq_some_iff.mp extended
    obtain rfl := Option.some.inj made
    exact ⟨tidy.root, keeps_addValue keys statementTidy tidy.current isAdded⟩

end Draft

theorem parse?_tidy {document : String} {entries : List Entry}
    (read : parse? document = some entries) : Tidy entries := by
  simp only [parse?, bind, Option.bind_eq_some_iff] at read
  obtain ⟨⟨statements, next⟩, areStatements, draft, isDraft, closed⟩ := read
  have statementsTidy := yields_statements _ (by simp) areStatements
  have empty : Draft.empty.Tidy := ⟨tidy_nil, tidy_nil⟩
  have draftTidy : draft.Tidy :=
    foldlM_keeps (fun statement member _ _ tidy => tidy.add (statementsTidy statement member))
      empty isDraft
  exact draftTidy.close closed

end AnsibleTooling.Toml
