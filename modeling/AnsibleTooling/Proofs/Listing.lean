import AnsibleTooling.Plugin
import AnsibleTooling.Proofs.Gating
import AnsibleTooling.Proofs.MemberOrder
import AnsibleTooling.Proofs.WrittenTexts
import Mathlib

set_option autoImplicit false

namespace AnsibleTooling

namespace Json

theorem settledMembers_eq (written : List Member) :
    Value.settledMembers written = written.map fun (key, value) => (key, value.settled) := by
  induction written with
  | nil => rfl
  | cons first rest ih =>
    obtain ⟨key, value⟩ := first
    rw [Value.settledMembers, ih]
    rfl

theorem keys_settledMembers (written : List Member) :
    (Value.settledMembers written).map Prod.fst = written.map Prod.fst := by
  rw [settledMembers_eq, List.map_map]
  rfl

theorem heldLast_settledMembers {written : List Member} {key : String} {value : Value} :
    HeldLast (Value.settledMembers written) key value ↔
      ∃ given, HeldLast written key given ∧ value = given.settled := by
  rw [settledMembers_eq]
  constructor
  · rintro ⟨before, after, cut, last⟩
    obtain ⟨first, behind, whole, -, cut⟩ := List.map_eq_append_iff.mp cut
    obtain ⟨⟨other, given⟩, rest, here, same, rfl⟩ := List.map_eq_cons_iff.mp cut
    cases same
    exact ⟨given, ⟨first, rest, by rw [whole, here], by simpa using last⟩, rfl⟩
  · rintro ⟨given, ⟨before, after, rfl, last⟩, rfl⟩
    exact ⟨before.map _, after.map _, by rw [List.map_append, List.map_cons], by simpa using last⟩

end Json

namespace PluginEntry

open Json

def Reads (listing : String) (written : List Member) : Prop :=
  parseWritten (Text.encode listing) = .ok (.object written)

def described : Value -> String
  | .text description => description
  | other => other.settled.compact

def toMember (entry : PluginEntry) : Member :=
  (entry.name, .text entry.description)

/-- The entries are those of an object with these members. -/
structure Lists (listing : String) (written : List Member) (entries : List PluginEntry) : Prop where
  increasing : entries.Pairwise fun entry later => Text.encode entry.name < Text.encode later.name
  names : ∀ name, name ∈ entries.map PluginEntry.name ↔ name ∈ written.map Prod.fst
  last : ∀ entry ∈ entries, ∃ value,
    HeldLast written entry.name value ∧ entry.description = described value
  reordered : ∀ other others, Reads other others -> others.Perm written ->
    (written.map Prod.fst).Nodup -> parseList other = entries
  compact : Reads (Value.object (entries.map toMember)).compact (entries.map toMember)
  relisted : ∀ other others, Reads other others -> others.Perm (entries.map toMember) ->
    parseList other = entries
  followed : ∀ extra : String, (∀ char ∈ extra.toList, char ∈ [' ', '\n', '\t', '\r']) ->
    parseList (listing ++ extra) = entries
  ended : ∀ extra : String, ¬ (∀ char ∈ extra.toList, char ∈ [' ', '\n', '\t', '\r']) ->
    parseList (listing ++ extra) = []

def ofRun : Except Error ProcessOutput -> List PluginEntry
  | .ok output => if output.success then parseList output.stdout else []
  | .error _ => []

def requested {S : Type} (host : Host S) (view : DocView) (pluginType : String) (stage : Stage S) :
    Except Error (List PluginEntry) :=
  if pluginType ∈ view.pluginTypes then
    match stage.state.report?.bind Report.docTool with
    | some tool =>
      .ok (ofRun (host.runner.run tool ((listArguments pluginType).map Text.encode) stage.world).1)
    | none => .error (.commandUnavailable view.command.id)
  else
    .error (.unsupportedPluginType pluginType view.display (", ".intercalate view.pluginTypes))

theorem parseList_of_reads {listing : String} {written : List Member}
    (reads : Reads listing written) :
    ∃ kept, parseList listing = kept.map ofMember ∧ Ordered kept ∧
      ∀ key value, (key, value) ∈ kept ↔ HeldLast (Value.settledMembers written) key value := by
  obtain ⟨kept, made, ordered, held⟩ := ofMembers_eq (Value.settledMembers written)
  refine ⟨kept, ?_, ordered, held⟩
  have settled : (Value.object written).settled = .object kept := by
    rw [Value.settled, made]
  have parsed : parse? listing = some (.object kept) := by
    unfold Reads at reads
    rw [parse?, parse, parseBytes, reads, Except.map, settled]
    rfl
  rw [parseList, parsed]

theorem parseList_eq {listing : String} {written kept : List Member}
    (reads : Reads listing written) (ordered : Ordered kept)
    (held : ∀ key value, (key, value) ∈ kept ↔
      HeldLast (Value.settledMembers written) key value) :
    parseList listing = kept.map ofMember := by
  obtain ⟨others, listed, others_ordered, others_held⟩ := parseList_of_reads reads
  have same : others = kept := others_ordered.ext ordered fun (key, value) => by
    rw [others_held, held]
  rw [listed, same]

theorem parseList_of_not_reads {listing : String} (unread : ∀ written, ¬ Reads listing written) :
    parseList listing = [] := by
  have parsed : parse? listing = ((parseWritten (Text.encode listing)).map Value.settled).toOption :=
    rfl
  rw [parseList, parsed]
  cases read : parseWritten (Text.encode listing) with
  | error failure => rfl
  | ok value =>
    cases value with
    | object written => exact absurd read (unread written)
    | _ => rfl

theorem ofMember_settled (key : String) (value : Value) :
    ofMember (key, value.settled) = { name := key, description := described value } := by
  cases value <;> simp [ofMember, described, Value.settled, Value.ofMembers]

section

variable {listing : String} {written : List Member}

theorem parseList_increasing (reads : Reads listing written) :
    (parseList listing).Pairwise fun entry later =>
      Text.encode entry.name < Text.encode later.name := by
  obtain ⟨kept, listed, ordered, -⟩ := parseList_of_reads reads
  rw [listed, List.pairwise_map]
  exact List.Pairwise.imp Text.encode_lt_encode ordered

theorem mem_parseList (reads : Reads listing written) {entry : PluginEntry} :
    entry ∈ parseList listing ↔
      ∃ value, HeldLast written entry.name value ∧ entry.description = described value := by
  obtain ⟨kept, listed, -, held⟩ := parseList_of_reads reads
  rw [listed, List.mem_map]
  constructor
  · rintro ⟨⟨key, value⟩, member, rfl⟩
    obtain ⟨given, last, rfl⟩ := heldLast_settledMembers.mp ((held key value).mp member)
    exact ⟨given, last, by rw [ofMember_settled]⟩
  · rintro ⟨given, last, same⟩
    refine ⟨(entry.name, given.settled), ?_, by rw [ofMember_settled, ← same]⟩
    exact (held ..).mpr (heldLast_settledMembers.mpr ⟨given, last, rfl⟩)

theorem mem_names_parseList (reads : Reads listing written) (name : String) :
    name ∈ (parseList listing).map PluginEntry.name ↔ name ∈ written.map Prod.fst := by
  rw [← exists_heldLast, List.mem_map]
  constructor
  · rintro ⟨entry, member, rfl⟩
    obtain ⟨value, last, -⟩ := (mem_parseList reads).mp member
    exact ⟨value, last⟩
  · rintro ⟨value, last⟩
    exact ⟨⟨name, described value⟩, (mem_parseList reads).mpr ⟨value, last, rfl⟩, rfl⟩

theorem parseList_perm (reads : Reads listing written) {other : String} {others : List Member}
    (other_reads : Reads other others) (perm : others.Perm written)
    (distinct : (written.map Prod.fst).Nodup) : parseList other = parseList listing := by
  obtain ⟨kept, listed, ordered, held⟩ := parseList_of_reads reads
  have settled_perm : (Value.settledMembers others).Perm (Value.settledMembers written) := by
    rw [settledMembers_eq, settledMembers_eq]
    exact perm.map _
  have settled_distinct : ((Value.settledMembers written).map Prod.fst).Nodup := by
    rwa [keys_settledMembers]
  have others_distinct : ((Value.settledMembers others).map Prod.fst).Nodup :=
    (settled_perm.map Prod.fst).nodup_iff.mpr settled_distinct
  rw [listed]
  refine parseList_eq other_reads ordered fun key value => ?_
  rw [held, heldLast_of_nodup settled_distinct, heldLast_of_nodup others_distinct,
    settled_perm.mem_iff]

theorem toMember_ordered (reads : Reads listing written) :
    Ordered ((parseList listing).map toMember) := by
  obtain ⟨kept, listed, ordered, -⟩ := parseList_of_reads reads
  rw [listed, List.map_map]
  exact List.pairwise_map.mpr ordered

theorem parseList_relisted (reads : Reads listing written) {other : String}
    {others : List Member} (other_reads : Reads other others)
    (perm : others.Perm ((parseList listing).map toMember)) :
    parseList other = parseList listing := by
  have ordered := toMember_ordered reads
  have others_distinct : (others.map Prod.fst).Nodup :=
    (perm.map Prod.fst).nodup_iff.mpr ordered.distinct
  have settled : Value.settledMembers others = others := by
    rw [settledMembers_eq]
    refine (List.map_congr_left fun member inside => ?_).trans (List.map_id others)
    obtain ⟨entry, -, rfl⟩ := List.mem_map.mp (perm.mem_iff.mp inside)
    rfl
  refine (parseList_eq other_reads ordered fun key value => ?_).trans ?_
  · rw [settled, heldLast_of_nodup others_distinct, perm.mem_iff]
  · rw [List.map_map]
    exact List.map_id _

theorem parseList_followed (reads : Reads listing written) (extra : String)
    (blank : ∀ char ∈ extra.toList, char ∈ [' ', '\n', '\t', '\r']) :
    parseList (listing ++ extra) = parseList listing := by
  have longer : Reads (listing ++ extra) written := by
    rw [Reads, Text.encode_append, parseWritten_append reads trivial,
      if_pos ((Parser.isSpace_encode extra).mpr blank)]
  obtain ⟨kept, listed, ordered, held⟩ := parseList_of_reads reads
  rw [listed, parseList_eq longer ordered held]

theorem parseList_ended (reads : Reads listing written) (extra : String)
    (more : ¬ (∀ char ∈ extra.toList, char ∈ [' ', '\n', '\t', '\r'])) :
    parseList (listing ++ extra) = [] := by
  refine parseList_of_not_reads fun others other_reads => ?_
  rw [Reads, Text.encode_append, parseWritten_append reads trivial,
    if_neg fun spaces => more ((Parser.isSpace_encode extra).mp spaces)] at other_reads
  cases other_reads

theorem reads_compact (entries : List PluginEntry) :
    Reads (Value.object (entries.map toMember)).compact (entries.map toMember) := by
  have texts : entries.map toMember =
      ofTexts (entries.map fun entry => (entry.name, entry.description)) := by
    rw [ofTexts, List.map_map]
    rfl
  rw [texts]
  exact parseWritten_compact _

theorem parseList_lists (reads : Reads listing written) :
    Lists listing written (parseList listing) where
  increasing := parseList_increasing reads
  names := mem_names_parseList reads
  last _ := (mem_parseList reads).mp
  reordered _ _ := parseList_perm reads
  compact := reads_compact _
  relisted _ _ := parseList_relisted reads
  followed := parseList_followed reads
  ended := parseList_ended reads

end

section

variable {S : Type} (host : Host S) (view : DocView) (stage : Stage S)

theorem listPlugins_runs {pluginType : String} {tool : Path}
    (supported : pluginType ∈ view.pluginTypes)
    (found : stage.state.report?.bind Report.docTool = some tool) :
    let arguments := (listArguments pluginType).map Text.encode
    ∃ after, stage.RunsTo [commandLine tool arguments] after ∧
      after.world = host.runner.leaves tool arguments stage.world ∧
      (Session.listPlugins host view pluginType).perform stage =
        (.ok (ofRun (host.runner.run tool arguments stage.world).1), after) := by
  intro arguments
  rw [Session.listPlugins, Act.perform_bind_ok (Gating.validate_perform supported stage),
    Act.perform_bind_ok (Gating.docTool_found view found)]
  refine ((Probe.run_quiet host stage.world tool arguments).outcome.thenSilent ?_).reaches
  cases (host.runner.run tool arguments stage.world).1 with
  | error error => exact Act.quiet_log.andThen (Act.quiet_pure _)
  | ok output =>
    dsimp only [ofRun]
    split_ifs
    · exact Act.quiet_pure _
    · exact Act.quiet_log.andThen (Act.quiet_pure _)

theorem listPlugins_perform (pluginType : String) :
    ((Session.listPlugins host view pluginType).perform stage).1 =
      requested host view pluginType stage := by
  unfold requested
  split_ifs with supported
  · cases found : stage.state.report?.bind Report.docTool with
    | none =>
      rw [Session.listPlugins, Act.perform_bind_ok (Gating.validate_perform supported stage),
        Act.perform_bind_error (Gating.docTool_refused view found)]
    | some tool =>
      obtain ⟨_, _, _, done⟩ := listPlugins_runs host view stage supported found
      rw [done]
  · rw [Session.listPlugins, Act.perform_bind_error (Gating.validate_refused supported stage)]

end

/-- What a text lists, and what a session lists that runs the tool: a run that fails, or that does
not give one object, lists nothing. -/
theorem plugins_listed (listing : String) :
    (∀ written, Reads listing written -> Lists listing written (parseList listing)) ∧
      ((∀ written, ¬ Reads listing written) -> parseList listing = []) ∧
      ∀ {S : Type} (host : Host S) (view : DocView) (pluginType : String) (stage : Stage S),
        ((Session.listPlugins host view pluginType).perform stage).1 =
          requested host view pluginType stage :=
  ⟨fun _ => parseList_lists, parseList_of_not_reads,
    fun host view pluginType stage => listPlugins_perform host view stage pluginType⟩

def repeatedKey : String :=
  "\x7b\"b\": true, \"a\": \"x\", \"b\": [null, \x7b\"d\": [], \"c\": \x7b\x7d\x7d]\x7d"

def repeatedKeyMembers : List Member :=
  [("b", .bool true), ("a", .text "x"),
    ("b", .array [.null, .object [("d", .array []), ("c", .object [])]])]

theorem plugins_listed_repeated :
    Reads repeatedKey repeatedKeyMembers ∧
      Lists repeatedKey repeatedKeyMembers
        [⟨"a", "x"⟩, ⟨"b", "[null,\x7b\"c\":\x7b\x7d,\"d\":[]\x7d]"⟩] := by
  have reads : parseWritten (Text.encode repeatedKey) = .ok (.object repeatedKeyMembers) := by cbv
  have listed : parseList repeatedKey =
      [⟨"a", "x"⟩, ⟨"b", "[null,\x7b\"c\":\x7b\x7d,\"d\":[]\x7d]"⟩] := by cbv
  rw [← listed]
  exact ⟨reads, (plugins_listed repeatedKey).1 _ reads⟩

end PluginEntry

end AnsibleTooling
