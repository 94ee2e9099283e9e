import AnsibleTooling.Proofs.Paths
import AnsibleTooling.Proofs.ReportConsistency

set_option autoImplicit false

namespace AnsibleTooling

namespace Text

def IsText (bytes : Bytes) : Prop :=
  ∃ text, encode text = bytes

theorem isText_iff (bytes : Bytes) : IsText bytes ↔ encode (decode bytes) = bytes := by
  constructor
  · rintro ⟨text, rfl⟩
    rw [decode_encode]
  · exact fun same => ⟨_, same⟩

theorem encode_ascii (byte : UInt8) : byte < 128 ->
    encode (String.singleton (Char.ofNat byte.toNat)) = [byte] := by
  revert byte
  exact forall_byte (by decide +kernel)

theorem utf8EncodeChar_of_ascii {char : Char} {front : Bytes} {byte : UInt8} (ascii : byte < 128)
    (ends : String.utf8EncodeChar char = front ++ [byte]) : front = [] := by
  have last := congrArg List.getLast? ends
  rw [List.getLast?_concat] at last
  unfold String.utf8EncodeChar at ends last
  dsimp only at ends last
  split at ends
  next =>
    rw [← List.nil_append [_]] at ends
    exact (List.append_inj' ends rfl).1.symm
  next several =>
    -- With several bytes, each is at least 128.
    rw [if_neg several] at last
    exfalso
    split_ifs at last <;>
    · simp only [List.getLast?_cons_cons, List.getLast?_singleton, Option.some.injEq] at last
      rw [← last, UInt8.lt_iff_toNat_lt, Utf8.toNat_ofNat_of_lt (by omega)] at ascii
      exact absurd ascii (Nat.not_lt.mpr (Nat.le_add_left 128 _))

theorem isText_concat {bytes : Bytes} {byte : UInt8} (ascii : byte < 128) :
    IsText (bytes ++ [byte]) ↔ IsText bytes := by
  constructor
  · rintro ⟨text, written⟩
    rcases List.eq_nil_or_concat text.toList with nothing | ⟨chars, char, whole⟩
    · simp [encode, nothing] at written
    -- What is written of the last character is that byte, and the others are the rest.
    rw [encode, whole, List.concat_eq_append, List.flatMap_append, List.flatMap_singleton] at written
    have front : chars.flatMap String.utf8EncodeChar = bytes := by
      rcases List.append_eq_append_iff.mp written with ⟨more, same, last⟩ | ⟨more, same, last⟩
      · rw [same, utf8EncodeChar_of_ascii ascii last, List.append_nil]
      · rcases List.append_eq_singleton_iff.mp last.symm with ⟨none, _⟩ | ⟨_, none⟩
        · rw [same, none, List.append_nil]
        · exact absurd none String.utf8EncodeChar_ne_nil
    exact ⟨String.ofList chars, by rw [encode, String.toList_ofList, front]⟩
  · rintro ⟨text, rfl⟩
    exact ⟨_, (encode_append text _).trans (congrArg _ (encode_ascii byte ascii))⟩

theorem isText_append {bytes tail : Bytes} (ascii : ∀ byte ∈ tail, byte < 128) :
    IsText (bytes ++ tail) ↔ IsText bytes := by
  induction tail generalizing bytes with
  | nil => rw [List.append_nil]
  | cons byte rest ih =>
    rw [List.forall_mem_cons] at ascii
    rw [List.append_cons, ih ascii.2, isText_concat ascii.1]

end Text

theorem Environment.python_continues (storage : Path) (platform : Platform) :
    Path.Continues isPlainByte storage (Environment.python storage platform) := by
  refine (Environment.binDirectory_continues storage platform).trans
    (Path.joinText_continues _ ?_ ?_) <;> cases platform <;> decide

theorem Environment.isText_python (storage : Path) (platform : Platform) :
    Text.IsText (Environment.python storage platform).bytes ↔ Text.IsText storage.bytes := by
  obtain ⟨tail, bytes, plain⟩ := Environment.python_continues storage platform
  rw [bytes]
  refine Text.isText_append fun byte member => ?_
  have plain := List.all_eq_true.mp plain byte member
  simp only [isPlainByte, Bool.and_eq_true, decide_eq_true_eq] at plain
  exact plain.1

namespace Activation

variable {S : Type} (host : Host S) (context : Context)

/-- How the managed environment is handed to the server. The directory is, byte for byte, the one
below which the tools were found; the interpreter in it is shown as text. -/
structure Handed (report : Report) (directory : Path) : Prop extends
    Managed context report directory where
  tools (tool : Tool) (path : Path) : report.resolution.builtin.get tool = some path ->
    path = directory.joinText (context.platform.executableName tool.command)
  python : Environment.python context.storage context.platform =
    directory.joinText (context.platform.executableName "python")
  exact : Text.encode report.configuration.interpreterPath =
      (Environment.python context.storage context.platform).bytes ↔
    Text.IsText context.storage.bytes

theorem activate_hands {before after : Stage S} {report : Report} {directory : Path}
    (performed : (activate host context).perform before = (.ok (.ready report), after))
    (prefixed : report.serverPathPrefix = some directory) : Handed context report directory := by
  have managed := managed_of_ready host context performed prefixed
  refine ⟨managed, fun tool path named => ?_, ?_, ?_⟩
  · rw [managed.place]
    exact (tool_of_ready host context performed named).1
  · rw [managed.place]
    rfl
  · rw [managed.interpreter, Path.display, ← Text.isText_iff, Environment.isText_python]

def unreadableContext : Context :=
  { storage := { bytes := [47, 255] } }

theorem activate_hands_bareMachine :
    ∃ report after directory,
      (activate (Rehearsal.host bareMachine .posix) bareContext).perform bareStage =
        (.ok (.ready report), after) ∧
      report.serverPathPrefix = some directory ∧
      Handed bareContext report directory ∧
      Text.encode report.configuration.interpreterPath =
        (Environment.python bareContext.storage .posix).bytes := by
  have ready : ∃ report,
      ((activate (Rehearsal.host bareMachine .posix) bareContext).perform bareStage).1 =
        .ok (.ready report) ∧
      report.serverPathPrefix = some (Environment.binDirectory bareContext.storage .posix) :=
    ⟨_, rfl, rfl⟩
  obtain ⟨report, ready, prefixed⟩ := ready
  have performed :
      (activate (Rehearsal.host bareMachine .posix) bareContext).perform bareStage =
        (.ok (.ready report), _) := Prod.ext ready rfl
  have handed := activate_hands (Rehearsal.host bareMachine .posix) bareContext performed prefixed
  exact ⟨report, _, _, performed, prefixed, handed, handed.exact.mpr ⟨_, rfl⟩⟩

/-- The interpreter is there after an installation, but not where the server is told to look. -/
theorem activate_mishands :
    ∃ report after,
      (activate (Rehearsal.host bareMachine .posix) unreadableContext).perform bareStage =
        (.ok (.ready report), after) ∧
      report.serverPathPrefix = some (Environment.binDirectory unreadableContext.storage .posix) ∧
      Text.encode report.configuration.interpreterPath ≠
        (Environment.python unreadableContext.storage .posix).bytes ∧
      Files.isFile after.world.tree after.world.workDir
        (Environment.python unreadableContext.storage .posix) = true ∧
      Files.isFile after.world.tree after.world.workDir
        (Path.ofText report.configuration.interpreterPath) = false :=
  ⟨_, _, rfl, rfl, by decide +kernel, by decide +kernel, by decide +kernel⟩

end Activation

end AnsibleTooling
