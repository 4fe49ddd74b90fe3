import Confinement.Harness.Registry
import Confinement.Proofs.Process.Variables
import Confinement.Text.Utf8.RoundTrip

/-!
A request on its way from the command that carries it to the child that finds it. What a child
inherits beside the command's variables makes no difference, unless the command leaves a variable of
the request unset. Main statement: `request_handed_over`.
-/

namespace Confinement.Harness

open Environment (isKey IsOrdered)

/-- The variables of a request can be set, and they are three. -/
structure Config.Separate (config : Config) : Prop where
  procKey : isKey (utf8 config.procVariable) = true
  argumentKey : isKey (utf8 config.argumentVariable) = true
  markerKey : isKey (utf8 config.markerVariable) = true
  procArgument : config.procVariable ≠ config.argumentVariable
  procMarker : config.procVariable ≠ config.markerVariable
  argumentMarker : config.argumentVariable ≠ config.markerVariable

theorem utf8_ne {text other : String} (different : text ≠ other) : utf8 text ≠ utf8 other :=
  fun same => different (utf8_injective same)

/-! The variables of a command. -/

namespace Command

variable {command : Command} {key value : Bytes}

/-- The variables of a command stand in order and have keys that can be set. -/
structure IsOrderly (command : Command) : Prop where
  sorted : IsOrdered command.assignments
  keys : ∀ entry ∈ command.assignments, isKey entry.1 = true

theorem isOrderly_ofArguments (arguments : List Bytes) : (ofArguments arguments).IsOrderly where
  sorted := .nil
  keys _ member := absurd member List.not_mem_nil

theorem IsOrderly.setVariable (orderly : command.IsOrderly) (valid : isKey key = true)
    (value : Bytes) : (command.setVariable key value).IsOrderly where
  sorted := Environment.isOrdered_insertVariable orderly.sorted key value
  keys entry member := by
    rcases Environment.mem_insertVariable member with rfl | before
    · exact valid
    · exact orderly.keys entry before

theorem IsOrderly.value?_putAll (orderly : command.IsOrderly) (inherited : Environment)
    {key : Bytes} (valid : isKey key = true) :
    Environment.value? (inherited.putAll command.assignments) key =
      (command.assignments.lookup key).or (inherited.value? key) :=
  Environment.value?_putAll inherited valid orderly.sorted fun entry member =>
    Environment.equals_notMem_of_isKey (orderly.keys entry member)

theorem lookup_setVariable (command : Command) (key value other : Bytes) :
    (command.setVariable key value).assignments.lookup other =
      if other = key then some value else command.assignments.lookup other :=
  Environment.lookup_insertVariable key value command.assignments other

/-- No variable of a command has NUL in it. -/
def IsNulFree (command : Command) : Prop :=
  ∀ entry ∈ command.assignments, (0 : UInt8) ∉ entry.1 ∧ (0 : UInt8) ∉ entry.2

theorem IsNulFree.setVariable (free : command.IsNulFree) (keyFree : (0 : UInt8) ∉ key)
    (valueFree : (0 : UInt8) ∉ value) : (command.setVariable key value).IsNulFree := by
  intro entry member
  rcases Environment.mem_insertVariable member with rfl | before
  · exact ⟨keyFree, valueFree⟩
  · exact free entry before

end Command

/-! Reading a request. -/

namespace Config

variable (config : Config) {environment : Environment}

theorem request?_of_values {name : String} {argument : Bytes}
    (named : environment.value? (utf8 config.procVariable) = some (utf8 name))
    (argued : environment.value? (utf8 config.argumentVariable) = some argument) :
    config.request? environment =
      if name = "" then none
      else some ⟨name, argument, environment.value? (utf8 config.markerVariable)⟩ := by
  simp only [request?, named, argued, Option.bind_some, text?_utf8, Option.getD_some,
    String.isEmpty_iff]

/-- A request is found just where the variable for the name holds text that is not empty. -/
theorem request?_isSome_iff :
    (config.request? environment).isSome = true ↔
      ∃ name, name ≠ "" ∧ environment.value? (utf8 config.procVariable) = some (utf8 name) := by
  constructor
  · intro found
    simp only [request?] at found
    split at found
    · contradiction
    · next name read =>
        obtain ⟨bytes, held, decoded⟩ := Option.bind_eq_some_iff.mp read
        refine ⟨name, ?_, held.trans (congrArg some (text?_eq_some_iff.mp decoded).symm)⟩
        rintro rfl
        simp at found
  · rintro ⟨name, nonempty, held⟩
    simp [request?, held, text?_utf8, nonempty]

end Config

/-! From the command to the child. -/

namespace Registry

variable {β : Type} (registry : Registry β) (thread : Option String) (name : String)
  (argument : Bytes)

theorem command_eq_error_iff (error : UnknownProc) :
    registry.command thread name argument = .error error ↔
      registry.find? name = none ∧ error = ⟨name⟩ := by
  cases found : registry.find? name <;> simp [command, found, eq_comm]

variable {registry thread name argument} {command : Command}

theorem command_eq_ok (built : registry.command thread name argument = .ok command) :
    command = ((Command.ofArguments (registry.config.childArguments thread)).setVariable
        (utf8 registry.config.procVariable) (utf8 name)).setVariable
        (utf8 registry.config.argumentVariable) argument := by
  simp only [Registry.command] at built
  split at built
  · contradiction
  · exact (Except.ok.inj built).symm

section Carry

variable (built : registry.command thread name argument = .ok command)

include built

theorem command_nulFree (separate : registry.config.Separate) (nameFree : (0 : UInt8) ∉ utf8 name)
    (argumentFree : (0 : UInt8) ∉ argument) : command.IsNulFree := by
  rw [command_eq_ok built]
  have none : (Command.ofArguments (registry.config.childArguments thread)).IsNulFree :=
    fun _ member => absurd member List.not_mem_nil
  exact (none.setVariable (Environment.nul_notMem_of_isKey separate.procKey) nameFree).setVariable
    (Environment.nul_notMem_of_isKey separate.argumentKey) argumentFree

theorem command_orderly (separate : registry.config.Separate) : command.IsOrderly := by
  rw [command_eq_ok built]
  exact ((Command.isOrderly_ofArguments _).setVariable separate.procKey _).setVariable
    separate.argumentKey _

theorem command_lookup_proc (separate : registry.config.Separate) :
    command.assignments.lookup (utf8 registry.config.procVariable) = some (utf8 name) := by
  rw [command_eq_ok built, Command.lookup_setVariable, if_neg (utf8_ne separate.procArgument),
    Command.lookup_setVariable, if_pos rfl]

theorem command_lookup_argument :
    command.assignments.lookup (utf8 registry.config.argumentVariable) = some argument := by
  rw [command_eq_ok built, Command.lookup_setVariable, if_pos rfl]

theorem command_lookup_marker (separate : registry.config.Separate) :
    command.assignments.lookup (utf8 registry.config.markerVariable) = none := by
  rw [command_eq_ok built, Command.lookup_setVariable,
    if_neg (utf8_ne separate.argumentMarker.symm), Command.lookup_setVariable,
    if_neg (utf8_ne separate.procMarker.symm)]
  rfl

theorem request?_of_command (separate : registry.config.Separate) (inherited : Environment) :
    registry.config.request? (inherited.putAll command.assignments) =
      if name = "" then none
      else some ⟨name, argument, inherited.value? (utf8 registry.config.markerVariable)⟩ := by
  have orderly := command_orderly built separate
  have marker := orderly.value?_putAll inherited separate.markerKey
  rw [command_lookup_marker built separate, Option.none_or] at marker
  rw [← marker]
  apply Config.request?_of_values
  · rw [orderly.value?_putAll inherited separate.procKey, command_lookup_proc built separate,
      Option.some_or]
  · rw [orderly.value?_putAll inherited separate.argumentKey, command_lookup_argument built,
      Option.some_or]

theorem request?_of_marked (separate : registry.config.Separate) (inherited : Environment)
    (marker : Bytes) :
    registry.config.request? (inherited.putAll
        (command.setVariable (utf8 registry.config.markerVariable) marker).assignments) =
      if name = "" then none else some ⟨name, argument, some marker⟩ := by
  have orderly := (command_orderly built separate).setVariable separate.markerKey marker
  have read := orderly.value?_putAll inherited separate.markerKey
  rw [Command.lookup_setVariable, if_pos rfl, Option.some_or] at read
  rw [← read]
  apply Config.request?_of_values
  · rw [orderly.value?_putAll inherited separate.procKey, Command.lookup_setVariable,
      if_neg (utf8_ne separate.procMarker), command_lookup_proc built separate, Option.some_or]
  · rw [orderly.value?_putAll inherited separate.argumentKey, Command.lookup_setVariable,
      if_neg (utf8_ne separate.argumentMarker), command_lookup_argument built, Option.some_or]

end Carry

/-- A command fails just for a name that is not registered. The child of any other finds the request
it was built for, whatever it inherits, unless the name is empty; where the command sets no marker,
the inherited one counts. -/
theorem request_handed_over (registry : Registry β) (thread : Option String) (name : String)
    (argument : Bytes) :
    (∀ command, registry.command thread name argument = .ok command →
      registry.config.Separate → (0 : UInt8) ∉ utf8 name → (0 : UInt8) ∉ argument →
      ∀ (inherited : Environment) (marker : Bytes), (0 : UInt8) ∉ marker →
        let marked := command.setVariable (utf8 registry.config.markerVariable) marker
        marked.IsNulFree ∧
          registry.config.request? (inherited.putAll marked.assignments) =
            (if name = "" then none else some ⟨name, argument, some marker⟩) ∧
          registry.config.request? (inherited.putAll command.assignments) =
            if name = "" then none
            else some ⟨name, argument, inherited.value? (utf8 registry.config.markerVariable)⟩) ∧
    (∀ error, registry.command thread name argument = .error error ↔
      registry.find? name = none ∧ error = ⟨name⟩) ∧
    ∀ environment, (registry.config.request? environment).isSome = true ↔
      ∃ text, text ≠ "" ∧
        environment.value? (utf8 registry.config.procVariable) = some (utf8 text) := by
  refine ⟨?_, command_eq_error_iff registry thread name argument,
    fun environment => registry.config.request?_isSome_iff⟩
  intro command built separate nameFree argumentFree inherited marker markerFree
  have free := command_nulFree built separate nameFree argumentFree
  exact ⟨free.setVariable (Environment.nul_notMem_of_isKey separate.markerKey) markerFree,
    request?_of_marked built separate inherited marker,
    request?_of_command built separate inherited⟩

/-- An argument that is not text and an empty marker, over stale values and a key with an equals
sign that looks like the variable for the name. -/
theorem request_handed_over_stale :
    let registry : Registry Unit := ({} : Registry Unit).succeeds "probe" ()
    let inherited : Environment := ⟨[(utf8 "UNIXCALL_INTERNAL_PROCNAME=x", utf8 "y"),
      (utf8 "UNIXCALL_INTERNAL_PROCNAME", utf8 "stale"),
      (utf8 "UNIXCALL_INTERNAL_DISPATCHED", utf8 "/old")]⟩
    ∃ command, registry.command none "probe" [0xff] = .ok command ∧
      registry.config.request? (inherited.putAll
        (command.setVariable (utf8 registry.config.markerVariable) []).assignments) =
          some ⟨"probe", [0xff], some []⟩ ∧
      registry.config.request? (inherited.putAll command.assignments) =
        some ⟨"probe", [0xff], some (utf8 "/old")⟩ := by
  intro registry inherited
  have separate : registry.config.Separate := by
    constructor <;> decide
  have held : inherited.value? (utf8 registry.config.markerVariable) = some (utf8 "/old") := by
    decide
  refine ⟨_, rfl, ?_⟩
  have carried := (request_handed_over registry none "probe" [0xff]).1 _ rfl separate (by decide)
    (by decide) inherited [] List.not_mem_nil
  rw [held] at carried
  exact carried.2

end Registry

end Confinement.Harness
