import Confinement.Proofs.History
import Confinement.Proofs.Process.Variables
import Confinement.Text.Utf8.RoundTrip
import Mathlib.Data.List.Induction
import Mathlib.Tactic.Tauto

/-!
The environment as a store. Whatever is asked of it and in whatever order, a variable has the value
that it was given last, or none if it was unset since or never given one. A request that is refused
changes nothing, and no request changes a variable that it does not name. Main statement:
`variables_keep_last_values`.
-/

namespace Confinement

theorem lossy_utf8 (text : String) : lossy (utf8 text) = text := by
  have ofScalars (read : List Char) :
      (read.map some).map (fun scalar : Option Char => scalar.getD '\ufffd') = read := by
    rw [List.map_map]
    exact List.map_id read
  rw [lossy, Text.decodeLossy, utf8, Text.scalars_encodeUtf8, ofScalars, String.ofList_toList]

namespace Environment

inductive Request where
  | assign (key value : Bytes)
  | remove (key : Bytes)
  | read (key : Bytes)
deriving DecidableEq, Repr

/-- The key of the variable that a request is about. -/
def Request.key : Request → Bytes
  | .assign key _ | .remove key | .read key => key

inductive Answer where
  | done
  | text (value : Option String)
  | refused (reason : Errno)
deriving DecidableEq, Repr

/-- The answer to a request and the environment after it. -/
def step (environment : Environment) : Request → Answer × Environment
  | .assign key value =>
      match environment.assign key value with
      | .ok next => (.done, next)
      | .error reason => (.refused reason, environment)
  | .remove key =>
      match environment.remove key with
      | .ok next => (.done, next)
      | .error reason => (.refused reason, environment)
  | .read key => (.text (environment.text? key), environment)

theorem isKey_eq_true_iff {key : Bytes} :
    isKey key = true ↔ ¬ (key = [] ∨ 0x3d ∈ key ∨ 0 ∈ key) := by
  simp only [isKey, Bool.and_eq_true, Bool.not_eq_true', List.isEmpty_eq_false_iff,
    List.contains_eq_mem, decide_eq_false_iff_not, not_or, and_assoc, ne_eq]

theorem step_assign (environment : Environment) (key value : Bytes) :
    step environment (.assign key value) =
      if key = [] ∨ 0x3d ∈ key ∨ 0 ∈ key ∨ 0 ∈ value then (.refused .invalid, environment)
      else (.done, environment.put key value) := by
  by_cases valid : isKey key = true
  · have plain := isKey_eq_true_iff.mp valid
    by_cases nul : 0 ∈ value
    · rw [if_pos (.inr (.inr (.inr nul)))]
      simp [step, assign, valid, nul]
    · rw [if_neg (by tauto)]
      simp [step, assign, valid, nul]
  · have bad := Decidable.not_not.mp (mt isKey_eq_true_iff.mpr valid)
    rw [if_pos (by tauto)]
    simp [step, assign, valid]

theorem step_remove (environment : Environment) (key : Bytes) :
    step environment (.remove key) =
      if key = [] ∨ 0x3d ∈ key ∨ 0 ∈ key then (.refused .invalid, environment)
      else (.done, environment.erase key) := by
  by_cases valid : isKey key = true
  · rw [if_neg (isKey_eq_true_iff.mp valid)]
    simp [step, remove, valid]
  · rw [if_pos (Decidable.not_not.mp (mt isKey_eq_true_iff.mpr valid))]
    simp [step, remove, valid]

theorem step_of_refused {environment : Environment} {request : Request} {reason : Errno}
    (refused : (step environment request).1 = .refused reason) :
    (step environment request).2 = environment := by
  cases request with
  | assign key value =>
      rw [step_assign] at refused ⊢
      split
      · rfl
      · next accepted => rw [if_neg accepted] at refused; cases refused
  | remove key =>
      rw [step_remove] at refused ⊢
      split
      · rfl
      · next accepted => rw [if_neg accepted] at refused; cases refused
  | read key => rfl

/-! Reading a variable. -/

theorem value?_of_nul (environment : Environment) {key : Bytes} (nul : 0 ∈ key) :
    environment.value? key = none := by
  rw [value?, List.contains_iff_mem.mpr nul, Bool.or_true, if_pos rfl]

/-- Nothing is found for a key but the variable with this key: no other variable has a key that goes
on with an equals sign. -/
def IsApart (environment : Environment) (key : Bytes) : Prop :=
  ∀ entry ∈ environment.ordered, heldFor? key (handed entry) ≠ none → entry.1 = key

section Read

variable {environment : Environment} {key : Bytes}

theorem isApart_of_value?_eq_none (valid : isKey key = true)
    (unset : environment.value? key = none) : environment.IsApart key := by
  rw [value?_of_isKey _ valid, List.findSome?_eq_none_iff] at unset
  exact fun entry member found => absurd (unset entry member) found

theorem mem_ordered_of_mem_erase {other : Bytes} {entry : Bytes × Bytes}
    (member : entry ∈ Environment.ordered (environment.erase other)) :
    entry ∈ environment.ordered ∧ entry.1 ≠ other := by
  have filtered := filter_ordered (· != other) environment.entries
  have inside : entry ∈ (ordered ⟨environment.entries⟩).filter (fun entry => entry.1 != other) :=
    filtered ▸ member
  simpa using List.mem_filter.mp inside

theorem IsApart.erase (apart : environment.IsApart key) (other : Bytes) :
    Environment.IsApart (environment.erase other) key :=
  fun entry member => apart entry (mem_ordered_of_mem_erase member).1

theorem IsApart.put (apart : environment.IsApart key) {other : Bytes} (value : Bytes)
    (plain : (0x3d : UInt8) ∉ key) (otherPlain : (0x3d : UInt8) ∉ other) :
    Environment.IsApart (environment.put other value) key := by
  intro entry member found
  rcases mem_insertVariable member with rfl | old
  · exact Decidable.not_not.mp fun different =>
      found (heldFor?_handed_ne value different plain otherPlain)
  · exact apart.erase other entry old found

theorem value?_erase_self (valid : isKey key = true) (apart : environment.IsApart key) :
    Environment.value? (environment.erase key) key = none := by
  rw [value?_of_isKey _ valid, List.findSome?_eq_none_iff]
  intro entry member
  obtain ⟨old, different⟩ := mem_ordered_of_mem_erase member
  exact Decidable.not_not.mp (mt (apart entry old) different)

end Read

/-! The last value. -/

/-- What a line of a transcript makes of the value of a variable. -/
def noted (key : Bytes) (value : Option Bytes) : Request × Answer → Option Bytes
  | (.assign other given, .done) => if key = other then some given else value
  | (.remove other, .done) => if key = other then none else value
  | _ => value

/-- The value that a variable has by a transcript, from an earlier value on. -/
def lastValue (key : Bytes) (value : Option Bytes) (past : List (Request × Answer)) :
    Option Bytes :=
  past.foldl (noted key) value

/-- A part of a transcript in which a variable was neither set nor unset. -/
def Untouched (key : Bytes) (past : List (Request × Answer)) : Prop :=
  (.remove key, .done) ∉ past ∧ ∀ value, (.assign key value, .done) ∉ past

section LastValue

variable {key : Bytes} {past : List (Request × Answer)}

theorem untouched_cons_iff {entry : Request × Answer} :
    Untouched key (entry :: past) ↔
      entry ≠ (.remove key, .done) ∧ (∀ value, entry ≠ (.assign key value, .done)) ∧
        Untouched key past := by
  simp only [Untouched, List.mem_cons, not_or, ne_eq, eq_comm (b := entry), forall_and]
  tauto

theorem noted_of_ne {value : Option Bytes} {entry : Request × Answer}
    (kept : entry ≠ (.remove key, .done))
    (unchanged : ∀ given, entry ≠ (.assign key given, .done)) : noted key value entry = value := by
  obtain ⟨request, answer⟩ := entry
  cases answer with
  | done =>
      cases request with
      | assign other given =>
          exact if_neg fun same => unchanged given (by rw [same])
      | remove other => exact if_neg fun same => kept (by rw [same])
      | read other => rfl
  | text _ | refused _ => cases request <;> rfl

theorem lastValue_of_untouched {value : Option Bytes} (untouched : Untouched key past) :
    lastValue key value past = value := by
  induction past with
  | nil => rfl
  | cons entry past ih =>
      obtain ⟨kept, unchanged, rest⟩ := untouched_cons_iff.mp untouched
      rw [lastValue, List.foldl_cons, noted_of_ne kept unchanged]
      exact ih rest

/-- A value is lost only where its variable was unset. -/
theorem mem_of_lastValue_eq_none {value : Bytes} (lost : lastValue key (some value) past = none) :
    (.remove key, .done) ∈ past := by
  induction past generalizing value with
  | nil => cases lost
  | cons entry past ih =>
      by_cases removed : entry = (.remove key, .done)
      · exact removed ▸ List.mem_cons_self
      · have present : ∃ later, noted key (some value) entry = some later := by
          by_cases unchanged : ∀ given, entry ≠ (.assign key given, .done)
          · exact ⟨value, noted_of_ne removed unchanged⟩
          · obtain ⟨given, rfl⟩ := not_forall_not.mp unchanged
            exact ⟨given, if_pos rfl⟩
        obtain ⟨later, same⟩ := present
        rw [lastValue, List.foldl_cons, same] at lost
        exact List.mem_cons_of_mem _ (ih lost)

/-- A value that was not there before was given, and the variable left alone since. -/
theorem exists_assign_of_lastValue {value : Bytes} (settled : lastValue key none past = some value) :
    ∃ earlier later, past = earlier ++ (.assign key value, .done) :: later ∧
      Untouched key later := by
  induction past using List.reverseRecOn with
  | nil => cases settled
  | append_singleton past entry ih =>
      rw [lastValue, List.foldl_append, List.foldl_cons, List.foldl_nil] at settled
      have empty : Untouched key [] := ⟨List.not_mem_nil, fun _ => List.not_mem_nil⟩
      by_cases removed : entry = (.remove key, .done)
      · subst removed
        rw [noted, if_pos rfl] at settled
        cases settled
      · by_cases unchanged : ∀ given, entry ≠ (.assign key given, .done)
        · rw [noted_of_ne removed unchanged] at settled
          obtain ⟨earlier, later, rfl, untouched⟩ := ih settled
          refine ⟨earlier, later ++ [entry], by simp, ?_⟩
          simp only [Untouched, List.mem_append, List.mem_singleton, not_or]
          exact ⟨⟨untouched.1, Ne.symm removed⟩,
            fun given => ⟨untouched.2 given, Ne.symm (unchanged given)⟩⟩
        · obtain ⟨given, rfl⟩ := not_forall_not.mp unchanged
          rw [noted, if_pos rfl, Option.some.injEq] at settled
          exact ⟨past, [], by rw [settled], empty⟩

theorem lastValue_eq_none_iff :
    lastValue key none past = none ↔
      ∀ earlier value later, past = earlier ++ (.assign key value, .done) :: later →
        (.remove key, .done) ∈ later := by
  constructor
  · rintro lost earlier value later rfl
    rw [lastValue, List.foldl_append, List.foldl_cons, noted, if_pos rfl] at lost
    exact mem_of_lastValue_eq_none lost
  · intro removed
    cases settled : lastValue key none past with
    | none => rfl
    | some value =>
        obtain ⟨earlier, later, split, untouched⟩ := exists_assign_of_lastValue settled
        exact absurd (removed earlier value later split) untouched.1

end LastValue

/-- The value that is found is the last one by the transcript, and nothing else is found. -/
structure Agrees (key : Bytes) (past : List (Request × Answer)) (environment : Environment) :
    Prop where
  apart : environment.IsApart key
  found : environment.value? key = lastValue key none past

theorem Agrees.step {key : Bytes} {past : List (Request × Answer)} {environment : Environment}
    (agrees : Agrees key past environment) (valid : isKey key = true) (request : Request) :
    Agrees key (past ++ [(request, (environment.step request).1)]) (environment.step request).2 := by
  obtain ⟨apart, same⟩ := agrees
  have plain := equals_notMem_of_isKey valid
  have last (answer : Answer) : lastValue key none (past ++ [(request, answer)]) =
      noted key (environment.value? key) (request, answer) := by
    rw [same, lastValue, List.foldl_append]
    rfl
  cases request with
  | assign other value =>
      rw [step_assign]
      split
      · exact ⟨apart, (last (.refused .invalid)).symm⟩
      · next accepted =>
          have otherPlain : (0x3d : UInt8) ∉ other := fun bad => accepted (.inr (.inl bad))
          exact ⟨apart.put value plain otherPlain,
            (value?_put environment valid value otherPlain).trans (last .done).symm⟩
  | remove other =>
      rw [step_remove]
      split
      · exact ⟨apart, (last (.refused .invalid)).symm⟩
      · next accepted =>
          have otherPlain : (0x3d : UInt8) ∉ other := fun bad => accepted (.inr (.inl bad))
          refine ⟨apart.erase other, Eq.trans ?_ (last .done).symm⟩
          by_cases found : key = other
          · subst found
            exact (value?_erase_self valid apart).trans (if_pos rfl).symm
          · exact (value?_erase_ne environment valid otherPlain found).trans (if_neg found).symm
  | read other => exact ⟨apart, (last (.text (environment.text? other))).symm⟩

/-- After a history the last value by the transcript is found, for a variable that was unset at the
start. -/
theorem value?_final {start : Environment} (requests : List Request) {key : Bytes}
    (valid : isKey key = true) (unset : start.value? key = none) :
    (final step start requests).value? key =
      lastValue key none (transcript step start requests) :=
  (transcript_invariant (Agrees key) ⟨isApart_of_value?_eq_none valid unset, unset⟩
    fun _ _ request agrees => agrees.step valid request).found

/-- No request changes what is found for a key other than its own. -/
theorem value?_step_ne (environment : Environment) {request : Request} {key : Bytes}
    (valid : isKey key = true) (different : key ≠ request.key) :
    (step environment request).2.value? key = environment.value? key := by
  cases request with
  | assign other value =>
      rw [step_assign]
      split
      · rfl
      · next accepted =>
          have plain : (0x3d : UInt8) ∉ other := fun bad => accepted (.inr (.inl bad))
          exact (value?_put environment valid value plain).trans (if_neg different)
  | remove other =>
      rw [step_remove]
      split
      · rfl
      · next accepted =>
          have plain : (0x3d : UInt8) ∉ other := fun bad => accepted (.inr (.inl bad))
          exact value?_erase_ne environment valid plain different
  | read other => rfl

/-- After every history of requests: a variable is set unless its key or value is bad, and unset
unless its key is bad, be it there or not. What is refused changes nothing. A variable that was
unset at the start is so again exactly if it was unset since it was last set, and else it is read as
the text of the value it was last given. The text of well-formed bytes is the text that they
encode. No request changes what is read under another key. -/
theorem variables_keep_last_values (start : Environment) (requests : List Request) :
    let past := transcript step start requests
    let environment := final step start requests
    (∀ key value, (step environment (.assign key value)).1 =
      if key = [] ∨ 0x3d ∈ key ∨ 0 ∈ key ∨ 0 ∈ value then .refused .invalid else .done) ∧
    (∀ key, (step environment (.remove key)).1 =
      if key = [] ∨ 0x3d ∈ key ∨ 0 ∈ key then .refused .invalid else .done) ∧
    (∀ request reason, (step environment request).1 = .refused reason →
      (step environment request).2 = environment) ∧
    (∀ key, key ≠ [] → 0x3d ∉ key → start.value? key = none →
      ((step environment (.read key)).1 = .text none ↔
        ∀ earlier value later, past = earlier ++ (.assign key value, .done) :: later →
          (.remove key, .done) ∈ later) ∧
      ∀ earlier value later, past = earlier ++ (.assign key value, .done) :: later →
        (.remove key, .done) ∉ later → (∀ other, (.assign key other, .done) ∉ later) →
          (step environment (.read key)).1 = .text (some (lossy value))) ∧
    (∀ key, 0 ∈ key → (step environment (.read key)).1 = .text none) ∧
    (lossy [] = "" ∧ ∀ text, lossy (utf8 text) = text) ∧
    ∀ key request, key ≠ [] → 0x3d ∉ key → key ≠ request.key →
      (step (step environment request).2 (.read key)).1 = (step environment (.read key)).1 := by
  intro past environment
  have unreadable (environment : Environment) {key : Bytes} (nul : 0 ∈ key) :
      (step environment (.read key)).1 = .text none := by
    rw [step, text?, value?_of_nul environment nul]
    rfl
  refine ⟨?_, ?_, fun _ _ => step_of_refused, ?_, fun _ => unreadable environment,
    ⟨lossy_utf8 "", lossy_utf8⟩, ?_⟩
  · intro key value
    rw [step_assign]
    split <;> rfl
  · intro key
    rw [step_remove]
    split <;> rfl
  · intro key nonempty plain unset
    by_cases nul : 0 ∈ key
    · -- No request for such a key is done.
      have never (value : Bytes) : (.assign key value, .done) ∉ past := by
        intro member
        obtain ⟨state, said⟩ := mem_transcript member
        rw [step_assign, if_pos (.inr (.inr (.inl nul)))] at said
        cases said
      have noSplit (earlier : List (Request × Answer)) (value : Bytes)
          (later : List (Request × Answer)) :
          past ≠ earlier ++ (.assign key value, .done) :: later :=
        fun split => never value (split ▸ List.mem_append_right earlier List.mem_cons_self)
      exact ⟨⟨fun _ _ _ _ split => (noSplit _ _ _ split).elim, fun _ => unreadable _ nul⟩,
        fun _ _ _ split => (noSplit _ _ _ split).elim⟩
    · have valid : isKey key = true := isKey_eq_true_iff.mpr (by tauto)
      have found : environment.value? key = lastValue key none past :=
        value?_final requests valid unset
      have read : (step environment (.read key)).1 = .text ((lastValue key none past).map lossy) := by
        rw [step, text?, found]
      constructor
      · rw [read, ← lastValue_eq_none_iff, Answer.text.injEq, Option.map_eq_none_iff]
      · intro earlier value later split kept unchanged
        rw [read, split, lastValue, List.foldl_append, List.foldl_cons, noted, if_pos rfl]
        exact congrArg (fun value => Answer.text (value.map lossy))
          (lastValue_of_untouched ⟨kept, unchanged⟩)
  · intro key request nonempty plain different
    by_cases nul : 0 ∈ key
    · rw [unreadable _ nul, unreadable _ nul]
    · have valid : isKey key = true := isKey_eq_true_iff.mpr (by tauto)
      rw [step, step, text?, text?, value?_step_ne environment valid different]

/-- Two variables, one of them set anew after a refusal and a removal, with the empty value, the
other with a byte that no text has. A key with a bad value is refused and reads as before. -/
theorem variables_keep_last_values_anew :
    let first : Bytes := utf8 "HOME"
    let second : Bytes := utf8 "UNIXCALL"
    let requests : List Request :=
      [.assign first [0x2f], .assign first [0x2f, 0], .remove first, .assign first [],
        .assign second [0xff], .remove (utf8 "A=B")]
    let environment := final step {} requests
    first ≠ [] ∧ 0x3d ∉ first ∧ Environment.value? {} first = none ∧
      transcript step {} requests =
        [(.assign first [0x2f], .done), (.assign first [0x2f, 0], .refused .invalid),
          (.remove first, .done)] ++ (.assign first [], .done) ::
          [(.assign second [0xff], .done), (.remove (utf8 "A=B"), .refused .invalid)] ∧
      (step environment (.read first)).1 = .text (some (lossy [])) ∧
      first ≠ (Request.remove second).key ∧
      (step (step environment (.remove second)).2 (.read first)).1 =
        (step environment (.read first)).1 := by
  intro first second requests environment
  have nonempty : first ≠ [] := by decide
  have plain : 0x3d ∉ first := by decide
  have unset : Environment.value? {} first = none := by decide
  have said : transcript step {} requests =
      [(.assign first [0x2f], .done), (.assign first [0x2f, 0], .refused .invalid),
        (.remove first, .done)] ++ (.assign first [], .done) ::
        [(.assign second [0xff], .done), (.remove (utf8 "A=B"), .refused .invalid)] := by
    decide
  have different : first ≠ second := by decide
  obtain ⟨_, _, _, reads, _, _, apart⟩ := variables_keep_last_values {} requests
  have last := (reads first nonempty plain unset).2 _ _ _ said (by decide)
    (by simp [different])
  exact ⟨nonempty, plain, unset, said, last, different,
    apart first (.remove second) nonempty plain different⟩

end Environment

end Confinement
