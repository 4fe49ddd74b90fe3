import Confinement.Kernel.CapabilityMode
import Confinement.Kernel.Clone
import Confinement.Kernel.Setting

/-!
What wrappers ask of a kernel, whatever it replies. A wrapper that is given a string with NUL asks
nothing. Any other makes the calls that its arguments name, and fails as the last reply says or, if
the last call worked, only with an error number of its own. Main statement:
`wrappers_ask_as_told`.
-/

namespace Confinement.Kernel

namespace Session

/-- The reply that the next call gets. -/
def next (session : Session) : Reply :=
  session.replies.headD {}

/-- The session after one more call. -/
def after (session : Session) (call : Call) : Session :=
  ⟨session.replies.tail, session.calls ++ [call]⟩

theorem ask_eq (session : Session) (call : Call) :
    session.ask call = (session.next, session.after call) := by
  obtain ⟨replies, calls⟩ := session
  cases replies with
  | nil => rfl
  | cons reply replies => rfl

end Session

theorem Reply.check_of_negative {reply : Reply} (negative : reply.value < 0) :
    reply.check = .error reply.errno :=
  if_pos negative

theorem Reply.check_of_nonnegative {reply : Reply} (nonnegative : 0 ≤ reply.value) :
    reply.check = .ok () :=
  if_neg (Int.not_lt.mpr nonnegative)

theorem cString_of_mem {text : Bytes} (nul : 0 ∈ text) : cString text = .error .invalid :=
  if_pos (List.contains_iff_mem.mpr nul)

theorem cString_of_notMem {text : Bytes} (plain : 0 ∉ text) : cString text = .ok text :=
  if_neg fun nul => plain (List.contains_iff_mem.mp nul)

/-- Some of these strings has NUL in it. -/
def HasNul (texts : List Bytes) : Prop :=
  ∃ text ∈ texts, 0 ∈ text

/-! Wrappers that make one call. -/

/-- How a wrapper behaves that hands `texts` over in one call. Beside the kernel's errors it has
only those in `own`, for calls that worked. -/
structure CallsOnce {α : Type} (texts : List Bytes) (call : Call) (own : List Errno)
    (wrapper : Wrapper α) : Prop where
  refused : HasNul texts → ∀ session, wrapper session = (.error .invalid, session)
  asked : ¬ HasNul texts → ∀ session, (wrapper session).2 = session.after call
  failed : ¬ HasNul texts → ∀ session, session.next.value < 0 →
    (wrapper session).1 = .error session.next.errno
  succeeded : ¬ HasNul texts → ∀ session, 0 ≤ session.next.value →
    ∀ reason, (wrapper session).1 = .error reason → reason ∈ own

section Once

variable {α : Type} {call : Call} {own : List Errno}

/-- A wrapper makes one call if it leaves the session after this call and reads its result off the
reply. -/
theorem callsOnce_of_eq {wrapper : Wrapper α} (answer : Reply → Except Errno α)
    (reads : ∀ session, wrapper session =
      (if session.next.value < 0 then .error session.next.errno else answer session.next,
        session.after call))
    (errors : ∀ reply reason, answer reply = .error reason → reason ∈ own) :
    CallsOnce [] call own wrapper where
  refused nul := by
    obtain ⟨text, member, _⟩ := nul
    cases member
  asked _ session := by rw [reads]
  failed _ session negative := by rw [reads, if_pos negative]
  succeeded _ session nonnegative reason failure := by
    rw [reads, if_neg (Int.not_lt.mpr nonnegative)] at failure
    exact errors session.next reason failure

theorem callsOnce_perform (call : Call) : CallsOnce [] call own (perform call) := by
  apply callsOnce_of_eq fun _ => .ok ()
  · intro session
    rw [perform, Session.ask_eq]
    rfl
  · intro _ _ failure
    cases failure

/-- A string checked ahead of all calls is one more that must not have NUL in it. -/
theorem CallsOnce.checked {texts : List Bytes} {text : Bytes} {inner : Bytes → Wrapper α}
    (once : CallsOnce texts call own (inner text)) :
    CallsOnce (text :: texts) call own fun session =>
      match cString text with
      | .error errno => (.error errno, session)
      | .ok text => inner text session := by
  by_cases nul : 0 ∈ text
  · have bad : HasNul (text :: texts) := ⟨text, List.mem_cons_self, nul⟩
    simp only [cString_of_mem nul]
    exact ⟨fun _ _ => rfl, fun plain => absurd bad plain, fun plain => absurd bad plain,
      fun plain => absurd bad plain⟩
  · have same : HasNul (text :: texts) = HasNul texts := by simp [HasNul, nul]
    simp only [cString_of_notMem nul]
    exact ⟨same ▸ once.refused, same ▸ once.asked, same ▸ once.failed, same ▸ once.succeeded⟩

end Once

theorem callsOnce_inCapabilityMode : CallsOnce [] (.capGetMode 0) [] inCapabilityMode := by
  apply callsOnce_of_eq fun reply => .ok (reply.mode != 0)
  · intro session
    simp only [inCapabilityMode, Session.ask_eq, Reply.check]
    by_cases negative : session.next.value < 0 <;> simp [negative]
  · intro _ _ failure
    cases failure

theorem rightsOf_eq (descriptor : Int) (session : Session) :
    rightsOf descriptor session =
      (if session.next.value < 0 then .error session.next.errno
        else .ok (session.next.rights.getD .empty),
        session.after (.capRightsGet 0 descriptor .empty)) := by
  simp only [rightsOf, rightsVersion, Session.ask_eq, Reply.check]
  by_cases negative : session.next.value < 0 <;> simp [negative]

theorem callsOnce_rightsOf (descriptor : Int) :
    CallsOnce [] (.capRightsGet 0 descriptor .empty) [] (rightsOf descriptor) :=
  callsOnce_of_eq (fun reply => .ok (reply.rights.getD .empty)) (rightsOf_eq descriptor)
    (fun _ _ failure => nomatch failure)

theorem callsOnce_readSetting64 (name : Bytes) :
    CallsOnce [name] (.readSetting name (some 8)) [.inputOutput] (readSetting64 name) := by
  refine CallsOnce.checked (callsOnce_of_eq (fun reply =>
    if reply.written 8 = 8 then .ok (littleEndian (reply.buffer 8)) else .error .inputOutput)
    ?_ ?_)
  · intro session
    simp only [Session.ask_eq, Reply.check]
    by_cases negative : session.next.value < 0
    · simp [negative]
    · simp only [negative, if_false]
      split <;> rfl
  · intro reply reason failure
    split at failure
    · cases failure
    · cases failure
      exact List.mem_singleton_self _

/-! Settings of unknown size. -/

/-- The session after the call that asks for the size of a setting. -/
def Session.sized (session : Session) (name : Bytes) : Session :=
  session.after (.readSetting name none)

theorem Session.ask_size (session : Session) (name : Bytes) :
    session.ask (.readSetting name none) = (session.next, session.sized name) :=
  session.ask_eq _

/-- How a wrapper behaves that asks for the size of a setting and, if it is told, makes one more
call with room for as many bytes. -/
structure CallsTwice {α : Type} (name : Bytes) (own : List Errno) (wrapper : Wrapper α) :
    Prop where
  refused : 0 ∈ name → ∀ session, wrapper session = (.error .invalid, session)
  unsized : 0 ∉ name → ∀ session, session.next.value < 0 →
    wrapper session = (.error session.next.errno, session.sized name)
  asked : 0 ∉ name → ∀ session, 0 ≤ session.next.value →
    (wrapper session).2 =
      (session.sized name).after (.readSetting name (some session.next.size))
  failed : 0 ∉ name → ∀ session, 0 ≤ session.next.value →
    (session.sized name).next.value < 0 →
    (wrapper session).1 = .error (session.sized name).next.errno
  succeeded : 0 ∉ name → ∀ session, 0 ≤ session.next.value →
    0 ≤ (session.sized name).next.value →
    ∀ reason, (wrapper session).1 = .error reason → reason ∈ own

section Twice

variable {name : Bytes} {session : Session}

theorem readSetting_of_negative (plain : 0 ∉ name) (negative : session.next.value < 0) :
    readSetting name session = (.error session.next.errno, session.sized name) := by
  simp only [readSetting, cString_of_notMem plain, Session.ask_size,
    Reply.check_of_negative negative]

theorem readSetting_of_nonnegative (plain : 0 ∉ name) (nonnegative : 0 ≤ session.next.value) :
    readSetting name session =
      (if (session.sized name).next.value < 0 then .error (session.sized name).next.errno
        else
          .ok (((session.sized name).next.buffer session.next.size).take
            ((session.sized name).next.written session.next.size)),
        (session.sized name).after (.readSetting name (some session.next.size))) := by
  simp only [readSetting, cString_of_notMem plain, Session.ask_size,
    Reply.check_of_nonnegative nonnegative]
  rw [Session.ask_eq]
  by_cases negative : (session.sized name).next.value < 0
  · rw [if_pos negative]
    simp only [Reply.check_of_negative negative]
  · rw [if_neg negative]
    simp only [Reply.check_of_nonnegative (Int.not_lt.mp negative)]

theorem callsTwice_readSetting (name : Bytes) : CallsTwice name [] (readSetting name) where
  refused nul session := by simp only [readSetting, cString_of_mem nul]
  unsized plain session negative := readSetting_of_negative plain negative
  asked plain session nonnegative := by rw [readSetting_of_nonnegative plain nonnegative]
  failed plain session nonnegative negative := by
    rw [readSetting_of_nonnegative plain nonnegative, if_pos negative]
  succeeded plain session nonnegative worked reason failure := by
    rw [readSetting_of_nonnegative plain nonnegative, if_neg (Int.not_lt.mpr worked)] at failure
    cases failure

/-- A wrapper that looks at the value of another one adds the errors of this look. -/
theorem CallsTwice.refined {α β : Type} {wrapper : Wrapper α} {wider : Wrapper β}
    {own : List Errno} (twice : CallsTwice name [] wrapper) (look : α → Except Errno β)
    (looks : ∀ session, wider session = ((wrapper session).1.bind look, (wrapper session).2))
    (errors : ∀ value reason, look value = .error reason → reason ∈ own) :
    CallsTwice name own wider where
  refused nul session := by rw [looks, twice.refused nul]; rfl
  unsized plain session negative := by rw [looks, twice.unsized plain session negative]; rfl
  asked plain session nonnegative := by rw [looks, twice.asked plain session nonnegative]
  failed plain session nonnegative negative := by
    rw [looks, twice.failed plain session nonnegative negative]; rfl
  succeeded plain session nonnegative worked reason failure := by
    rw [looks] at failure
    cases result : (wrapper session).1 with
    | error cause => exact nomatch twice.succeeded plain session nonnegative worked cause result
    | ok value =>
        rw [result] at failure
        exact errors value reason failure

theorem readSetting32_eq (name : Bytes) (session : Session) :
    readSetting32 name session =
      ((readSetting name session).1.bind fun bytes =>
        if bytes.length = 4 then .ok (littleEndian bytes) else .error .inputOutput,
        (readSetting name session).2) := by
  unfold readSetting32
  obtain ⟨result, after⟩ := readSetting name session
  cases result with
  | error reason => rfl
  | ok bytes => by_cases exact : bytes.length = 4 <;> simp [Except.bind, exact]

theorem callsTwice_readSetting32 (name : Bytes) :
    CallsTwice name [.inputOutput] (readSetting32 name) := by
  refine (callsTwice_readSetting name).refined _ (readSetting32_eq name) ?_
  intro bytes reason failure
  split at failure
  · cases failure
  · cases failure
    exact List.mem_singleton_self _

theorem readSettingText_eq (name : Bytes) (session : Session) :
    readSettingText name session =
      ((readSetting name session).1.bind fun bytes =>
        (Text.decodeUtf8? (dropTrailingNul bytes)).elim (.error illegalSequence) .ok,
        (readSetting name session).2) := by
  unfold readSettingText
  obtain ⟨result, after⟩ := readSetting name session
  cases result with
  | error reason => rfl
  | ok bytes =>
      cases decoded : Text.decodeUtf8? (dropTrailingNul bytes) <;> simp [Except.bind, decoded]

theorem callsTwice_readSettingText (name : Bytes) :
    CallsTwice name [illegalSequence] (readSettingText name) := by
  refine (callsTwice_readSetting name).refined _ (readSettingText_eq name) ?_
  intro bytes reason failure
  cases decoded : Text.decodeUtf8? (dropTrailingNul bytes) with
  | some text =>
      rw [decoded] at failure
      cases failure
  | none =>
      rw [decoded] at failure
      cases failure
      exact List.mem_singleton_self _

end Twice

/-- Every wrapper refuses strings with NUL before it asks anything. Else it makes one call with its
arguments as they are and in their order, or for a setting of unknown size two, and it fails with
the kernel's reason exactly if the last call did, but for errors of its own after calls that worked.
Whatever the kernel leaves as the rights of a descriptor is the result. -/
theorem wrappers_ask_as_told :
    CallsOnce [] .capEnter [] enterCapabilityMode ∧
    CallsOnce [] (.capGetMode 0) [] inCapabilityMode ∧
    (∀ descriptor rights,
      CallsOnce [] (.capRightsLimit descriptor rights) [] (limitRights descriptor rights)) ∧
    (∀ descriptor,
      CallsOnce [] (.capRightsGet 0 descriptor .empty) [] (rightsOf descriptor) ∧
      ∀ session, 0 ≤ session.next.value →
        (rightsOf descriptor session).1 = .ok (session.next.rights.getD .empty)) ∧
    (∀ source target flags,
      CallsOnce [source, target] (.cloneFile source target flags) []
        (cloneFile source target flags)) ∧
    (∀ sourceDirectory source targetDirectory target flags,
      CallsOnce [source, target]
        (.cloneFileAt sourceDirectory source targetDirectory target flags) []
        (cloneFileAt sourceDirectory source targetDirectory target flags)) ∧
    (∀ source targetDirectory target flags,
      CallsOnce [target] (.cloneOpenFileAt source targetDirectory target flags) []
        (cloneOpenFileAt source targetDirectory target flags)) ∧
    (∀ descriptor command request,
      CallsOnce [] (.fileControl descriptor command request) []
        (fun session =>
          let (result, _, session) := preallocate descriptor command request session
          (result, session)) ∧
      ∀ session, (preallocate descriptor command request session).2.1 =
        { request with allocated := session.next.allocated }) ∧
    (∀ name, CallsOnce [name] (.readSetting name (some 8)) [.inputOutput] (readSetting64 name)) ∧
    (∀ name, CallsTwice name [] (readSetting name)) ∧
    (∀ name, CallsTwice name [.inputOutput] (readSetting32 name)) ∧
    (∀ name, CallsTwice name [illegalSequence] (readSettingText name)) := by
  refine ⟨callsOnce_perform _, callsOnce_inCapabilityMode, fun _ _ => callsOnce_perform _, ?_,
    fun _ _ _ => (callsOnce_perform _).checked.checked,
    fun _ _ _ _ _ => (callsOnce_perform _).checked.checked,
    fun _ _ _ _ => (callsOnce_perform _).checked, ?_, callsOnce_readSetting64,
    callsTwice_readSetting, callsTwice_readSetting32, callsTwice_readSettingText⟩
  · intro descriptor
    refine ⟨callsOnce_rightsOf descriptor, ?_⟩
    intro session nonnegative
    rw [rightsOf_eq, if_neg (Int.not_lt.mpr nonnegative)]
  · intro descriptor command request
    refine ⟨callsOnce_perform (.fileControl descriptor command request), ?_⟩
    intro session
    rw [preallocate, Session.ask_eq]

/-- A kernel that gives out the size of a setting and then fails, with a value other than minus one.
A target with NUL leaves all of its replies unused. -/
theorem wrappers_ask_as_told_script :
    let session : Session := { replies := [{ length := some 3 }, { value := -7, errno := ⟨12⟩ }] }
    let name : Bytes := utf8 "kern.ostype"
    HasNul [[0x61], [0x62, 0]] ∧
      cloneFile [0x61] [0x62, 0] 1 session = (.error .invalid, session) ∧
      0 ∉ name ∧ 0 ≤ session.next.value ∧ (session.sized name).next.value < 0 ∧
      (readSettingText name session).1 = .error ⟨12⟩ ∧
      (readSettingText name session).2 =
        ⟨[], [.readSetting name none, .readSetting name (some 3)]⟩ := by
  intro session name
  obtain ⟨_, _, _, _, clone, _, _, _, _, _, _, text⟩ := wrappers_ask_as_told
  have nul : HasNul [[0x61], [0x62, 0]] := ⟨[0x62, 0], by decide, by decide⟩
  have plain : 0 ∉ name := by decide
  have sized : 0 ≤ session.next.value := by decide
  have failed : (session.sized name).next.value < 0 := by decide
  exact ⟨nul, (clone _ _ 1).refused nul session, plain, sized, failed,
    (text name).failed plain session sized failed, (text name).asked plain session sized⟩

end Confinement.Kernel
