import Mathlib.Data.Nat.Digits.Defs
import Confinement.Proofs.Kernel.Calls

/-!
What readers of settings make of the lengths they are told. The size that is reported first makes
the room, which is filled up with zeros behind the bytes that are written, and the length that is
reported next cuts it. A number is read at its own width alone. Main statement:
`numbers_read_at_width`.
-/

namespace Confinement.Kernel

theorem littleEndian_eq (bytes : Bytes) :
    littleEndian bytes = Nat.ofDigits 256 (bytes.map UInt8.toNat) := by
  induction bytes with
  | nil => rfl
  | cons byte bytes ih => rw [littleEndian, ih, List.map_cons, Nat.ofDigits_cons]

/-! Replies that work. -/

/-- The reply to a call without a buffer reports a size. -/
structure Reply.Sizes (reply : Reply) (size : Nat) : Prop where
  worked : 0 ≤ reply.value
  told : reply.size = size

/-- The reply to a call with a buffer writes these bytes into it and reports a length, which need
not be theirs. -/
structure Reply.Fills (reply : Reply) (room : Nat) (bytes : Bytes) (length : Nat) : Prop where
  worked : 0 ≤ reply.value
  wrote : reply.data.take room = bytes
  told : reply.written room = length

namespace Reply

variable {reply : Reply} {room length : Nat} {bytes : Bytes}

theorem Fills.length_le (filled : reply.Fills room bytes length) : bytes.length ≤ room := by
  rw [← filled.wrote]
  exact List.length_take_le room reply.data

theorem Fills.buffer_eq (filled : reply.Fills room bytes length) :
    reply.buffer room = bytes.rightpad room 0 := by
  rw [← filled.wrote]
  rfl

theorem Fills.length_padded (filled : reply.Fills room bytes length) :
    (bytes.rightpad room 0).length = room := by
  rw [List.length_rightpad]
  exact Nat.max_eq_left filled.length_le

end Reply

section Read

variable {name bytes : Bytes} {session : Session} {room length : Nat}

theorem readSetting_of_fills (plain : 0 ∉ name) (sized : session.next.Sizes room)
    (filled : (session.sized name).next.Fills room bytes length) :
    readSetting name session =
      (.ok ((bytes.rightpad room 0).take (min room length)),
        (session.sized name).after (.readSetting name (some room))) := by
  -- The buffer has no more than its room, so a length beyond that leaves nothing else to cut.
  have kept : (bytes.rightpad room 0).take length =
      (bytes.rightpad room 0).take (min room length) := by
    rw [List.take_eq_take_min, filled.length_padded, Nat.min_comm]
  rw [readSetting_of_nonnegative plain sized.worked, sized.told,
    if_neg (Int.not_lt.mpr filled.worked), filled.buffer_eq, filled.told, kept]

theorem length_kept (filled : (session.sized name).next.Fills room bytes length) :
    ((bytes.rightpad room 0).take (min room length)).length = min room length := by
  rw [List.length_take, filled.length_padded]
  exact Nat.min_eq_left (Nat.min_le_left room length)

theorem readSetting32_of_fills (plain : 0 ∉ name) (sized : session.next.Sizes room)
    (filled : (session.sized name).next.Fills room bytes length) :
    readSetting32 name session =
      (if min room length = 4 then
          .ok (littleEndian ((bytes.rightpad room 0).take (min room length)))
        else .error .inputOutput,
        (session.sized name).after (.readSetting name (some room))) := by
  rw [readSetting32_eq, readSetting_of_fills plain sized filled]
  simp only [Except.bind, length_kept filled]

theorem readSetting64_of_fills (plain : 0 ∉ name) (filled : session.next.Fills 8 bytes length) :
    readSetting64 name session =
      (if length = 8 then .ok (littleEndian (bytes.rightpad 8 0)) else .error .inputOutput,
        session.after (.readSetting name (some 8))) := by
  simp only [readSetting64, cString_of_notMem plain, Session.ask_eq,
    Reply.check_of_nonnegative filled.worked, filled.told, filled.buffer_eq]
  split <;> rfl

/-- A number was all of the eight bytes that the kernel reported. -/
theorem fills_of_readSetting64 (plain : 0 ∉ name) {number : Nat}
    (read : (readSetting64 name session).1 = .ok number) :
    ∃ bytes, session.next.Fills 8 bytes 8 := by
  by_cases negative : session.next.value < 0
  · simp only [readSetting64, cString_of_notMem plain, Session.ask_eq,
      Reply.check_of_negative negative] at read
    contradiction
  · have filled : session.next.Fills 8 (session.next.data.take 8) (session.next.written 8) :=
      ⟨Int.not_lt.mp negative, rfl, rfl⟩
    rw [readSetting64_of_fills plain filled] at read
    by_cases exact : session.next.written 8 = 8
    · exact ⟨_, filled.worked, rfl, exact⟩
    · rw [if_neg exact] at read
      contradiction

theorem length_of_readSetting32 {number : Nat}
    (read : (readSetting32 name session).1 = .ok number) :
    ∃ bytes, (readSetting name session).1 = .ok bytes ∧ bytes.length = 4 := by
  rw [readSetting32_eq] at read
  cases result : (readSetting name session).1 with
  | error reason =>
      rw [result] at read
      contradiction
  | ok bytes =>
      refine ⟨bytes, rfl, Classical.byContradiction fun other => ?_⟩
      rw [result] at read
      simp only [Except.bind, if_neg other] at read
      contradiction

end Read

/-! Kernels that hold a value. -/

/-- Both calls of a reader are told the length of a value, and it is written. -/
structure Session.Offers (session : Session) (name value : Bytes) : Prop where
  sized : session.next.Sizes value.length
  filled : (session.sized name).next.Fills value.length value value.length

/-- Any value can be held under any name. -/
theorem offers_twice (name value : Bytes) (replies : List Reply) (calls : List Call) :
    Session.Offers ⟨{ data := value } :: { data := value } :: replies, calls⟩ name value where
  sized := ⟨Int.le_refl 0, rfl⟩
  filled := ⟨Int.le_refl 0, List.take_length, Nat.min_self value.length⟩

section Offers

variable {name value : Bytes} {session : Session}

theorem rightpad_of_length_le {room : Nat} (full : room ≤ value.length) :
    value.rightpad room 0 = value := by
  rw [List.rightpad, Nat.sub_eq_zero_of_le full, List.replicate_zero, List.append_nil]

theorem readSetting_of_offers (plain : 0 ∉ name) (offers : session.Offers name value) :
    (readSetting name session).1 = .ok value := by
  rw [readSetting_of_fills plain offers.sized offers.filled, Nat.min_self,
    rightpad_of_length_le (Nat.le_refl _), List.take_length]

theorem readSetting32_of_offers (plain : 0 ∉ name) (offers : session.Offers name value) :
    (readSetting32 name session).1 =
      if value.length = 4 then .ok (littleEndian value) else .error .inputOutput := by
  rw [readSetting32_eq, readSetting_of_offers plain offers]
  rfl

/-- A call with room for eight bytes is told the true length and gets what fits. -/
theorem readSetting64_of_length (plain : 0 ∉ name)
    (filled : session.next.Fills 8 (value.take 8) value.length) :
    (readSetting64 name session).1 =
      if value.length = 8 then .ok (littleEndian value) else .error .inputOutput := by
  rw [readSetting64_of_fills plain filled]
  by_cases exact : value.length = 8
  · simp only [exact, if_true]
    rw [List.take_of_length_le (Nat.le_of_eq exact), rightpad_of_length_le (Nat.le_of_eq exact.symm)]
  · simp only [exact, if_false]

end Offers

/-- Whatever sizes and lengths a kernel reports in calls that work. The bytes of a setting are
those written, with zeros behind them up to the size reported first, as far as the length reported
next goes. A number comes of exactly four such bytes, or of eight read in one call, and the two ways
agree on a value of eight bytes; of more or fewer none comes. -/
theorem numbers_read_at_width (name : Bytes) (plain : 0 ∉ name) :
    (∀ bytes, littleEndian bytes = Nat.ofDigits 256 (bytes.map UInt8.toNat)) ∧
    (∀ session room bytes length, session.next.Sizes room →
      (session.sized name).next.Fills room bytes length →
      let kept := (bytes.rightpad room 0).take (min room length)
      let after := (session.sized name).after (.readSetting name (some room))
      readSetting name session = (.ok kept, after) ∧ kept.length = min room length ∧
        readSetting32 name session =
          (if min room length = 4 then .ok (littleEndian kept) else .error .inputOutput, after)) ∧
    (∀ session bytes length, session.next.Fills 8 bytes length →
      readSetting64 name session =
        (if length = 8 then .ok (littleEndian (bytes.rightpad 8 0)) else .error .inputOutput,
          session.after (.readSetting name (some 8)))) ∧
    (∀ value session other, session.Offers name value →
      other.next.Fills 8 (value.take 8) value.length →
      (value.length = 8 →
        (readSetting64 name other).1 = (readSetting name session).1.map littleEndian) ∧
      (value.length ≠ 8 → (readSetting64 name other).1 = .error .inputOutput) ∧
      (value.length ≠ 4 → (readSetting32 name session).1 = .error .inputOutput)) ∧
    ∀ session number,
      ((readSetting64 name session).1 = .ok number → ∃ bytes, session.next.Fills 8 bytes 8) ∧
      ((readSetting32 name session).1 = .ok number →
        ∃ bytes, (readSetting name session).1 = .ok bytes ∧ bytes.length = 4) := by
  refine ⟨littleEndian_eq, ?_, ?_, ?_, ?_⟩
  · intro session room bytes length sized filled kept after
    exact ⟨readSetting_of_fills plain sized filled, length_kept filled,
      readSetting32_of_fills plain sized filled⟩
  · intro session bytes length filled
    exact readSetting64_of_fills plain filled
  · intro value session other offers filled
    rw [readSetting64_of_length plain filled, readSetting32_of_offers plain offers,
      readSetting_of_offers plain offers]
    exact ⟨fun exact => if_pos exact, fun other => if_neg other, fun other => if_neg other⟩
  · intro session number
    exact ⟨fills_of_readSetting64 plain, length_of_readSetting32⟩

/-- A value that shrank to four bytes after it was sized, one that grew, and eight bytes told in
both ways. -/
theorem numbers_read_at_width_changed :
    let name : Bytes := utf8 "vm.swap_total"
    let shrunk : Session := {
      replies := [{ length := some 6 }, { data := [1, 2, 3, 4, 5], length := some 4 }] }
    let grown : Session := {
      replies := [{ length := some 3 }, { data := [1, 2, 3, 4, 5], length := some 5 }] }
    let value : Bytes := [0xff, 0, 0, 0, 0, 0, 0, 1]
    let held : Session := { replies := [{ data := value }, { data := value }] }
    0 ∉ name ∧
      (readSetting name shrunk).1 = .ok [1, 2, 3, 4] ∧
      (readSetting32 name shrunk).1 = .ok 0x04030201 ∧
      (readSetting name grown).1 = .ok [1, 2, 3] ∧
      (readSetting32 name grown).1 = .error .inputOutput ∧
      held.Offers name value ∧
      (readSetting64 name held).1 = (readSetting name held).1.map littleEndian ∧
      (readSetting64 name held).1 = .ok 0x01000000000000ff ∧
      (∃ bytes, held.next.Fills 8 bytes 8) := by
  intro name shrunk grown value held
  have plain : 0 ∉ name := by decide
  obtain ⟨_, read, single, whole, back⟩ := numbers_read_at_width name plain
  obtain ⟨cut, _, number⟩ := read shrunk 6 [1, 2, 3, 4, 5] 4 ⟨by decide, rfl⟩ ⟨by decide, rfl, rfl⟩
  obtain ⟨filled, _, none⟩ := read grown 3 [1, 2, 3] 5 ⟨by decide, rfl⟩ ⟨by decide, rfl, rfl⟩
  have once : held.next.Fills 8 value 8 := ⟨by decide, rfl, rfl⟩
  have offers : held.Offers name value := offers_twice name value [] []
  have four : littleEndian [1, 2, 3, 4] = 0x04030201 := by decide
  have eight : littleEndian (value.rightpad 8 0) = 0x01000000000000ff := by decide
  have wide : (readSetting64 name held).1 = .ok 0x01000000000000ff := by
    rw [single held value 8 once, eight]
    rfl
  refine ⟨plain, congrArg Prod.fst cut, ?_, congrArg Prod.fst filled, congrArg Prod.fst none,
    offers, (whole value held held offers once).1 rfl, wide, (back held _).1 wide⟩
  rw [number, ← four]
  rfl

end Confinement.Kernel
