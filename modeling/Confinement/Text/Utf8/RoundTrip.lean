import Confinement.Text.Utf8

/-!
UTF-8 reads back what it writes, and nothing else. The bytes of a character are read as this
character wherever they stand in a byte string, and a character is read from no other bytes. Main
statement: `decodeUtf8?_eq_some_iff`.
-/

namespace Confinement

namespace Text

theorem front_one {lead : UInt8} (rest : Bytes) (length : sequenceLength lead = 1) :
    front lead rest = (some (Char.ofNat lead.toNat), rest) := by
  unfold front
  simp only [length]

theorem front_two {lead b : UInt8} (rest : Bytes) (length : sequenceLength lead = 2)
    (second : isSecond lead b = true) :
    front lead (b :: rest) =
      (some (Char.ofNat ((lead.toNat % 32) * 64 + trailBits b)), rest) := by
  unfold front
  simp only [length, second, if_true]

theorem front_three {lead b c : UInt8} (rest : Bytes) (length : sequenceLength lead = 3)
    (second : isSecond lead b = true) (third : isTrail c = true) :
    front lead (b :: c :: rest) =
      (some (Char.ofNat ((lead.toNat % 16 * 64 + trailBits b) * 64 + trailBits c)), rest) := by
  unfold front
  simp only [length, second, third, if_true]

theorem front_four {lead b c d : UInt8} (rest : Bytes) (length : sequenceLength lead = 4)
    (second : isSecond lead b = true) (third : isTrail c = true) (fourth : isTrail d = true) :
    front lead (b :: c :: d :: rest) =
      (some (Char.ofNat (((lead.toNat % 8 * 64 + trailBits b) * 64 + trailBits c) * 64
        + trailBits d)), rest) := by
  unfold front
  simp only [length, second, third, fourth, if_true]

theorem isTrail_ofNat (bits : Nat) : isTrail (UInt8.ofNat (0x80 + bits % 64)) = true := by
  simp only [isTrail, UInt8.le_iff_toNat_le, UInt8.toNat_ofNat', Bool.and_eq_true,
    decide_eq_true_eq, UInt8.reduceToNat]
  omega

theorem trailBits_ofNat (bits : Nat) : trailBits (UInt8.ofNat (0x80 + bits % 64)) = bits % 64 := by
  simp only [trailBits, UInt8.toNat_ofNat']
  omega

theorem sequenceLength_ofNat_one : ∀ n < 0x80, sequenceLength (UInt8.ofNat n) = 1 := by
  decide

theorem sequenceLength_ofNat_two :
    ∀ n < 32, 2 ≤ n → sequenceLength (UInt8.ofNat (0xc0 + n)) = 2 := by
  decide

theorem sequenceLength_ofNat_three : ∀ n < 16, sequenceLength (UInt8.ofNat (0xe0 + n)) = 3 := by
  decide

theorem sequenceLength_ofNat_four : ∀ n < 5, sequenceLength (UInt8.ofNat (0xf0 + n)) = 4 := by
  decide

theorem isSecond_ofNat {lead bits : Nat} (byte : lead < 256)
    (low : lead ≠ 0xe0 ∨ 32 ≤ bits % 64) (surrogate : lead ≠ 0xed ∨ bits % 64 < 32)
    (short : lead ≠ 0xf0 ∨ 16 ≤ bits % 64) (high : lead ≠ 0xf4 ∨ bits % 64 < 16) :
    isSecond (UInt8.ofNat lead) (UInt8.ofNat (0x80 + bits % 64)) = true := by
  simp only [isSecond, isTrail_ofNat, UInt8.le_iff_toNat_le, Bool.and_eq_true, Bool.or_eq_true,
    decide_eq_true_eq, bne_iff_ne, ne_eq, true_and, ← UInt8.toNat_inj, UInt8.toNat_ofNat',
    UInt8.reduceToNat]
  omega

theorem scalars_encodeChar (c : Char) (rest : Bytes) :
    scalars (encodeChar c ++ rest) = some c :: scalars rest := by
  have valid : c.toNat < 0xd800 ∨ 0xdfff < c.toNat ∧ c.toNat < 0x110000 := c.valid
  have back : Char.ofNat c.toNat = c := Char.ofNat_toNat c
  unfold encodeChar
  generalize c.toNat = n at valid back
  simp only
  split
  · rename_i small
    have lead : (UInt8.ofNat n).toNat = n := by
      rw [UInt8.toNat_ofNat', Nat.mod_eq_of_lt (by omega)]
    rw [List.cons_append, List.nil_append, scalars,
      front_one rest (sequenceLength_ofNat_one n small), lead, back]
  · split
    · rw [List.cons_append, List.cons_append, List.nil_append, scalars,
        front_two rest (sequenceLength_ofNat_two (n / 64) (by omega) (by omega))
          (isSecond_ofNat (by omega) (by omega) (by omega) (by omega) (by omega)),
        trailBits_ofNat, UInt8.toNat_ofNat',
        show (0xc0 + n / 64) % 2 ^ 8 % 32 * 64 + n % 64 = n by omega, back]
    · split
      · rw [List.cons_append, List.cons_append, List.cons_append, List.nil_append, scalars,
          front_three rest (sequenceLength_ofNat_three (n / 4096) (by omega))
            (isSecond_ofNat (by omega) (by omega) (by omega) (by omega) (by omega))
            (isTrail_ofNat n),
          trailBits_ofNat, trailBits_ofNat, UInt8.toNat_ofNat',
          show ((0xe0 + n / 4096) % 2 ^ 8 % 16 * 64 + n / 64 % 64) * 64 + n % 64 = n by omega,
          back]
      · rw [List.cons_append, List.cons_append, List.cons_append, List.cons_append,
          List.nil_append, scalars,
          front_four rest (sequenceLength_ofNat_four (n / 262144) (by omega))
            (isSecond_ofNat (by omega) (by omega) (by omega) (by omega) (by omega))
            (isTrail_ofNat (n / 64)) (isTrail_ofNat n),
          trailBits_ofNat, trailBits_ofNat, trailBits_ofNat, UInt8.toNat_ofNat',
          show (((0xf0 + n / 262144) % 2 ^ 8 % 8 * 64 + n / 4096 % 64) * 64 + n / 64 % 64) * 64
            + n % 64 = n by omega, back]

theorem scalars_encodeUtf8 (text : List Char) : scalars (encodeUtf8 text) = text.map some := by
  induction text with
  | nil => rw [encodeUtf8, List.flatMap_nil, scalars, List.map_nil]
  | cons c text ih =>
      rw [encodeUtf8, List.flatMap_cons, scalars_encodeChar, List.map_cons]
      exact congrArg _ ih

theorem mapM_id_eq_some_iff {read : List (Option Char)} {text : List Char} :
    read.mapM id = some text ↔ read = text.map some := by
  induction read generalizing text with
  | nil => cases text <;> simp
  | cons scalar read ih =>
      cases scalar with
      | none => cases text <;> simp [List.mapM_cons]
      | some c =>
          have front : (some c :: read).mapM id = (read.mapM id).map (c :: ·) := by
            rw [List.mapM_cons]
            cases read.mapM id <;> rfl
          rw [front]
          cases text with
          | nil => simp
          | cons first text =>
              simp only [Option.map_eq_some_iff, List.cons.injEq, List.map_cons,
                Option.some.injEq, ih]
              constructor
              · rintro ⟨_, whole, same, rfl⟩
                exact ⟨same, whole⟩
              · rintro ⟨same, whole⟩
                exact ⟨text, whole, same, rfl⟩

theorem decodeUtf8?_encodeUtf8 (text : List Char) : decodeUtf8? (encodeUtf8 text) = some text :=
  mapM_id_eq_some_iff.mpr (scalars_encodeUtf8 text)

/-! Bytes that are read are the bytes that are written. -/

/-- The first bytes of sequences, by length. -/
theorem lead_of_sequenceLength {lead : UInt8} {count : Nat} (length : sequenceLength lead = count) :
    count = 0 ∨ count = 1 ∧ lead.toNat ≤ 0x7f ∨ count = 2 ∧ 0xc2 ≤ lead.toNat ∧ lead.toNat ≤ 0xdf ∨
      count = 3 ∧ 0xe0 ≤ lead.toNat ∧ lead.toNat ≤ 0xef ∨
      count = 4 ∧ 0xf0 ≤ lead.toNat ∧ lead.toNat ≤ 0xf4 := by
  subst length
  simp only [sequenceLength, UInt8.le_iff_toNat_le, UInt8.reduceToNat, Bool.and_eq_true,
    decide_eq_true_eq]
  repeat' split
  all_goals omega

theorem isTrail_iff {byte : UInt8} :
    isTrail byte = true ↔ 0x80 ≤ byte.toNat ∧ byte.toNat ≤ 0xbf := by
  simp [isTrail, UInt8.le_iff_toNat_le]

theorem isSecond_iff {lead second : UInt8} :
    isSecond lead second = true ↔ (0x80 ≤ second.toNat ∧ second.toNat ≤ 0xbf) ∧
      (lead.toNat = 0xe0 → 0xa0 ≤ second.toNat) ∧ (lead.toNat = 0xed → second.toNat ≤ 0x9f) ∧
      (lead.toNat = 0xf0 → 0x90 ≤ second.toNat) ∧ (lead.toNat = 0xf4 → second.toNat ≤ 0x8f) := by
  simp only [isSecond, isTrail_iff, UInt8.le_iff_toNat_le, Bool.and_eq_true, Bool.or_eq_true,
    decide_eq_true_eq, bne_iff_ne, ne_eq, ← UInt8.toNat_inj, UInt8.reduceToNat]
  omega

theorem toNat_charOfNat {n : Nat} (valid : n < 0xd800 ∨ 0xdfff < n ∧ n < 0x110000) :
    (Char.ofNat n).toNat = n := by
  have made : Char.ofNat n = Char.ofNatAux n valid := dif_pos valid
  rw [made]
  rfl

theorem ofNat_eq_byte {n : Nat} (byte : UInt8) (same : n = byte.toNat) :
    UInt8.ofNat n = byte := by
  rw [same, UInt8.ofNat_toNat]

section Written

variable {lead b c d : UInt8}

theorem encodeChar_one (length : sequenceLength lead = 1) :
    encodeChar (Char.ofNat lead.toNat) = [lead] := by
  have range := lead_of_sequenceLength length
  have back := toNat_charOfNat (n := lead.toNat) (by omega)
  simp only [encodeChar, back]
  rw [if_pos (by omega), ofNat_eq_byte lead rfl]

theorem encodeChar_two (length : sequenceLength lead = 2) (second : isSecond lead b = true) :
    encodeChar (Char.ofNat ((lead.toNat % 32) * 64 + trailBits b)) = [lead, b] := by
  have range : 0xc2 ≤ lead.toNat ∧ lead.toNat ≤ 0xdf := by
    have ranges := lead_of_sequenceLength length
    omega
  obtain ⟨trail, -⟩ := isSecond_iff.mp second
  unfold trailBits
  have back := toNat_charOfNat (n := lead.toNat % 32 * 64 + b.toNat % 64) (by omega)
  simp only [encodeChar, back]
  rw [if_neg (by omega), if_pos (by omega), ofNat_eq_byte lead (by omega),
    ofNat_eq_byte b (by omega)]

theorem encodeChar_three (length : sequenceLength lead = 3) (second : isSecond lead b = true)
    (third : isTrail c = true) :
    encodeChar (Char.ofNat ((lead.toNat % 16 * 64 + trailBits b) * 64 + trailBits c)) =
      [lead, b, c] := by
  have range : 0xe0 ≤ lead.toNat ∧ lead.toNat ≤ 0xef := by
    have ranges := lead_of_sequenceLength length
    omega
  obtain ⟨trail, short, surrogate, -⟩ := isSecond_iff.mp second
  have last := isTrail_iff.mp third
  unfold trailBits
  -- The second byte keeps the value above all shorter forms and out of the surrogates.
  have size : 0x800 ≤ (lead.toNat % 16 * 64 + b.toNat % 64) * 64 + c.toNat % 64 := by omega
  have back := toNat_charOfNat
    (n := (lead.toNat % 16 * 64 + b.toNat % 64) * 64 + c.toNat % 64) (by omega)
  clear short surrogate
  simp only [encodeChar, back]
  rw [if_neg (by omega), if_neg (by omega), if_pos (by omega), ofNat_eq_byte lead (by omega),
    ofNat_eq_byte b (by omega), ofNat_eq_byte c (by omega)]

theorem encodeChar_four (length : sequenceLength lead = 4) (second : isSecond lead b = true)
    (third : isTrail c = true) (fourth : isTrail d = true) :
    encodeChar (Char.ofNat (((lead.toNat % 8 * 64 + trailBits b) * 64 + trailBits c) * 64
      + trailBits d)) = [lead, b, c, d] := by
  have range : 0xf0 ≤ lead.toNat ∧ lead.toNat ≤ 0xf4 := by
    have ranges := lead_of_sequenceLength length
    omega
  obtain ⟨trail, -, -, short, high⟩ := isSecond_iff.mp second
  have next := isTrail_iff.mp third
  have last := isTrail_iff.mp fourth
  unfold trailBits
  have size : 0x10000 ≤
      ((lead.toNat % 8 * 64 + b.toNat % 64) * 64 + c.toNat % 64) * 64 + d.toNat % 64 := by omega
  have back := toNat_charOfNat
    (n := ((lead.toNat % 8 * 64 + b.toNat % 64) * 64 + c.toNat % 64) * 64 + d.toNat % 64)
    (by omega)
  clear short high
  simp only [encodeChar, back]
  rw [if_neg (by omega), if_neg (by omega), if_neg (by omega), ofNat_eq_byte lead (by omega),
    ofNat_eq_byte b (by omega), ofNat_eq_byte c (by omega), ofNat_eq_byte d (by omega)]

end Written

/-- A character at the front of bytes is written there. -/
theorem encodeChar_of_front {lead : UInt8} {rest after : Bytes} {c : Char}
    (found : front lead rest = (some c, after)) : encodeChar c ++ after = lead :: rest := by
  unfold front at found
  split at found
  · next length =>
    cases found
    rw [encodeChar_one length]
    rfl
  · next length =>
    split at found
    · next second =>
      cases found
      rw [encodeChar_two length second]
      rfl
    · cases found
  · next length =>
    split at found
    · next second =>
      split at found
      · split at found
        · next third =>
          cases found
          rw [encodeChar_three length second third]
          rfl
        · cases found
      · cases found
    · cases found
  · next length =>
    split at found
    · next second =>
      split at found
      · split at found
        · next third =>
          split at found
          · split at found
            · next fourth =>
              cases found
              rw [encodeChar_four length second third fourth]
              rfl
            · cases found
          · cases found
        · cases found
      · cases found
    · cases found
  · cases found

theorem encodeUtf8_of_scalars {bytes : Bytes} {text : List Char}
    (read : scalars bytes = text.map some) : encodeUtf8 text = bytes := by
  induction text generalizing bytes with
  | nil =>
      cases bytes with
      | nil => rfl
      | cons lead rest => rw [scalars] at read; cases read
  | cons c text ih =>
      cases bytes with
      | nil => rw [scalars] at read; cases read
      | cons lead rest =>
          rw [scalars, List.map_cons, List.cons.injEq] at read
          rw [encodeUtf8, List.flatMap_cons, ← encodeUtf8, ih read.2]
          exact encodeChar_of_front (Prod.ext read.1 rfl)

/-- Bytes are well-formed exactly if some text is written as these bytes. -/
theorem decodeUtf8?_eq_some_iff {bytes : Bytes} {text : List Char} :
    decodeUtf8? bytes = some text ↔ encodeUtf8 text = bytes := by
  constructor
  · intro read
    exact encodeUtf8_of_scalars (mapM_id_eq_some_iff.mp read)
  · rintro rfl
    exact decodeUtf8?_encodeUtf8 text

end Text

theorem text?_eq_some_iff {bytes : Bytes} {text : String} :
    text? bytes = some text ↔ utf8 text = bytes := by
  rw [text?, Option.map_eq_some_iff, utf8]
  constructor
  · rintro ⟨read, decoded, rfl⟩
    rw [String.toList_ofList]
    exact Text.decodeUtf8?_eq_some_iff.mp decoded
  · intro written
    exact ⟨text.toList, Text.decodeUtf8?_eq_some_iff.mpr written, String.ofList_toList⟩

theorem text?_utf8 (text : String) : text? (utf8 text) = some text :=
  text?_eq_some_iff.mpr rfl

theorem utf8_injective {text other : String} (same : utf8 text = utf8 other) : text = other :=
  Option.some.inj ((text?_utf8 text).symm.trans ((congrArg text? same).trans (text?_utf8 other)))

end Confinement
