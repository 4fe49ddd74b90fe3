import Confinement.Proofs.Kernel.Widths
import Confinement.Proofs.Text.Padding

/-!
Settings that are text, in buffers that the kernel fills up with NUL bytes. What is left without the
padding is well-formed exactly if the whole buffer is, so reading a text undoes padding it. Main
statement: `text_read_iff_padded`.
-/

namespace Confinement.Kernel

/-- The bytes of a text that does not end in NUL, and NUL bytes behind them. -/
def IsPadded (bytes : Bytes) (text : List Char) : Prop :=
  text.getLast? ≠ some '\x00' ∧
    ∃ count, bytes = Text.encodeUtf8 text ++ List.replicate count 0

section Padded

variable {bytes : Bytes} {text : List Char}

theorem dropTrailingNul_eq_iff {stem : Bytes} :
    dropTrailingNul bytes = stem ↔ IsStem 0 bytes stem :=
  isStem_iff.symm

theorem decodeUtf8?_dropTrailingNul_eq_some_iff :
    Text.decodeUtf8? (dropTrailingNul bytes) = some text ↔ IsPadded bytes text := by
  rw [Text.decodeUtf8?_eq_some_iff, eq_comm, dropTrailingNul_eq_iff]
  constructor
  · rintro ⟨bare, padded⟩
    exact ⟨fun ends => bare (Text.getLast?_encodeUtf8_eq_zero_iff.mpr ends), padded⟩
  · rintro ⟨bare, padded⟩
    exact ⟨fun ends => bare (Text.getLast?_encodeUtf8_eq_zero_iff.mp ends), padded⟩

theorem IsPadded.unique {other : List Char} (first : IsPadded bytes text)
    (second : IsPadded bytes other) : text = other :=
  Option.some.inj ((decodeUtf8?_dropTrailingNul_eq_some_iff.mpr first).symm.trans
    (decodeUtf8?_dropTrailingNul_eq_some_iff.mpr second))

/-- Taking padding away keeps bytes well-formed and makes no others so. -/
theorem exists_encodeUtf8_dropTrailingNul_iff :
    (∃ text, Text.encodeUtf8 text = dropTrailingNul bytes) ↔
      ∃ text, Text.encodeUtf8 text = bytes := by
  constructor
  · rintro ⟨text, written⟩
    -- The bytes that were cut off are characters too, so the text can be made whole again.
    obtain ⟨_, count, whole⟩ := dropTrailingNul_eq_iff.mp (rfl : dropTrailingNul bytes = _)
    refine ⟨text ++ List.replicate count '\x00', ?_⟩
    rw [Text.encodeUtf8_append, Text.encodeUtf8_replicate_nul, written, ← whole]
  · rintro ⟨full, rfl⟩
    have rooted := Text.isStem_encodeUtf8 (isStem_rdropWhile '\x00' full)
    exact ⟨_, (dropTrailingNul_eq_iff.mpr rooted).symm⟩

theorem decodeUtf8?_dropTrailingNul_eq_none_iff :
    Text.decodeUtf8? (dropTrailingNul bytes) = none ↔
      ¬ ∃ text, Text.encodeUtf8 text = bytes := by
  rw [← exists_encodeUtf8_dropTrailingNul_iff, Option.eq_none_iff_forall_ne_some, not_exists]
  simp only [ne_eq, Text.decodeUtf8?_eq_some_iff]

variable {name : Bytes} {session : Session}

theorem readSettingText_of_read (read : (readSetting name session).1 = .ok bytes) :
    (readSettingText name session).1 =
      (Text.decodeUtf8? (dropTrailingNul bytes)).elim (.error illegalSequence) .ok := by
  rw [readSettingText_eq, read]
  rfl

theorem readSettingText_eq_ok_iff (read : (readSetting name session).1 = .ok bytes) :
    (readSettingText name session).1 = .ok text ↔ IsPadded bytes text := by
  rw [readSettingText_of_read read, ← decodeUtf8?_dropTrailingNul_eq_some_iff]
  cases Text.decodeUtf8? (dropTrailingNul bytes) <;> simp

theorem readSettingText_eq_error_iff (read : (readSetting name session).1 = .ok bytes) :
    (readSettingText name session).1 = .error illegalSequence ↔
      ¬ ∃ text, Text.encodeUtf8 text = bytes := by
  rw [readSettingText_of_read read, ← decodeUtf8?_dropTrailingNul_eq_none_iff]
  cases Text.decodeUtf8? (dropTrailingNul bytes) <;> simp

end Padded

/-- A setting is read as the one text that its bytes are, but for NUL bytes at the end, and it is
refused exactly if its bytes are no text, with their padding or without. So a text that a kernel
offers with any padding is read back, with what NUL there is inside it, and padding alone is read
as the empty text. -/
theorem text_read_iff_padded (name : Bytes) :
    (∀ session bytes, (readSetting name session).1 = .ok bytes →
      (∀ text, (readSettingText name session).1 = .ok text ↔ IsPadded bytes text) ∧
      (∀ text other, IsPadded bytes text → IsPadded bytes other → text = other) ∧
      ((readSettingText name session).1 = .error illegalSequence ↔
        ¬ ∃ text, Text.encodeUtf8 text = bytes) ∧
      ((∃ text, Text.encodeUtf8 text = dropTrailingNul bytes) ↔
        ∃ text, Text.encodeUtf8 text = bytes)) ∧
    (∀ bytes, ∃ session : Session, session.Offers name bytes) ∧
    (0 ∉ name → ∀ session count,
      (∀ text, text.getLast? ≠ some '\x00' →
        session.Offers name (Text.encodeUtf8 text ++ List.replicate count 0) →
        (readSettingText name session).1 = .ok text) ∧
      (session.Offers name (List.replicate count 0) →
        (readSettingText name session).1 = .ok [])) := by
  refine ⟨?_, fun bytes => ⟨_, offers_twice name bytes [] []⟩, ?_⟩
  · intro session bytes read
    exact ⟨fun text => readSettingText_eq_ok_iff read, fun text other => IsPadded.unique,
      readSettingText_eq_error_iff read, exists_encodeUtf8_dropTrailingNul_iff⟩
  · intro plain session count
    constructor
    · intro text bare offers
      exact (readSettingText_eq_ok_iff (readSetting_of_offers plain offers)).mpr ⟨bare, count, rfl⟩
    · intro offers
      exact (readSettingText_eq_ok_iff (readSetting_of_offers plain offers)).mpr
        ⟨by simp, count, rfl⟩

/-- A text with NUL inside and behind it, padding alone, and padding behind a sequence that was cut
off. -/
theorem text_read_iff_padded_kernel :
    let name : Bytes := utf8 "kern.ostype"
    let offer : Bytes → Session := fun bytes => { replies := [{ data := bytes }, { data := bytes }] }
    let padded : Bytes := [0xc3, 0xa9, 0, 0x62, 0]
    let cut : Bytes := [0x61, 0xc3, 0]
    0 ∉ name ∧
      (readSettingText name (offer padded)).1 = .ok ['é', '\x00', 'b'] ∧
      IsPadded padded ['é', '\x00', 'b'] ∧
      (readSettingText name (offer [0, 0, 0])).1 = .ok [] ∧
      (readSetting name (offer cut)).1 = .ok cut ∧
      (readSettingText name (offer cut)).1 = .error illegalSequence := by
  intro name offer padded cut
  obtain ⟨told, _, offered⟩ := text_read_iff_padded name
  have plain : 0 ∉ name := by decide
  have offers (bytes : Bytes) : (offer bytes).Offers name bytes := offers_twice name bytes [] []
  have text : (readSettingText name (offer padded)).1 = .ok ['é', '\x00', 'b'] :=
    (offered plain _ 1).1 _ (by decide) (offers padded)
  have read (bytes : Bytes) : (readSetting name (offer bytes)).1 = .ok bytes :=
    readSetting_of_offers plain (offers bytes)
  refine ⟨plain, text, ((told _ _ (read padded)).1 _).mp text, (offered plain _ 3).2 (offers _),
    read cut, (told _ _ (read cut)).2.2.1.mpr ?_⟩
  rintro ⟨text, written⟩
  have decoded := Text.decodeUtf8?_eq_some_iff.mpr written
  simp [cut, Text.decodeUtf8?, Text.scalars, Text.front, Text.sequenceLength, Text.isSecond,
    Text.isTrail] at decoded

end Confinement.Kernel
