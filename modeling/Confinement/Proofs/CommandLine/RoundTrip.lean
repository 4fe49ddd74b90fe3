import Confinement.CommandLine
import Confinement.Proofs.Rights.Hexadecimal
import Confinement.Proofs.Rights.Naming

/-!
Rights encoded on the command line and read again. The words that an encoding prints decode to the
names that it prints beside them, and these names print the same two lines once more.
-/

namespace Confinement

namespace RightsSet

theorem display_eq_intercalate {set : RightsSet} (nonempty : set.names ≠ []) :
    set.display = "|".intercalate set.names := by
  unfold display
  split
  · rename_i none
    exact absurd none nonempty
  · rfl

theorem decode_hex (set : RightsSet) : decode [set.word0.hex, set.word1.hex] = .ok set := by
  simp only [decode, parseWord, Word.parseHex?_hex]

end RightsSet

namespace CommandLine

/-- The parts of a text between its bars. -/
def betweenBars (text : String) : List String :=
  (text.split '|').toList.map (·.copy)

/-- Primitive names can stand between bars and are no options. -/
theorem primitive_plain : ∀ entry ∈ Right.primitives,
    '|' ∉ entry.1.toList ∧ entry.1.toList.head? ≠ some '-' := by
  decide +kernel

theorem names_plain {set : RightsSet} : ∀ name ∈ set.names,
    '|' ∉ name.toList ∧ name.toList.head? ≠ some '-' := by
  intro name member
  obtain ⟨entry, shown, rfl⟩ := List.mem_map.mp member
  exact primitive_plain entry (List.mem_of_mem_filter shown)

theorem betweenBars_display {set : RightsSet} (nonempty : set.names ≠ []) :
    betweenBars set.display = set.names := by
  have barless : ∀ name ∈ set.names, '|' ∉ name.toList :=
    fun name member => (names_plain name member).1
  have split := String.toList_split_intercalate barless
  rw [if_neg nonempty] at split
  rw [RightsSet.display_eq_intercalate nonempty]
  exact split

theorem plainWords?_eq_some {words : List String}
    (plain : ∀ word ∈ words, word.toList.head? ≠ some '-') : plainWords? words = some words := by
  induction words with
  | nil => rfl
  | cons word words ih =>
      have head := plain word List.mem_cons_self
      have rest := ih fun other member => plain other (List.mem_cons_of_mem word member)
      have noOption : isOption word = false := by
        unfold isOption
        split
        · rename_i spelled
          rw [spelled] at head
          exact absurd rfl head
        · rfl
      have noEnd : word ≠ "--" := by
        rintro rfl
        exact absurd (by decide) head
      simp [plainWords?, noOption, rest]

section Runs

variable (check : Except ReleaseUnreadable SystemInfo)

theorem run_encode {names : List String} (nonempty : names ≠ [])
    (plain : ∀ name ∈ names, name.toList.head? ≠ some '-') {set : RightsSet}
    (encoded : RightsSet.encode names = .ok set) :
    run check ("rights" :: "encode" :: names) =
      { exit := 0, stdout := lines [set.word0.hex ++ " " ++ set.word1.hex, set.display] } := by
  cases names with
  | nil => exact absurd rfl nonempty
  | cons name names =>
      simp only [run, parse, parseRights, plainWords?_eq_some plain, answer, CommandLine.encoded,
        encoded]

theorem run_decode {set : RightsSet} (valid : set.isValid = true) :
    run check ["rights", "decode", set.word0.hex, set.word1.hex] =
      { exit := 0, stdout := lines [set.display] } := by
  have plain : ∀ text ∈ [set.word0.hex, set.word1.hex], text.toList.head? ≠ some '-' := by
    simp [Word.toList_hex]
  simp only [run, parse, parseRights, plainWords?_eq_some plain, answer, decoded,
    RightsSet.decode_hex, valid, if_true]

end Runs

end CommandLine

end Confinement
