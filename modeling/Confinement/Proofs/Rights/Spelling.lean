import Confinement.Proofs.Rights.Naming
import Confinement.Proofs.Text.Folding

/-!
How the name of a right may be spelled: in any case, behind `cap_` in any case or alone, and with
blanks around it. A text stands for a right exactly if it spells one of its names that way, and no
text spells two names.
-/

namespace Confinement.Right

open Text

def SpelledAs (text name : String) : Prop :=
  ∃ before head body after : List Char,
    text.toList = before ++ head ++ body ++ after ∧ AllBlank before ∧ AllBlank after ∧
      (head = [] ∨ SameText head "cap_".toList) ∧ SameText body name.toList

/-- What is looked up for a text. -/
def bare (text : List Char) : List Char :=
  let lower := (trim text).map Char.toLower
  (afterHead? "cap_".toList lower).getD lower

theorem parse?_eq (text : String) :
    parse? text =
      (named.find? fun entry => entry.1.toList == bare text.toList).map (·.2) :=
  rfl

/-! Facts of the tables. -/

/-- What lets a name in a table be found: ASCII in lower case, without blanks and without `cap_`. -/
structure IsPlain (name : List Char) : Prop where
  nonempty : name ≠ []
  solid : Solid name
  ascii : Ascii name
  lower : name.map Char.toLower = name
  unmarked : afterHead? "cap_".toList name = none

instance (name : List Char) : Decidable (IsPlain name) :=
  decidable_of_iff
    (name ≠ [] ∧ Solid name ∧ Ascii name ∧ name.map Char.toLower = name ∧
      afterHead? "cap_".toList name = none)
    ⟨fun ⟨nonempty, solid, ascii, lower, unmarked⟩ => ⟨nonempty, solid, ascii, lower, unmarked⟩,
      fun plain => ⟨plain.nonempty, plain.solid, plain.ascii, plain.lower, plain.unmarked⟩⟩

theorem isPlain_name : ∀ entry ∈ named, IsPlain entry.1.toList := by
  decide +kernel

theorem find?_name : ∀ entry ∈ named,
    named.find? (fun other => other.1.toList == entry.1.toList) = some entry := by
  decide +kernel

/-! The text that is looked up. -/

theorem map_toLower_head {head : List Char} (same : SameText head "cap_".toList) :
    head.map Char.toLower = "cap_".toList :=
  (sameText_iff.mp same).trans (by decide)

theorem bare_of_trim {text head rest : List Char} (same : SameText head "cap_".toList)
    (trimmed : trim text = head ++ rest) : bare text = rest.map Char.toLower := by
  simp only [bare, trimmed, List.map_append, map_toLower_head same, afterHead?_append,
    Option.getD_some]

theorem solid_head {head : List Char} (same : SameText head "cap_".toList) : Solid head := by
  apply solid_of_map_toLower
  rw [map_toLower_head same]
  decide

theorem head_ne_nil {head : List Char} (same : SameText head "cap_".toList) : head ≠ [] := by
  rintro rfl
  cases map_toLower_head same

variable {entry : String × Word}

theorem map_toLower_body (member : entry ∈ named) {body : List Char}
    (same : SameText body entry.1.toList) : body.map Char.toLower = entry.1.toList :=
  (sameText_iff.mp same).trans ((isPlain_name entry member).lower)

theorem bare_of_spelledAs (member : entry ∈ named) {text : String}
    (spelled : SpelledAs text entry.1) : bare text.toList = entry.1.toList := by
  obtain ⟨before, head, body, after, whole, blankBefore, blankAfter, marked, same⟩ := spelled
  have lowered := map_toLower_body member same
  have solidBody : Solid body := by
    apply solid_of_map_toLower
    rw [lowered]
    exact (isPlain_name entry member).solid
  have nonempty : body ≠ [] := by
    rintro rfl
    exact (isPlain_name entry member).nonempty lowered.symm
  rw [whole, List.append_assoc before head body]
  rcases marked with rfl | marked
  · have trimmed := trim_append blankBefore solidBody nonempty blankAfter
    rw [List.nil_append, bare, trimmed, lowered, (isPlain_name entry member).unmarked]
    rfl
  · have trimmed := trim_append blankBefore ((solid_head marked).append solidBody)
      (List.append_ne_nil_of_right_ne_nil head nonempty) blankAfter
    rw [bare_of_trim marked trimmed, lowered]

theorem spelledAs_of_bare (member : entry ∈ named) {text : String}
    (found : bare text.toList = entry.1.toList) : SpelledAs text entry.1 := by
  obtain ⟨before, after, around, blankBefore, blankAfter⟩ := exists_blanks_around text.toList
  have spells {body : List Char} (lowered : body.map Char.toLower = entry.1.toList) :
      SameText body entry.1.toList :=
    sameText_iff.mpr (lowered.trans ((isPlain_name entry member).lower).symm)
  cases cut : afterHead? "cap_".toList ((trim text.toList).map Char.toLower) with
  | none =>
      simp only [bare, cut, Option.getD_none] at found
      refine ⟨before, [], trim text.toList, after, ?_, blankBefore, blankAfter, .inl rfl,
        spells found⟩
      rw [List.append_nil]
      exact around
  | some rest =>
      simp only [bare, cut, Option.getD_some] at found
      -- The lowered text falls into the front and the name, and so does the text itself.
      obtain ⟨head, body, split, lowHead, lowBody⟩ :=
        List.map_eq_append_iff.mp (eq_append_of_afterHead? cut)
      refine ⟨before, head, body, after, ?_, blankBefore, blankAfter, .inr ?_,
        spells (lowBody.trans found)⟩
      · rw [List.append_assoc before head body, ← split]
        exact around
      · exact sameText_iff.mpr (lowHead.trans (by decide))

theorem spelledAs_unique {text : String} {other : String × Word} (member : entry ∈ named)
    (otherMember : other ∈ named) (spelled : SpelledAs text entry.1)
    (otherSpelled : SpelledAs text other.1) : entry = other := by
  have found := find?_name entry member
  rw [← bare_of_spelledAs member spelled, bare_of_spelledAs otherMember otherSpelled,
    find?_name other otherMember] at found
  exact (Option.some.inj found).symm

theorem parse?_eq_some_iff {text : String} {right : Word} :
    parse? text = some right ↔ ∃ name, (name, right) ∈ named ∧ SpelledAs text name := by
  rw [parse?_eq]
  constructor
  · intro parsed
    obtain ⟨entry, found, rfl⟩ := Option.map_eq_some_iff.mp parsed
    have member := List.mem_of_find?_eq_some found
    have same := List.find?_some found
    exact ⟨entry.1, member, spelledAs_of_bare member (beq_iff_eq.mp same).symm⟩
  · rintro ⟨name, member, spelled⟩
    rw [bare_of_spelledAs member spelled, find?_name _ member]
    rfl

theorem parse?_name {name : String} {right : Word} (member : (name, right) ∈ named) :
    parse? name = some right :=
  parse?_eq_some_iff.mpr ⟨name, member, [], [], name.toList, [], (List.append_nil _).symm,
    List.forall_mem_nil _, List.forall_mem_nil _, .inl rfl, sameText_iff.mpr rfl⟩

/-! Texts that are refused. -/

theorem parse?_eq_none {text : String}
    (unknown : ∀ entry ∈ named, bare text.toList ≠ entry.1.toList) : parse? text = none := by
  rw [parse?_eq, Option.map_eq_none_iff, List.find?_eq_none]
  intro entry member found
  exact unknown entry member (beq_iff_eq.mp found).symm

section Refused

variable {text : String} {before head rest : List Char} (blank : AllBlank before)
  (marked : SameText head "cap_".toList)

include blank marked

theorem parse?_of_doubled {again : List Char} (markedAgain : SameText again "cap_".toList)
    (spelled : text.toList = before ++ head ++ again ++ rest) : parse? text = none := by
  have solid : Solid (head ++ again) := (solid_head marked).append (solid_head markedAgain)
  have trimmed : trim text.toList = head ++ (again ++ trimRight rest) := by
    rw [spelled, List.append_assoc before head again,
      trim_solid_append blank solid (List.append_ne_nil_of_left_ne_nil (head_ne_nil marked) again),
      List.append_assoc]
  apply parse?_eq_none
  intro entry member found
  have unmarked := (isPlain_name entry member).unmarked
  rw [← found, bare_of_trim marked trimmed, List.map_append, map_toLower_head markedAgain,
    afterHead?_append] at unmarked
  cases unmarked

theorem parse?_of_gap {gap : Char} (blankGap : isBlank gap = true)
    (spelled : text.toList = before ++ head ++ gap :: rest) : parse? text = none := by
  have trimmed : trim text.toList = head ++ trimRight (gap :: rest) := by
    rw [spelled, trim_solid_append blank (solid_head marked) (head_ne_nil marked)]
  apply parse?_eq_none
  intro entry member found
  rw [bare_of_trim marked trimmed] at found
  obtain ⟨after, whole, _⟩ := exists_blanks_after (gap :: rest)
  cases kept : trimRight (gap :: rest) with
  | nil =>
      rw [kept] at found
      exact (isPlain_name entry member).nonempty found.symm
  | cons c others =>
      -- What is kept of the text behind the front still begins with the gap.
      rw [kept] at found whole
      cases (List.cons.inj whole).1
      have first : gap.toLower ∈ entry.1.toList := by
        rw [← found]
        exact List.mem_cons_self
      have unblank := (isPlain_name entry member).solid _ first
      rw [isBlank_toLower, blankGap] at unblank
      cases unblank

end Refused

theorem parse?_of_foreign {text : String} {c : Char} (within : c ∈ text.toList)
    (foreign : 128 ≤ c.toNat) (unblank : isBlank c = false) : parse? text = none := by
  rw [Option.eq_none_iff_forall_ne_some]
  intro right parsed
  obtain ⟨name, member, before, head, body, after, whole, blankBefore, blankAfter, marked, same⟩ :=
    parse?_eq_some_iff.mp parsed
  have ascii {part known : List Char} (lowered : part.map Char.toLower = known)
      (plain : Ascii known) : c ∉ part := by
    intro among
    have lower : c.toLower ∈ known := by
      rw [← lowered]
      exact List.mem_map_of_mem among
    exact absurd (ascii_of_toLower (plain _ lower)) (Nat.not_lt.mpr foreign)
  rw [whole] at within
  simp only [List.mem_append] at within
  rcases within with ((inBefore | inHead) | inBody) | inAfter
  · exact Bool.false_ne_true (unblank.symm.trans (blankBefore c inBefore))
  · rcases marked with rfl | marked
    · cases inHead
    · exact ascii (map_toLower_head marked) (by decide) inHead
  · exact ascii (map_toLower_body member same) (isPlain_name _ member).ascii inBody
  · exact Bool.false_ne_true (unblank.symm.trans (blankAfter c inAfter))

/-! Names of rights. -/

theorem name?_eq_some {right : Word} {name : String} (found : name? right = some name) :
    (name, right) ∈ named := by
  obtain ⟨entry, first, rfl⟩ := Option.map_eq_some_iff.mp found
  have same := List.find?_some first
  rw [← beq_iff_eq.mp same]
  exact List.mem_of_find?_eq_some first

theorem exists_name? (member : entry ∈ named) : ∃ name, name? entry.2 = some name := by
  have found : (named.find? fun other => other.2 == entry.2).isSome = true :=
    List.find?_isSome.mpr ⟨entry, member, beq_self_eq_true _⟩
  obtain ⟨first, same⟩ := Option.isSome_iff_exists.mp found
  exact ⟨first.1, by rw [name?, same]; rfl⟩

/-- A text stands for a right exactly if it spells a name of the right, and it spells no other name.
So `cap_` is not taken off twice, no blank may follow it and only ASCII counts. The right can be put
into a set, and its own name stands for it, as the name of any word does. -/
theorem parse?_reads_spellings :
    (∀ (text : String) (right : Word),
      parse? text = some right ↔ ∃ name, (name, right) ∈ named ∧ SpelledAs text name) ∧
    (∀ (text : String), ∀ entry ∈ named, ∀ other ∈ named,
      SpelledAs text entry.1 → SpelledAs text other.1 → entry = other) ∧
    (∀ (text : String) (before head rest : List Char), AllBlank before →
      SameText head "cap_".toList →
      (∀ again, SameText again "cap_".toList →
        text.toList = before ++ head ++ again ++ rest → parse? text = none) ∧
      (∀ gap, isBlank gap = true →
        text.toList = before ++ head ++ gap :: rest → parse? text = none)) ∧
    (∀ (text : String), ∀ c ∈ text.toList, 128 ≤ c.toNat → isBlank c = false →
      parse? text = none) ∧
    (∀ (text : String) (right : Word), parse? text = some right →
      (∃ set, RightsSet.ofRights [right] = .ok set) ∧
        ∃ name, name? right = some name ∧ parse? name = some right) ∧
    (∀ (right : Word) (name : String), name? right = some name → parse? name = some right) := by
  refine ⟨fun _ _ => parse?_eq_some_iff, ?_, ?_, ?_, ?_, ?_⟩
  · intro text entry member other otherMember spelled otherSpelled
    exact spelledAs_unique member otherMember spelled otherSpelled
  · intro text before head rest blank marked
    exact ⟨fun again markedAgain => parse?_of_doubled blank marked markedAgain,
      fun gap blankGap => parse?_of_gap blank marked blankGap⟩
  · intro text c within foreign unblank
    exact parse?_of_foreign within foreign unblank
  · intro text right parsed
    obtain ⟨entry, member, rfl⟩ := exists_named_of_parse? parsed
    have accepted : ∀ right ∈ [entry.2], RightsSet.empty.Accepts right := by
      intro right among
      rw [List.mem_singleton.mp among]
      exact accepts_named entry member
    obtain ⟨set, built, _⟩ := RightsSet.ofRights_of_accepts accepted
    obtain ⟨name, named⟩ := exists_name? member
    exact ⟨⟨set, built⟩, name, named, parse?_name (name?_eq_some named)⟩
  · intro right name found
    exact parse?_name (name?_eq_some found)

/-- A name in mixed case between a wide space and a line end is read. `cap_` taken twice, a tab
after it and a long s in the place of an s are not. A right with two names has the first for its
name. -/
theorem parse?_reads_spellings_mixed :
    SpelledAs "\u2003Cap_MMAP_rx\n" "mmap_rx" ∧ parse? "\u2003Cap_MMAP_rx\n" = some mmapRx ∧
      parse? "cap_CAP_read" = none ∧ parse? " cap_\tread" = none ∧ parse? "\u017Feek" = none ∧
      (∃ set, RightsSet.ofRights [mmapRx] = .ok set) ∧
      name? recv = some "read" ∧ parse? "read" = some recv := by
  obtain ⟨reads, _, refused, foreign, usable, named⟩ := parse?_reads_spellings
  have spelled : SpelledAs "\u2003Cap_MMAP_rx\n" "mmap_rx" :=
    ⟨['\u2003'], "Cap_".toList, "MMAP_rx".toList, ['\n'], by decide, by decide, by decide,
      .inr (sameText_iff.mpr (by decide)), sameText_iff.mpr (by decide)⟩
  have member : ("mmap_rx", mmapRx) ∈ Right.named := by decide +kernel
  have read := (reads _ _).mpr ⟨"mmap_rx", member, spelled⟩
  have front : SameText "cap_".toList "cap_".toList := sameText_iff.mpr rfl
  have loud : SameText "CAP_".toList "cap_".toList := sameText_iff.mpr (by decide)
  have first : name? recv = some "read" := by decide +kernel
  exact ⟨spelled, read,
    (refused "cap_CAP_read" [] _ "read".toList (by decide) front).1 _ loud (by decide),
    (refused " cap_\tread" [' '] _ "read".toList (by decide) front).2 '\t' (by decide) (by decide),
    foreign "\u017Feek" '\u017F' (by decide) (by decide) (by decide), (usable _ _ read).1, first,
    named _ _ first⟩

end Confinement.Right
