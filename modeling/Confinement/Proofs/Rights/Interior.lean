import Confinement.Proofs.CommandLine.RoundTrip

/-!
The interior of a set: what its own listing encodes. Of all that names can encode it is the largest
part of the set, and taking it changes no name. Sets that names encode are their own interior, so
their listing tells them apart.
-/

namespace Confinement

namespace RightsSet

/-- Some list of names encodes the set. -/
def IsNamed (set : RightsSet) : Prop :=
  ∃ names, encode names = .ok set

theorem map_of_parseNames {names : List String} {rights : List Word}
    (parsed : parseNames names = .ok rights) : names.map Right.parse? = rights.map some := by
  induction names generalizing rights with
  | nil =>
      cases parsed
      rfl
  | cons name names ih =>
      cases first : Right.parse? name with
      | none => simp [parseNames, first] at parsed
      | some right =>
          cases rest : parseNames names with
          | error reason => simp [parseNames, first, rest] at parsed
          | ok others =>
              simp only [parseNames, first, rest, Except.ok.injEq] at parsed
              rw [← parsed, List.map_cons, List.map_cons, first, ih rest]

/-- A set that names encode is valid and made of the rights they stand for. -/
theorem rights_of_encode {names : List String} {set : RightsSet}
    (encoded : encode names = .ok set) :
    ∃ rights, names.map Right.parse? = rights.map some ∧ set.isValid = true ∧
      set.bits = Right.bitsOf rights := by
  cases parsed : parseNames names with
  | error reason => simp [encode, parsed] at encoded
  | ok rights =>
      have spelled := map_of_parseNames parsed
      obtain ⟨made, again, valid, bits⟩ := encode_of_map spelled
      cases encoded.symm.trans again
      exact ⟨rights, spelled, valid, bits⟩

/-! The listing of an interior. -/

section Interior

variable {set core : RightsSet} (valid : set.isValid = true) (coreValid : core.isValid = true)
  (made : core.bits = Right.bitsOf set.listed)

include valid coreValid made

theorem contains_interior : set.contains core = true := by
  rw [contains_iff_bits_subset (marks_eq_of_isValid valid coreValid), made]
  exact bitsOf_listed_subset valid

/-- A set and its interior hold the same named rights. -/
theorem holds_interior {entry : String × Word} (member : entry ∈ Right.named) :
    core.holds entry.2 = set.holds entry.2 := by
  have accepted := Right.accepts_named entry member
  rw [Bool.eq_iff_iff, holds_eq coreValid accepted, holds_eq valid accepted, made]
  constructor
  · intro held
    exact held.trans (bitsOf_listed_subset valid)
  · exact bits_subset_bitsOf_listed valid member

theorem names_interior : core.names = set.names := by
  apply congrArg (List.map Prod.fst)
  apply List.filter_congr
  intro entry member
  exact holds_interior valid coreValid made (Right.mem_named_of_mem_primitives member)

/-- What names encode inside a set lies in its interior. -/
theorem interior_contains {rights : List Word} {part : RightsSet} (partValid : part.isValid = true)
    (named : ∀ right ∈ rights, ∃ entry ∈ Right.named, entry.2 = right)
    (partMade : part.bits = Right.bitsOf rights) (inside : set.contains part = true) :
    core.contains part = true := by
  rw [contains_iff_bits_subset (marks_eq_of_isValid valid partValid), partMade] at inside
  rw [contains_iff_bits_subset (marks_eq_of_isValid coreValid partValid), made, partMade]
  intro bit present
  obtain ⟨right, member, inRight⟩ := Right.mem_bitsOf.mp present
  obtain ⟨entry, table, rfl⟩ := named right member
  -- A bit may lie in several rights; the one it came from is inside the set as a whole.
  refine bits_subset_bitsOf_listed valid table ?_ inRight
  intro other within
  exact inside (Right.mem_bitsOf.mpr ⟨entry.2, member, within⟩)

end Interior

/-! Listings as text. -/

theorem none_notMem_names (set : RightsSet) : "(none)" ∉ set.names := by
  intro member
  obtain ⟨entry, shown, spelled⟩ := List.mem_map.mp member
  have unused : ∀ entry ∈ Right.primitives, entry.1 ≠ "(none)" := by decide +kernel
  exact unused entry (List.mem_of_mem_filter shown) spelled

/-- No list of names shows as the text that stands for none. -/
theorem display_eq_none_iff {set : RightsSet} : set.display = "(none)" ↔ set.names = [] := by
  constructor
  · intro shown
    by_contra nonempty
    have parts := CommandLine.betweenBars_display nonempty
    have barless : ∀ text ∈ ["(none)"], '|' ∉ text.toList := by decide
    have alone : CommandLine.betweenBars "(none)" = ["(none)"] :=
      String.toList_split_intercalate barless
    rw [shown, alone] at parts
    exact none_notMem_names set (parts ▸ List.mem_singleton_self _)
  · intro empty
    simp only [display, empty]

theorem names_eq_of_display_eq {set other : RightsSet} (same : set.display = other.display) :
    set.names = other.names := by
  by_cases empty : set.names = []
  · rw [empty, eq_comm, ← display_eq_none_iff, ← same, display_eq_none_iff]
    exact empty
  · have nonempty : other.names ≠ [] := by
      rw [ne_eq, ← display_eq_none_iff, ← same, display_eq_none_iff]
      exact empty
    rw [← CommandLine.betweenBars_display empty, same, CommandLine.betweenBars_display nonempty]

theorem encode_names_of_isNamed {set : RightsSet} (named : set.IsNamed) :
    encode set.names = .ok set := by
  obtain ⟨names, encoded⟩ := named
  obtain ⟨rights, spelled, valid, made⟩ := rights_of_encode encoded
  exact encode_names valid (named_of_map spelled) made

/-- The listing of a valid set builds a set again, its interior: inside the set, with the same
listing, and around every other set inside that names encode. It is the set itself exactly if some
names encode the set, and such a set is known by its display. -/
theorem listing_builds_interior {set : RightsSet} (valid : set.isValid = true) :
    ∃ (rights : List Word) (core : RightsSet),
      set.names.map Right.parse? = rights.map some ∧ ofRights rights = .ok core ∧
      set.contains core = true ∧ core.names = set.names ∧
      (∀ names, (∀ name ∈ names, (Right.parse? name).isSome = true) →
        ∃ part, encode names = .ok part ∧
          (set.contains part = true → core.contains part = true)) ∧
      (core = set ↔ set.IsNamed) ∧
      ∀ other : RightsSet, set.IsNamed → other.IsNamed → set.display = other.display →
        set = other := by
  have spelled := map_parse?_names set
  have accepted : ∀ right ∈ set.listed, empty.Accepts right := by
    intro right member
    obtain ⟨entry, table, rfl⟩ := named_of_map spelled right member
    exact Right.accepts_named entry table
  obtain ⟨core, built, coreValid, made⟩ := ofRights_of_accepts accepted
  have encoded : encode set.names = .ok core := by
    simp only [encode, parseNames_of_map spelled, built]
  refine ⟨set.listed, core, spelled, built, contains_interior valid coreValid made,
    names_interior valid coreValid made, ?_, ?_, ?_⟩
  · intro names known
    obtain ⟨rights, read⟩ := exists_map_parse? known
    obtain ⟨part, partEncoded, partValid, partMade⟩ := encode_of_map read
    exact ⟨part, partEncoded,
      interior_contains valid coreValid made partValid (named_of_map read) partMade⟩
  · constructor
    · rintro rfl
      exact ⟨core.names, encoded⟩
    · intro named
      exact Except.ok.inj (encoded.symm.trans (encode_names_of_isNamed named))
  · intro other named otherNamed same
    have again := encode_names_of_isNamed named
    rw [names_eq_of_display_eq same, encode_names_of_isNamed otherNamed] at again
    exact (Except.ok.inj again).symm

/-- A set with the bit of seeking but not the bit to tell the position. Its interior loses that bit,
so no names encode the set, and still holds all that the aliases of reading and writing encode. -/
theorem listing_builds_interior_half_seek :
    let set : RightsSet := ⟨0x020000000000000b, 0x0400000000000020⟩
    let core : RightsSet := ⟨0x0200000000000003, 0x0400000000000020⟩
    set.isValid = true ∧ set.names = ["read", "write", "event"] ∧
      set.contains core = true ∧ core.names = set.names ∧ ¬ set.IsNamed ∧
      (∃ part, encode ["SEND", "cap_recv"] = .ok part ∧
        set.contains part = true ∧ core.contains part = true) := by
  intro set core
  have valid : set.isValid = true := by decide
  obtain ⟨rights, built, spelled, made, inside, listing, largest, own, _⟩ :=
    listing_builds_interior valid
  have names : set.names = ["read", "write", "event"] := by decide +kernel
  have read : rights = [Right.read, Right.write, Right.event] := by
    have parsed : ["read", "write", "event"].map Right.parse? =
        [Right.read, Right.write, Right.event].map some := by decide +kernel
    rw [names, parsed] at spelled
    exact List.map_injective_iff.mpr (Option.some_injective _) spelled.symm
  have same : core = built := by
    have encoded : (ofRights [Right.read, Right.write, Right.event]).toOption = some core := by
      decide +kernel
    rw [← read, made] at encoded
    exact (Option.some.inj encoded).symm
  subst same
  obtain ⟨part, encoded, larger⟩ := largest ["SEND", "cap_recv"] (by decide +kernel)
  have held : set.contains part = true := by
    have words : (encode ["SEND", "cap_recv"]).toOption =
        some ⟨0x0200000000000003, 0x0400000000000000⟩ := by
      decide +kernel
    rw [encoded] at words
    cases words
    decide
  refine ⟨valid, names, inside, listing, ?_, part, encoded, held, larger held⟩
  intro named
  exact absurd (own.mpr named) (by decide)

end RightsSet

end Confinement
