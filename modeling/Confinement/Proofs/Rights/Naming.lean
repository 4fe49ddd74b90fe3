import Confinement.Proofs.Rights.Members
import Confinement.Rights.Coding

/-!
Names and the bits behind them. Every named right, the unions among them included, is made of the
primitive rights inside it. So the names that a set lists bring back every named right that it
holds, and a set that names built is built again by its own listing.
-/

namespace Confinement

namespace Right

/-- The primitive rights inside a right. -/
def parts (right : Word) : List Word :=
  (primitives.filter fun entry => RightsSet.covers right entry.2).map (·.2)

/-! Facts of the tables. -/

theorem parse?_primitive : ∀ entry ∈ primitives, parse? entry.1 = some entry.2 := by
  decide +kernel

theorem accepts_named : ∀ entry ∈ named, RightsSet.empty.Accepts entry.2 := by
  decide +kernel

theorem foldr_parts : ∀ entry ∈ named, (parts entry.2).foldr (· ||| ·) 0 = entry.2 := by
  decide +kernel

theorem marker_of_covers : ∀ entry ∈ named, ∀ part ∈ primitives,
    RightsSet.covers entry.2 part.2 = true → part.2.marker = entry.2.marker := by
  decide +kernel

theorem parts_ne_nil : ∀ entry ∈ named, parts entry.2 ≠ [] := by
  decide +kernel

/-! Unions of primitive rights. -/

theorem mem_parts {part right : Word} :
    part ∈ parts right ↔
      ∃ entry ∈ primitives, RightsSet.covers right entry.2 = true ∧ entry.2 = part := by
  simp [parts, and_assoc]

theorem mem_named_of_mem_primitives {entry : String × Word} (member : entry ∈ primitives) :
    entry ∈ named :=
  List.mem_append_left unions member

theorem getLsbD_foldr_or {rights : List Word} {place : Nat} :
    (rights.foldr (· ||| ·) 0).getLsbD place = true ↔
      ∃ right ∈ rights, right.getLsbD place = true := by
  induction rights with
  | nil => simp
  | cons right rights ih =>
      rw [List.foldr_cons, BitVec.getLsbD_or, Bool.or_eq_true, ih]
      simp

/-- The bits of a named right are those of the primitive rights inside it. -/
theorem bits_eq_bitsOf_parts {entry : String × Word} (member : entry ∈ named) :
    bits entry.2 = bitsOf (parts entry.2) := by
  have inside : ∀ part ∈ parts entry.2, part.marker = entry.2.marker := by
    intro part partMember
    obtain ⟨primitive, listed, covered, rfl⟩ := mem_parts.mp partMember
    exact marker_of_covers entry member primitive listed covered
  have whole := foldr_parts entry member
  ext bit
  rw [mem_bits, mem_bitsOf]
  constructor
  · intro ⟨named, present⟩
    rw [← whole, getLsbD_foldr_or] at present
    obtain ⟨part, partMember, present⟩ := present
    exact ⟨part, partMember, mem_bits.mpr ⟨by rw [inside part partMember, named], present⟩⟩
  · intro ⟨part, partMember, present⟩
    obtain ⟨named, present⟩ := mem_bits.mp present
    refine ⟨by rw [← inside part partMember, named], ?_⟩
    rw [← whole, getLsbD_foldr_or]
    exact ⟨part, partMember, present⟩

theorem exists_named_of_parse? {name : String} {right : Word}
    (parsed : parse? name = some right) : ∃ entry ∈ named, entry.2 = right := by
  obtain ⟨entry, found, same⟩ := Option.map_eq_some_iff.mp parsed
  exact ⟨entry, List.mem_of_find?_eq_some found, same⟩

end Right

namespace RightsSet

/-! Sets that are built from rights. -/

theorem ofRights_of_accepts {rights : List Word}
    (accepted : ∀ right ∈ rights, empty.Accepts right) :
    ∃ set, ofRights rights = .ok set ∧ set.isValid = true ∧ set.bits = Right.bitsOf rights := by
  obtain ⟨done, held⟩ := bits_insertAll isValid_empty accepted
  have none : empty.bits = ∅ := of_decide_eq_true ((isEmpty_eq empty).symm.trans isEmpty_empty)
  have built : ofRights rights = .ok (empty.insertAll rights).1 :=
    ofRights_eq_ok_iff.mpr (Prod.ext rfl done)
  rw [none, Finset.empty_union] at held
  exact ⟨_, built, isValid_of_ofRights built, held⟩

theorem holds_eq {set : RightsSet} (valid : set.isValid = true) {right : Word}
    (accepted : empty.Accepts right) :
    set.holds right = true ↔ Right.bits right ⊆ set.bits := by
  have taken := (accepts_congr (marks_eq_of_isValid isValid_empty valid)).mp accepted
  rw [holds_iff, holdsAll_eq valid (List.forall_mem_singleton.mpr taken), Right.bitsOf_cons,
    Right.bitsOf_nil, Finset.union_empty]
  simp

/-! The listing of a set. -/

/-- The primitive rights that a set holds, in the order of their names in its listing. -/
def listed (set : RightsSet) : List Word :=
  (Right.primitives.filter fun entry => set.holds entry.2).map (·.2)

theorem mem_listed {set : RightsSet} {right : Word} :
    right ∈ set.listed ↔ ∃ entry ∈ Right.primitives, set.holds entry.2 = true ∧
      entry.2 = right := by
  simp [listed, and_assoc]

theorem bitsOf_listed_subset {set : RightsSet} (valid : set.isValid = true) :
    Right.bitsOf set.listed ⊆ set.bits := by
  intro bit member
  obtain ⟨right, listed, present⟩ := Right.mem_bitsOf.mp member
  obtain ⟨entry, primitive, held, rfl⟩ := mem_listed.mp listed
  have accepted := Right.accepts_named entry (Right.mem_named_of_mem_primitives primitive)
  exact (holds_eq valid accepted).mp held present

/-- Every named right that a set holds is brought back by its listing. -/
theorem bits_subset_bitsOf_listed {set : RightsSet} (valid : set.isValid = true)
    {entry : String × Word} (member : entry ∈ Right.named)
    (held : Right.bits entry.2 ⊆ set.bits) :
    Right.bits entry.2 ⊆ Right.bitsOf set.listed := by
  have parts := Right.bits_eq_bitsOf_parts member
  intro bit present
  -- The bit lies in a primitive right inside, which the set holds as a whole and so lists.
  rw [parts] at present
  obtain ⟨part, partMember, inPart⟩ := Right.mem_bitsOf.mp present
  obtain ⟨primitive, listing, _, rfl⟩ := Right.mem_parts.mp partMember
  have accepted := Right.accepts_named primitive (Right.mem_named_of_mem_primitives listing)
  have within : Right.bits primitive.2 ⊆ set.bits := by
    intro other inside
    apply held
    rw [parts]
    exact Right.mem_bitsOf.mpr ⟨primitive.2, partMember, inside⟩
  exact Right.mem_bitsOf.mpr
    ⟨primitive.2, mem_listed.mpr ⟨primitive, listing, (holds_eq valid accepted).mpr within, rfl⟩,
      inPart⟩

/-- A set made of named rights is made of its listed rights. -/
theorem bitsOf_listed {set : RightsSet} (valid : set.isValid = true) {rights : List Word}
    (named : ∀ right ∈ rights, ∃ entry ∈ Right.named, entry.2 = right)
    (made : set.bits = Right.bitsOf rights) : Right.bitsOf set.listed = set.bits := by
  apply Finset.Subset.antisymm (bitsOf_listed_subset valid)
  intro bit present
  rw [made] at present
  obtain ⟨right, member, inRight⟩ := Right.mem_bitsOf.mp present
  obtain ⟨entry, table, rfl⟩ := named right member
  refine bits_subset_bitsOf_listed valid table ?_ inRight
  intro other inside
  rw [made]
  exact Right.mem_bitsOf.mpr ⟨entry.2, member, inside⟩

/-! Reading names. -/

theorem parseNames_of_map {names : List String} {rights : List Word}
    (parsed : names.map Right.parse? = rights.map some) : parseNames names = .ok rights := by
  induction names generalizing rights with
  | nil =>
      cases rights with
      | nil => rfl
      | cons right rights => cases parsed
  | cons name names ih =>
      cases rights with
      | nil => cases parsed
      | cons right rights =>
          obtain ⟨first, rest⟩ := List.cons.inj parsed
          simp only [parseNames, first, ih rest]

theorem exists_map_parse? {names : List String}
    (known : ∀ name ∈ names, (Right.parse? name).isSome = true) :
    ∃ rights : List Word, names.map Right.parse? = rights.map some := by
  induction names with
  | nil => exact ⟨[], rfl⟩
  | cons name names ih =>
      obtain ⟨rights, rest⟩ := ih fun other member => known other (List.mem_cons_of_mem name member)
      obtain ⟨right, first⟩ := Option.isSome_iff_exists.mp (known name List.mem_cons_self)
      exact ⟨right :: rights, by rw [List.map_cons, List.map_cons, first, rest]⟩

theorem named_of_map {names : List String} {rights : List Word}
    (parsed : names.map Right.parse? = rights.map some) :
    ∀ right ∈ rights, ∃ entry ∈ Right.named, entry.2 = right := by
  intro right member
  have image : some right ∈ names.map Right.parse? := by
    rw [parsed]
    exact List.mem_map_of_mem member
  obtain ⟨name, _, same⟩ := List.mem_map.mp image
  exact Right.exists_named_of_parse? same

theorem encode_of_map {names : List String} {rights : List Word}
    (parsed : names.map Right.parse? = rights.map some) :
    ∃ set, encode names = .ok set ∧ set.isValid = true ∧ set.bits = Right.bitsOf rights := by
  have accepted : ∀ right ∈ rights, empty.Accepts right := by
    intro right member
    obtain ⟨entry, table, rfl⟩ := named_of_map parsed right member
    exact Right.accepts_named entry table
  obtain ⟨set, built, valid, made⟩ := ofRights_of_accepts accepted
  exact ⟨set, by simp only [encode, parseNames_of_map parsed, built], valid, made⟩

theorem map_parse?_names (set : RightsSet) :
    set.names.map Right.parse? = set.listed.map some := by
  rw [names, listed, List.map_map, List.map_map]
  apply List.map_congr_left
  intro entry member
  exact Right.parse?_primitive entry (List.mem_of_mem_filter member)

/-- A set made of named rights is what its listed names encode. -/
theorem encode_names {set : RightsSet} (valid : set.isValid = true) {rights : List Word}
    (named : ∀ right ∈ rights, ∃ entry ∈ Right.named, entry.2 = right)
    (made : set.bits = Right.bitsOf rights) : encode set.names = .ok set := by
  obtain ⟨again, encoded, againValid, againMade⟩ := encode_of_map (map_parse?_names set)
  rw [encoded]
  apply congrArg
  rw [eq_iff_bits_eq (marks_eq_of_isValid againValid valid), againMade,
    bitsOf_listed valid named made]

theorem names_ne_nil {set : RightsSet} (valid : set.isValid = true) {rights : List Word}
    (nonempty : rights ≠ []) (named : ∀ right ∈ rights, ∃ entry ∈ Right.named, entry.2 = right)
    (made : set.bits = Right.bitsOf rights) : set.names ≠ [] := by
  obtain ⟨right, member⟩ := List.exists_mem_of_ne_nil rights nonempty
  obtain ⟨entry, table, rfl⟩ := named right member
  obtain ⟨part, partMember⟩ := List.exists_mem_of_ne_nil _ (Right.parts_ne_nil entry table)
  obtain ⟨primitive, listing, _, rfl⟩ := Right.mem_parts.mp partMember
  have accepted := Right.accepts_named primitive (Right.mem_named_of_mem_primitives listing)
  have held : set.holds primitive.2 = true := by
    rw [holds_eq valid accepted, made]
    intro bit present
    refine Right.mem_bitsOf.mpr ⟨entry.2, member, ?_⟩
    rw [Right.bits_eq_bitsOf_parts table]
    exact Right.mem_bitsOf.mpr ⟨primitive.2, partMember, present⟩
  have shown : primitive.1 ∈ set.names :=
    List.mem_map.mpr ⟨primitive, List.mem_filter.mpr ⟨listing, held⟩, rfl⟩
  exact List.ne_nil_of_mem shown

end RightsSet

end Confinement
