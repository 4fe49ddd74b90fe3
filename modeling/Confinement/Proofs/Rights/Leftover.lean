import Confinement.Proofs.Rights.Interior
import Confinement.Proofs.Rights.Narrowing
import Confinement.Proofs.Rights.Needs

/-!
What a listing leaves out. Where a bit is taken away that others need, those stay behind and no name
shows them. A listing shows the bits that have all that they need and no others. Sets without
leftover bits are those that names encode, and only among them does a listing tell the empty set
from others and any two sets apart.
-/

namespace Confinement

namespace RightsSet

/-! Sets that are reached by named rights. -/

/-- The rights that an operation is given. -/
def Operation.rights : Operation → List Word
  | .insert rights | .erase rights | .holds rights => rights
  | _ => []

/-- The other sets that an operation is given. -/
def Operation.others : Operation → List RightsSet
  | .union other | .difference other | .narrow other | .contains other | .equals other => [other]
  | _ => []

/-- Every operation but the two that take rights away. -/
def Operation.keeps : Operation → Bool
  | .erase _ | .difference _ => false
  | _ => true

/-- Sets reached from the empty one by operations of some kind, given only rights that have names
and sets that are reached the same way. -/
inductive Reached (kind : Operation → Prop) : RightsSet → Prop
  | empty : Reached kind empty
  | step {set : RightsSet} {operation : Operation} (reached : Reached kind set)
      (permitted : kind operation)
      (known : ∀ right ∈ operation.rights, ∃ name, Right.parse? name = some right)
      (others : ∀ other ∈ operation.others, Reached kind other) :
      Reached kind (set.step operation).2

/-- The bit is in the set together with all that it needs. -/
def Supported (set : RightsSet) (bit : RightBit) : Prop :=
  bit ∈ set ∧ ∀ other ∈ bit.needs, other ∈ set

/-- No bit is left in the set without one that it needs. -/
def Whole (set : RightsSet) : Prop :=
  ∀ bit : RightBit, bit ∈ set → ∀ other ∈ bit.needs, other ∈ set

instance (set : RightsSet) (bit : RightBit) : Decidable (set.Supported bit) :=
  have := List.decidableBAll (· ∈ set) bit.needs
  inferInstanceAs (Decidable (bit ∈ set ∧ ∀ other ∈ bit.needs, other ∈ set))

theorem notMem_empty (bit : RightBit) : bit ∉ empty :=
  isEmpty_iff.mp isEmpty_empty bit

section Step

variable {set : RightsSet} {rights : List Word}
  (known : ∀ right ∈ rights, ∃ name, Right.parse? name = some right)

include known

theorem accepts_of_known (valid : set.isValid = true) : ∀ right ∈ rights, set.Accepts right := by
  intro right member
  obtain ⟨name, parsed⟩ := known right member
  obtain ⟨entry, listed, rfl⟩ := Right.exists_named_of_parse? parsed
  exact (accepts_congr (marks_eq_of_isValid isValid_empty valid)).mp
    (Right.accepts_named entry listed)

/-- An insertion adds the bits of rights with names. -/
theorem mem_insertAll_of_known (valid : set.isValid = true) {bit : RightBit} :
    bit ∈ (set.insertAll rights).1 ↔
      bit ∈ set ∨ ∃ entry ∈ Right.named, entry.2 ∈ rights ∧ bit ∈ Right.bits entry.2 := by
  rw [← mem_bits, (bits_insertAll valid (accepts_of_known known valid)).2, Finset.mem_union,
    mem_bits, Right.mem_bitsOf]
  constructor
  · rintro (before | ⟨right, member, inRight⟩)
    · exact .inl before
    · obtain ⟨name, parsed⟩ := known right member
      obtain ⟨entry, listed, rfl⟩ := Right.exists_named_of_parse? parsed
      exact .inr ⟨entry, listed, member, inRight⟩
  · rintro (before | ⟨entry, _, member, inRight⟩)
    · exact .inl before
    · exact .inr ⟨entry.2, member, inRight⟩

end Step

namespace Reached

variable {kind : Operation → Prop} {set : RightsSet}

theorem isValid (reached : Reached kind set) : set.isValid = true := by
  induction reached with
  | empty => exact isValid_empty
  | step _ _ _ _ valid _ => exact isValid_step valid _

theorem named_bits (reached : Reached kind set) :
    ∀ bit : RightBit, bit ∈ set → bit ∈ RightBit.named := by
  induction reached with
  | empty => exact fun bit present => absurd present (notMem_empty bit)
  | @step set operation reached permitted known others named named' =>
      intro bit present
      have valid := reached.isValid
      by_cases shrinks : operation.shrinks = true
      · have same := marks_eq_of_isValid valid (isValid_step valid operation)
        exact named bit ((contains_iff_mem same).mp (contains_step set shrinks) bit present)
      · cases operation with
        | insert rights =>
            rcases (mem_insertAll_of_known known valid).mp present with
              before | ⟨entry, listed, _, inRight⟩
            · exact named bit before
            · exact Right.named_of_mem_bits listed inRight
        | union other =>
            rcases mem_union.mp present with before | added
            · exact named bit before
            · exact named' other (List.mem_singleton_self other) bit added
        | _ => exact absurd rfl shrinks

/-- Nothing is left behind where nothing is taken away. -/
theorem whole (reached : Reached (fun operation => operation.keeps = true) set) : set.Whole := by
  induction reached with
  | empty => exact fun bit present => absurd present (notMem_empty bit)
  | @step set operation reached permitted known others whole whole' =>
      have valid := reached.isValid
      cases operation with
      | insert rights =>
          intro bit present other needed
          rcases (mem_insertAll_of_known known valid).mp present with
            before | ⟨entry, listed, member, inRight⟩
          · exact (mem_insertAll_of_known known valid).mpr (.inl (whole bit before other needed))
          · exact (mem_insertAll_of_known known valid).mpr (.inr
              ⟨entry, listed, member, Right.needs_of_mem_bits listed inRight other needed⟩)
      | union other =>
          intro bit present third needed
          rcases mem_union.mp present with before | added
          · exact mem_union.mpr (.inl (whole bit before third needed))
          · exact mem_union.mpr
              (.inr (whole' other (List.mem_singleton_self other) bit added third needed))
      | narrow requested =>
          cases narrowed : set.narrow requested with
          | error reason => simpa only [RightsSet.step, narrowed] using whole
          | ok granted =>
              obtain ⟨_, _, rfl⟩ := narrow_eq_ok_iff.mp narrowed
              have grantedWhole := whole' granted (List.mem_singleton_self granted)
              simpa only [RightsSet.step, narrowed] using grantedWhole
      | erase rights => cases permitted
      | difference other => cases permitted
      | holds _ | contains _ | equals _ | isEmpty => exact whole

end Reached

/-! Listings. -/

section Listing

variable {set other : RightsSet} (valid : set.isValid = true) (otherValid : other.isValid = true)

include valid

theorem holds_right {bit : RightBit} (member : bit ∈ RightBit.named) :
    set.holds bit.right = true ↔ set.Supported bit := by
  obtain ⟨entry, listed, same⟩ := RightBit.exists_primitive member
  have accepted : empty.Accepts bit.right :=
    same ▸ Right.accepts_named entry (Right.mem_named_of_mem_primitives listed)
  rw [holds_eq valid accepted]
  simp only [Finset.subset_iff, RightBit.mem_bits_right, mem_bits]
  exact ⟨fun held => ⟨held (.inl rfl), fun needed member => held (.inr member)⟩,
    fun supported own place => place.elim (fun same => same ▸ supported.1) (supported.2 own)⟩

/-- The name of the primitive right of a bit shows exactly if the bit is supported. -/
theorem mem_names {bit : RightBit} (member : bit ∈ RightBit.named) {entry : String × Word}
    (listed : entry ∈ Right.primitives) (same : entry.2 = bit.right) :
    entry.1 ∈ set.names ↔ set.Supported bit := by
  rw [← holds_right valid member, ← same]
  constructor
  · intro shown
    obtain ⟨twin, held, spelled⟩ := List.mem_map.mp shown
    obtain ⟨twinListed, held⟩ := List.mem_filter.mp held
    -- Two primitive rights of one name would be read from it alike.
    have parsed := Right.parse?_primitive twin twinListed
    rw [spelled, Right.parse?_primitive entry listed] at parsed
    rwa [Option.some.inj parsed]
  · intro held
    exact List.mem_map.mpr ⟨entry, List.mem_filter.mpr ⟨listed, held⟩, rfl⟩

theorem names_eq_nil_iff :
    set.names = [] ↔ ∀ bit ∈ RightBit.named, ¬ set.Supported bit := by
  constructor
  · intro nothing bit member supported
    obtain ⟨entry, listed, same⟩ := RightBit.exists_primitive member
    have shown := (mem_names valid member listed same).mpr supported
    rw [nothing] at shown
    cases shown
  · intro unsupported
    apply List.eq_nil_iff_forall_not_mem.mpr
    intro name shown
    obtain ⟨entry, held, rfl⟩ := List.mem_map.mp shown
    have listed := List.mem_of_mem_filter held
    obtain ⟨bit, member, same⟩ := RightBit.exists_bit listed
    exact unsupported bit member ((mem_names valid member listed same.symm).mp shown)

include otherValid

theorem names_eq_iff :
    set.names = other.names ↔
      ∀ bit ∈ RightBit.named, (set.Supported bit ↔ other.Supported bit) := by
  constructor
  · intro same bit member
    obtain ⟨entry, listed, right⟩ := RightBit.exists_primitive member
    rw [← mem_names valid member listed right, same, mem_names otherValid member listed right]
  · intro same
    apply congrArg (List.map Prod.fst)
    apply List.filter_congr
    intro entry listed
    obtain ⟨bit, member, right⟩ := RightBit.exists_bit listed
    rw [Bool.eq_iff_iff, ← right, holds_right valid member, holds_right otherValid member]
    exact same bit member

end Listing

theorem display_eq_iff {set other : RightsSet} :
    set.display = other.display ↔ set.names = other.names := by
  constructor
  · exact names_eq_of_display_eq
  · intro same
    simp only [display, same]

theorem Whole.supported_iff {set : RightsSet} (whole : set.Whole) {bit : RightBit} :
    set.Supported bit ↔ bit ∈ set :=
  ⟨fun supported => supported.1, fun present => ⟨present, whole bit present⟩⟩

section Reached

variable {kind : Operation → Prop} {set other : RightsSet} (reached : Reached kind set)

include reached

theorem Reached.named_of_supported {bit : RightBit} (supported : set.Supported bit) :
    bit ∈ RightBit.named :=
  reached.named_bits bit supported.1

theorem display_eq_none_iff_supported :
    set.display = "(none)" ↔ ∀ bit, ¬ set.Supported bit := by
  rw [display_eq_none_iff, names_eq_nil_iff reached.isValid]
  exact ⟨fun nothing bit supported => nothing bit (reached.named_of_supported supported) supported,
    fun nothing bit _ => nothing bit⟩

theorem display_eq_iff_supported (otherReached : Reached kind other) :
    set.display = other.display ↔ ∀ bit, (set.Supported bit ↔ other.Supported bit) := by
  rw [display_eq_iff, names_eq_iff reached.isValid otherReached.isValid]
  constructor
  · intro same bit
    by_cases member : bit ∈ RightBit.named
    · exact same bit member
    · exact ⟨fun supported => absurd (reached.named_of_supported supported) member,
        fun supported => absurd (otherReached.named_of_supported supported) member⟩
  · intro same bit _
    exact same bit

/-- The sets that names encode are those without leftover bits. -/
theorem isNamed_iff_whole : set.IsNamed ↔ set.Whole := by
  constructor
  · rintro ⟨names, encoded⟩ bit present third needed
    obtain ⟨rights, spelled, _, made⟩ := rights_of_encode encoded
    rw [← mem_bits, made, Right.mem_bitsOf] at present
    obtain ⟨right, member, inRight⟩ := present
    obtain ⟨entry, listed, rfl⟩ := named_of_map spelled right member
    rw [← mem_bits, made, Right.mem_bitsOf]
    exact ⟨entry.2, member, Right.needs_of_mem_bits listed inRight third needed⟩
  · intro whole
    have spelled := map_parse?_names set
    have shown : set.bits = Right.bitsOf set.listed := by
      apply Finset.Subset.antisymm _ (bitsOf_listed_subset reached.isValid)
      intro bit present
      have held := mem_bits.mp present
      have member := reached.named_bits bit held
      obtain ⟨entry, listed, same⟩ := RightBit.exists_primitive member
      have holds := (holds_right reached.isValid member).mpr (whole.supported_iff.mpr held)
      rw [Right.mem_bitsOf]
      exact ⟨bit.right, mem_listed.mpr ⟨entry, listed, same ▸ holds, same⟩,
        RightBit.mem_bits_right.mpr (.inl rfl)⟩
    exact ⟨set.names, encode_names reached.isValid (named_of_map spelled) shown⟩

end Reached

/-- What the listings of sets tell that named rights reach. A set shows as empty if none of its bits
is supported, and two sets show alike if the same bits of theirs are. So a set without leftover
bits shows as empty only if it is, and shows unlike all others of its kind. Names encode exactly
these sets, and they are all that is reached where no rights are taken away. -/
theorem listing_shows_supported {set other : RightsSet} (reached : Reached (fun _ => True) set)
    (otherReached : Reached (fun _ => True) other) :
    (set.display = "(none)" ↔ ∀ bit, ¬ set.Supported bit) ∧
    (set.display = other.display ↔ ∀ bit, (set.Supported bit ↔ other.Supported bit)) ∧
    (set.Whole → (set.display = "(none)" ↔ set.isEmpty = true)) ∧
    (set.Whole → other.Whole → set.display = other.display → set = other) ∧
    (set.IsNamed ↔ set.Whole) ∧
    (Reached (fun operation => operation.keeps = true) set → set.Whole) := by
  have nothing := display_eq_none_iff_supported reached
  have alike := display_eq_iff_supported reached otherReached
  refine ⟨nothing, alike, ?_, ?_, isNamed_iff_whole reached, Reached.whole⟩
  · intro whole
    rw [nothing, isEmpty_iff]
    simp only [whole.supported_iff]
  · intro whole otherWhole same
    rw [eq_iff_bits_eq (marks_eq_of_isValid reached.isValid otherReached.isValid)]
    ext bit
    rw [mem_bits, mem_bits, ← whole.supported_iff, ← otherWhole.supported_iff]
    exact alike.mp same bit

/-! What is left of seeking. -/

theorem reached_insert {kind : Operation → Prop} {right : Word} (permitted : kind (.insert [right]))
    (known : ∃ name, Right.parse? name = some right) :
    Reached kind (empty.insertAll [right]).1 := by
  have only : ∀ other ∈ [right], ∃ name, Right.parse? name = some other :=
    List.forall_mem_singleton.mpr known
  exact .step .empty permitted only (List.forall_mem_nil _)

theorem reached_erase {right taken : Word} (known : ∃ name, Right.parse? name = some right)
    (alsoKnown : ∃ name, Right.parse? name = some taken) :
    Reached (fun _ => True) ((empty.insertAll [right]).1.eraseAll [taken]).1 := by
  have only : ∀ other ∈ [taken], ∃ name, Right.parse? name = some other :=
    List.forall_mem_singleton.mpr alsoKnown
  have next : Reached (fun _ => True) ((empty.insertAll [right]).1.step (.erase [taken])).2 :=
    .step (reached_insert trivial known) trivial only (List.forall_mem_nil _)
  exact next

/-- Telling the position goes, but the bit of seeking stays in the set and does not show. So the set
shows as the set shows that has the right to read and no other. -/
theorem listing_shows_supported_half_seek :
    let left : RightsSet := ⟨0x0200000000000009, 0x0400000000000000⟩
    let plain : RightsSet := ⟨0x0200000000000001, 0x0400000000000000⟩
    Reached (fun _ => True) left ∧ Reached (fun _ => True) plain ∧
      Reached (fun operation => operation.keeps = true) plain ∧
      left.display = plain.display ∧ ¬ left.IsNamed ∧ plain.Whole ∧
      (plain.display = "(none)" ↔ plain.isEmpty = true) := by
  intro left plain
  have pread : ∃ name, Right.parse? name = some Right.pread := ⟨"pread", by decide +kernel⟩
  have tell : ∃ name, Right.parse? name = some Right.seekTell := ⟨"seek_tell", by decide +kernel⟩
  have read : ∃ name, Right.parse? name = some Right.read := ⟨"read", by decide +kernel⟩
  have leftReached : Reached (fun _ => True) left := reached_erase pread tell
  have plainReached : Reached (fun _ => True) plain := reached_insert trivial read
  have added : Reached (fun operation => operation.keeps = true) plain :=
    reached_insert (by rfl) read
  have orphan : ¬ left.Whole := fun whole =>
    absurd (whole ⟨0, 3⟩ (by decide) ⟨0, 2⟩ (by decide)) (by decide)
  obtain ⟨_, alike, _, _, named, _⟩ := listing_shows_supported leftReached plainReached
  obtain ⟨_, _, shows, _, _, keeps⟩ := listing_shows_supported plainReached plainReached
  exact ⟨leftReached, plainReached, added, alike.mpr (by decide +kernel), mt named.mp orphan,
    keeps added, shows (keeps added)⟩

/-- Taking the right to tell the position from the right to seek leaves a set that is not empty,
shows as if it were, and so shows as the empty set does. -/
theorem leftover_of_seek_shows_as_none :
    let left : RightsSet := ((empty.insertAll [Right.seek]).1.eraseAll [Right.seekTell]).1
    Reached (fun _ => True) left ∧ Reached (fun _ => True) empty ∧
      left.display = "(none)" ∧ left.isEmpty = false ∧
      left.display = empty.display ∧ left ≠ empty :=
  ⟨reached_erase ⟨"seek", by decide +kernel⟩ ⟨"seek_tell", by decide +kernel⟩, .empty,
    by decide +kernel, by decide +kernel, by decide +kernel, by decide +kernel⟩

end RightsSet

end Confinement
