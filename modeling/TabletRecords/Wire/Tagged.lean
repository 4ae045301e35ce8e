import TabletRecords.Wire.Format

/-!
Families of values without content. The tag of a member is its place in the list of members, one
byte on the wire; every member has one, and different members have different ones.
-/
namespace TabletRecords.Wire

/-- A type whose values are the members of one list. -/
class Tagged (α : Type) [DecidableEq α] where
  family : String
  members : List α
  label : α → String
  mem_members : ∀ value, value ∈ members
  nodup : members.Nodup
  length_le : members.length ≤ 256

namespace Tagged

variable {α : Type} [DecidableEq α] [Tagged α]

def index (value : α) : Nat := members.idxOf value

def tag (value : α) : UInt8 := UInt8.ofNat (index value)

def ofTag? (tag : UInt8) : Option α := members[tag.toNat]?

def ofLabel? (name : String) : Option α := members.find? (label · = name)

theorem members_getElem?_index (value : α) : members[index value]? = some value := by
  have h := List.idxOf_lt_length_of_mem (mem_members value)
  rw [index, List.getElem?_eq_getElem h, List.getElem_idxOf]

theorem index_lt (value : α) : index value < 256 :=
  Nat.lt_of_lt_of_le (List.idxOf_lt_length_of_mem (mem_members value)) length_le

theorem ofTag?_tag (value : α) : ofTag? (tag value) = some value := by
  have h : (tag value).toNat = index value := by
    rw [tag, UInt8.toNat_ofNat', Nat.mod_eq_of_lt (index_lt value)]
  rw [ofTag?, h, members_getElem?_index]

theorem tag_eq_of_ofTag? {t : UInt8} {value : α} (h : ofTag? t = some value) : tag value = t := by
  obtain ⟨hlt, rfl⟩ := List.getElem?_eq_some_iff.mp h
  apply UInt8.toNat_inj.mp
  rw [tag, UInt8.toNat_ofNat', Nat.mod_eq_of_lt (index_lt _), index, nodup.idxOf_getElem]

instance (priority := low) : Text.Printable α := ⟨fun value => .label (label value)⟩

end Tagged

def Format.tagged (α : Type) [DecidableEq α] [Tagged α] : Format α :=
  plain (fun value => [Tagged.tag value]) (fun _ => 1)
    (Reader.tagged (Tagged.family α) Tagged.ofTag?)

end TabletRecords.Wire
