import TabletRecords.Proofs.Tablet.Operations

/-!
Names alone. Where a tablet's record stands, its names are read without the rest of it, and the
position moves past them and no further.
-/
namespace TabletRecords

open Wire (Header)

theorem DescriptorBody.names_prefix (body : DescriptorBody) :
    ∃ rest, format.bytes body = namesFormat.bytes (body.logStreamId, body.tabletId) ++ rest :=
  ⟨_, (List.append_assoc ..).symm⟩

theorem DescriptorBody.namesFormat_lawful : namesFormat.Lawful (fun _ => True) := by
  refine (LogStreamId.format_lawful.pair TabletId.format_lawful).congr ?_
  simp

def Tablet.namesSize : Nat := 16

theorem Tablet.readName_of_stands {header : Header} {body : DescriptorBody} {buffer : List UInt8}
    {position : Nat}
    (stands : Wire.Record.Stands DescriptorBody.format Descriptor.currentVersion
      ({} : Settings).recordLimit header body buffer position) :
    readName buffer position = .ok (body.name, position + Wire.headerSize + namesSize) := by
  obtain ⟨rest, bytes⟩ := body.names_prefix
  have length : (DescriptorBody.namesFormat.bytes (body.logStreamId, body.tabletId)).length =
      namesSize := DescriptorBody.namesFormat_lawful.length_bytes _
  have taken : DescriptorBody.namesFormat.read
      { cursor := .start (DescriptorBody.format.bytes body), account := { label := "" } } =
        .ok (body.logStreamId, body.tabletId)
          { cursor := ⟨rest, 0 + namesSize⟩, account := { label := "" } } := by
    rw [bytes, ← length]
    exact DescriptorBody.namesFormat_lawful.read_eq_ok_iff.mpr ⟨trivial, ⟨rfl, rfl⟩, rfl, rfl⟩
  simp only [readName, stands.read_eq_ok DescriptorBody.format_lawful, taken, Nat.zero_add]
  rfl

end TabletRecords
