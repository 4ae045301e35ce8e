import TabletRecords.Parameter.Basic

/-!
Filling transfer parameters. A part is copied into the parameter's arena before the part that it
replaces is let go, so both have to fit for a moment.
-/
namespace TabletRecords.TransferParameter

variable {α : Type}

def setPart (parameter : TransferParameter) (format : Wire.Format α) (old new : α)
    (snapshot : Snapshot) : Charging TransferParameter := do
  let _ ← Charging.replace format ⟨old, parameter.arena⟩ new parameter.arena
  return { parameter with snapshot }

def setAutoincrement (parameter : TransferParameter) (autoincrement : Autoincrement.Sequence) :
    Charging TransferParameter :=
  parameter.setPart Autoincrement.Sequence.format parameter.snapshot.autoincrement autoincrement
    { parameter.snapshot with autoincrement }

def setBinding (parameter : TransferParameter) (binding : Binding) : Charging TransferParameter :=
  parameter.setPart Binding.format parameter.snapshot.binding binding
    { parameter.snapshot with binding }

def setSchema (parameter : TransferParameter) (schema : StorageSchema) :
    Charging TransferParameter :=
  parameter.setPart StorageSchema.format parameter.snapshot.schema schema
    { parameter.snapshot with schema }

def setCompactions (parameter : TransferParameter) (compactions : CompactionQueue) :
    Charging TransferParameter :=
  parameter.setPart CompactionQueue.format parameter.snapshot.compactions compactions
    { parameter.snapshot with compactions }

def assign (parameter source : TransferParameter) : Charging TransferParameter :=
  if !source.snapshot.isValid then Charging.refuse .assignedSnapshot
  else
    parameter.setPart Snapshot.format parameter.snapshot source.snapshot source.snapshot

end TabletRecords.TransferParameter
