import TabletRecords.Parameter.Basic

/-!
Objects of a session: everything that has a name there. Each object says what it holds against which
arena, and those charges are given back when the object is dropped.
-/
namespace TabletRecords.Session

open Arena (ArenaId)

def wordsFormat : Wire.Format (List UInt64) := Wire.Format.uint64.counted 8 8

/-- The kinds of values that are copied, sent and read from bytes on their own. -/
inductive ValueKind where
  | words
  | autoincrement
  | binding
  | schema
  | compactions
deriving DecidableEq

inductive Object where
  | arena (id : ArenaId)
  /-- Bytes held against an arena for their own sake. -/
  | charge (arena : ArenaId) (size : Nat)
  | words (held : Held (List UInt64))
  | autoincrement (held : Held Autoincrement.Sequence)
  | binding (held : Held Binding)
  | schema (held : Held StorageSchema)
  | compactions (held : Held CompactionQueue)
  | tablet (tablet : Tablet)
  | parameter (parameter : TransferParameter)
  | buffer (bytes : List UInt8)

namespace Object

def charges : Object → List (ArenaId × Nat)
  | arena _ => []
  | charge payer size => [(payer, size)]
  | words held => held.charges wordsFormat
  | autoincrement held => held.charges Autoincrement.Sequence.format
  | binding held => held.charges Binding.format
  | schema held => held.charges StorageSchema.format
  | compactions held => held.charges CompactionQueue.format
  | tablet t => t.held.charges DescriptorBody.format
  | parameter p => p.held.charges Snapshot.format
  | buffer _ => []

/-- The arena that an object stands for: a handle's, or a parameter's own. -/
def arena? : Object → Option ArenaId
  | arena id => some id
  | parameter p => some p.arena
  | _ => none

/-- The kind of value that an object is; tablets and parameters have values, but are none. -/
def kind? : Object → Option ValueKind
  | words _ => some .words
  | autoincrement _ => some .autoincrement
  | binding _ => some .binding
  | schema _ => some .schema
  | compactions _ => some .compactions
  | _ => none

def words? : Object → Option (List UInt64)
  | words held => some held.value
  | _ => none

def binding? : Object → Option Binding
  | binding held => some held.value
  | tablet t => some t.descriptor.binding
  | parameter p => some p.snapshot.binding
  | _ => none

def autoincrement? : Object → Option Autoincrement.Sequence
  | autoincrement held => some held.value
  | tablet t => some t.descriptor.autoincrement
  | parameter p => some p.snapshot.autoincrement
  | _ => none

def schema? : Object → Option StorageSchema
  | schema held => some held.value
  | parameter p => some p.snapshot.schema
  | _ => none

def compactions? : Object → Option CompactionQueue
  | compactions held => some held.value
  | parameter p => some p.snapshot.compactions
  | _ => none

/-- Whether two objects of one kind have the same content. Arenas, and what is only charged to one,
are not compared. -/
def same? : Object → Object → Option Bool
  | words a, words b => some (a.value = b.value)
  | autoincrement a, autoincrement b => some (a.value = b.value)
  | binding a, binding b => some (a.value = b.value)
  | schema a, schema b => some (a.value = b.value)
  | compactions a, compactions b => some (a.value = b.value)
  | tablet a, tablet b => some (a.same b)
  | parameter a, parameter b => some (a.same b)
  | buffer a, buffer b => some (a = b)
  | _, _ => none

end Object

end TabletRecords.Session
