import TabletRecords.Text.Quoted

/-!
Printable trees. Every value that the library prints has one tree, and both of its texts are
written from it: the description that messages carry, and the compact JSON.
-/
namespace TabletRecords.Text

inductive Tree where
  | number (value : Int)
  | truth (value : Bool)
  | text (value : String)
  | label (name : String)
  /-- A value under the name of its type; JSON shows the value alone. -/
  | named (name : String) (value : Tree)
  | absent
  | present (value : Tree)
  | list (items : List Tree)
  | record (name : String) (fields : List (String × Tree))
deriving Inhabited

namespace Tree

mutual

def describe : Tree → String
  | number value => toString value
  | truth value => if value then "true" else "false"
  | text value => quote value
  | label name => name
  | named name value => name ++ "(" ++ describe value ++ ")"
  | absent => "None"
  | present value => "Some(" ++ describe value ++ ")"
  | list items => "[" ++ ", ".intercalate (describeItems items) ++ "]"
  | record name fields => name ++ " \x7b " ++ ", ".intercalate (describeFields fields) ++ " \x7d"

def describeItems : List Tree → List String
  | [] => []
  | item :: rest => describe item :: describeItems rest

def describeFields : List (String × Tree) → List String
  | [] => []
  | (name, value) :: rest => (name ++ ": " ++ describe value) :: describeFields rest

end

mutual

/-- The compact JSON text of a value: no blanks, fields in order, `null` for what is absent. -/
def json : Tree → String
  | number value => toString value
  | truth value => if value then "true" else "false"
  | text value => quoteJson value
  | label name => quoteJson name
  | named _ value => json value
  | absent => "null"
  | present value => json value
  | list items => "[" ++ ",".intercalate (jsonItems items) ++ "]"
  | record _ fields => "\x7b" ++ ",".intercalate (jsonFields fields) ++ "\x7d"

def jsonItems : List Tree → List String
  | [] => []
  | item :: rest => json item :: jsonItems rest

def jsonFields : List (String × Tree) → List String
  | [] => []
  | (name, value) :: rest => (quoteJson name ++ ":" ++ json value) :: jsonFields rest

end

def fields : Tree → List (String × Tree)
  | record _ fields => fields
  | _ => []

end Tree

class Printable (α : Type) where
  tree : α → Tree

export Printable (tree)

def describe {α : Type} [Printable α] (value : α) : String := (tree value).describe

def json {α : Type} [Printable α] (value : α) : String := (tree value).json

instance : Printable Bool := ⟨.truth⟩
instance : Printable Int32 := ⟨fun n => .number n.toInt⟩
instance : Printable Int64 := ⟨fun n => .number n.toInt⟩
instance : Printable UInt8 := ⟨fun n => .number n.toNat⟩
instance : Printable UInt32 := ⟨fun n => .number n.toNat⟩
instance : Printable UInt64 := ⟨fun n => .number n.toNat⟩
instance : Printable Nat := ⟨fun n => .number n⟩
instance : Printable String := ⟨.text⟩

instance {α : Type} [Printable α] : Printable (Option α) where
  tree
    | none => .absent
    | some value => .present (tree value)

instance {α : Type} [Printable α] : Printable (List α) :=
  ⟨fun items => .list (items.map tree)⟩

end TabletRecords.Text
