import DumpFlow.Json.Tree
import DumpFlow.Dictionary

/-!
Decoding of documents. A record is an object of its fields, in any order and with others among
them that are skipped, or the array of its fields in order. A choice is its name, or an object with
the name as its only key and no value. Only whole literals are taken for whole numbers.
-/

namespace DumpFlow.Json

/-- How many arrays and objects may stand inside one another where a document is decoded. -/
def greatestDepth : Nat := 127

namespace Tree

def text? : Tree → Option String
  | .text content => content
  | _ => none

def boolean? : Tree → Option Bool
  | .boolean b => some b
  | _ => none

/-- A whole number of 64 bits. -/
def natural? : Tree → Option Nat
  | .number l => l.natural?
  | _ => none

def char? (t : Tree) : Option Char :=
  match t.text?.map String.toList with
  | some [c] => some c
  | _ => none

def list? {α : Type} (item : Tree → Option α) : Tree → Option (List α)
  | .array items => items.mapM item
  | _ => none

/-- `null` is the absent value. -/
def optional? {α : Type} (item : Tree → Option α) : Tree → Option (Option α)
  | .null => some none
  | t => (item t).map some

/-- Members with their keys; none if a key names no text. -/
def keyed? (members : List (Option String × Tree)) : Option (List (String × Tree)) :=
  members.mapM fun m => m.1.map (·, m.2)

def dictionary? {α : Type} (item : Tree → Option α) : Tree → Option (Dictionary α)
  | .object members => do
    let keyed ← keyed? members
    let entries ← keyed.mapM fun m => (item m.2).map (m.1, ·)
    return .ofList entries
  | _ => none

/-- The element of `all` with the name that the document gives. -/
def choice? {α : Type} (all : List α) (name : α → String) : Tree → Option α
  | .text content => content.bind fun s => all.find? (name · == s)
  | .object [(some key, .null)] => all.find? (name · == key)
  | _ => none

mutual

/-- The value of a document in which arrays and objects are nested at most `depth` deep. Members
are ordered by key, and of several with one key the last stays. -/
def value? (depth : Nat) : Tree → Option Value
  | .null => some .null
  | .boolean b => some (.boolean b)
  | .number l => l.number?.map .number
  | .text content => content.map .text
  | .array items =>
    match depth with
    | 0 => none
    | d + 1 => (values? d items).map .array
  | .object members =>
    match depth with
    | 0 => none
    | d + 1 => (members? d members).map fun ms => .object (Dictionary.ofList ms).entries

def values? (depth : Nat) : List Tree → Option (List Value)
  | [] => some []
  | t :: ts =>
    match value? depth t, values? depth ts with
    | some v, some vs => some (v :: vs)
    | _, _ => none

def members? (depth : Nat) : List (Option String × Tree) → Option (List (String × Value))
  | [] => some []
  | (key, t) :: ms =>
    match key, value? depth t, members? depth ms with
    | some k, some v, some vs => some ((k, v) :: vs)
    | _, _, _ => none

end

end Tree

/-- The fields that a document gives for a record, and whether it gives them by position. -/
structure Fields where
  positional : Bool
  given : List (String × Tree)

namespace Fields

/-- The fields of a record with the given names. None of them may be given twice. -/
def ofTree? (names : List String) : Tree → Option Fields
  | .object members => do
    let keyed ← Tree.keyed? members
    let known := keyed.filter fun m => names.contains m.1
    if (known.map (·.1)).Nodup then some ⟨false, known⟩ else none
  | .array items => if items.length ≤ names.length then some ⟨true, names.zip items⟩ else none
  | _ => none

variable {α : Type}

def required? (f : Fields) (name : String) (item : Tree → Option α) : Option α :=
  (f.given.lookup name).bind item

/-- A field that has a standard value when it is not given. -/
def defaulted? (f : Fields) (name : String) (item : Tree → Option α) (standard : α) : Option α :=
  match f.given.lookup name with
  | some t => item t
  | none => some standard

/-- An optional field without a standard value: it may be left out by name only. -/
def optional? (f : Fields) (name : String) (item : Tree → Option α) : Option (Option α) :=
  match f.given.lookup name with
  | some t => t.optional? item
  | none => if f.positional then none else some none

end Fields

end DumpFlow.Json
