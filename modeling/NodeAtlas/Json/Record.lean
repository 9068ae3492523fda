import NodeAtlas.Json.Basic

/-!
# Records

A record is an object with known names, or a list that holds their values in a fixed order. Unknown
names are ignored, a known name must not come twice, and a list may end early but holds nothing
more.
-/

namespace NodeAtlas.Json

/-- A field of a record: the names under which it may come. -/
abbrev FieldNames := List String

/-- The position of the field with the given name. -/
def fieldIndex? (fields : List FieldNames) (name : String) : Option Nat :=
  fields.findIdx? fun names => names.contains name

/-- Puts the members of an object at the positions of their fields. -/
def assign (fields : List FieldNames) (slots : List (Option Json)) :
    List (Option String × Json) → Option (List (Option Json))
  | [] => some slots
  | (none, _) :: _ => none
  | (some name, v) :: ms =>
    match fieldIndex? fields name with
    | none => assign fields slots ms
    | some i =>
      match slots[i]? with
      | some none => assign fields (slots.set i (some v)) ms
      | _ => none

/-- The values of the fields in their order, absent ones included. -/
def slots? (fields : List FieldNames) : Json → Option (List (Option Json))
  | object members => assign fields (fields.map fun _ => none) members
  | array items =>
    if items.length ≤ fields.length then
      some (items.map some ++ List.replicate (fields.length - items.length) none)
    else none
  | _ => none

/-- A value that must be there. -/
def required {α : Type} (read : Json → Option α) : Option Json → Option α
  | some v => read v
  | none => none

/-- A value that has a default. -/
def withDefault {α : Type} (default : α) (read : Json → Option α) : Option Json → Option α
  | some v => read v
  | none => some default

/-- Reads a text. -/
def asText : Json → Option String
  | text s => some s
  | _ => none

/-- Reads a text or `null`. -/
def asTextOrNull : Json → Option (Option String)
  | text s => some (some s)
  | null => some none
  | _ => none

/-- Reads an unsigned number of 32 bits. -/
def asUInt32 : Json → Option UInt32
  | natural n => if n < UInt32.size then some (.ofNat n) else none
  | _ => none

/-- Reads an unsigned number of 64 bits. -/
def asUInt64 : Json → Option UInt64
  | natural n => if n < UInt64.size then some (.ofNat n) else none
  | _ => none

/-- Reads every item of a list. -/
def readAll {α : Type} (read : Json → Option α) : List Json → Option (List α)
  | [] => some []
  | v :: vs =>
    match read v, readAll read vs with
    | some a, some as => some (a :: as)
    | _, _ => none

def asList {α : Type} (read : Json → Option α) : Json → Option (List α)
  | array items => readAll read items
  | _ => none

end NodeAtlas.Json
