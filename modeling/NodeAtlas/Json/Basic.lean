/-!
# JSON values

The values that a JSON text denotes, as far as records need them: an unsigned integer literal is
kept as a number, every other numeral only as such. A string may fail to denote a text when an
escape leaves half of a surrogate pair alone.
-/

namespace NodeAtlas

/-- A JSON value. -/
inductive Json where
  /-- The literal `null`. -/
  | null
  /-- One of the literals `true` and `false`. -/
  | bool (b : Bool)
  /-- A numeral without sign, fraction and exponent. -/
  | natural (n : Nat)
  /-- Any other numeral. -/
  | numeral
  /-- A string that denotes a text. -/
  | text (s : String)
  /-- A string with half of a surrogate pair. -/
  | brokenText
  /-- A list of values. -/
  | array (items : List Json)
  /-- Named values in the order of the text; a name may fail to denote a text. -/
  | object (members : List (Option String × Json))
  deriving Repr, Inhabited

namespace Json

/-- An object whose names all denote texts. -/
def record (members : List (String × Json)) : Json :=
  .object (members.map fun m => (some m.1, m.2))

end Json

end NodeAtlas
