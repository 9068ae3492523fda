import NodeAtlas.Text.Quoted

/-!
# Shown values

Values as they are shown to a reader of logs: records with the names of their fields, lists between
brackets, dictionaries between braces, and optional values that say whether they are there.
-/

namespace NodeAtlas.Text

/-- A field of a record with its name. -/
def shownField (f : String × String) : String := f.1 ++ ": " ++ f.2

def shownRecord (name : String) (fields : List (String × String)) : String :=
  name ++ " \x7b " ++ ", ".intercalate (fields.map shownField) ++ " \x7d"

/-- A record of which more could be shown. -/
def shownPart (name : String) (fields : List (String × String)) : String :=
  name ++ " \x7b " ++ ", ".intercalate (fields.map shownField ++ [".."]) ++ " \x7d"

/-- A list of values that have been made texts. -/
def shownList (items : List String) : String := "[" ++ ", ".intercalate items ++ "]"

/-- A dictionary whose values have been made texts. -/
def shownDict (entries : List (String × String)) : String :=
  "\x7b" ++ ", ".intercalate (entries.map fun e => quoted e.1 ++ ": " ++ e.2) ++ "\x7d"

/-- A value with the name of its kind. -/
def shownAs (name value : String) : String := name ++ "(" ++ value ++ ")"

/-- An optional value that has been made a text. -/
def shownOption : Option String → String
  | some value => shownAs "Some" value
  | none => "None"

/-- A truth value. -/
def shownTruth (b : Bool) : String := if b then "true" else "false"

end NodeAtlas.Text
