/-
JSON documents, laid out with two spaces for each level and one field or item a line.
-/

namespace GraphicCache.Text

/-- A JSON value; the fields of an object keep their order. -/
inductive Json where
  | null
  | truth (value : Bool)
  | number (value : Int)
  | text (value : String)
  | object (fields : List (String × Json))

namespace Json

/-! ## Strings -/

/-- The escape of a control character by its number. -/
def controlEscape (n : Nat) : String :=
  let digits := Nat.toDigits 16 n
  "\\u" ++ String.ofList (List.replicate (4 - digits.length) '0' ++ digits)

/-- How a character is written inside a JSON string. -/
def escapeChar (c : Char) : String :=
  if c = '"' then "\\\""
  else if c = '\\' then "\\\\"
  else if c = '\n' then "\\n"
  else if c = '\r' then "\\r"
  else if c = '\t' then "\\t"
  else if c.toNat = 8 then "\\b"
  else if c.toNat = 12 then "\\f"
  else if c.toNat < 32 then controlEscape c.toNat
  else String.singleton c

def string (s : String) : String :=
  "\"" ++ String.join (s.toList.map escapeChar) ++ "\""

/-! ## Layout -/

/-- The blanks in front of a line of the given level. -/
def indent (level : Nat) : String := String.ofList (List.replicate (2 * level) ' ')

mutual
/-- A value that stands at the given level. -/
def layout (level : Nat) : Json → String
  | .null => "null"
  | .truth b => if b then "true" else "false"
  | .number n => toString n
  | .text s => string s
  | .object [] => "\x7b\x7d"
  | .object (f :: rest) =>
    "\x7b\n" ++ layoutFields (level + 1) (f :: rest) ++ "\n" ++ indent level ++ "\x7d"

/-- The fields of an object, one a line. -/
def layoutFields (level : Nat) : List (String × Json) → String
  | [] => ""
  | [(name, value)] => indent level ++ string name ++ ": " ++ layout level value
  | (name, value) :: rest =>
    indent level ++ string name ++ ": " ++ layout level value ++ ",\n" ++ layoutFields level rest
end

def pretty (document : Json) : String := layout 0 document

end Json

end GraphicCache.Text
