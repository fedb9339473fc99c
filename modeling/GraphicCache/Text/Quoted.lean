/-
Quoted text and the description of values: a record or a variant is written with its name and its
fields in order, a list in brackets, and a text between quotes, where a character that would not
show is written by its number.
-/
import GraphicCache.Text.Unshown

namespace GraphicCache.Text

/-! ## Quoting -/

/-- How a character is written inside quotes. -/
def quoteChar (c : Char) : String :=
  if c.toNat = 0 then "\\0"
  else if c = '\t' then "\\t"
  else if c = '\r' then "\\r"
  else if c = '\n' then "\\n"
  else if c = '\\' then "\\\\"
  else if c = '"' then "\\\""
  else if isUnshown c then
    "\\u\x7b" ++ String.ofList (Nat.toDigits 16 c.toNat) ++ "\x7d"
  else String.singleton c

def quoted (s : String) : String :=
  "\"" ++ String.join (s.toList.map quoteChar) ++ "\""

/-! ## Descriptions -/

def field (name value : String) : String := name ++ ": " ++ value

def record (name : String) (fields : List String) : String :=
  name ++ " \x7b " ++ ", ".intercalate fields ++ " \x7d"

def variant (name value : String) : String := name ++ "(" ++ value ++ ")"

def listed (values : List String) : String := "[" ++ ", ".intercalate values ++ "]"

/-- A value that may be missing. -/
def optional : Option String → String
  | none => "None"
  | some value => variant "Some" value

def truth (b : Bool) : String := if b then "true" else "false"

example : quoted "a\n\"q\" \\" = "\"a\\n\\\"q\\\" \\\\\"" := by decide +kernel
example : quoted "é中😀" = "\"é中😀\"" := by decide +kernel

end GraphicCache.Text
