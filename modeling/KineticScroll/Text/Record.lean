import KineticScroll.Text.Extending
import KineticScroll.Text.Printable

/-!
# Records in text

Values are described on one line: the name of the record and its fields in
braces, an optional part as `Some(…)` or `None`, a text in quotes.  A record
that does not show all of its fields ends with two dots.
-/

namespace KineticScroll

namespace Text

def bool (value : Bool) : String :=
  if value then "true" else "false"

def option (value : Option String) : String :=
  match value with
  | none => "None"
  | some text => "Some(" ++ text ++ ")"

/-- The hexadecimal digits of a number, without leading zeros. -/
def hexadecimal (number : Nat) : String :=
  String.ofList (Nat.toDigits 16 number)

/-- A character inside quotes.  The quote, the backslash and four controls are written with a
backslash, and a character that is not printable or joins the one before by its code. -/
def escape (char : Char) : String :=
  match char with
  | '"' => "\\\""
  | '\\' => "\\\\"
  | '\n' => "\\n"
  | '\r' => "\\r"
  | '\t' => "\\t"
  | '\x00' => "\\0"
  | other =>
      if isExtending other || !isPrintable other then
        "\\u\x7b" ++ hexadecimal other.toNat ++ "\x7d"
      else
        other.toString

/-- The rest of printable ASCII stands for itself. -/
theorem escape_of_ascii (char : Char) (above : 0x20 ≤ char.toNat) (below : char.toNat < 0x7F)
    (noQuote : char ≠ '"') (noBackslash : char ≠ '\\') : escape char = char.toString := by
  have joins : isExtending char = false := isExtending_of_lt char (by omega)
  have shown : isPrintable char = true := isPrintable_of_ascii char above below
  unfold escape
  split
  · exact absurd rfl noQuote
  · exact absurd rfl noBackslash
  · exact absurd above (by decide)
  · exact absurd above (by decide)
  · exact absurd above (by decide)
  · exact absurd above (by decide)
  · simp [joins, shown]

def quote (text : String) : String :=
  "\"" ++ String.join (text.toList.map escape) ++ "\""

def fields (entries : List (String × String)) : List String :=
  entries.map fun entry => entry.1 ++ ": " ++ entry.2

def braced (name : String) (parts : List String) : String :=
  name ++ " \x7b " ++ ", ".intercalate parts ++ " \x7d"

/-- A record with all of its fields. -/
def record (name : String) (entries : List (String × String)) : String :=
  braced name (fields entries)

/-- A record with some of its fields. -/
def openRecord (name : String) (entries : List (String × String)) : String :=
  braced name (fields entries ++ [".."])

end Text

end KineticScroll
