import FieldNorm.Document.Basic
import FieldNorm.Log.Event
import FieldNorm.Sql.Style

/-!
Fields as SQL literals, and documents as rows of `INSERT` statements. Names of tables and
columns are written as they are. A literal with a quote inside that is not doubled is reported
as a warning, which names the field and never the value.
-/

namespace FieldNorm.Sql

/-! ### Literals -/

/-- The literal for no value. -/
def nullText : String := "NULL"

/-- A literal: no value, or a text in single quotes. -/
inductive Literal
  | null
  | text (s : List Char)
deriving DecidableEq

/-- The literal of a field: a field that is absent or null has no value. -/
def Literal.ofField (d : Document) (key : String) : Literal :=
  match d.get? key with
  | none | some .null => .null
  | some v => .text v.display

/-- A text with every single quote doubled. -/
def doubleQuotes (s : List Char) : List Char :=
  s.flatMap fun c => if c = '\'' then ['\'', '\''] else [c]

/-- A text between single quotes. -/
def Style.quote (style : Style) (s : List Char) : List Char :=
  '\'' :: (match style with
    | .raw => s
    | .escaped => doubleQuotes s) ++ ['\'']

def Literal.write (style : Style) : Literal → List Char
  | .null => nullText.toList
  | .text s => style.quote s

/-- The warning about a quote that is not doubled, if there is one. -/
def Literal.warnings (style : Style) (key : String) : Literal → List Log.Event
  | .null => []
  | .text s =>
    if style = .raw && s.contains '\'' then
      [{ level := .warn, source := .sql,
         message := "value contains a single quote; raw SQL literal is not escaped",
         data := [("field", .plain key)] }]
    else []

/-- A text with what it gives rise to reporting. -/
structure Rendered where
  text : String
  events : List Log.Event
deriving DecidableEq

/-- The field `key` as a literal. -/
def literal (d : Document) (style : Style) (key : String) : Rendered where
  text := String.ofList ((Literal.ofField d key).write style)
  events := (Literal.ofField d key).warnings style key

/-! ### Rows and statements -/

/-- Some fields as a list of literals in parentheses. -/
def tuple (d : Document) (style : Style) (keys : List String) : Rendered where
  text := "(" ++ ", ".intercalate (keys.map fun key => (literal d style key).text) ++ ")"
  events := keys.flatMap fun key => (literal d style key).events

/-- The statement that inserts some fields of a document as a row. -/
def insertStatement (table : String) (d : Document) (style : Style) (keys : List String) :
    Rendered where
  text :=
    "INSERT INTO " ++ table ++ " (" ++ ", ".intercalate keys ++ ") VALUES " ++
      (tuple d style keys).text ++ ";"
  events := (tuple d style keys).events

end FieldNorm.Sql
