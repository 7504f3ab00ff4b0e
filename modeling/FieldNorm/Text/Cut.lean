/-!
Cutting a text at every occurrence of a character.

`firstLine` is the text up to its first line break.
-/

namespace FieldNorm.Text

/-- The pieces of a text between the occurrences of a character. -/
def cut (separator : Char) : List Char → List (List Char)
  | [] => [[]]
  | c :: rest =>
    match cut separator rest with
    | piece :: pieces =>
      if c = separator then [] :: piece :: pieces else (c :: piece) :: pieces
    | [] => [[c]]

/-- The first line of a text, without the line break. -/
def firstLine (text : String) : String :=
  match cut '\n' text.toList with
  | line :: _ :: _ =>
    String.ofList (if line.getLast? = some '\r' then line.dropLast else line)
  | _ => text

/-- The pieces of a string between the occurrences of a character. -/
def pieces (separator : Char) (s : String) : List String :=
  (cut separator s.toList).map String.ofList

end FieldNorm.Text
