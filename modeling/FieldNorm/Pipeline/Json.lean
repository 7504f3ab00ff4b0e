import FieldNorm.Json.Skip
import FieldNorm.Pipeline.Basic
import FieldNorm.Rule.Json

/-!
Pipelines and JSON: an object whose member `rules` is the list of the rules, or an array with
that list as its only item. Without the list there are no rules, and other members of the
object are passed over unread.
-/

namespace FieldNorm.Pipeline

/-- Reads the list of the rules. -/
def rulesReader : Json.Reader (List Rule) :=
  .shaped "a sequence" (some (Json.Reader.listOf (Rule.reader (Json.maxDepth - 3)))) none

/-- Reads the member `key` of a pipeline: the rules, or something that is passed over. -/
def memberReader (key : String) : Json.Reader (Option (List Rule)) :=
  if key = "rules" then rulesReader.map some else Json.Skip.value.map fun _ => none

/-- Reads a pipeline. -/
def reader : Json.Reader Pipeline :=
  let object :=
    (Json.Reader.membersOf (Json.Reader.onlyOnce "rules") memberReader).map fun members =>
      ⟨(members.findSome? (·.2)).getD []⟩
  let array := (Json.Reader.listOfOne rulesReader).map fun rules => ⟨rules.getD []⟩
  .shaped "struct NormalizationPipeline" (some array) (some object)

/-- Reads a text as a pipeline. -/
def read (text : String) : Except Json.Error Pipeline := reader.readAll text

def toJson (p : Pipeline) : Json := .object [("rules", .array (p.rules.map Rule.toJson))]

/-- The text of a pipeline on one line. -/
def compact (p : Pipeline) : String := String.ofList p.toJson.compact

end FieldNorm.Pipeline
