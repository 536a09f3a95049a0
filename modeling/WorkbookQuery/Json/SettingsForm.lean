/-
  The JSON form of settings.
-/
import WorkbookQuery.Json.SelectionForm
import WorkbookQuery.Settings

namespace WorkbookQuery

open JsonValue

instance : JsonForm TextMatching where
  write t := .ofText t.name
  read? depth v := (caseName? depth v).bind TextMatching.ofName?

/-- A field that may be left out and has a value of its own then. -/
def defaulted {α : Type} (a : α) (read : JsonValue → Option α) : Option JsonValue → Option α
  | none => some a
  | some v => read v

/-- Every setting may be left out. An array gives the first of them. -/
instance : JsonForm Settings where
  write s := record [("file_version", writeOption JsonForm.write s.format?),
    ("contains_matching", JsonForm.write s.matching), ("trim_text", .boolean s.trimText)]
  read? depth v := do
    match ← fields? true ["file_version", "contains_matching", "trim_text"] depth v with
    | (d, [format, matching, trim]) =>
      return {
        format? := ← optional? (JsonForm.read? d) format
        matching := ← defaulted .driverDefault (JsonForm.read? d) matching
        trimText := ← defaulted false boolean? trim }
    | _ => none

/-- How text cells are read: the one setting that matters to records. -/
structure ReadOptions where
  trimText : Bool
  deriving DecidableEq, Inhabited

instance : JsonForm ReadOptions where
  write o := record [("trim_text", .boolean o.trimText)]
  read? depth v := do
    match ← fields? false ["trim_text"] depth v with
    | (_, [trim]) => return ⟨← required boolean? trim⟩
    | _ => none

end WorkbookQuery
