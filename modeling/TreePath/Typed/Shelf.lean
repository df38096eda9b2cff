import TreePath.Typed.Schema

/-!
# Shelves, scores and slots

Three types of data with their schemas: a record that holds a list of records, a dictionary, and a list with
gaps.
-/

namespace TreePath

/-- A book. -/
structure Book where
  title : String
  unitPrice : Binary64
  isbn : Option String

/-- A shelf of books. -/
structure Shelf where
  label : String
  books : List Book

/-- The schema of books. A missing number is not written. -/
def Book.schema : Schema Book where
  decode json := do
    match ← Schema.fields? ["title", "unitPrice", "isbn"] json with
    | [title, unitPrice, isbn] =>
      let title ← Schema.text.required title
      let unitPrice ← Schema.float.required unitPrice
      let isbn ← Schema.text.missable isbn
      some ⟨title, unitPrice, isbn⟩
    | _ => none
  encode book :=
    let isbn := match book.isbn with
      | some isbn => [("isbn", Schema.text.encode isbn)]
      | none => []
    Json.ofMembers (("title", Schema.text.encode book.title) ::
      ("unitPrice", Schema.float.encode book.unitPrice) :: isbn)

def Shelf.schema : Schema Shelf where
  decode json := do
    match ← Schema.fields? ["label", "books"] json with
    | [label, books] =>
      let label ← Schema.text.required label
      let books ← (Schema.list Book.schema).required books
      some ⟨label, books⟩
    | _ => none
  encode shelf := Json.ofMembers
    [("label", Schema.text.encode shelf.label), ("books", (Schema.list Book.schema).encode shelf.books)]

/-- Integers under names. -/
abbrev Scores := List (String × Int64)

def Scores.schema : Schema Scores :=
  .dictionary .integer

/-- Integers, some of which are missing. -/
abbrev Slots := List (Option Int64)

def Slots.schema : Schema Slots :=
  .list (.optional .integer)

end TreePath
