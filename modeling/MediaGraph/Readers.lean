import MediaGraph.Text.Codecs
import MediaGraph.Toml.Document

namespace MediaGraph

/-!
# What documents are read with

Bytes are decoded by codecs, and documents of tables are read by a reader of their own.  Both come
from outside, so everything that is read with them is given them.

* `TableReader` — the tables of a text, or why it has none.
* `TableReader.own` — the reader of the tables that are described here.
* `Readers` — the codecs and the reader of tables.
-/

/-- Why a text is not read as tables. -/
inductive TableFault where
  /-- The text is no document. -/
  | malformed
  /-- Any other failure; it is not expected. -/
  | unexpected (f : Failure)

/-- A reader of documents that hold tables. -/
structure TableReader where
  read : String → Except TableFault Toml.Table
  /-- A reader knows nothing of configurations and documents. -/
  foreign : ∀ text f, read text = .error (.unexpected f) → f.isForeign = true

namespace TableReader

/-- A problem of a text: keys that are repeated inside tables, and values that lie too deep, are not
    expected. -/
def ofProblem : Toml.Problem → TableFault
  | .malformed => .malformed
  | .keyRepeated => .unexpected .malformedTables
  | .tooDeep => .unexpected .tooDeep

/-- The reader of the tables that are described here. -/
def own : TableReader where
  read text := (Toml.read text).mapError ofProblem
  foreign text f h := by
    cases hread : Toml.read text with
    | ok table =>
      rw [hread] at h
      cases h
    | error problem =>
      rw [hread] at h
      cases problem <;> cases h <;> rfl

end TableReader

/-- What documents are read with. -/
structure Readers where
  codecs : Codecs
  tables : TableReader

/-- The readers that are described here. -/
def Readers.own : Readers := ⟨.listed, .own⟩

end MediaGraph
