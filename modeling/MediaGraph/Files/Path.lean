import MediaGraph.Text.Blank

namespace MediaGraph

/-!
# Paths

A path is a root and the parts below it.  Empty parts and parts that are a single dot are dropped
on reading; a part of two dots is kept, because only the files tell where it leads.

* `Path.ofText` — the path that a text writes.
* `Path.text` — the text of a path.
-/

/-- Where a path begins. -/
inductive PathRoot where
  /-- In the working directory. -/
  | here
  | top
  /-- At the top, written with two slashes. -/
  | doubled
  deriving Repr, DecidableEq

/-- The text of a root. -/
def PathRoot.text : PathRoot → String
  | .here => ""
  | .top => "/"
  | .doubled => "//"

/-- The root of a text: one slash, or exactly two. -/
def PathRoot.ofChars : List Char → PathRoot
  | '/' :: '/' :: '/' :: _ => .top
  | '/' :: '/' :: _ => .doubled
  | '/' :: _ => .top
  | _ => .here

/-- A path. -/
structure Path where
  root : PathRoot
  parts : List String
  deriving Repr, DecidableEq

namespace Path

/-- The path that a text writes. -/
def ofText (s : String) : Path :=
  ⟨.ofChars s.toList, (Text.splitAt '/' s).filter fun part => part ≠ "" && part ≠ "."⟩

/-- The text of a path; the working directory is a dot. -/
def text (p : Path) : String :=
  if p.root = .here && p.parts.isEmpty then "."
  else p.root.text ++ Text.joinWith "/" p.parts

instance : ToString Path := ⟨text⟩

/-- Whether a path does not depend on the working directory. -/
def isAbsolute (p : Path) : Bool := p.root ≠ .here

/-- A path that is looked up in a directory; an absolute one stays what it is. -/
def below (p directory : Path) : Path :=
  if p.isAbsolute then p else ⟨directory.root, directory.parts ++ p.parts⟩

/-- The paths in a text that are separated by colons; blank ones are dropped. -/
def listOfText (s : String) : List Path :=
  ((Text.splitAt ':' s).filter fun piece => !Text.isAllBlank piece).map ofText

end Path

end MediaGraph
