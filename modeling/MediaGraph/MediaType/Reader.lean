import MediaGraph.MediaType.Printer
import MediaGraph.Text.Quoted

namespace MediaGraph.MediaType

/-!
# Reading a media type

A text is cut at its semicolons.  The first piece is `token / token`; every other piece is blank
or `token = value`, where a value is a run without blanks and quotes or a quoted text.  Blanks
are allowed around every token and value.

* `read` — the media type of a text, or what is wrong with the text.
* `read?` — the same, without the reason.
-/

/-- What is wrong with a text that is no media type; the texts are in quoted form. -/
inductive Problem where
  /-- The part before the first semicolon is no pair of tokens. -/
  | name (shown : String)
  /-- A later part is no parameter. -/
  | parameter (shown part : String)
  deriving Repr, DecidableEq

/-- The message of a problem. -/
def Problem.message : Problem → String
  | .name shown => s!"Invalid media type name: {shown}"
  | .parameter shown part => s!"Invalid media type parameter in {shown}: {part}"

/-- The text after an opening quote, up to a closing quote that ends it: a backslash stands
    before any character but a line end, and a quote only behind a backslash. -/
def readQuoted? : List Char → Option (List Char)
  | [] => none
  | ['"'] => some []
  | '\\' :: c :: rest => if c = '\n' then none else (readQuoted? rest).map (c :: ·)
  | c :: rest => if c = '"' ∨ c = '\\' then none else (readQuoted? rest).map (c :: ·)

/-- The value that some characters write. -/
def readValue? : List Char → Option (List Char)
  | [] => none
  | '"' :: rest => readQuoted? rest
  | cs => if cs.all fun c => !Text.isBlank c && c ≠ ';' && c ≠ '"' then some cs else none

/-- The token that some characters write, blanks around it aside. -/
def readToken? (cs : List Char) : Option String :=
  let token := Text.trimChars cs
  if isToken token then some (String.ofList token) else none

/-- The two names of the first piece. -/
def readNames? (piece : List Char) : Option (String × String) := do
  let (left, right) ← Text.cutFirst? '/' piece
  return (← readToken? left, ← readToken? right)

/-- The name and the value of a later piece. -/
def readParameter? (piece : List Char) : Option (String × String) := do
  let (left, right) ← Text.cutFirst? '=' piece
  let name ← readToken? left
  let value ← readValue? (Text.trimChars right)
  return (name, String.ofList value)

/-- The parameters of the later pieces; blank pieces are passed over. -/
def readParameters (shown : String) : List (List Char) → Except Problem (List (String × String))
  | [] => .ok []
  | piece :: rest =>
    if piece.all Text.isBlank then readParameters shown rest
    else
      match readParameter? piece with
      | none =>
        .error (.parameter shown (Text.quoted (String.ofList (Text.trimChars piece))))
      | some p => (readParameters shown rest).map (p :: ·)

/-- The media type that a text writes. -/
def read (text : String) : Except Problem MediaType :=
  let shown := Text.quoted text
  match Text.splitChars ';' text.toList with
  | [] => .error (.name shown)
  | head :: pieces =>
    match readNames? head with
    | none => .error (.name shown)
    | some (type, subtype) =>
      (readParameters shown pieces).map fun parameters => of type subtype parameters

/-- The media type that a text writes, when it writes one. -/
def read? (text : String) : Option MediaType := (read text).toOption

/-- The media type named by an optional text. -/
def readOptional? (text : Option String) : Option MediaType := text.bind read?

/-- The set of the types that some texts write. -/
def readSet (texts : List String) : Except Problem TypeSet :=
  (texts.mapM read).map TypeSet.ofList

end MediaGraph.MediaType
