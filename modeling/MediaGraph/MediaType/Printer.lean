import MediaGraph.MediaType.Basic

namespace MediaGraph.MediaType

/-!
# The written form of a media type

`type/subtype; name=value; …`.  A value that is not a plain run of token characters stands
between double quotes, its quotes and backslashes escaped by a backslash.
-/

/-- ASCII letters and digits: a token starts with one of them. -/
def isTokenStart (c : Char) : Bool := c.isAlphanum

/-- The characters of a token. -/
def isTokenChar (c : Char) : Bool := c.isAlphanum || "!#$&^_.+-".toList.contains c

/-- Whether the characters form a token. -/
def isToken : List Char → Bool
  | [] => false
  | c :: cs => isTokenStart c && cs.all isTokenChar

/-- A character of a quoted value. -/
def escapeChar (c : Char) : List Char := if c = '"' ∨ c = '\\' then ['\\', c] else [c]

/-- A parameter value as it is written. -/
def writeValue (value : List Char) : List Char :=
  if !value.isEmpty && value.all isTokenChar then value
  else '"' :: value.flatMap escapeChar ++ ['"']

/-- A parameter as it is written, with the separator in front of it. -/
def writeParameter (p : String × String) : List Char :=
  [';', ' '] ++ p.1.toList ++ '=' :: writeValue p.2.toList

/-- The written form of a media type, as characters. -/
def write (t : MediaType) : List Char :=
  t.type.toList ++ '/' :: t.subtype.toList ++ t.parameters.flatMap writeParameter

/-- The written form of a media type. -/
def render (t : MediaType) : String := String.ofList t.write

instance : ToString MediaType := ⟨render⟩

/-- The written forms of some types, in the order of their texts. -/
def renderSorted (ts : List MediaType) : List String := sortTexts (ts.map render)

end MediaGraph.MediaType
