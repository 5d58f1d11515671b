import MediaGraph.Failure.Basic
import MediaGraph.Text.CaseMapping
import MediaGraph.Xml.Token

namespace MediaGraph.Url

/-!
# The authority of a URL

A URL begins with a scheme; behind two slashes it names an authority, the server that is
responsible for the rest.  An authority may hold a numeric address in brackets, and no character
that is a separator in disguise.

* `split` — the scheme and the authority of a URL.
* `checkAuthority` — why an authority is refused, if it is.
-/

/-! ### Numeric addresses -/

/-- Whether characters write a number up to 255, without zeros in front. -/
def isOctet (cs : List Char) : Bool :=
  (cs.head? ≠ some '0' || cs.length = 1) && (Xml.number? 10 cs).any (· ≤ 255)

/-- Whether characters write four octets. -/
def isFourOctets (cs : List Char) : Bool :=
  let parts := Text.splitChars '.' cs
  parts.length = 4 && parts.all isOctet

/-- Whether characters write a number of up to four hexadecimal digits. -/
def isGroup (cs : List Char) : Bool :=
  !cs.isEmpty && cs.length ≤ 4 && cs.all fun c => (Xml.digit? c).isSome

/-- The parts of an address between its colons; four octets at the end stand for two groups.
    Nothing where there are too few or too many parts. -/
def groupParts? (cs : List Char) : Option (List (List Char)) :=
  let parts := Text.splitChars ':' cs
  let last := parts.getLastD []
  let parts? :=
    if last.contains '.' then
      if isFourOctets last then some (parts.dropLast ++ [['0'], ['0']]) else none
    else some parts
  if parts.length < 3 then none else parts?.filter fun ps => ps.length ≤ 9

/-- The parts in front of a gap or behind it: one that is empty belongs to the gap. -/
def besideGap (parts : List (List Char)) : List (List Char) :=
  if parts == [[]] then [] else parts

/-- Whether characters write eight groups; two colons in a row stand for as many groups of zeros as
    are missing, at least one. -/
def isEightGroups (cs : List Char) : Bool :=
  match groupParts? cs with
  | none => false
  | some parts =>
    let inner := (parts.drop 1).dropLast
    match (inner.filter List.isEmpty).length with
    | 0 => parts.length = 8 && parts.all isGroup
    | 1 =>
      let front := besideGap (parts.take 1 ++ inner.takeWhile fun p => !p.isEmpty)
      let back := besideGap ((inner.dropWhile fun p => !p.isEmpty).drop 1 ++
        parts.getLast?.toList)
      (front ++ back).length ≤ 7 && (front ++ back).all isGroup
    | _ => false

/-- Whether characters write eight groups, with a zone behind a percent sign or without one. -/
def isLongAddress (cs : List Char) : Bool :=
  match Text.cutFirst? '%' cs with
  | none => isEightGroups cs
  | some (address, zone) => !zone.isEmpty && !zone.contains '%' && isEightGroups address

/-- Whether characters write an address of a version to come: a number behind a letter, a dot and
    something else. -/
def isFutureAddress (cs : List Char) : Bool :=
  match Text.cutFirst? '.' (cs.drop 1) with
  | some (version, rest) =>
    !version.isEmpty && !rest.isEmpty && version.all fun c => (Xml.digit? c).isSome
  | none => false

/-- Why an address in brackets is refused, if it is. -/
def checkBracketed (address : List Char) : Except ValueFault Unit :=
  if address.head? = some 'v' then
    if isFutureAddress address then .ok () else .error .futureAddressInvalid
  else if isFourOctets address then .error .shortAddressBracketed
  else if isLongAddress address then .ok ()
  else .error (.addressInvalid (String.ofList address))

/-! ### Authorities -/

/-- Characters that stand for a separator, alone or among others. -/
def disguises : List Char :=
  ['⁇', '⁈', '⁉', '℀', '℁', '℅', '℆', '⩴', '︓', '︖', '﹕', '﹖', '﹟', '﹫', '＃', '／', '：', '？', '＠']

/-- What stands between the first opening bracket and the closing one behind it. -/
def bracketed (authority : List Char) : List Char :=
  ((authority.dropWhile fun c => c ≠ '[').drop 1).takeWhile fun c => c ≠ ']'

/-- Why an authority is refused, if it is. -/
def checkAuthority (authority : List Char) : Except ValueFault Unit := do
  if authority.contains '[' != authority.contains ']' then throw .bracketsUnmatched
  if authority.contains '[' then checkBracketed (bracketed authority)
  if authority.any disguises.contains then
    throw (.authorityDisguised (String.ofList authority))

/-! ### Splitting -/

/-- Whether a character may stand in a scheme. -/
def isSchemeChar (c : Char) : Bool := c.isAlphanum || c = '+' || c = '-' || c = '.'

/-- The scheme in lower case, where a text begins with one, and what follows it. -/
def splitScheme (cs : List Char) : String × List Char :=
  match Text.cutFirst? ':' cs with
  | some (scheme, rest) =>
    if (scheme.head?.any Char.isAlpha) && scheme.all isSchemeChar then
      (Text.lower (String.ofList scheme), rest)
    else ("", cs)
  | none => ("", cs)

/-- Whether a character ends an authority. -/
def endsAuthority (c : Char) : Bool := c = '/' || c = '?' || c = '#'

/-- The scheme and the authority of a URL.  Line ends and tabs do not count, nor controls and
    blanks in front. -/
def split (url : String) : Except ValueFault (String × String) := do
  let cs := (url.toList.dropWhile fun c => c.toNat ≤ 0x20).filter fun c =>
    c ≠ '\t' && c ≠ '\n' && c ≠ '\r'
  let (scheme, rest) := splitScheme cs
  match rest with
  | '/' :: '/' :: rest =>
    let authority := rest.takeWhile fun c => !endsAuthority c
    checkAuthority authority
    return (scheme, String.ofList authority)
  | _ => return (scheme, "")

end MediaGraph.Url
