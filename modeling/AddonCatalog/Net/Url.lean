import AddonCatalog.Failure
import AddonCatalog.Json.Value
import AddonCatalog.Net.Host
/-!
# Splitting urls

A url is split into its scheme, network location and path, the way the standard url
splitter does it:

* leading control characters and spaces are dropped, and tabs and line breaks are
  removed everywhere;
* the scheme is what stands before the first `:` when it starts with a letter and has
  only letters, digits, `+`, `-` and `.`; it is lower-cased;
* the network location follows `//`, up to the first `/`, `?` or `#`;
* the fragment after `#` and the query after `?` are cut off, and so are parameters
  after a `;` in the last segment of the path.

A network location with an unmatched bracket is an invalid IPv6 url, and one with
both brackets must hold a valid bracketed host (`Net.checkBracketedNetloc`). After the
query and fragment are cut off, the network location may not hide a delimiter
(`Net.checkNormalized`). Only texts are split: a value of another kind fails, as it
cannot be decoded into a text.
-/

namespace AddonCatalog

/-- The parts of a url. -/
structure UrlParts where
  scheme : String
  netloc : String
  path : String
deriving BEq, Inhabited

namespace UrlParts

/-- Whether a character may appear in a scheme. -/
def isSchemeChar (c : Char) : Bool :=
  c.isAlphanum || c == '+' || c == '-' || c == '.'

/-- The position of the first character satisfying `p`, or the length. -/
def firstWhere (p : Char → Bool) (cs : List Char) : Nat :=
  (cs.findIdx? p).getD cs.length

/-- Cuts a list of characters at the first `sep`: what stands before, and after. -/
def cutAt (sep : Char) (cs : List Char) : List Char × List Char :=
  let i := firstWhere (· == sep) cs
  (cs.take i, cs.drop (i + 1))

/-- The path without the parameters of its last segment. -/
def withoutParams (cs : List Char) : List Char :=
  if cs.contains '/' then
    let lastSlash := cs.length - 1 - firstWhere (· == '/') cs.reverse
    match ((cs.drop lastSlash).findIdx? (· == ';')) with
    | some j => cs.take (lastSlash + j)
    | none => cs
  else (cs.take (firstWhere (· == ';') cs))

/-- Splits a url. -/
def parse (url : String) : Except Failure UrlParts := do
  let cs := (url.toList.dropWhile (·.toNat ≤ 32)).filter fun c => c != '\t' && c != '\r' && c != '\n'
  let colon := firstWhere (· == ':') cs
  let (scheme, rest) :=
    match cs.head? with
    | some c0 =>
      if colon < cs.length && 0 < colon && c0.toNat < 128 && c0.isAlpha &&
          (cs.take colon).all isSchemeChar
      then (String.ofList ((cs.take colon).map Char.toLower), cs.drop (colon + 1))
      else ("", cs)
    | none => ("", cs)
  let (netloc, rest) :=
    if rest.take 2 == ['/', '/'] then
      let after := rest.drop 2
      let d := firstWhere (fun c => c == '/' || c == '?' || c == '#') after
      (after.take d, after.drop d)
    else ([], rest)
  if (netloc.contains '[' && !netloc.contains ']') || (netloc.contains ']' && !netloc.contains '[') then
    throw Net.invalidIpv6Url
  if netloc.contains '[' && netloc.contains ']' then Net.checkBracketedNetloc netloc
  let rest := (cutAt '#' rest).1
  let rest := (cutAt '?' rest).1
  Net.checkNormalized (String.ofList netloc)
  let path := if scheme == "" || scheme == "http" || scheme == "https" then withoutParams rest else rest
  pure ⟨scheme, String.ofList netloc, String.ofList path⟩

/-- Splits a url given as a value; a value that is not a text fails. -/
def ofJson (url : Json) : Except Failure UrlParts :=
  match url with
  | .str s => parse s
  | v => .error ⟨.missingAttribute, "'" ++ v.typeName ++ "' object has no attribute 'decode'"⟩

/-- The last part of a path, empty and `.` parts dropped; empty when there is none. -/
def lastName (path : String) : String :=
  ((path.splitOn "/").filter fun p => p != "" && p != ".").getLast?.getD ""

end UrlParts

end AddonCatalog
