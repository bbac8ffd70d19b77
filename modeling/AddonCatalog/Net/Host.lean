import AddonCatalog.Failure
import AddonCatalog.Text.Quoted
/-!
# Hosts of urls

The network location of a url may name its host by an address in brackets, and it may
not hide a delimiter of urls in a character that compatibility normalisation would
turn into one.

* An IPv4 address is four decimal octets of at most three ASCII digits, without
  leading zeros, each at most 255 (`isIpv4`).
* An IPv6 address is eight groups of one to four hex digits separated by `:`, where
  one run of groups may be left out as `::`, the last two groups may be written as an
  IPv4 address, and a zone `%name` may follow (`isIpv6`).
* A future address is `v`, hex digits, `.` and at least one more character.
* A bracketed host must be a future address or an IPv6 address; an IPv4 address is
  refused in brackets (`checkBracketedHost`). Nothing may stand before the bracket,
  and only a port after `:` may follow it (`checkBracketedNetloc`).
* The characters listed in `hidesDelimiter` become `/`, `?`, `#`, `@` or `:` under
  compatibility normalisation (`＃`, `℀`, `﹖`, …); a network location holding one is
  refused (`checkNormalized`).
-/

namespace AddonCatalog.Net

/-- Whether a character is an ASCII decimal digit. -/
def isAsciiDigit (c : Char) : Bool := '0' ≤ c && c ≤ '9'

/-- Whether a character is an ASCII hex digit. -/
def isHexDigit (c : Char) : Bool :=
  isAsciiDigit c || ('a' ≤ c && c ≤ 'f') || ('A' ≤ c && c ≤ 'F')

/-- Whether a text is an octet of an IPv4 address. -/
def isOctet (p : List Char) : Bool :=
  !p.isEmpty && p.all isAsciiDigit && p.length ≤ 3 && (p == ['0'] || p.head? != some '0') &&
    p.foldl (fun n c => 10 * n + (c.toNat - 48)) 0 ≤ 255

/-- Whether a text is an IPv4 address. -/
def isIpv4 (s : List Char) : Bool :=
  let parts := s.splitOn '.'
  !s.contains '/' && parts.length == 4 && parts.all isOctet

/-- Whether a text is a group of an IPv6 address. -/
def isHextet (p : List Char) : Bool := !p.isEmpty && p.length ≤ 4 && p.all isHexDigit

/-- The positions of the empty groups between the first and the last. -/
def innerGaps (parts : List (List Char)) : List Nat :=
  ((List.range parts.length).filter fun i =>
    0 < i && i + 1 < parts.length && (parts.getD i []).isEmpty)

/-- Whether the groups of an IPv6 address, an IPv4 tail already replaced by two
groups, form an address. -/
def isIpv6Groups (parts : List (List Char)) : Bool :=
  if parts.length > 9 then false
  else match innerGaps parts with
    | [] =>
      parts.length == 8 && parts.all isHextet
    | [i] =>
      let firstEmpty := (parts.headD []).isEmpty
      let lastEmpty := (parts.getLastD []).isEmpty
      let hi := if firstEmpty then i - 1 else i
      let lo := if lastEmpty then parts.length - i - 2 else parts.length - i - 1
      (!firstEmpty || i == 1) && (!lastEmpty || i + 2 == parts.length) && hi + lo < 8 &&
        (parts.take hi).all isHextet && (parts.drop (parts.length - lo)).all isHextet
    | _ => false

/-- Whether a text is an IPv6 address without a zone. -/
def isIpv6Address (s : List Char) : Bool :=
  let parts := s.splitOn ':'
  if s.isEmpty || parts.length < 3 then false
  else
    let last := parts.getLastD []
    if last.contains '.' then isIpv4 last && isIpv6Groups (parts.dropLast ++ [['0'], ['0']])
    else isIpv6Groups parts

/-- Whether a text is an IPv6 address, with an optional zone after `%`. -/
def isIpv6 (s : List Char) : Bool :=
  !s.contains '/' &&
    match s.splitOn '%' with
    | [a] => isIpv6Address a
    | [a, zone] => !zone.isEmpty && isIpv6Address a
    | _ => false

/-- Whether a text is a future address: `v`, hex digits, `.` and more. -/
def isFutureAddress (s : List Char) : Bool :=
  match s with
  | 'v' :: rest =>
    let hex := rest.takeWhile isHexDigit
    match rest.drop hex.length with
    | '.' :: more => !hex.isEmpty && !more.isEmpty
    | _ => false
  | _ => false

/-- The error of a url whose brackets are misplaced. -/
def invalidIpv6Url : Failure := ⟨.invalidValue, "Invalid IPv6 URL"⟩

/-- Checks the host inside brackets. -/
def checkBracketedHost (host : List Char) : Except Failure Unit :=
  if host.head? == some 'v' then
    if isFutureAddress host then .ok () else .error ⟨.invalidValue, "IPvFuture address is invalid"⟩
  else if isIpv4 host then .error ⟨.invalidValue, "An IPv4 address cannot be in brackets"⟩
  else if isIpv6 host then .ok ()
  else .error ⟨.invalidValue, Text.quote (String.ofList host) ++
    " does not appear to be an IPv4 or IPv6 address"⟩

/-- The part of a list after the last `sep`, or all of it. -/
def afterLast (sep : Char) (cs : List Char) : List Char :=
  (cs.reverse.takeWhile (· != sep)).reverse

/-- Checks a network location that holds both brackets. -/
def checkBracketedNetloc (netloc : List Char) : Except Failure Unit :=
  let hostPort := afterLast '@' netloc
  match hostPort.splitOn '[' with
  | before :: _ :: _ =>
    if !before.isEmpty then .error invalidIpv6Url
    else
      let bracketed := hostPort.drop (before.length + 1)
      let host := bracketed.takeWhile (· != ']')
      let port := bracketed.drop (host.length + 1)
      if !port.isEmpty && port.head? != some ':' then .error invalidIpv6Url
      else checkBracketedHost host
  | _ => checkBracketedHost (hostPort.takeWhile (· != ':'))

/-- The characters that compatibility normalisation turns into text holding `/`, `?`,
`#`, `@` or `:`. -/
def hidesDelimiter : List Char :=
  ['\u2047', '\u2048', '\u2049', '\u2100', '\u2101', '\u2105', '\u2106', '\u2A74',
    '\uFE13', '\uFE16', '\uFE55', '\uFE56', '\uFE5F', '\uFE6B', '\uFF03', '\uFF0F',
    '\uFF1A', '\uFF1F', '\uFF20']

/-- Checks that a network location hides no delimiter. -/
def checkNormalized (netloc : String) : Except Failure Unit :=
  if netloc.toList.any hidesDelimiter.contains then
    .error ⟨.invalidValue, "netloc '" ++ netloc ++ "' contains invalid characters under NFKC normalization"⟩
  else .ok ()

end AddonCatalog.Net
