import Harvest.Url.Address
import Harvest.Url.Domain
import Harvest.Url.Percent
import Harvest.Text.Split
import Harvest.Text.Casing

/-!
# Reading web addresses

`Url.parse` reads an absolute address and `Url.join` one that may be relative to another. The text is
taken without white space and control characters at its ends and without tabs and line ends anywhere.
After the scheme, schemes that require a host (`http`, `ftp`, …) read any number of slashes or
backslashes, then the host; `file` may have a host and knows drive letters; all other schemes have a
host only after two slashes.
-/

namespace Harvest.Url

/-- Control characters and spaces, which do not count at the ends. -/
def isEdge (c : Char) : Bool :=
  c.toNat ≤ 0x20

/-- Tabs and line ends, which do not count anywhere. -/
def isBreak (c : Char) : Bool :=
  c == '\t' || c == '\n' || c == '\r'

/-- The characters that count. -/
def significant (s : String) : List Char :=
  (Text.trimWhere isEdge s.toList).filter fun c => !isBreak c

/-- A slash, or a backslash. -/
def isSlash (c : Char) : Bool :=
  c == '/' || c == '\\'

/-- An ASCII letter. -/
def isLetter (c : Char) : Bool :=
  ('a' ≤ c && c ≤ 'z') || ('A' ≤ c && c ≤ 'Z')

/-- Characters of a scheme after its first letter. -/
def isSchemeChar (c : Char) : Bool :=
  isLetter c || Number.isDigit c || c == '+' || c == '-' || c == '.'

/-- The scheme in lower case and the text after its colon. -/
def takeScheme? (cs : List Char) : Option (String × List Char) :=
  match cs with
  | [] => none
  | c :: _ =>
    if isLetter c then
      match cs.dropWhile isSchemeChar with
      | ':' :: rest =>
        some (String.ofList ((cs.takeWhile isSchemeChar).map Text.Casing.asciiLower), rest)
      | _ => none
    else none

/-! ## Query and fragment -/

/-- The text of a part, with a set of characters encoded. -/
def encoded (set : Char → Bool) (cs : List Char) : String :=
  String.ofList (Percent.encode set cs)

/-- Reads `?query` and `#fragment`. -/
def takeTail (kind : SchemeKind) (cs : List Char) : Option String × Option String :=
  let querySet := if kind.isSpecial then Percent.inSpecialQuery else Percent.inQuery
  let fragmentOf (f : Option (List Char)) := f.map (encoded Percent.inFragment)
  match cs with
  | '?' :: rest =>
    let (query, fragment) := Text.cutAt (· == '#') rest
    (some (encoded querySet query), fragmentOf fragment)
  | '#' :: rest => (none, fragmentOf (some rest))
  | _ => (none, none)

/-- Gives an address the query and the fragment that a text holds. -/
def withTail (u : Url) (cs : List Char) : Url :=
  let (query, fragment) := takeTail u.kind cs
  { u with query, fragment }

/-! ## Paths -/

/-- Whether a character ends the path. -/
def endsPath (c : Char) : Bool :=
  c == '?' || c == '#'

/-- A letter and a colon or bar. -/
def isDrive (segment : List Char) : Bool :=
  match segment with
  | [a, b] => isLetter a && (b == ':' || b == '|')
  | _ => false

/-- A letter and a colon. -/
def isPlainDrive (segment : List Char) : Bool :=
  match segment with
  | [a, ':'] => isLetter a
  | _ => false

/-- Whether a text begins with a segment that is a drive. -/
def startsWithDrive (cs : List Char) : Bool :=
  match cs with
  | a :: b :: rest =>
    isDrive [a, b] && (match rest with
      | [] => true
      | c :: _ => isSlash c || endsPath c)
  | _ => false

/-- The names that stand for the segment itself. -/
def isSingleDot (segment : List Char) : Bool :=
  let s := segment.map Text.Casing.asciiLower
  s == ['.'] || s == ['%', '2', 'e']

/-- The names that stand for the segment above. -/
def isDoubleDot (segment : List Char) : Bool :=
  let s := segment.map Text.Casing.asciiLower
  s == ['.', '.'] || s == ['.', '%', '2', 'e'] || s == ['%', '2', 'e', '.']
    || s == ['%', '2', 'e', '%', '2', 'e']

/-- Drops the last segment, but not a drive. `above` holds the segments, the last one first. -/
def dropLast (above : List (List Char)) : List (List Char) :=
  match above with
  | [] => []
  | s :: rest => if isDrive s then s :: rest else rest

/-- Adds segments to a path, the last one first; the flag of the last of them says that no slash
follows it. -/
def addSegments (kind : SchemeKind) :
    List (List Char) → List (List Char) → List (List Char)
  | above, [] => above
  | above, s :: more =>
    let final := more.isEmpty
    let encodedSegment := Percent.encode Percent.inPath s
    let above :=
      if isDoubleDot encodedSegment then
        if final then [] :: dropLast above else dropLast above
      else if isSingleDot encodedSegment then
        if final then [] :: above else above
      else
        match encodedSegment with
        | [a, '|'] =>
          if kind = .file && above.isEmpty && isLetter a then [a, ':'] :: above
          else encodedSegment :: above
        | _ => encodedSegment :: above
    addSegments kind above more

/-- Whether a character separates segments. -/
def separates (kind : SchemeKind) (c : Char) : Bool :=
  c == '/' || (kind.isSpecial && c == '\\')

/-- Reads the rest of a path behind the slash that precedes it, on top of the segments `above`, the
last one first. Gives the whole path and the text after it. -/
def takePath (kind : SchemeKind) (above : List (List Char)) (cs : List Char) :
    List (List Char) × List Char :=
  let text := cs.takeWhile fun c => !endsPath c
  let rest := cs.dropWhile fun c => !endsPath c
  let segments := (addSegments kind above (Text.splitWhere (separates kind) text)).reverse
  if kind = .file then
    let trimmed := segments.dropWhile List.isEmpty
    (if trimmed.isEmpty then [[]] else trimmed, rest)
  else (segments, rest)

/-- A path of the given segments. -/
def segmentPath (segments : List (List Char)) : Path :=
  .segments (segments.map String.ofList)

/-- Passes the slash that begins a path. -/
def passSlash (kind : SchemeKind) (cs : List Char) : List Char :=
  match cs with
  | c :: rest => if separates kind c then rest else cs
  | [] => []

/-- Reads the path after a host. -/
def takePathAfterHost (kind : SchemeKind) (cs : List Char) : List (List Char) × List Char :=
  match cs with
  | [] => if kind.isSpecial then takePath kind [] [] else ([], [])
  | c :: _ =>
    if !kind.isSpecial && endsPath c then ([], cs)
    else takePath kind [] (passSlash kind cs)

/-- The segments of an address, the last one first. -/
def segmentsAbove (u : Url) : List (List Char) :=
  match u.path with
  | .segments names => (names.map String.toList).reverse
  | .opaquePath _ => []

/-! ## Hosts -/

/-- Reads a host of a scheme that knows host names. -/
def parseHost (cs : List Char) : Except Fault Host :=
  match cs with
  | '[' :: rest =>
    match rest.reverse with
    | ']' :: inner =>
      match parseIpv6? inner.reverse with
      | some pieces => .ok (.ipv6 pieces)
      | none => .error .invalidIpv6
    | _ => .error .invalidIpv6
  | _ =>
    match Domain.toAscii? (Percent.decode (Text.Utf8.encode cs)) with
    | none => .error .invalidDomainName
    | some [] => .error .emptyHost
    | some name =>
      if endsInNumber name then
        match parseIpv4? name with
        | some address => .ok (.ipv4 address)
        | none => .error .invalidIpv4
      else .ok (.domain (String.ofList name))

/-- Characters that no host of any scheme holds. -/
def isForbiddenInHost (c : Char) : Bool :=
  ['\x00', '\t', '\n', '\r', ' ', '#', '/', ':', '<', '>', '?', '@', '[', '\\', ']', '^', '|'].contains c

/-- Reads a host of a scheme that does not know host names. -/
def parseOpaqueHost (cs : List Char) : Except Fault Host :=
  match cs with
  | '[' :: _ => parseHost cs
  | _ =>
    if cs.any isForbiddenInHost then .error .invalidDomainCharacter
    else .ok (.domain (encoded Percent.isControl cs))

/-- The characters of the host and the text after them; a colon within brackets does not end it. -/
def splitHost (kind : SchemeKind) : Bool → List Char → List Char × List Char
  | _, [] => ([], [])
  | bracketed, c :: cs =>
    if (c == ':' && !bracketed) || separates kind c || endsPath c then ([], c :: cs)
    else
      let (host, rest) := splitHost kind (if c == '[' then true else if c == ']' then false else bracketed) cs
      (c :: host, rest)

/-- Reads a port after its colon; nothing if it is the default one or missing. -/
def takePort (scheme : String) (cs : List Char) : Except Fault (Option Nat × List Char) :=
  let ds := cs.takeWhile Number.isDigit
  let rest := cs.dropWhile Number.isDigit
  let port := Number.digitsValue ds
  if 65535 < port then .error .invalidPort
  else match rest with
    | c :: _ =>
      if isSlash c || endsPath c then .ok (known ds port, rest) else .error .invalidPort
    | [] => .ok (known ds port, [])
where
  /-- The port, unless none was written or it goes without saying. -/
  known (ds : List Char) (port : Nat) : Option Nat :=
    if ds.isEmpty || defaultPort? scheme == some port then none else some port

/-- Reads the user name and the password before the last `@` of an authority; `none` where no host
follows them. -/
def takeUserInfo (kind : SchemeKind) (cs : List Char) :
    Except Fault (String × String × List Char) :=
  let stops (c : Char) : Bool := separates kind c || endsPath c
  let authority := cs.takeWhile fun c => !stops c
  let rest := cs.dropWhile fun c => !stops c
  match Text.cutAt (· == '@') authority.reverse with
  | (_, none) => .ok ("", "", cs)
  | (hostReversed, some infoReversed) =>
    let afterAt := hostReversed.reverse ++ rest
    let info := infoReversed.reverse
    if info.isEmpty then
      if hostReversed.isEmpty && !rest.isEmpty then .error .emptyHost else .ok ("", "", afterAt)
    else
      let (name, password) := Text.cutAt (· == ':') info
      .ok (encoded Percent.inUserInfo name, encoded Percent.inUserInfo (password.getD []), afterAt)

/-- Reads the host and the port. -/
def takeHostAndPort (kind : SchemeKind) (scheme : String) (cs : List Char) :
    Except Fault (Host × Option Nat × List Char) := do
  let (text, rest) := splitHost kind false cs
  if kind.isSpecial && text.isEmpty then throw .emptyHost
  let host ← if kind.isSpecial then parseHost text else parseOpaqueHost text
  match rest with
  | ':' :: more =>
    if host = .domain "" then throw .emptyHost
    let (port, rest) ← takePort scheme more
    pure (host, port, rest)
  | _ => pure (host, none, rest)

/-- Reads what follows the two slashes. -/
def parseAuthority (scheme : String) (cs : List Char) : Except Fault Url := do
  let kind := SchemeKind.of scheme
  let (username, password, cs) ← takeUserInfo kind cs
  let (host, port, cs) ← takeHostAndPort kind scheme cs
  if host = .domain "" && !(username.isEmpty && password.isEmpty) then throw .emptyHost
  let (path, rest) := takePathAfterHost kind cs
  pure (withTail
    { scheme, username, password, host := some host, port, path := segmentPath path,
      query := none, fragment := none } rest)

/-! ## Schemes -/

/-- An address of scheme `file` on the given host. -/
def fileUrl (host : Host) (path : List (List Char)) (rest : List Char) : Url :=
  withTail
    { scheme := "file", username := "", password := "", host := some host, port := none,
      path := segmentPath path, query := none, fragment := none } rest

/-- The host of this machine. -/
def localHost : Host := .domain ""

/-- Reads the host of a file after the two slashes. A drive stands in the path, never in the host,
and a drive at the start of the path makes the file one of this machine. -/
def parseFileHost (cs : List Char) : Except Fault Url := do
  let stops (c : Char) : Bool := isSlash c || endsPath c
  let text := cs.takeWhile fun c => !stops c
  let rest := cs.dropWhile fun c => !stops c
  if isDrive text || text.isEmpty then
    let (path, rest) := takePath .file [] (if isDrive text then cs else passSlash .file rest)
    pure (fileUrl localHost path rest)
  else
    let host ← parseHost text
    let (path, rest) := takePathAfterHost .file rest
    let host := if host = .domain "localhost" then localHost else host
    pure (fileUrl (if path.head?.any isPlainDrive then localHost else host) path rest)

/-- An address with another path and the tail that a text holds. -/
def withPath (u : Url) (path : List (List Char)) (rest : List Char) : Url :=
  withTail { u with path := segmentPath path } rest

/-- Keeps everything but the fragment, which a text after its mark replaces. -/
def withFragment (u : Url) (fragment : List Char) : Url :=
  { u with fragment := some (encoded Percent.inFragment fragment) }

/-- Reads a file address after its scheme, against a base of the same scheme if there is one. -/
def parseFile (base : Option Url) (cs : List Char) : Except Fault Url :=
  match cs with
  | [] =>
    match base with
    | some b => .ok { b with fragment := none }
    | none => .ok (fileUrl localHost [[]] [])
  | c :: afterFirst =>
    if isSlash c then
      match afterFirst with
      | d :: afterSecond =>
        if isSlash d then parseFileHost afterSecond else .ok (rooted base cs afterFirst)
      | [] => .ok (rooted base cs afterFirst)
    else
      match base with
      | none =>
        let (path, rest) := takePath .file [] cs
        .ok (fileUrl localHost path rest)
      | some b =>
        if c = '?' then .ok (withTail b cs)
        else if c = '#' then .ok (withFragment b afterFirst)
        else if startsWithDrive cs then
          let (path, rest) := takePath .file [] cs
          .ok (fileUrl localHost path rest)
        else
          let above := match segmentsAbove b with
            | s :: more => if isPlainDrive s then s :: more else more
            | [] => []
          let (path, rest) := takePath .file above cs
          .ok (withPath b path rest)
where
  /-- A path from the root, on the host or the drive of the base. -/
  rooted (base : Option Url) (cs afterFirst : List Char) : Url :=
    let inherited : Host × List (List Char) :=
      match base with
      | some b =>
        if startsWithDrive afterFirst then (localHost, [])
        else match (segmentsAbove b).getLast? with
          | some s => if isPlainDrive s then (localHost, [s]) else (b.host.getD localHost, [])
          | none => (b.host.getD localHost, [])
      | none => (localHost, [])
    let (path, rest) := takePath .file inherited.2 (passSlash .file cs)
    fileUrl inherited.1 path rest

/-- Reads an address without scheme against a base that has a hierarchy. -/
def parseRelative (base : Url) (cs : List Char) : Except Fault Url :=
  let kind := base.kind
  match cs with
  | [] => .ok { base with fragment := none }
  | '?' :: _ => .ok (withTail base cs)
  | '#' :: rest => .ok (withFragment base rest)
  | c :: rest =>
    if isSlash c then
      match rest with
      | d :: more =>
        if isSlash d then
          parseAuthority base.scheme
            (if c = '/' && d = '/' then more else (c :: rest).dropWhile isSlash)
        else
          let (path, tail) := takePath kind [] rest
          .ok (withPath base path tail)
      | [] =>
        let (path, tail) := takePath kind [] rest
        .ok (withPath base path tail)
    else
      let above := (segmentsAbove base).tail
      let (path, tail) := takePath kind above cs
      .ok (withPath base path tail)

/-- Reads an address after a scheme that does not require a host. -/
def parseOther (scheme : String) (cs : List Char) : Except Fault Url :=
  let hostless (path : Path) (rest : List Char) : Url :=
    withTail
      { scheme, username := "", password := "", host := none, port := none, path,
        query := none, fragment := none } rest
  match cs with
  | '/' :: '/' :: rest => parseAuthority scheme rest
  | '/' :: rest =>
    let (path, tail) := takePath .other [] rest
    .ok (hostless (segmentPath path) tail)
  | _ =>
    let text := cs.takeWhile fun c => !endsPath c
    .ok (hostless (.opaquePath (encoded Percent.isControl text)) (cs.dropWhile fun c => !endsPath c))

/-- Reads an address after its scheme. -/
def parseWithScheme (base : Option Url) (scheme : String) (cs : List Char) : Except Fault Url :=
  match SchemeKind.of scheme with
  | .file => parseFile (base.filter fun b => b.scheme == "file") cs
  | .special =>
    let slashes := (cs.takeWhile isSlash).length
    match base with
    | some b =>
      if slashes < 2 && b.scheme == scheme then parseRelative b cs
      else parseAuthority scheme (cs.dropWhile isSlash)
    | none => parseAuthority scheme (cs.dropWhile isSlash)
  | .other => parseOther scheme cs

/-- Reads an address, against a base if there is one. -/
def parseAgainst (base : Option Url) (s : String) : Except Fault Url :=
  let cs := significant s
  match takeScheme? cs with
  | some (scheme, rest) => parseWithScheme base scheme rest
  | none =>
    match base with
    | none => .error .relativeWithoutBase
    | some b =>
      match cs with
      | '#' :: rest => .ok (withFragment b rest)
      | _ =>
        if b.isOpaque then .error .relativeToOpaqueBase
        else if b.kind = .file then parseFile (some b) cs
        else parseRelative b cs

/-- Reads an absolute address. -/
def parse (s : String) : Except Fault Url :=
  parseAgainst none s

/-- Resolves a reference against an address. -/
def join (base : Url) (reference : String) : Except Fault Url :=
  parseAgainst (some base) reference

end Harvest.Url
