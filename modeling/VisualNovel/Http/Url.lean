import VisualNovel.Http.Host
import VisualNovel.Text.Blank
import VisualNovel.Text.Digit
import VisualNovel.Text.Pieces
import VisualNovel.Text.Utf8

/-!
# Addresses of requests

An address is taken apart into scheme, user, host, port, path, query and fragment, and each
part is brought into its normal form: the scheme in small letters, a host that can be
sent, no port that the scheme implies, no `.` and `..` in the path, and no characters
that have to be encoded.  Some texts are no addresses.

An address without a scheme or without a host is relative: it says only how to go on from
the address of a server.
-/

namespace VisualNovel

/-- The parts of an address, in their normal forms. -/
structure Url where
  scheme : String := ""
  user : String := ""
  /-- The host; eight groups of hexadecimal digits have no brackets here. -/
  host : String := ""
  port : Option Int := none
  path : String := ""
  query : Option String := none
  fragment : Option String := none
  deriving DecidableEq, Repr

namespace Url

/-! ## Taking an address apart -/

/-- The characters before the first one of a class, and the rest. -/
def upTo (stop : Char → Bool) (text : List Char) : List Char × List Char :=
  text.span fun c => !stop c

/-- May the character stand in a scheme? -/
def isSchemeChar (c : Char) : Bool :=
  c.isAlphanum || c = '+' || c = '.' || c = '-'

/-- The scheme before a colon at the start of a text, and the rest; the scheme may be
empty. -/
def splitScheme (text : List Char) : List Char × List Char :=
  match text.span isSchemeChar with
  | ([], ':' :: rest) => ([], rest)
  | (first :: scheme, ':' :: rest) =>
    if first.isAlpha then (first :: scheme, rest) else ([], text)
  | _ => ([], text)

/-- The authority at the start of a text, and the rest. -/
def splitAuthority : List Char → List Char × List Char
  | '/' :: '/' :: rest => upTo (fun c => c = '/' || c = '?' || c = '#') rest
  | text => ([], text)

/-- The text before the last place where a character stands, if it stands anywhere, and
the text after it. -/
def splitLast (separator : Char) (text : List Char) : List Char × List Char :=
  match upTo (· = separator) text.reverse with
  | (after, _ :: before) => (before.reverse, after.reverse)
  | (_, []) => ([], text)

/-- The host and the port of an authority without its user.  The host is given in
brackets, or else goes up to the first colon. -/
def splitHost (text : List Char) : List Char × List Char :=
  let (host, rest) :=
    if text.head? = some '[' ∧ text.contains ']' then
      let after := (text.reverse.takeWhile (· ≠ ']')).reverse
      (text.take (text.length - after.length), after)
    else upTo (· = ':') text
  match rest with
  | ':' :: port => (host, port)
  | port => (host, port)

/-! ## Normal forms of the parts -/

/-- May the character stand in a query as it is? -/
def isQueryChar (c : Char) : Bool :=
  0x21 ≤ c.toNat && c.toNat < 0x7f && !"\"#<>".toList.contains c

/-- May the character stand in a path as it is? -/
def isPathChar (c : Char) : Bool :=
  isQueryChar c && !"?`\x7b\x7d".toList.contains c

/-- May the character stand in the name of a user as it is? -/
def isUserChar (c : Char) : Bool :=
  isPathChar c && !"/;=@[\\]^|".toList.contains c

/-- May the character stand in a fragment as it is? -/
def isFragmentChar (c : Char) : Bool :=
  0x21 ≤ c.toNat && c.toNat < 0x7f && !"\"<>`".toList.contains c

/-- The normal form of a part, in which characters of a class stand as they are. -/
def encoded (kept : Char → Bool) (text : List Char) : String :=
  String.ofList (text.flatMap (Percent.encodeChar kept))

/-- The port that a scheme implies. -/
def impliedPort? (scheme : List Char) : Option Int :=
  match String.ofList scheme with
  | "ftp" => some 21
  | "http" | "ws" => some 80
  | "https" | "wss" => some 443
  | _ => none

/-- The digits of a number, single underscores between them being left out. -/
def groupedDigits? : List Char → Option (List Nat)
  | [] => none
  | [c] => (Text.digitValue? c).map ([·])
  | c :: '_' :: rest => do
    let digit ← Text.digitValue? c
    let digits ← groupedDigits? rest
    return digit :: digits
  | c :: rest => do
    let digit ← Text.digitValue? c
    let digits ← groupedDigits? rest
    return digit :: digits

/-- The number of a port has at most this many digits. -/
def digitLimit : Nat := 4300

/-- The number of a port, with digits of any script and a sign if there is one. -/
def portNumber? (text : List Char) : Option Int := do
  let (negative, unsigned) := match Text.trimmed Text.isBlank text with
    | '-' :: rest => (true, rest)
    | '+' :: rest => (false, rest)
    | rest => (false, rest)
  let digits ← groupedDigits? unsigned
  if digitLimit < digits.length then none
  let size : Int := (digits.foldl (fun value digit => 10 * value + digit) 0 : Nat)
  return if negative then -size else size

/-- The port of an address; an empty text is none, and the one that the scheme implies is
left out. -/
def port? (scheme text : List Char) : Option (Option Int) :=
  if text.isEmpty then some none
  else (portNumber? text).map fun number =>
    if impliedPort? scheme = some number then none else some number

/-- The names of a path without `.` and `..`. -/
def withoutDots (names : List String) : List String :=
  names.foldl step []
where
  /-- One more name. -/
  step (before : List String) (name : String) : List String :=
    if name = "." then before
    else if name = ".." then (if before = [] ∨ before = [""] then before else before.dropLast)
    else before ++ [name]

/-- The path without `.` and `..`. -/
def plainPath (path : String) : String :=
  "/".intercalate (withoutDots (Text.pieces '/' path))

/-! ## Reading -/

/-- Addresses have at most this many characters. -/
def lengthLimit : Nat := 65536

/-- Is the character one of the control characters of ASCII? -/
def isControl (c : Char) : Bool := c.toNat < 0x20 || c.toNat = 0x7f

/-- The address of a path from the given parts before it, if the path may follow them: an
authority is followed by a slash or nothing, and a path alone must not look like an
authority or a scheme. -/
def withPath? (url : Url) (path : List Char) : Option Url :=
  let hasAuthority := !url.user.isEmpty || !url.host.isEmpty || url.port.isSome
  let fits :=
    if hasAuthority then path.isEmpty || path.head? = some '/'
    else !url.scheme.isEmpty || !(path.take 2 = ['/', '/'] || path.head? = some ':')
  if !fits then none
  else
    let text := String.ofList path
    let plain := if hasAuthority || !url.scheme.isEmpty then plainPath text else text
    some { url with path := encoded isPathChar plain.toList }

/-- The address that a text is, if it is one. -/
def ofText? (text : String) : Option Url := do
  let all := text.toList
  if lengthLimit < all.length || all.any isControl then none
  let (scheme, afterScheme) := splitScheme all
  let (authority, afterAuthority) := splitAuthority afterScheme
  let (path, afterPath) := upTo (fun c => c = '?' || c = '#') afterAuthority
  let (query, afterQuery) := match afterPath with
    | '?' :: rest =>
      let (query, rest) := upTo (· = '#') rest
      (some query, rest)
    | rest => (none, rest)
  let fragment := match afterQuery with
    | '#' :: rest => some rest
    | _ => none
  let (user, location) := splitLast '@' authority
  let (host, port) := splitHost location
  let normalHost ← Http.Host.normal? host
  let port ← port? scheme port
  let url : Url :=
    { scheme := String.ofList (scheme.map Char.toLower)
      user := encoded isUserChar user
      host := String.ofList normalHost
      port
      query := query.map (encoded isQueryChar)
      fragment := fragment.map (encoded isFragmentChar) }
  url.withPath? path

/-- Does the address say on its own where to go? -/
def isAbsolute (url : Url) : Bool :=
  !url.scheme.isEmpty && !url.host.isEmpty

/-- Where an address leads from the root of a base: one that is not relative leads there on
its own, and of any other one only path and query count. -/
def resolve (base url : Url) : Url :=
  if url.isAbsolute then url
  else
    let path := "/" ++ String.ofList (url.path.toList.dropWhile (· = '/'))
    { base with
      path := if base.isAbsolute then plainPath path else path
      query := url.query
      fragment := none }

/-! ## Writing -/

/-- The text of the host and the port. -/
def site (url : Url) : String :=
  (if url.host.contains ':' then "[" ++ url.host ++ "]" else url.host) ++
    (match url.port with | some port => ":" ++ toString port | none => "")

/-- The text of user, host and port. -/
def authority (url : Url) : String :=
  (if url.user.isEmpty then "" else url.user ++ "@") ++ url.site

/-- The text of an address. -/
def text (url : Url) : String :=
  (if url.scheme.isEmpty then "" else url.scheme ++ ":") ++
    (if url.authority.isEmpty then "" else "//" ++ url.authority) ++
    url.path ++
    (match url.query with | some query => "?" ++ query | none => "") ++
    (match url.fragment with | some fragment => "#" ++ fragment | none => "")

/-- The path that a server looks at: decoded, and at least a slash. -/
def served (url : Url) : String :=
  if url.path.isEmpty then "/" else Percent.decode url.path

end Url

end VisualNovel
