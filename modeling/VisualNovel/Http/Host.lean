import VisualNovel.Http.Host.Address
import VisualNovel.Http.Host.Label
import VisualNovel.Text.Lowercase
import VisualNovel.Text.Percent

/-!
# Hosts

The host in an address is given by numbers or by a name.  Numbers stay as they are, if
they are the address of a host at all.  A name is written in small letters and in ASCII:
a name in ASCII has the characters encoded that cannot stand in a name, any other
one has to be an internationalized name, and each of its labels is encoded.
-/

namespace VisualNovel.Http.Host

/-- Can the character of a name in ASCII be sent as it is? -/
def isPlainChar (c : Char) : Bool :=
  c.isAlphanum || "-._~!$&'()*+,;=\"`\x7b\x7d%|\\".toList.contains c

/-- The labels between the dots of a name; some scripts have dots of their own. -/
def labels : List Char → List (List Char)
  | [] => [[]]
  | c :: rest =>
    match labels rest with
    | [] => [[c]]
    | first :: others =>
      if ['.', '\u3002', '\uff0e', '\uff61'].contains c then [] :: first :: others
      else (c :: first) :: others

/-- A name has at most this many characters in ASCII, a dot at its end not counted. -/
def lengthLimit : Nat := 253

/-- An internationalized name in ASCII, if it is valid; there may be a dot at its end. -/
def international? (name : List Char) : Option (List Char) := do
  let all := labels name
  let ending := if all.getLast? = some [] then ['.'] else []
  let named := if all.getLast? = some [] then all.dropLast else all
  if named.isEmpty then none
  let plain ← named.mapM Label.plain?
  let joined := ['.'].intercalate plain
  if lengthLimit < joined.length then none else some (joined ++ ending)

/-- The normal form of a host, if it is valid.  The brackets around eight groups of
hexadecimal digits are left out. -/
def normal? (host : List Char) : Option (List Char) :=
  if host.isEmpty then some []
  else if looksNumeric host then
    if isFourBytes host then some host else none
  else if host.head? = some '[' ∧ host.getLast? = some ']' then
    let groups := (host.drop 1).dropLast
    if isEightGroups groups then some groups else none
  else if host.all Punycode.isPlain then
    some ((host.map Char.toLower).flatMap (Percent.encodeChar isPlainChar))
  else international? (Text.lowercased host)

end VisualNovel.Http.Host
