/-!
# Hosts given by numbers

A host can be given by the four bytes of its address, in decimal with dots between them,
or by eight groups of hexadecimal digits with colons between them.  In the second form
two colons may stand for one or more groups of zeros, the last two groups may be given as
four bytes, and a zone may follow after a percent sign.
-/

namespace VisualNovel.Http.Host

/-! ## Four bytes -/

/-- Is the text a byte in decimal without needless zeros? -/
def isByte (text : List Char) : Bool :=
  !text.isEmpty && text.all Char.isDigit && text.length ≤ 3 &&
    (text = ['0'] || text.head? != some '0') && Nat.ofDigitChars 10 text 0 ≤ 255

/-- The parts of a text between the places where a character stands. -/
def parts (separator : Char) : List Char → List (List Char)
  | [] => [[]]
  | c :: rest =>
    match parts separator rest with
    | [] => [[c]]
    | first :: others => if c = separator then [] :: first :: others else (c :: first) :: others

/-- Is the text an address of four bytes? -/
def isFourBytes (text : List Char) : Bool :=
  let bytes := parts '.' text
  bytes.length = 4 && bytes.all isByte

/-- Where the search for four runs of digits, with any character between two of them, can
stand: before the first digit of a run, or within it. -/
inductive Progress where
  | before (run : Nat)
  | within (run : Nat)
  deriving DecidableEq, Repr

/-- Where the search can stand after one more character. -/
def Progress.next (c : Char) : Progress → List Progress
  | before run => if c.isDigit then [within run] else []
  | within run =>
    (if c.isDigit then [within run] else []) ++ (if run < 3 then [before (run + 1)] else [])

/-- Does the text look like four numbers, with any character between two of them?  Such a
text is no name. -/
def looksNumeric (text : List Char) : Bool :=
  (text.foldl (fun states c => (states.flatMap (Progress.next c)).eraseDups)
    [Progress.before 0]).contains (.within 3)

/-! ## Eight groups -/

/-- Is the character a hexadecimal digit? -/
def isHexDigit (c : Char) : Bool :=
  c.isDigit || ('a' ≤ c && c ≤ 'f') || ('A' ≤ c && c ≤ 'F')

/-- Is the text a group of one to four hexadecimal digits? -/
def isGroup (text : List Char) : Bool :=
  !text.isEmpty && text.length ≤ 4 && text.all isHexDigit

/-- The groups with four bytes at the end replaced by two groups of zeros, if they are an
address. -/
def withGroups? (groups : List (List Char)) : Option (List (List Char)) :=
  match groups.getLast? with
  | some last =>
    if last.contains '.' then
      if isFourBytes last then some (groups.dropLast ++ [['0'], ['0']]) else none
    else some groups
  | none => some groups

/-- Are the groups before and after a gap some of the eight groups, at least one being left
out?  An empty group at an end belongs to the gap if it is alone there. -/
def fitAround (before after : List (List Char)) : Bool :=
  let first := if before = [[]] then [] else before
  let last := if after = [[]] then [] else after
  first.all isGroup && last.all isGroup && first.length + last.length < 8

/-- Is the text an address of eight groups? -/
def isEightGroups (text : List Char) : Bool :=
  let (address, zone) := text.span (· ≠ '%')
  let hasZone := match zone with
    | [] => true
    | _ :: name => !name.isEmpty && !name.contains '%'
  hasZone && match withGroups? (parts ':' address) with
    | none => false
    | some groups =>
      let inner := groups.drop 1 |>.dropLast
      if groups.length < 3 ∨ 9 < groups.length then false
      else if inner.contains [] then
        let first := groups.take 1 ++ inner.takeWhile (· ≠ [])
        let rest := groups.drop (first.length + 1)
        !rest.dropLast.contains [] && fitAround first rest
      else groups.length = 8 && groups.all isGroup

end VisualNovel.Http.Host
