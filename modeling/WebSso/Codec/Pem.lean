import WebSso.Codec.Base64

/-!
# PEM text

Keys and certificates come as text: the base64 form of their bytes between a line that begins a
section and a line that ends it, both of which name the kind of section.  A section may start with
a header, lines of names and values, which an empty line separates from the data.

A text is read in pieces: lines, and parts of lines that are too long to be read at once.  A section
may begin or end with a part of a line.

## What is here

* `Pem.pieces`, the pieces of a text;
* `Pem.Opened`, a section of which some pieces have been read, and `Opened.next?`, which reads one
  more;
* `Pem.items`, what the text has of sections, with a gap for each that is not well formed: after
  one, reading goes on behind the piece that showed it.  Text outside sections is passed over;
* `Pem.sections`, the sections up to the first gap.
-/

set_option autoImplicit false
namespace WebSso
namespace Pem

/-! ## Pieces -/

/-- The characters of some bytes, one for each. -/
def charsOfBytes (bytes : Bytes) : List Char := bytes.map fun b => Char.ofNat b.toNat

/-- What is dropped at the end of a line: blanks, control characters, all that is not ASCII. -/
def isTrailing (c : Char) : Bool := c.toNat ≤ 32 || 128 ≤ c.toNat

/-- What ends the part of a line that counts as data, if a line holds it. -/
def stopper : Char := '\x00'

/-- How many characters are read at once at most. -/
def pieceLength : Nat := 254

/-- A line, or a part of a long one. -/
structure Piece where
  /-- The characters but for those that are dropped at the end. -/
  text : List Char
  /-- Whether there is a colon, among those that are dropped or elsewhere. -/
  hasColon : Bool
  /-- Whether the line goes on behind the piece. -/
  goesOn : Bool

namespace Piece

/-- The piece of the characters read at once, last first. -/
def ofReversed (read : List Char) : Piece where
  text := (read.dropWhile isTrailing).reverse
  hasColon := read.contains ':'
  goesOn := read.length == pieceLength && read.head? != some '\n'

/-- The part that counts as data. -/
def data (p : Piece) : List Char := p.text.takeWhile (· != stopper)

/-- How many characters of a header the piece makes up.  The end of the line is one of them, unless
it comes behind a stopper. -/
def headerLength (p : Piece) : Nat :=
  p.data.length + if p.text.contains stopper then 0 else 1

end Piece

/-- The pieces of a text behind the front of a piece, last character first, to which at most `room`
more are added. -/
def piecesFrom (read : List Char) : Nat → List Char → List Piece
  | _, [] => if read.isEmpty then [] else [.ofReversed read]
  | room, c :: rest =>
    if c = '\n' ∨ room ≤ 1 then .ofReversed (c :: read) :: piecesFrom [] pieceLength rest
    else piecesFrom (c :: read) (room - 1) rest

/-- The pieces of a text: each ends with a line or where no more is read at once. -/
def pieces (text : List Char) : List Piece := piecesFrom [] pieceLength text

/-! ## The ends of a section -/

/-- The mark that some programs write at the front of a text, one character for each byte. -/
def byteOrderMark : List Char := ['\u00ef', '\u00bb', '\u00bf']

/-- A text without a byte order mark. -/
def dropMark (text : List Char) : List Char :=
  if byteOrderMark.isPrefixOf text then text.drop byteOrderMark.length else text

/-- The front of the line that begins a section. -/
def beginMark : List Char := "-----BEGIN ".toList

/-- The front of the line that ends a section. -/
def endMark : List Char := "-----END ".toList

/-- The end of both lines. -/
def tailMark : List Char := "-----".toList

/-- The label of a line that begins a section, which ends at a stopper. -/
def label? (line : List Char) : Option (List Char) :=
  if beginMark.isPrefixOf line ∧ tailMark.isSuffixOf line
      ∧ beginMark.length + tailMark.length ≤ line.length then
    let label := (line.drop beginMark.length).take
      (line.length - beginMark.length - tailMark.length)
    some (label.takeWhile (· != stopper))
  else none

/-! ## Data -/

/-- The bytes that the lines of a section hold.  Layout is dropped and a dash ends the data.  The
bits that a last character carries beyond the last byte may be anything, so that padding is read
like the character of zero and the bytes it makes up are taken off again. -/
def data? (body : List (List Char)) : Option Bytes :=
  let text := (body.flatten.takeWhile (· != '-')).filter fun c => !Base64.isLayout c
  let digits := text.takeWhile (· != Base64.padding)
  let padding := text.drop digits.length
  if 2 < padding.length ∨ padding.any (· != Base64.padding) then none
  else
    (Base64.decode? (digits ++ List.replicate padding.length (Base64.digit 0))).map
      fun bytes => bytes.take (bytes.length - padding.length)

/-! ## Sections -/

/-- A section. -/
structure Section where
  /-- The kind that its first and its last line name. -/
  label : List Char
  /-- How many characters the header above the data has, the ends of its lines included. -/
  headerLength : Nat
  /-- The data. -/
  bytes : Bytes

/-- What the next piece of a section may be. -/
inductive Part where
  /-- Data, or the first line of a header: a colon will tell. -/
  | undecided
  /-- A line of a header. -/
  | header
  /-- Data below an empty line. -/
  | data
  /-- Nothing but the end: the line before was a short one. -/
  | finished
  deriving DecidableEq

/-- A section that has begun. -/
structure Opened where
  /-- The kind that its first line names. -/
  label : List Char
  /-- What the next piece may be. -/
  part : Part
  /-- Whether the next piece goes on with the line of the last one. -/
  midLine : Bool
  /-- The pieces above the empty line, last first. -/
  above : List Piece
  /-- The pieces below the empty line, last first. -/
  below : List Piece

namespace Opened

/-- The section of a label with nothing in it so far. -/
def ofLabel (label : List Char) : Opened := ⟨label, .undecided, false, [], []⟩

/-- How long a line of data is below an empty line, unless it is the last. -/
def fullLine : Nat := 64

/-- The section once it has seen whether a piece holds a colon. -/
def look (o : Opened) (p : Piece) : Opened :=
  if o.part = .undecided ∧ p.hasColon then { o with part := .header } else o

/-- The section behind an empty piece.  It is the end of a line that was read in part; otherwise it
is an empty line, of which there may be one. -/
def separate? (o : Opened) : Option Opened :=
  if o.midLine then some o
  else
    match o.part with
    | .undecided | .header => some { o with part := .data }
    | .data | .finished => none

/-- The section with a piece that is not empty. -/
def add? (o : Opened) (p : Piece) : Option Opened :=
  match o.part with
  | .undecided | .header => some { o with above := p :: o.above }
  | .data =>
    if fullLine < p.text.length then none
    else
      let part := if p.text.length < fullLine then .finished else .data
      some { o with part := part, below := p :: o.below }
  | .finished => none

/-- The section at its end.  Without an empty line all is data, unless there was a colon.  A section
holds at least one byte. -/
def close? (o : Opened) : Option Section :=
  let (header, body) :=
    match o.part with
    | .undecided => ([], o.above)
    | .header | .data | .finished => (o.above, o.below)
  match data? (body.reverse.map Piece.data) with
  | some (b :: bytes) => some ⟨o.label, (header.map Piece.headerLength).sum, b :: bytes⟩
  | _ => none

/-- A section with one more piece: it goes on, or it is complete. -/
def next? (o : Opened) (p : Piece) : Option (Opened ⊕ Section) :=
  let o := o.look p
  let goOn (o : Opened) : Opened ⊕ Section := .inl { o with midLine := p.goesOn }
  if p.text = [] then o.separate?.map goOn
  else if endMark.isPrefixOf p.text then
    if p.text = endMark ++ o.label ++ tailMark then o.close?.map .inr else none
  else (o.add? p).map goOn

end Opened

/-- Where the reading of a text stands. -/
inductive Place where
  /-- Where a section is looked for, and nothing has been passed over for it. -/
  | start
  /-- Where a section is looked for. -/
  | between
  /-- In a section. -/
  | inside (o : Opened)

/-- The place behind a piece outside sections.  A byte order mark may precede the first piece that
is looked at. -/
def Place.ofOutside (first : Bool) (p : Piece) : Place :=
  match label? (if first then dropMark p.text else p.text) with
  | some label => .inside (.ofLabel label)
  | none => .between

/-- The sections of some pieces, read from a place on, and a gap for each that is not well
formed. -/
def itemsFrom : Place → List Piece → List (Option Section)
  | _, [] => []
  | .start, p :: rest => itemsFrom (.ofOutside true p) rest
  | .between, p :: rest => itemsFrom (.ofOutside false p) rest
  | .inside o, p :: rest =>
    match o.next? p with
    | some (.inl o) => itemsFrom (.inside o) rest
    | some (.inr s) => some s :: itemsFrom .start rest
    | none => none :: itemsFrom .start rest

/-- The sections of a text, first to last, and a gap for each that is not well formed. -/
def items (text : Bytes) : List (Option Section) :=
  itemsFrom .start (pieces (charsOfBytes text))

/-- The sections of a text, first to last, up to one that is not well formed. -/
def sections (text : Bytes) : List Section :=
  ((items text).takeWhile (·.isSome)).filterMap id

/-- Whether a section has one of some labels. -/
def Section.isLabelled (s : Section) (labels : List String) : Bool :=
  labels.contains (String.ofList s.label)

end Pem
end WebSso
