import SecretVault.Text.Blank
import SecretVault.Text.Utf8
import SecretVault.Yaml.Cursor

/-!
The text of a document as it comes from a file. A file is read piece by piece, and what cannot be
read is noticed only where reading comes to its piece, so a document may be found wrong before.
-/

namespace SecretVault.Yaml

/-- Whether the character may stand in a document. -/
def isAllowed (c : Char) : Bool :=
  let n := c.toNat
  n == 9 || n == 10 || n == 13 || (0x20 ≤ n && n ≤ 0x7e) || n == 0x85 || (0xa0 ≤ n && n ≤ 0xfffd)
    || 0x10000 ≤ n

/-- The readable text of a document, and what is wrong with the piece after it, if there is one that
cannot be read. -/
structure Source where
  text : List Char
  ending : Option Error

namespace Source

/-- The number of characters in a piece. The first piece has two times as many. -/
def pieceSize : Nat := 4096

/-- The number of bytes that are decoded at once. -/
def chunkSize : Nat := 8192

/-- Where the piece with a character starts, by the number of characters before that. -/
def pieceOf (before : Nat) : Nat :=
  if before < 2 * pieceSize then 0 else before / pieceSize * pieceSize

/-- The characters of a text whose bytes end within a number of bytes. -/
def within : Nat → List Char → List Char
  | _, [] => []
  | room, c :: cs =>
    let size := (Utf8.encodeChar c).length
    if size ≤ room then c :: within (room - size) cs else []

/-- Where the piece starts that cannot be decoded, given the text before the first byte that is
wrong, and the bytes from there on. Bytes are decoded in chunks; a character that is cut off is
missed only at the end of the file. -/
def undecodable? (cs : List Char) (rest : Bytes) : Option Nat :=
  if rest.isEmpty then none
  else if Utf8.isCutOff rest then some (pieceOf (Text.unifyLines cs).length)
  else
    let room := (Utf8.encode cs).length / chunkSize * chunkSize
    some (pieceOf (Text.unifyLines (within room cs)).length)

/-- Where the piece starts in which the first character stands that may not stand there. -/
def disallowed? (cs : List Char) : Option Nat :=
  (cs.findIdx? (!isAllowed ·)).map pieceOf

/-- The source in the bytes of a file. -/
def ofBytes (content : Bytes) : Source :=
  let (cs, rest) := Utf8.decodeUpTo content.length content
  let text := Text.unifyLines cs
  match undecodable? cs rest, disallowed? text with
  | none, none => ⟨text, none⟩
  | some start, none => ⟨text.take start, some (.fault .undecodable)⟩
  | none, some start => ⟨text.take start, some .malformed⟩
  | some start, some other =>
    if start ≤ other then ⟨text.take start, some (.fault .undecodable)⟩
    else ⟨text.take other, some .malformed⟩

end Source

end SecretVault.Yaml
