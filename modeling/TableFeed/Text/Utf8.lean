import TableFeed.Failure.Basic

/-!
# Octets as text

A decoder for UTF-8 that says exactly which octets belong to no character.  Text that comes in
pieces is decoded piece by piece: a character that is cut off at the end of a piece is left for the
next one, and positions count from the start of the piece, with what the piece before it left.
-/

namespace TableFeed.Text

/-- Whether an octet continues a character. -/
def isContinuation (b : UInt8) : Bool := 0x80 ≤ b && b < 0xC0

/-- Whether an octet may follow the first one of three. -/
def mayFollowOfThree (b₀ b₁ : UInt8) : Bool :=
  isContinuation b₁ && (if b₁ < 0xA0 then b₀ != 0xE0 else b₀ != 0xED)

/-- Whether an octet may follow the first one of four. -/
def mayFollowOfFour (b₀ b₁ : UInt8) : Bool :=
  isContinuation b₁ && (if b₁ < 0x90 then b₀ != 0xF0 else b₀ != 0xF4)

/-- What stands at the front of a run of octets. -/
inductive Utf8Step where
  /-- A character, and how many octets it takes. -/
  | char (c : Char) (count : Nat)
  /-- The start of a character that is cut off. -/
  | short
  /-- Octets that belong to no character: how many, and why. -/
  | bad (count : Nat) (reason : String)

/-- The bits that continuation octets add to those of the octet in front of them. -/
def joinBits (front : Nat) (rest : List UInt8) : Nat :=
  rest.foldl (fun n b => n * 64 + (b.toNat - 0x80)) front

namespace Utf8Step

/-- The step for octets that do not continue the character before them. -/
def cut (count : Nat) : Utf8Step := .bad count "invalid continuation byte"

/-- What stands at the front of a run of octets, given its first octet. -/
def of (b₀ : UInt8) (rest : List UInt8) : Utf8Step :=
  if b₀ < 0x80 then .char (Char.ofNat b₀.toNat) 1
  else if b₀ < 0xC2 then .bad 1 "invalid start byte"
  else if b₀ < 0xE0 then
    match rest with
    | [] => .short
    | b₁ :: _ =>
      if isContinuation b₁ then .char (Char.ofNat (joinBits (b₀.toNat - 0xC0) [b₁])) 2 else cut 1
  else if b₀ < 0xF0 then
    match rest with
    | [] => .short
    | b₁ :: rest =>
      if !mayFollowOfThree b₀ b₁ then cut 1
      else match rest with
        | [] => .short
        | b₂ :: _ =>
          if isContinuation b₂ then .char (Char.ofNat (joinBits (b₀.toNat - 0xE0) [b₁, b₂])) 3
          else cut 2
  else if b₀ < 0xF5 then
    match rest with
    | [] => .short
    | b₁ :: rest =>
      if !mayFollowOfFour b₀ b₁ then cut 1
      else match rest with
        | [] => .short
        | b₂ :: rest =>
          if !isContinuation b₂ then cut 2
          else match rest with
            | [] => .short
            | b₃ :: _ =>
              if isContinuation b₃ then
                .char (Char.ofNat (joinBits (b₀.toNat - 0xF0) [b₁, b₂, b₃])) 4
              else cut 3
  else .bad 1 "invalid start byte"

end Utf8Step

/-- What came of decoding a piece: its characters, the octets that are left for the next piece, and
the fault at which the decoding stopped. -/
structure Decoded where
  /-- The characters. -/
  chars : List Char
  /-- The octets that are left. -/
  left : List UInt8 := []
  /-- The fault, if there was one. -/
  fault : Option DecodingFault := none

/-- Whether the last two octets of a piece are the start of half a pair, about which nothing is said
before the third octet is seen. -/
def isCutSurrogate : List UInt8 → Bool
  | [b₀, b₁] => b₀ == 0xED && 0xA0 ≤ b₁ && b₁ < 0xC0
  | _ => false

/-- Decodes the octets of a piece from a position on, after the characters before it, the last one
first.  In the last piece a character that is cut off is a fault. -/
def decodeFrom (last : Bool) (position : Nat) (before : List Char) : Nat → List UInt8 → Decoded
  | 0, bs => ⟨before.reverse, bs, none⟩
  | _ + 1, [] => ⟨before.reverse, [], none⟩
  | fuel + 1, b :: rest =>
    match Utf8Step.of b rest with
    | .char c count =>
      decodeFrom last (position + count) (c :: before) fuel ((b :: rest).drop count)
    | .short =>
      if last then
        ⟨before.reverse, [], some ⟨b, position, rest.length + 1, "unexpected end of data"⟩⟩
      else ⟨before.reverse, b :: rest, none⟩
    | .bad count reason =>
      if !last && isCutSurrogate (b :: rest) then ⟨before.reverse, b :: rest, none⟩
      else ⟨before.reverse, [], some ⟨b, position, count, reason⟩⟩

/-- Decodes a piece. -/
def decodePiece (last : Bool) (bs : List UInt8) : Decoded := decodeFrom last 0 [] bs.length bs

/-- Decodes octets as a whole. -/
def decodeWhole (bs : List UInt8) : Except DecodingFault (List Char) :=
  let d := decodePiece true bs
  d.fault.elim (.ok d.chars) .error

/-- The pieces in which a stream of octets is decoded. -/
def pieceSize : Nat := 8192

/-- Decodes a stream piece by piece, after octets that were left over.  `count` bounds the number of
pieces. -/
def decodeStream (left : List UInt8) : Nat → List UInt8 → Decoded
  | 0, _ => ⟨[], [], none⟩
  | count + 1, bs =>
    let piece := bs.take pieceSize
    let d := decodePiece piece.isEmpty (left ++ piece)
    if d.fault.isSome then { d with chars := [] }
    else if piece.isEmpty then d
    else
      let rest := decodeStream d.left count (bs.drop pieceSize)
      { rest with chars := d.chars ++ rest.chars }

/-- Decodes a stream of octets: the characters up to the first piece with a fault, and the fault.
The characters of that piece are not among them. -/
def decodePieces (bs : List UInt8) : Decoded := decodeStream [] (bs.length / pieceSize + 2) bs

end TableFeed.Text
