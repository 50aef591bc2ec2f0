import Workcell.Document.Number
import Workcell.Document.Tree

/-!
Wire texts in JSON: one value, strict grammar, blanks around tokens.

`read` accepts the grammar and leaves it to the tree which leaves have a value. `write` is compact, escapes quote,
backslash and controls only, and keeps fields in the order of the tree.
-/

set_option autoImplicit false

namespace Workcell.Document.Json

def isBlank (c : Char) : Bool := c == ' ' || c == '\t' || c == '\n' || c == '\r'

def skipBlanks (cs : List Char) : List Char := cs.dropWhile isBlank

def hexValue? (c : Char) : Option Nat :=
  if '0' ≤ c ∧ c ≤ '9' then some (c.toNat - '0'.toNat)
  else if 'a' ≤ c ∧ c ≤ 'f' then some (c.toNat - 'a'.toNat + 10)
  else if 'A' ≤ c ∧ c ≤ 'F' then some (c.toNat - 'A'.toNat + 10)
  else none

def hexUnit? (a b c d : Char) : Option Nat := do
  let a ← hexValue? a
  let b ← hexValue? b
  let c ← hexValue? c
  let d ← hexValue? d
  pure (((a * 16 + b) * 16 + c) * 16 + d)

inductive Piece where
  | char (c : Char)
  | half
  deriving DecidableEq

def shortEscape? : Char → Option Char
  | '"' => some '"'
  | '\\' => some '\\'
  | '/' => some '/'
  | 'b' => some '\x08'
  | 'f' => some '\x0c'
  | 'n' => some '\n'
  | 'r' => some '\r'
  | 't' => some '\t'
  | _ => none

def isHighHalf (n : Nat) : Bool := decide (0xD800 ≤ n ∧ n < 0xDC00)

def isLowHalf (n : Nat) : Bool := decide (0xDC00 ≤ n ∧ n < 0xE000)

def readPiece : List Char → Option (Piece × List Char)
  | '\\' :: 'u' :: a :: b :: c :: d :: rest => do
      let unit ← hexUnit? a b c d
      if isHighHalf unit then
        match rest with
        | '\\' :: 'u' :: e :: f :: g :: h :: rest' =>
            match hexUnit? e f g h with
            | some low =>
                if isLowHalf low then
                  some (.char (Char.ofNat (0x10000 + (unit - 0xD800) * 0x400 + (low - 0xDC00))), rest')
                else some (.half, rest)
            | none => none
        | _ => some (.half, rest)
      else if isLowHalf unit then some (.half, rest)
      else some (.char (Char.ofNat unit), rest)
  | '\\' :: e :: rest => (shortEscape? e).map fun c => (.char c, rest)
  | c :: rest => if c.toNat < 32 ∨ c = '"' ∨ c = '\\' then none else some (.char c, rest)
  | [] => none

def readPieces : Nat → List Char → Option (List Piece × List Char)
  | _, '"' :: rest => some ([], rest)
  | 0, _ => none
  | fuel + 1, cs => do
      let (piece, rest) ← readPiece cs
      let (pieces, rest) ← readPieces fuel rest
      pure (piece :: pieces, rest)

-- The text of the pieces, unless one of them is half of a pair.
def piecesText? (pieces : List Piece) : Option String :=
  (pieces.mapM fun
    | Piece.char c => some c
    | Piece.half => none).map String.ofList

def readString (cs : List Char) : Option (Option String × List Char) :=
  (readPieces cs.length cs).map fun (pieces, rest) => (piecesText? pieces, rest)

def splitDigits (cs : List Char) : List Char × List Char := (cs.takeWhile isDigit, cs.dropWhile isDigit)

def readWhole : List Char → Option (List Char × List Char)
  | '0' :: rest =>
      match rest with
      | c :: _ => if isDigit c then none else some (['0'], rest)
      | [] => some (['0'], rest)
  | cs =>
      let (digits, rest) := splitDigits cs
      if digits.isEmpty then none else some (digits, rest)

def readFraction : List Char → Option (Option (List Char) × List Char)
  | '.' :: cs =>
      let (digits, rest) := splitDigits cs
      if digits.isEmpty then none else some (some digits, rest)
  | cs => some (none, cs)

def readSign : List Char → Bool × List Char
  | '-' :: cs => (true, cs)
  | '+' :: cs => (false, cs)
  | cs => (false, cs)

def readExponent : List Char → Option (Option (Bool × List Char) × List Char)
  | c :: cs =>
      if c = 'e' ∨ c = 'E' then
        let (minus, cs) := readSign cs
        let (digits, rest) := splitDigits cs
        if digits.isEmpty then none else some (some (minus, digits), rest)
      else some (none, c :: cs)
  | [] => some (none, [])

def readLiteral (negative : Bool) (cs : List Char) : Option (Literal × List Char) := do
  let (whole, cs) ← readWhole cs
  let (fraction, cs) ← readFraction cs
  let (exponent, cs) ← readExponent cs
  pure (⟨negative, whole, fraction, exponent⟩, cs)

variable {R : Type} [Scalar R]

def literalTree (l : Literal) : Tree R :=
  match l.int? with
  | some i => .int i
  | none =>
      match (l.number? : Option R) with
      | some x => .number x
      | none => .unreadable

def readNumber : List Char → Option (Tree R × List Char)
  | '-' :: cs => (readLiteral true cs).map fun (l, rest) => (literalTree l, rest)
  | cs => (readLiteral false cs).map fun (l, rest) => (literalTree l, rest)

mutual
def readValue : Nat → List Char → Option (Tree R × List Char)
  | 0, _ => none
  | fuel + 1, cs =>
      match cs with
      | 'n' :: 'u' :: 'l' :: 'l' :: rest => some (.null, rest)
      | 't' :: 'r' :: 'u' :: 'e' :: rest => some (.bool true, rest)
      | 'f' :: 'a' :: 'l' :: 's' :: 'e' :: rest => some (.bool false, rest)
      | '"' :: rest =>
          match readString rest with
          | some (some s, rest) => some (.text s, rest)
          | some (none, rest) => some (.unreadable, rest)
          | none => none
      | '[' :: rest =>
          match skipBlanks rest with
          | ']' :: rest => some (.list [], rest)
          | rest => (readItems fuel rest).map fun (items, rest) => (.list items, rest)
      | '\x7b' :: rest =>
          match skipBlanks rest with
          | '\x7d' :: rest => some (.record [], rest)
          | rest => (readFields fuel rest).map fun (fields, rest) => (.record fields, rest)
      | cs => readNumber cs

def readItems : Nat → List Char → Option (List (Tree R) × List Char)
  | 0, _ => none
  | fuel + 1, cs => do
      let (item, rest) ← readValue fuel cs
      match skipBlanks rest with
      | ']' :: rest => pure ([item], rest)
      | ',' :: rest => do
          let (items, rest) ← readItems fuel (skipBlanks rest)
          pure (item :: items, rest)
      | _ => none

def readFields : Nat → List Char → Option (List (String × Tree R) × List Char)
  | 0, _ => none
  | fuel + 1, cs =>
      match cs with
      | '"' :: rest => do
          let (name, rest) ← readString rest
          let name ← name
          match skipBlanks rest with
          | ':' :: rest => do
              let (item, rest) ← readValue fuel (skipBlanks rest)
              match skipBlanks rest with
              | '\x7d' :: rest => pure ([(name, item)], rest)
              | ',' :: rest => do
                  let (fields, rest) ← readFields fuel (skipBlanks rest)
                  pure ((name, item) :: fields, rest)
              | _ => none
          | _ => none
      | _ => none
end

def read (s : String) : Option (Tree R) :=
  let cs := skipBlanks s.toList
  match readValue (2 * cs.length + 2) cs with
  | some (tree, rest) => if (skipBlanks rest).isEmpty then some tree else none
  | none => none

def hexDigit (n : Nat) : Char := if n < 10 then Char.ofNat ('0'.toNat + n) else Char.ofNat ('a'.toNat + n - 10)

def escapeChar (c : Char) : List Char :=
  if c = '"' then ['\\', '"']
  else if c = '\\' then ['\\', '\\']
  else if c = '\x08' then ['\\', 'b']
  else if c = '\x0c' then ['\\', 'f']
  else if c = '\n' then ['\\', 'n']
  else if c = '\r' then ['\\', 'r']
  else if c = '\t' then ['\\', 't']
  else if c.toNat < 32 then ['\\', 'u', '0', '0', hexDigit (c.toNat / 16), hexDigit (c.toNat % 16)]
  else [c]

def writeString (s : String) : List Char := '"' :: (s.toList.flatMap escapeChar ++ ['"'])

mutual
def writeValue : Tree R → List Char → List Char
  | .null, rest => "null".toList ++ rest
  | .unreadable, rest => "null".toList ++ rest
  | .bool true, rest => "true".toList ++ rest
  | .bool false, rest => "false".toList ++ rest
  | .int i, rest => (toString i).toList ++ rest
  | .number x, rest => (Scalar.wire x).toList ++ rest
  | .text s, rest => writeString s ++ rest
  | .list items, rest => '[' :: writeItems items (']' :: rest)
  | .record fields, rest => '\x7b' :: writeFields fields ('\x7d' :: rest)

def writeItems : List (Tree R) → List Char → List Char
  | [], rest => rest
  | [item], rest => writeValue item rest
  | item :: items, rest => writeValue item (',' :: writeItems items rest)

def writeFields : List (String × Tree R) → List Char → List Char
  | [], rest => rest
  | [(name, item)], rest => writeString name ++ ':' :: writeValue item rest
  | (name, item) :: fields, rest => writeString name ++ ':' :: writeValue item (',' :: writeFields fields rest)
end

def write (tree : Tree R) : String := String.ofList (writeValue tree [])

end Workcell.Document.Json
