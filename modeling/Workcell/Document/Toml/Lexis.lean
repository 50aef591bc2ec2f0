import Workcell.Document.Json

/-!
Words of configuration texts in TOML: blanks, comments, strings, keys, numbers, dates and times.

Each reader takes the characters from its word's start and returns the word with what follows it.
-/

set_option autoImplicit false

namespace Workcell.Document.Toml

open Workcell.Document (isDigit digitValue digitsValue)
open Workcell.Document.Json (hexValue?)

def isBlank (c : Char) : Bool := c == ' ' || c == '\t'

def skipBlanks (cs : List Char) : List Char := cs.dropWhile isBlank

def isForbidden (c : Char) : Bool := (decide (c.toNat < 32) && c != '\t') || decide (c.toNat = 127)

def newline? : List Char → Option (List Char)
  | '\n' :: rest => some rest
  | '\r' :: '\n' :: rest => some rest
  | _ => none

def skipComment : List Char → Option (List Char)
  | '#' :: rest =>
      let inside := rest.takeWhile fun c => c != '\n'
      let after := rest.dropWhile fun c => c != '\n'
      match inside.reverse with
      | '\r' :: body =>
          if after.isEmpty || body.any isForbidden then none else some ('\r' :: after)
      | body => if body.any isForbidden then none else some after
  | cs => some cs

-- The end of a line: blanks, perhaps a comment, then a line break or the end of the text.
def endLine (cs : List Char) : Option (List Char) := do
  let cs ← skipComment (skipBlanks cs)
  if cs.isEmpty then pure [] else newline? cs

def skipSpace : Nat → List Char → Option (List Char)
  | 0, cs => some cs
  | fuel + 1, cs => do
      let cs ← skipComment (skipBlanks cs)
      match newline? cs with
      | some rest => skipSpace fuel rest
      | none => pure cs

def hexNumber? (digits : List Char) : Option Nat :=
  digits.foldlM (fun n c => (hexValue? c).map (16 * n + ·)) 0

def scalarChar? (n : Nat) : Option Char :=
  if h : n.isValidChar then some (Char.ofNatAux n h) else none

def hexChar? (width : Nat) (cs : List Char) : Option (Char × List Char) :=
  if (cs.take width).length = width then do
    let n ← hexNumber? (cs.take width)
    let c ← scalarChar? n
    pure (c, cs.drop width)
  else none

def escape? : List Char → Option (Char × List Char)
  | 'b' :: rest => some ('\x08', rest)
  | 't' :: rest => some ('\t', rest)
  | 'n' :: rest => some ('\n', rest)
  | 'f' :: rest => some ('\x0c', rest)
  | 'r' :: rest => some ('\r', rest)
  | 'e' :: rest => some ('\x1b', rest)
  | '"' :: rest => some ('"', rest)
  | '\\' :: rest => some ('\\', rest)
  | 'x' :: rest => hexChar? 2 rest
  | 'u' :: rest => hexChar? 4 rest
  | 'U' :: rest => hexChar? 8 rest
  | _ => none

def basicString : Nat → List Char → Option (List Char × List Char)
  | _, '"' :: rest => some ([], rest)
  | 0, _ => none
  | fuel + 1, '\\' :: rest => do
      let (c, rest) ← escape? rest
      let (cs, rest) ← basicString fuel rest
      pure (c :: cs, rest)
  | fuel + 1, c :: rest =>
      if isForbidden c then none
      else do
        let (cs, rest) ← basicString fuel rest
        pure (c :: cs, rest)
  | _, [] => none

def literalString (cs : List Char) : Option (List Char × List Char) :=
  let inside := cs.takeWhile fun c => c != '\''
  match cs.dropWhile fun c => c != '\'' with
  | _ :: rest => if inside.any isForbidden then none else some (inside, rest)
  | [] => none

def dropFirstNewline (cs : List Char) : List Char := (newline? cs).getD cs

-- The quotes that close a string of several lines: up to two more belong to the inside.
def closing? (quote : Char) (cs : List Char) : Option (List Char × List Char) :=
  let quotes := (cs.takeWhile fun c => c == quote).length
  if quotes < 3 then none
  else if quotes ≤ 5 then some (List.replicate (quotes - 3) quote, cs.drop quotes)
  else some ([quote, quote], cs.drop 5)

def skipFold (cs : List Char) : Option (List Char) :=
  match newline? (skipBlanks cs) with
  | some rest => some (rest.dropWhile fun c => c == ' ' || c == '\t' || c == '\n' || c == '\r')
  | none => none

-- The inside of a string of several lines; `escapes` tells double quotes from single ones.
def longString (quote : Char) (escapes : Bool) : Nat → List Char → Option (List Char × List Char)
  | 0, _ => none
  | fuel + 1, cs =>
      match closing? quote cs with
      | some done => some done
      | none =>
          match cs with
          | [] => none
          | c :: rest =>
              if escapes && c == '\\' then
                match skipFold rest with
                | some rest => longString quote escapes fuel rest
                | none => do
                    let (c, rest) ← escape? rest
                    let (cs, rest) ← longString quote escapes fuel rest
                    pure (c :: cs, rest)
              else
                match newline? cs with
                | some rest => do
                    let (cs, rest) ← longString quote escapes fuel rest
                    pure ('\n' :: cs, rest)
                | none =>
                    if isForbidden c then none
                    else do
                      let (cs, rest) ← longString quote escapes fuel rest
                      pure (c :: cs, rest)

def string? (cs : List Char) : Option (String × List Char) :=
  let found := match cs with
    | '"' :: '"' :: '"' :: rest => longString '"' true (rest.length + 1) (dropFirstNewline rest)
    | '\'' :: '\'' :: '\'' :: rest => longString '\'' false (rest.length + 1) (dropFirstNewline rest)
    | '"' :: rest => basicString rest.length rest
    | '\'' :: rest => literalString rest
    | _ => none
  found.map fun (inside, rest) => (String.ofList inside, rest)

def isBare (c : Char) : Bool := c.isAlphanum || c == '_' || c == '-'

def keyPart? (cs : List Char) : Option (String × List Char) :=
  match cs with
  | '"' :: rest => (basicString rest.length rest).map fun (inside, rest) => (String.ofList inside, rest)
  | '\'' :: rest => (literalString rest).map fun (inside, rest) => (String.ofList inside, rest)
  | cs =>
      let bare := cs.takeWhile isBare
      if bare.isEmpty then none else some (String.ofList bare, cs.dropWhile isBare)

def key? : Nat → List Char → Option (List String × List Char)
  | 0, _ => none
  | fuel + 1, cs => do
      let (part, rest) ← keyPart? (skipBlanks cs)
      match skipBlanks rest with
      | '.' :: rest => do
          let (parts, rest) ← key? fuel rest
          pure (part :: parts, rest)
      | rest => pure ([part], rest)

def grouped? (digit : Char → Bool) : List Char → Option (List Char)
  | [] => none
  | [c] => if digit c then some [c] else none
  | c :: '_' :: rest => if digit c then (grouped? digit rest).map (c :: ·) else none
  | c :: rest => if digit c then (grouped? digit rest).map (c :: ·) else none

def decimal? (cs : List Char) : Option (List Char) :=
  match cs with
  | ['0'] => some ['0']
  | '0' :: _ => none
  | cs => grouped? isDigit cs

def baseNumber? (base : Nat) (cs : List Char) : Option Nat := do
  let digits ← grouped? (fun c => match hexValue? c with
    | some n => decide (n < base)
    | none => false) cs
  pure (digits.foldl (fun n c => base * n + (hexValue? c).getD 0) 0)

def fitting? (i : Int) : Option Int := if -Int.pow 2 63 ≤ i ∧ i < Int.pow 2 63 then some i else none

def splitSign : List Char → Bool × List Char
  | '-' :: cs => (true, cs)
  | '+' :: cs => (false, cs)
  | cs => (false, cs)

def int? (word : List Char) : Option Int :=
  match word with
  | '0' :: 'x' :: cs => (baseNumber? 16 cs).bind fun n => fitting? n
  | '0' :: 'o' :: cs => (baseNumber? 8 cs).bind fun n => fitting? n
  | '0' :: 'b' :: cs => (baseNumber? 2 cs).bind fun n => fitting? n
  | word =>
      let (negative, cs) := splitSign word
      (decimal? cs).bind fun digits =>
        let n : Int := digitsValue digits
        fitting? (if negative then -n else n)

variable {R : Type} [Scalar R]

-- A number with a point or an exponent, or one of the two words. A value beyond the range is refused.
def float? (word : List Char) : Option R :=
  let (negative, cs) := splitSign word
  if cs = ['i', 'n', 'f'] then
    some (if negative then Scalar.negate Scalar.infinity else Scalar.infinity)
  else if cs = ['n', 'a', 'n'] then some Scalar.nan
  else do
    let mantissa := cs.takeWhile fun c => c != 'e' && c != 'E'
    let tail := cs.dropWhile fun c => c != 'e' && c != 'E'
    let whole ← decimal? (mantissa.takeWhile fun c => c != '.')
    let fraction ← match mantissa.dropWhile fun c => c != '.' with
      | [] => if tail.isEmpty then none else some []
      | _ :: rest => grouped? isDigit rest
    let exponent : Int ← match tail with
      | [] => some 0
      | _ :: rest =>
          let (minus, rest) := splitSign rest
          (grouped? isDigit rest).map fun digits =>
            if minus then -(digitsValue digits : Int) else (digitsValue digits : Int)
    let x : R := Scalar.ofDecimal negative (digitsValue (whole ++ fraction)) (exponent - fraction.length)
    if Scalar.isFinite x then pure x else none

def twoDigits? : List Char → Option (Nat × List Char)
  | a :: b :: rest => if isDigit a && isDigit b then some (digitValue a * 10 + digitValue b, rest) else none
  | _ => none

def isLeap (year : Nat) : Bool := (year % 4 == 0 && year % 100 != 0) || year % 400 == 0

def daysIn (year month : Nat) : Nat :=
  if month = 2 then (if isLeap year then 29 else 28)
  else if month = 4 ∨ month = 6 ∨ month = 9 ∨ month = 11 then 30 else 31

def date? (cs : List Char) : Option (List Char) := do
  let (century, cs) ← twoDigits? cs
  let (year, cs) ← twoDigits? cs
  match cs with
  | '-' :: cs => do
      let (month, cs) ← twoDigits? cs
      match cs with
      | '-' :: cs => do
          let (day, cs) ← twoDigits? cs
          if 1 ≤ month ∧ month ≤ 12 ∧ 1 ≤ day ∧ day ≤ daysIn (century * 100 + year) month then pure cs else none
      | _ => none
  | _ => none

def time? (cs : List Char) : Option (List Char) := do
  let (hour, cs) ← twoDigits? cs
  match cs with
  | ':' :: cs => do
      let (minute, cs) ← twoDigits? cs
      if 24 ≤ hour ∨ 60 ≤ minute then none
      else
        match cs with
        | ':' :: cs => do
            let (second, cs) ← twoDigits? cs
            if 61 ≤ second then none
            else
              match cs with
              | '.' :: cs => if (cs.takeWhile isDigit).isEmpty then none else pure (cs.dropWhile isDigit)
              | cs => pure cs
        | cs => pure cs
  | _ => none

def isOffset : List Char → Bool
  | [] => true
  | ['Z'] => true
  | ['z'] => true
  | sign :: cs =>
      if sign = '+' ∨ sign = '-' then
        match twoDigits? cs with
        | some (hour, ':' :: cs) =>
            match twoDigits? cs with
            | some (minute, []) => decide (hour < 24 ∧ minute < 60)
            | _ => false
        | _ => false
      else false

def isMoment (word : List Char) : Bool :=
  match date? word with
  | some [] => true
  | some (c :: cs) =>
      if c = 'T' ∨ c = 't' ∨ c = ' ' then
        match time? cs with
        | some rest => isOffset rest
        | none => false
      else false
  | none => time? word == some []

end Workcell.Document.Toml
