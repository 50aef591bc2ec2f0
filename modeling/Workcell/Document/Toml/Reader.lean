import Workcell.Document.Toml.Lexis
import Workcell.Document.Toml.Tables

/-!
Configuration texts in TOML: lines of keys with values, grouped by headers. `read` gives the whole text as one
record, or nothing when a line breaks the grammar or a table is given twice.
-/

set_option autoImplicit false

namespace Workcell.Document.Toml

variable {R : Type} [Scalar R]

def isWordChar (c : Char) : Bool := c.isAlphanum || c == '_' || c == '-' || c == '+' || c == '.' || c == ':'

-- A word, where a day and a time with a blank between them count as one.
def splitWord (cs : List Char) : List Char × List Char :=
  let word := cs.takeWhile isWordChar
  match cs.dropWhile isWordChar with
  | ' ' :: rest =>
      if date? word == some [] && (twoDigits? rest).isSome then
        (word ++ ' ' :: rest.takeWhile isWordChar, rest.dropWhile isWordChar)
      else (word, ' ' :: rest)
  | rest => (word, rest)

def wordTree? (word : List Char) : Option (Tree R) :=
  if word = ['t', 'r', 'u', 'e'] then some (.bool true)
  else if word = ['f', 'a', 'l', 's', 'e'] then some (.bool false)
  else if isMoment word then some (.record [("moment", .text (String.ofList word))])
  else
    match int? word with
    | some i => some (.int i)
    | none => (float? word).map .number

mutual
def readValue : Nat → List Char → Option (Tree R × List Char)
  | 0, _ => none
  | fuel + 1, cs =>
      match cs with
      | '"' :: _ => (string? cs).map fun (s, rest) => (.text s, rest)
      | '\'' :: _ => (string? cs).map fun (s, rest) => (.text s, rest)
      | '[' :: rest => (readItems fuel rest).map fun (items, rest) => (.list items, rest)
      | '\x7b' :: rest =>
          (readInline fuel [] rest).map fun (entries, rest) => (.record (entriesTree entries), rest)
      | cs =>
          let (word, rest) := splitWord cs
          (wordTree? word).map fun tree => (tree, rest)

def readItems : Nat → List Char → Option (List (Tree R) × List Char)
  | 0, _ => none
  | fuel + 1, cs => do
      let cs ← skipSpace cs.length cs
      match cs with
      | ']' :: rest => pure ([], rest)
      | cs => do
          let (item, rest) ← readValue fuel cs
          let rest ← skipSpace rest.length rest
          match rest with
          | ']' :: rest => pure ([item], rest)
          | ',' :: rest => do
              let (items, rest) ← readItems fuel rest
              pure (item :: items, rest)
          | _ => none

def readInline : Nat → Entries R → List Char → Option (Entries R × List Char)
  | 0, _, _ => none
  | fuel + 1, entries, cs => do
      let cs ← skipSpace cs.length cs
      match cs with
      | '\x7d' :: rest => pure (entries, rest)
      | cs => do
          let (key, rest) ← key? (cs.length + 1) cs
          match rest with
          | '=' :: rest => do
              let (tree, rest) ← readValue fuel (skipBlanks rest)
              let name ← key.getLast?
              let entries ← putDotted tree name key.dropLast true entries
              let rest ← skipSpace rest.length rest
              match rest with
              | '\x7d' :: rest => pure (entries, rest)
              | ',' :: rest => readInline fuel entries rest
              | _ => none
          | _ => none
end

structure Progress (R : Type) where
  root : Entries R
  current : List String

def readHeader (state : Progress R) (cs : List Char) : Option (Progress R × List Char) :=
  match cs with
  | '[' :: '[' :: cs => do
      let (key, rest) ← key? (cs.length + 1) cs
      match rest with
      | ']' :: ']' :: rest => do
          let name ← key.getLast?
          let root ← within (beginElement name) key.dropLast state.root
          pure (⟨root, key⟩, rest)
      | _ => none
  | '[' :: cs => do
      let (key, rest) ← key? (cs.length + 1) cs
      match rest with
      | ']' :: rest => do
          let name ← key.getLast?
          let root ← within (beginTable name) key.dropLast state.root
          pure (⟨root, key⟩, rest)
      | _ => none
  | _ => none

def readEntry (state : Progress R) (cs : List Char) : Option (Progress R × List Char) := do
  let (key, rest) ← key? (cs.length + 1) cs
  match rest with
  | '=' :: rest => do
      let (tree, rest) ← readValue (2 * rest.length + 2) (skipBlanks rest)
      let name ← key.getLast?
      let root ← within (putDotted tree name key.dropLast true) state.current state.root
      pure (⟨root, state.current⟩, rest)
  | _ => none

def readLines : Nat → Progress R → List Char → Option (Progress R)
  | 0, _, _ => none
  | fuel + 1, state, cs =>
      match skipBlanks cs with
      | [] => some state
      | c :: cs =>
          if c = '#' ∨ c = '\n' ∨ c = '\r' then do
            let rest ← endLine (c :: cs)
            readLines fuel state rest
          else do
            let (state, rest) ← if c = '[' then readHeader state (c :: cs) else readEntry state (c :: cs)
            let rest ← endLine rest
            readLines fuel state rest

def read (s : String) : Option (Tree R) :=
  let cs := match s.toList with
    | '\ufeff' :: cs => cs
    | cs => cs
  (readLines (cs.length + 1) ⟨[], []⟩ cs).map fun state => .record (entriesTree state.root)

end Workcell.Document.Toml
