/-!
Ids of new materials: the class followed by six hexadecimal digits from a seeded stream.

The stream is the ChaCha block function of twelve rounds, its key spread from the seed by a linear congruential
generator with permuted output. A word is usable when bit 7 is clear, and its upper 24 bits are the number.
-/

set_option autoImplicit false

namespace Workcell.Ids

def rotateLeft (x : UInt32) (n : UInt32) : UInt32 := (x <<< n) ||| (x >>> (32 - n))

def rotateRight (x : UInt32) (n : UInt32) : UInt32 :=
  if n = 0 then x else (x >>> n) ||| (x <<< (32 - n))

def spread (state : UInt64) : UInt64 := state * 6364136223846793005 + 11634580027462260723

def keyWord (state : UInt64) : UInt32 :=
  rotateRight (((state >>> 18) ^^^ state) >>> 27).toUInt32 (state >>> 59).toUInt32

def keyWords : Nat → UInt64 → List UInt32
  | 0, _ => []
  | n + 1, state => keyWord (spread state) :: keyWords n (spread state)

abbrev Block := Vector UInt32 16

def quarter (x : Block) (a b c d : Fin 16) : Block :=
  let x := x.set a (x[a] + x[b])
  let x := x.set d (rotateLeft (x[d] ^^^ x[a]) 16)
  let x := x.set c (x[c] + x[d])
  let x := x.set b (rotateLeft (x[b] ^^^ x[c]) 12)
  let x := x.set a (x[a] + x[b])
  let x := x.set d (rotateLeft (x[d] ^^^ x[a]) 8)
  let x := x.set c (x[c] + x[d])
  x.set b (rotateLeft (x[b] ^^^ x[c]) 7)

def doubleRound (x : Block) : Block :=
  let x := quarter x 0 4 8 12
  let x := quarter x 1 5 9 13
  let x := quarter x 2 6 10 14
  let x := quarter x 3 7 11 15
  let x := quarter x 0 5 10 15
  let x := quarter x 1 6 11 12
  let x := quarter x 2 7 8 13
  quarter x 3 4 9 14

def rounds : Nat → Block → Block
  | 0, x => x
  | n + 1, x => rounds n (doubleRound x)

def start (key : List UInt32) (counter : Nat) : Block :=
  Vector.ofFn fun i =>
    let words := [0x61707865, 0x3320646e, 0x79622d32, 0x6b206574] ++ key ++
      [counter.toUInt32, (counter / Nat.pow 2 32).toUInt32, 0, 0]
    words.getD i 0

def block (key : List UInt32) (counter : Nat) : Block :=
  let first := start key counter
  let mixed := rounds 6 first
  Vector.ofFn fun i => mixed[i] + first[i]

structure Source where
  key : List UInt32
  counter : Nat
  pending : List UInt32

def Source.seeded (seed : Nat) : Source := ⟨keyWords 8 seed.toUInt64, 0, []⟩

def Source.word (source : Source) : UInt32 × Source :=
  match source.pending with
  | w :: rest => (w, ⟨source.key, source.counter, rest⟩)
  | [] =>
      let words := (block source.key source.counter).toList
      (words.headD 0, ⟨source.key, source.counter + 1, words.tail⟩)

def usable (w : UInt32) : Bool := w &&& 0x80 == 0

-- The next usable word; one in two is, and the fuel bounds how many are skipped.
def Source.usableWord : Nat → Source → UInt32 × Source
  | 0, source => source.word
  | fuel + 1, source =>
      let (w, source) := source.word
      if usable w then (w, source) else Source.usableWord fuel source

def maxSkips : Nat := 100000

def Source.number (source : Source) : Nat × Source :=
  let (w, source) := source.usableWord maxSkips
  ((w >>> 8).toNat, source)

def hexText (n : Nat) : String :=
  let digits := Nat.toDigits 16 n
  String.ofList (List.replicate (6 - digits.length) '0' ++ digits)

def Source.next (source : Source) (className : String) : String × Source :=
  let (n, source) := source.number
  (className ++ "-" ++ hexText n, source)

end Workcell.Ids
