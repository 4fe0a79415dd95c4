/-!
# The Mersenne Twister

The generator MT19937: 624 words of state, all renewed at once when each has been given out, and
tempered one by one on the way. It is seeded from a list of words.

The words are made one after the other, each from words made before, so a list of them is built or
gone through only once.
-/

namespace Vivarium.Chance

/-- The state of the generator: its words, and how many of them have been given out. -/
structure Twister where
  words : Vector UInt32 624
  used : Fin 625
deriving DecidableEq

namespace Twister

/-- The number of states. Nothing should try to write it out. -/
@[irreducible] def stateCount : Nat := 625 * Nat.pow 2 19968

/-! ## Seeding -/

/-- What a word passes on to the next one while seeding. -/
def mix (w : UInt32) : UInt32 := w ^^^ (w >>> 30)

def grow : Nat → Nat → UInt32 → List UInt32
  | 0, _, _ => []
  | count + 1, place, before =>
    let word := 1812433253 * mix before + UInt32.ofNat place
    word :: grow count (place + 1) word

@[simp] theorem length_grow (count place : Nat) (before : UInt32) :
    (grow count place before).length = count := by
  induction count generalizing place before with
  | zero => rfl
  | succ count ih => simp [grow, ih]

/-- The words but the first while a key is stirred in, in laps. In each lap every word is made from
the one that was made last. The first word is not stirred: it is set in the end. -/
structure Stirring where
  /-- The word that was made last. -/
  before : UInt32
  /-- The words of this lap, the last one first. -/
  behind : List UInt32
  /-- The words that are not yet made anew in this lap. -/
  ahead : List UInt32
  length_eq : behind.length + ahead.length = 623

namespace Stirring

/-- The place of the word that is made next. -/
def place (s : Stirring) : Nat := s.behind.length + 1

/-- Makes a word, given the one before it and the one there. After the last place a lap begins. -/
def write (s : Stirring) (f : UInt32 → UInt32 → UInt32) : Stirring :=
  match s with
  | ⟨before, behind, here :: there :: rest, length_eq⟩ =>
    let word := f before here
    ⟨word, word :: behind, there :: rest, by simp only [List.length_cons] at *; omega⟩
  | ⟨before, behind, [here], length_eq⟩ =>
    let word := f before here
    ⟨word, [], (word :: behind).reverse, by simp at *; omega⟩
  | ⟨before, behind, [], length_eq⟩ => ⟨before, [], behind.reverse, by simp at *; omega⟩

/-- All words, once the first is set. -/
def words (s : Stirring) : Vector UInt32 624 :=
  ⟨⟨0x80000000 :: (s.behind.reverse ++ s.ahead)⟩, by simp [s.length_eq]⟩

/-- The words grown from one word, before anything is stirred in. -/
def start (seed : UInt32) : Stirring := ⟨seed, [], grow 623 1 seed, by simp⟩

/-- Stirs in the words of a key, from the `index`-th on and over again, `count` times. -/
def withKey (key : List UInt32) (index : Nat) : List UInt32 → Nat → Stirring → Stirring
  | _, 0, s => s
  | [], count + 1, s =>
    match key with
    | [] => s
    | k :: rest =>
      withKey key 1 rest count (s.write fun before here => (here ^^^ mix before * 1664525) + k)
  | k :: rest, count + 1, s =>
    withKey key (index + 1) rest count
      (s.write fun before here => (here ^^^ mix before * 1664525) + k + UInt32.ofNat index)

/-- Stirs in the places themselves, the next of which is given. -/
def withPlaces : Nat → Nat → Stirring → Stirring
  | 0, _, s => s
  | count + 1, place, s =>
    withPlaces count (if place = 623 then 1 else place + 1)
      (s.write fun before here => (here ^^^ mix before * 1566083941) - UInt32.ofNat place)

end Stirring

/-- The generator seeded with a key. -/
def ofKey (key : List UInt32) : Twister :=
  let stirred := (Stirring.start 19650218).withKey key 0 key (max 624 key.length)
  ⟨(stirred.withPlaces 623 stirred.place).words, 624⟩

/-- The words of a number, least significant first, up to a count. -/
def keyWords : Nat → Nat → List UInt32
  | 0, _ => []
  | count + 1, n => UInt32.ofNat n :: keyWords count (n / Nat.pow 2 32)

def ofNat (seed : Nat) : Twister :=
  ofKey (keyWords (max 1 ((seed.log2 + 32) / 32)) seed)

/-! ## Drawing -/

/-- A new word, made of the word there, the one after it and the one 397 places on. -/
def twist (here after far : UInt32) : UInt32 :=
  let joined := (here &&& 0x80000000) ||| (after &&& 0x7fffffff)
  far ^^^ (joined >>> 1) ^^^ (if joined &&& 1 = 0 then 0 else 0x9908b0df)

/-- New words, as long as there are words after them and far ones. -/
def twists (words far : List UInt32) : List UInt32 :=
  List.zipWith (fun pair far => twist pair.1 pair.2 far) (words.zip words.tail) far

@[simp] theorem length_twists (words far : List UInt32) :
    (twists words far).length = min (words.length - 1) far.length := by
  simp [twists]

/-- All words renewed, in three parts. The words that are 397 places on from the first part are old,
those from the other parts on are new ones of the part before, and so is the word after the last. -/
def renew (words : Vector UInt32 624) : Vector UInt32 624 :=
  let old := words.toList
  let first := twists old (old.drop 397)
  let second := twists (old.drop 227) first
  let third := twists (old.drop 454 ++ first.take 1) second
  ⟨⟨first ++ second ++ third⟩, by simp [old, first, second, third]⟩

/-- A word as it is given out. -/
def temper (w : UInt32) : UInt32 :=
  let a := w ^^^ (w >>> 11)
  let b := a ^^^ ((a <<< 7) &&& 0x9d2c5680)
  let c := b ^^^ ((b <<< 15) &&& 0xefc60000)
  c ^^^ (c >>> 18)

/-- The next word and the state after it. -/
def draw (t : Twister) : UInt32 × Twister :=
  if h : t.used.val < 624 then
    (temper t.words[t.used.val], ⟨t.words, ⟨t.used.val + 1, by omega⟩⟩)
  else
    let words := renew t.words
    (temper words[0], ⟨words, 1⟩)

end Twister

end Vivarium.Chance
