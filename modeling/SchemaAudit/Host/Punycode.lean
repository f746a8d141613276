/-!
Code points in letters and digits. What is ASCII comes first as it is; the rest follows as distances,
each a number in base 36 whose digits say by themselves which is the last. The bound between the two
kinds of digits follows the sizes of the distances before. Every loop ends for a reason of its own: a
distance is divided, or a list gets shorter.
-/

namespace SchemaAudit.Host.Punycode

/-- The digit of a value below 36: letters first. -/
def digit (n : Nat) : Char := Char.ofNat (if n < 26 then 0x61 + n else 0x30 + (n - 26))

/-- The value of a digit. -/
def digitValue? (c : Char) : Option Nat :=
  if c.isLower then some (c.toNat - 0x61)
  else if c.isUpper then some (c.toNat - 0x41)
  else if c.isDigit then some (c.toNat - 0x30 + 26)
  else none

/-- The value from which on the digit at a place is not the last one; places count by 36. -/
def bound (bias place : Nat) : Nat := min 26 (max 1 (place - bias))

/-- A distance divided until it is small, and how often, by 36. -/
def shrink (distance : Nat) : Nat × Nat :=
  if 455 < distance then
    let (rest, times) := shrink (distance / 35)
    (rest, times + 36)
  else (distance, 0)
  termination_by distance
  decreasing_by omega

/-- The bias after a distance, so many code points being written by then. -/
def nextBias (distance count : Nat) (first : Bool) : Nat :=
  let distance := if first then distance / 700 else distance / 2
  let (rest, times) := shrink (distance + distance / count)
  times + 36 * rest / (rest + 38)

/-! ### Writing -/

/-- A distance in digits from a place on. -/
def distanceText (bias place distance : Nat) : List Char :=
  let t := bound bias place
  if distance < t then [digit distance]
  else digit (t + (distance - t) % (36 - t)) :: distanceText bias (place + 36) ((distance - t) / (36 - t))
  termination_by distance
  decreasing_by
    have positive : 1 ≤ bound bias place := by unfold bound; omega
    exact Nat.lt_of_le_of_lt (Nat.div_le_self _ _) (by omega)

/-- What is known while code points are written: the bias, the distance since the last one, and how many
code points are written. -/
structure Writing where
  bias : Nat
  distance : Nat
  count : Nat
  text : List Char

/-- One code point passed in the search for all those of a value. -/
def Writing.pass (value : Nat) (w : Writing) (n : Nat) : Writing :=
  if n < value then { w with distance := w.distance + 1 }
  else if n = value then {
    bias := nextBias w.distance (w.count + 1) w.text.isEmpty
    distance := 0
    count := w.count + 1
    text := w.text ++ distanceText w.bias 36 w.distance }
  else w

/-- The distances to the code points of some values in increasing order, all above those `below`. -/
def distances (s : List Nat) (below : Nat) (w : Writing) : List Nat → List Char
  | [] => w.text
  | value :: values =>
    let near := { w with distance := w.distance + (value - below) * (w.count + 1) }
    let passed := s.foldl (Writing.pass value) near
    distances s (value + 1) { passed with distance := passed.distance + 1 } values

/-- The form in ASCII of some code points. -/
def encode (s : List Nat) : List Char :=
  let plain := s.filter (· < 0x80)
  let values := ((s.filter (0x80 ≤ ·)).eraseDups).mergeSort
  plain.map Char.ofNat ++ (if plain.isEmpty then [] else ['-']) ++
    distances s 0x80 ⟨72, 0, plain.length, []⟩ values

/-! ### Reading -/

/-- A distance at the start of a text, and what follows it. -/
def readDistance (bias : Nat) (place weight sum : Nat) : List Char → Option (Nat × List Char)
  | [] => none
  | c :: rest =>
    match digitValue? c with
    | none => none
    | some d =>
      let t := bound bias place
      if d < t then some (sum + d * weight, rest)
      else readDistance bias (place + 36) (weight * (36 - t)) (sum + d * weight) rest

/-- Reading a distance leaves less text. -/
theorem readDistance_length {bias place weight sum distance : Nat} {s rest : List Char}
    (h : readDistance bias place weight sum s = some (distance, rest)) : rest.length < s.length := by
  induction s generalizing place weight sum with
  | nil => simp [readDistance] at h
  | cons c s ih =>
    simp only [readDistance] at h
    split at h
    · simp at h
    · split at h
      · simp only [Option.some.injEq, Prod.mk.injEq] at h
        simp [← h.2]
      · exact Nat.lt_trans (ih h) (by simp)

/-- The code points that distances put among those that are there already, and whether all of them could be
read. The next one is not below `value` and, if it is the same value, not before `index`; one that is too
high reads as a question mark. -/
def placeAll (bias value index : Nat) (first : Bool) (s : List Nat) (text : List Char) : List Nat × Bool :=
  if text.isEmpty then (s, true)
  else
    match h : readDistance bias 36 1 0 text with
    | none => (s, false)
    | some (distance, rest) =>
      let count := s.length + 1
      let next := value + (index + distance) / count
      let value := if next < 0x110000 then next else 0x3f
      let index := (index + distance) % count
      have : rest.length < text.length := readDistance_length h
      let (s, good) := placeAll (nextBias distance count first) value (index + 1) false
        (s.take index ++ value :: s.drop index) rest
      (s, good && next < 0x110000)
  termination_by text.length

/-- The code points of a form in ASCII. -/
def decode? (text : List Char) : Option (List Nat) :=
  let ending := (text.reverse.takeWhile (· ≠ '-')).reverse
  let plain := text.take (text.length - ending.length - 1)
  let (s, good) := placeAll 72 0x80 0 true (plain.map Char.toNat) ending
  if good then some s else none

end SchemaAudit.Host.Punycode
