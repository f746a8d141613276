import SchemaAudit.Text.Quoted

/-!
Bytes read as UTF-8. The next character of some bytes is decided by `utf8Step`: it is a character
with its width, or a fault with the number of bytes it covers. A strict reading stops at the first
fault and says where it is; a lenient one puts U+FFFD for each.
-/

namespace SchemaAudit.Text

/-- Why some bytes are not UTF-8. -/
inductive Utf8Reason where
  | invalidStart
  | invalidContinuation
  | unexpectedEnd
  deriving DecidableEq, Repr

/-- What stands next: a character, or a fault, and how many bytes it covers after its first one. -/
inductive Utf8Step where
  | char (c : Char) (more : Nat)
  | fault (reason : Utf8Reason) (more : Nat)

/-- Whether a byte continues a character. -/
def isContinuation (b : UInt8) : Bool := 0x80 ≤ b && b ≤ 0xbf

/-- Whether a byte may follow a first byte: no overlong form, no surrogate, nothing above U+10FFFF. -/
def maySecond (first second : UInt8) : Bool :=
  isContinuation second &&
    !(first = 0xe0 && second < 0xa0) && !(first = 0xed && 0xa0 ≤ second) &&
    !(first = 0xf0 && second < 0x90) && !(first = 0xf4 && 0x90 ≤ second)

/-- The six low bits of a continuation. -/
def low6 (b : UInt8) : Nat := b.toNat % 64

/-- What stands at a byte that announces `more` continuations, the first one worth `lead` high bits. -/
def utf8Longer (first : UInt8) (lead : Nat) (more : Nat) (rest : List UInt8) : Utf8Step :=
  match more, rest with
  | _, [] => .fault .unexpectedEnd 0
  | 1, b :: _ =>
    if maySecond first b then .char (Char.ofNat (lead * 64 + low6 b)) 1
    else .fault .invalidContinuation 0
  | 2, b :: cs =>
    if maySecond first b then
      match cs with
      | [] => .fault .unexpectedEnd 1
      | c :: _ =>
        if isContinuation c then .char (Char.ofNat ((lead * 64 + low6 b) * 64 + low6 c)) 2
        else .fault .invalidContinuation 1
    else .fault .invalidContinuation 0
  | _, b :: cs =>
    if maySecond first b then
      match cs with
      | [] => .fault .unexpectedEnd 1
      | c :: ds =>
        if isContinuation c then
          match ds with
          | [] => .fault .unexpectedEnd 2
          | d :: _ =>
            if isContinuation d then
              .char (Char.ofNat (((lead * 64 + low6 b) * 64 + low6 c) * 64 + low6 d)) 3
            else .fault .invalidContinuation 2
        else .fault .invalidContinuation 1
    else .fault .invalidContinuation 0

/-- What stands at the start of `first :: rest`. -/
def utf8Step (first : UInt8) (rest : List UInt8) : Utf8Step :=
  if first < 0x80 then .char (Char.ofNat first.toNat) 0
  else if first < 0xc2 then .fault .invalidStart 0
  else if first < 0xe0 then utf8Longer first (first.toNat % 32) 1 rest
  else if first < 0xf0 then utf8Longer first (first.toNat % 16) 2 rest
  else if first < 0xf5 then utf8Longer first (first.toNat % 8) 3 rest
  else .fault .invalidStart 0

/-- Where and why some bytes are not UTF-8: the covered positions are `start` to `last`. -/
structure Utf8Error where
  reason : Utf8Reason
  firstByte : UInt8
  start : Nat
  last : Nat
  deriving DecidableEq, Repr

/-- What a reason says. -/
def Utf8Reason.message : Utf8Reason → String
  | invalidStart => "invalid start byte"
  | invalidContinuation => "invalid continuation byte"
  | unexpectedEnd => "unexpected end of data"

/-- What a refusal says: the byte if it is one, else the range of positions. -/
def Utf8Error.message (e : Utf8Error) : String :=
  if e.start = e.last then
    let byte := String.ofList (hex 2 e.firstByte.toNat)
    s!"'utf-8' codec can't decode byte 0x{byte} in position {e.start}: {e.reason.message}"
  else s!"'utf-8' codec can't decode bytes in position {e.start}-{e.last}: {e.reason.message}"

/-- The text of some bytes that start at a position, or the first fault. -/
def decodeFrom (position : Nat) : List UInt8 → Except Utf8Error (List Char)
  | [] => .ok []
  | first :: rest =>
    match utf8Step first rest with
    | .char c more => (decodeFrom (position + more + 1) (rest.drop more)).map (c :: ·)
    | .fault reason more => .error ⟨reason, first, position, position + more⟩
  termination_by bytes => bytes.length
  decreasing_by simp only [List.length_drop, List.length_cons]; omega

/-- The text of some bytes, if they are UTF-8 throughout. -/
def decodeUtf8 (bytes : List UInt8) : Except Utf8Error (List Char) := decodeFrom 0 bytes

/-- The text of some bytes, with U+FFFD for each fault. -/
def decodeUtf8Lossy : List UInt8 → List Char
  | [] => []
  | first :: rest =>
    match utf8Step first rest with
    | .char c more => c :: decodeUtf8Lossy (rest.drop more)
    | .fault _ more => '\uFFFD' :: decodeUtf8Lossy (rest.drop more)
  termination_by bytes => bytes.length
  decreasing_by all_goals (simp only [List.length_drop, List.length_cons]; omega)

/-- The mark at the start of some text in UTF-8. -/
def utf8Mark : List UInt8 := [0xef, 0xbb, 0xbf]

/-- The half of a pair that some bytes write as if it were a character, and the bytes after it. -/
def writtenHalf? [StandIns] : List UInt8 → Option (Char × List UInt8)
  | 0xed :: b :: c :: rest =>
    if 0xa0 ≤ b && isContinuation b && isContinuation c then
      some (unitChar ((0xd * 64 + low6 b) * 64 + low6 c), rest)
    else none
  | _ => none

/-- What a written half leaves is shorter. -/
theorem length_of_writtenHalf? [StandIns] {bytes rest : List UInt8} {c : Char}
    (h : writtenHalf? bytes = some (c, rest)) : rest.length < bytes.length := by
  unfold writtenHalf? at h
  split at h
  · split at h
    · simp only [Option.some.injEq, Prod.mk.injEq] at h
      rw [← h.2]
      simp only [List.length_cons]
      omega
    · simp at h
  · simp at h

/-- The text of some bytes in which halves of pairs may be written by themselves, if there is no fault. -/
def decodePassing? [StandIns] (bytes : List UInt8) : Option (List Char) :=
  match _h : writtenHalf? bytes with
  | some (c, rest) => (decodePassing? rest).map (c :: ·)
  | none =>
    match _b : bytes with
    | [] => some []
    | first :: rest =>
      match utf8Step first rest with
      | .char c more => (decodePassing? (rest.drop more)).map (c :: ·)
      | .fault _ _ => none
  termination_by bytes.length
  decreasing_by
    · exact length_of_writtenHalf? _h
    · simp only [List.length_drop, List.length_cons]; omega

/-- The bytes of a text. -/
def encodeUtf8 (s : List Char) : List UInt8 := s.flatMap String.utf8EncodeChar

/-- Line ends of every convention as the line feed. -/
def universalNewlines : List Char → List Char
  | [] => []
  | '\r' :: '\n' :: rest => '\n' :: universalNewlines rest
  | '\r' :: rest => '\n' :: universalNewlines rest
  | c :: rest => c :: universalNewlines rest

end SchemaAudit.Text
