import RevSDK.Connection.QUICDataStream

/-!
# Fields of header blocks

The readings of a parsed header block that the client stream makes.  The
parser of the wire format is a parameter; it returns whether the block is well
formed and the fields it has put into the map.
-/

namespace RevSDK

structure SpdyFramer where
  parseHeaderBlockInBuffer : Data → Bool × SpdyHeaderBlock

namespace HeaderFields

def isSpace (c : Char) : Bool :=
  c == ' ' || ('\t' ≤ c && c ≤ '\r')

/-- Digits up to a bound; what was read so far is returned on failure too. -/
def readDigits (bound : Nat) : Nat → List Char → Bool × Nat
  | value, [] => (true, value)
  | value, c :: rest =>
      if c.isDigit then
        let next := value * 10 + (c.toNat - '0'.toNat)
        if next > bound then (false, bound) else readDigits bound next rest
      else (false, value)

def readNumber (bound : Nat) (digits : List Char) : Bool × Nat :=
  if digits.isEmpty then (false, 0) else readDigits bound 0 digits

def stringToInt (text : List Char) : Bool × Int :=
  let body := text.dropWhile isSpace
  let valid := body.length == text.length
  match body with
  | '-' :: digits =>
      let (ok, value) := readNumber (2 ^ 31) digits
      (valid && ok, -value)
  | '+' :: digits =>
      let (ok, value) := readNumber (2 ^ 31 - 1) digits
      (valid && ok, value)
  | digits =>
      let (ok, value) := readNumber (2 ^ 31 - 1) digits
      (valid && ok, value)

def stringToSizeT (text : List Char) : Option Nat :=
  match text with
  | '-' :: _ => none
  | '+' :: digits =>
      let (ok, value) := readNumber (2 ^ 64 - 1) digits
      if ok then some value else none
  | digits =>
      let (ok, value) := readNumber (2 ^ 64 - 1) digits
      if ok then some value else none

def trimWhitespace (text : List Char) : List Char :=
  ((text.dropWhile isSpace).reverse.dropWhile isSpace).reverse

/-- `base::SplitString` at NUL characters, trimmed, with the empty pieces. -/
def splitAtNul (text : List Char) : List (List Char) :=
  if text.isEmpty then [] else (text.splitOn '\x00').map trimWhitespace

def field (headers : SpdyHeaderBlock) (key : String) : Option String :=
  headers.lookup key

def agreeOnLength : Int → List (List Char) → Option Int
  | contentLength, [] => some contentLength
  | contentLength, value :: rest =>
      let (ok, newValue) := stringToInt value
      if !ok || newValue < 0 then none
      else if contentLength < 0 then agreeOnLength newValue rest
      else if newValue ≠ contentLength then none
      else agreeOnLength contentLength rest

def contentLength (old : Int) (headers : SpdyHeaderBlock) : Option Int :=
  match field headers "content-length" with
  | none => some old
  | some value => agreeOnLength old (splitAtNul value.toList)

/-- The status up to its first blank. -/
def responseStatus (headers : SpdyHeaderBlock) : Bool × Int :=
  let status := (field headers ":status").getD ""
  stringToInt (status.toList.takeWhile fun c => c != ' ')

/-- `ParseTrailers`: the final byte offset, if the trailers are accepted. -/
def finalByteOffset (parsed : Bool × SpdyHeaderBlock) : Option Nat :=
  let (ok, trailers) := parsed
  if !ok || trailers.isEmpty then none
  else
    match (field trailers ":final-offset").bind fun value =>
        stringToSizeT value.toList with
    | none => none
    | some offset =>
        let rest := trailers.filter fun trailer =>
          trailer.1 != ":final-offset"
        if rest.any fun trailer => trailer.1.toList.head? == some ':' then none
        else some offset

end HeaderFields

end RevSDK
