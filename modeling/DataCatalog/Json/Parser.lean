import DataCatalog.Json.Basic
import DataCatalog.Text.Escape

/-!
# Reading JSON

A text is read from left to right into a `Reading`; where it breaks a rule the reading has a fault
and ends.  Numbers without point and exponent are integers as long as 64 bits hold them.  Other
numbers are the first digits that fit in 64 bits, rounded, and then multiplied or divided by a
power of ten; one beyond every finite number is a fault.
-/

set_option autoImplicit false

namespace DataCatalog.Json

/-- How deep arrays and objects may be nested, and one. -/
def depthLimit : Nat := 128

def isSpace (c : Char) : Bool :=
  c == ' ' || c == '\n' || c == '\t' || c == '\r'

def skipSpace (cs : List Char) : List Char := cs.dropWhile isSpace

/-- What was read and what follows; nothing follows a fault. -/
abbrev Step := Reading × Option (List Char)

def stop : Step := (.fault, none)

/-! ## Numbers -/

/-- The power of ten nearest to `10 ^ k`. -/
def powerOfTen (k : Nat) : Binary64 := Binary64.ofDecimal false 1 k

/-- A significand times a power of ten, in steps of at most `10 ^ 308`; `fuel` bounds the steps,
and two divisions bring every significand to zero. -/
def scaleBy : Nat → Binary64 → Int → Option Binary64
  | 0, x, _ => some x
  | fuel + 1, x, exponent =>
      if exponent.natAbs ≤ 308 then
        if exponent ≥ 0 then
          let product := x.mul (powerOfTen exponent.natAbs)
          if product.isInfinite then none else some product
        else some (x.div (powerOfTen exponent.natAbs))
      else if x.isZero then some x
      else if exponent ≥ 0 then none
      else scaleBy fuel (x.div (powerOfTen 308)) (exponent + 308)

/-- The number of a sign, a significand and an exponent. -/
def floatOf (negative : Bool) (significand : Nat) (exponent : Int) : Reading :=
  match scaleBy 8 (Binary64.ofRatio false significand 1) exponent with
  | some x => .float (if negative then Binary64.ofMagnitude true x.bits.toNat else x)
  | none => .fault

def isDigit (c : Char) : Bool := '0' ≤ c && c ≤ '9'

/-- Adds digits to a significand while 64 bits hold it; gives the significand, the number of digits
added and the digits left over. -/
def addDigits (significand count : Nat) : List Char → Nat × Nat × List Char
  | [] => (significand, count, [])
  | c :: rest =>
      let next := significand * 10 + (c.toNat - '0'.toNat)
      -- digits beyond 64 bits are left, and count as powers of ten
      if next < Nat.pow 2 64 then addDigits next (count + 1) rest else (significand, count, c :: rest)

/-- The largest exponent that is told apart from larger ones. -/
def exponentLimit : Int := Int.pow 2 31 - 1

/-- The number that ends in an exponent, after its letter. -/
def withExponent (negative : Bool) (significand : Nat) (exponent : Int) (cs : List Char) : Step :=
  let (down, ds) :=
    match cs with
    | '+' :: rest => (false, rest)
    | '-' :: rest => (true, rest)
    | _ => (false, cs)
  let digits := ds.takeWhile isDigit
  let rest := ds.dropWhile isDigit
  if digits.isEmpty then stop
  else
    let written : Int := digits.foldl (fun n c => n * 10 + (c.toNat - '0'.toNat)) 0
    if written > exponentLimit then
      -- a number too large is refused, and one too small is zero
      if significand ≠ 0 && !down then stop
      else (.float (Binary64.zero negative), some rest)
    else
      let total := if down then exponent - written else exponent + written
      let held := max (-exponentLimit - 1) (min exponentLimit total)
      match floatOf negative significand held with
      | .fault => stop
      | r => (r, some rest)

/-- The end of a number with a significand and an exponent: a written exponent, or nothing. -/
def endOfFloat (negative : Bool) (significand : Nat) (exponent : Int) (cs : List Char) : Step :=
  match cs with
  | 'e' :: rest => withExponent negative significand exponent rest
  | 'E' :: rest => withExponent negative significand exponent rest
  | _ =>
      match floatOf negative significand exponent with
      | .fault => stop
      | r => (r, some cs)

/-- The number after its point. -/
def withFraction (negative : Bool) (significand : Nat) (exponent : Int) (cs : List Char) : Step :=
  let digits := cs.takeWhile isDigit
  let rest := cs.dropWhile isDigit
  if digits.isEmpty then stop
  else
    let (held, count, _) := addDigits significand 0 digits
    endOfFloat negative held (exponent - count) rest

/-- An integer that 64 bits hold, as far as they do. -/
def integer (negative : Bool) (significand : Nat) : Reading :=
  if !negative then .int significand
  else if significand = 0 || significand > Nat.pow 2 63 then
    .float (Binary64.ofRatio true significand 1)
  else .int (-(significand : Int))

/-- A number after its sign. -/
def number (negative : Bool) (cs : List Char) : Step :=
  let digits := cs.takeWhile isDigit
  let rest := cs.dropWhile isDigit
  match digits with
  | [] => stop
  | '0' :: _ :: _ => stop
  | _ =>
      let (significand, _, left) := addDigits 0 0 digits
      match rest with
      | '.' :: fraction => withFraction negative significand left.length fraction
      | 'e' :: _ => endOfFloat negative significand left.length rest
      | 'E' :: _ => endOfFloat negative significand left.length rest
      | _ =>
          if left.isEmpty then (integer negative significand, some rest)
          else endOfFloat negative significand left.length rest

/-! ## Strings -/

/-- The rest of a string after its opening quote: its characters, and what follows the closing
quote.  Two escapes of surrogates make one character; a lone one is refused. -/
def stringRest (acc : List Char) : List Char → Option (List Char × List Char)
  | [] => none
  | '"' :: rest => some (acc.reverse, rest)
  | '\\' :: 'u' :: a :: b :: c :: d :: '\\' :: 'u' :: e :: f :: g :: h :: rest =>
      match Text.hexFour? a b c d with
      | none => none
      | some n =>
          -- the first escape is half of a character, or the next one stands for itself
          if Text.isSurrogate n then
            match (Text.hexFour? e f g h).bind (Text.surrogatePair? n) with
            | some char => stringRest (char :: acc) rest
            | none => none
          else stringRest (Char.ofNat n :: acc) ('\\' :: 'u' :: e :: f :: g :: h :: rest)
  | '\\' :: 'u' :: a :: b :: c :: d :: rest =>
      match Text.hexFour? a b c d with
      | none => none
      | some n =>
          if Text.isSurrogate n then none else stringRest (Char.ofNat n :: acc) rest
  | '\\' :: c :: rest =>
      match Text.letterEscape? c with
      | some e => stringRest (e :: acc) rest
      | none => none
  | c :: rest => if c.toNat < 0x20 || c = '\\' then none else stringRest (c :: acc) rest

/-! ## Values -/

/-- A word with a value. -/
def word (spelling : String) (r : Reading) (cs : List Char) : Step :=
  match Text.after? spelling.toList cs with
  | some rest => (r, some rest)
  | none => stop

mutual

/-- One value; `depth` counts the nesting that is left. -/
def value (fuel depth : Nat) (cs : List Char) : Step :=
  match fuel with
  | 0 => stop
  | fuel + 1 =>
      match skipSpace cs with
      | 'n' :: rest => word "ull" .null rest
      | 't' :: rest => word "rue" (.bool true) rest
      | 'f' :: rest => word "alse" (.bool false) rest
      | '"' :: rest =>
          match stringRest [] rest with
          | some (s, after) => (.string (String.ofList s), some after)
          | none => stop
      | '-' :: rest => number true rest
      | '[' :: rest =>
          if depth ≤ 1 then stop
          else
            let (items, after) := elements fuel (depth - 1) true rest
            (.seq items, after)
      | '{' :: rest =>
          if depth ≤ 1 then stop
          else
            let (entries, after) := members fuel (depth - 1) true rest
            (.map entries, after)
      | c :: rest => if isDigit c then number false (c :: rest) else stop
      | [] => stop

/-- The elements of an array up to its end; a comma stands before all but the first. -/
def elements (fuel depth : Nat) (first : Bool) (cs : List Char) :
    List Reading × Option (List Char) :=
  match fuel with
  | 0 => ([.fault], none)
  | fuel + 1 =>
      match skipSpace cs with
      | ']' :: rest => ([], some rest)
      | ',' :: rest =>
          -- a comma may neither come first nor last
          if first then ([.fault], none)
          else
            match skipSpace rest with
            | ']' :: _ => ([.fault], none)
            | _ => element fuel depth rest
      | rest => if first then element fuel depth rest else ([.fault], none)

/-- One element of an array and those after it. -/
def element (fuel depth : Nat) (cs : List Char) : List Reading × Option (List Char) :=
  match fuel with
  | 0 => ([.fault], none)
  | fuel + 1 =>
      match value fuel depth cs with
      | (r, none) => ([r], none)
      | (r, some rest) =>
          let (items, after) := elements fuel depth false rest
          (r :: items, after)

/-- The entries of an object up to its end; a comma stands before all but the first. -/
def members (fuel depth : Nat) (first : Bool) (cs : List Char) :
    List (Reading × Reading) × Option (List Char) :=
  match fuel with
  | 0 => ([(.fault, .fault)], none)
  | fuel + 1 =>
      match skipSpace cs with
      | '}' :: rest => ([], some rest)
      | ',' :: rest =>
          if first then ([(.fault, .fault)], none) else member fuel depth (skipSpace rest)
      | rest => if first then member fuel depth rest else ([(.fault, .fault)], none)

/-- One entry of an object and those after it. -/
def member (fuel depth : Nat) (cs : List Char) : List (Reading × Reading) × Option (List Char) :=
  match fuel with
  | 0 => ([(.fault, .fault)], none)
  | fuel + 1 =>
      match cs with
      | '"' :: rest =>
          match stringRest [] rest with
          | none => ([(.fault, .fault)], none)
          | some (key, afterKey) =>
              let k := Reading.string (String.ofList key)
              match skipSpace afterKey with
              | ':' :: afterColon =>
                  match value fuel depth afterColon with
                  | (r, none) => ([(k, r)], none)
                  | (r, some afterValue) =>
                      let (entries, after) := members fuel depth false afterValue
                      ((k, r) :: entries, after)
              | _ => ([(k, .fault)], none)
      | _ => ([(.fault, .fault)], none)

end

/-- Reads a text. -/
def read (text : String) : TextReading :=
  let cs := text.toList
  match value (3 * cs.length + 3) depthLimit cs with
  | (r, some rest) => ⟨r, (skipSpace rest).isEmpty⟩
  | (r, none) => ⟨r, false⟩

end DataCatalog.Json
