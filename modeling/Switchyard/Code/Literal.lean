import Switchyard.Text.Identifier
import Switchyard.Text.Blank
import Switchyard.Text.Split

/-!
# Literals

Where a literal ends, and the text that a string literal stands for. A scanner returns what follows the
literal, or nothing if there is none at the start.
-/

namespace Switchyard.Code

/-- The value of a hexadecimal digit. -/
def hexValue? (c : Char) : Option Nat :=
  if c.isDigit then some (c.toNat - 48)
  else if 'a' ≤ c ∧ c ≤ 'f' then some (c.toNat - 87)
  else if 'A' ≤ c ∧ c ≤ 'F' then some (c.toNat - 55)
  else none

/-- Identifier characters at the start, and what follows. -/
def identifier? (cs : List Char) : Option (List Char × List Char) :=
  match cs with
  | [] => none
  | c :: rest =>
    if isIdentifierStart c then some (c :: rest.takeWhile isIdentifierPart, rest.dropWhile isIdentifierPart)
    else none

/-- What follows a suffix, which may be missing. -/
def skipSuffix (cs : List Char) : List Char :=
  match identifier? cs with
  | some (_, rest) => rest
  | none => cs

/-! ## Escapes -/

/-- The two digits after `\x` in a text: an ASCII character. -/
def asciiEscape? : List Char → Option (Char × List Char)
  | a :: b :: rest =>
    match hexValue? a, hexValue? b with
    | some x, some y => if x < 8 then some (.ofNat (16 * x + y), rest) else none
    | _, _ => none
  | _ => none

/-- The digits of a character by its number, up to the closing brace. -/
def unicodeDigits? (value digits : Nat) : List Char → Option (Char × List Char)
  | [] => none
  | c :: rest =>
    match hexValue? c with
    | some d => if digits = 6 then none else unicodeDigits? (16 * value + d) (digits + 1) rest
    | none =>
      if digits = 0 then none
      else if c = '_' then unicodeDigits? value digits rest
      else if c = '}' ∧ value.isValidChar then some (.ofNat value, rest)
      else none

/-- What follows `\u` in a text. -/
def unicodeEscape? : List Char → Option (Char × List Char)
  | '{' :: rest => unicodeDigits? 0 0 rest
  | _ => none

/-- The character of a one-letter escape. -/
def plainEscape? (c : Char) : Option Char :=
  match c with
  | 'n' => some '\n'
  | 'r' => some '\r'
  | 't' => some '\t'
  | '\\' => some '\\'
  | '\'' => some '\''
  | '"' => some '"'
  | '0' => some (.ofNat 0)
  | _ => none

/-- A backslash at the end of a line hides the blanks that follow, which may not end the text; a carriage
return stands only before a line feed. -/
def afterContinuation? : (returned : Bool) → List Char → Option (List Char)
  | true, '\n' :: rest => afterContinuation? false rest
  | true, _ => none
  | false, [] => none
  | false, c :: rest =>
    if c = '\r' then afterContinuation? true rest
    else if c = ' ' ∨ c = '\t' ∨ c = '\n' then afterContinuation? false rest
    else some (c :: rest)

/-! ## Texts -/

/-- What an element of a literal may be. -/
structure TextKind where
  /-- The literal holds bytes: characters are ASCII, and an escape by number takes any byte. -/
  bytes : Bool
  /-- A zero may not occur. -/
  zeroEnded : Bool

/-- Whether a kind of literal admits a character. -/
def TextKind.admits (k : TextKind) (c : Char) : Bool :=
  (!k.bytes || c.toNat < 128) && (!k.zeroEnded || c.toNat ≠ 0)

/-- What follows an escape, the backslash having been read. -/
def TextKind.escape? (k : TextKind) : List Char → Option (List Char)
  | 'x' :: a :: b :: rest =>
    if k.bytes || k.zeroEnded then
      match hexValue? a, hexValue? b with
      | some x, some y => if k.zeroEnded && x + y = 0 then none else some rest
      | _, _ => none
    else (asciiEscape? (a :: b :: rest)).map Prod.snd
  | 'u' :: rest =>
    if k.bytes then none
    else
      match unicodeEscape? rest with
      | some (c, rest) => if k.zeroEnded && c.toNat = 0 then none else some rest
      | none => none
  | c :: rest =>
    match plainEscape? c with
    | some d => if k.zeroEnded && d.toNat = 0 then none else some rest
    | none => none
  | [] => none

/-- What follows a text with escapes, its opening quote having been read. -/
def cookedEnd? (k : TextKind) : (fuel : Nat) → List Char → Option (List Char)
  | 0, _ => none
  | _, [] => none
  | _, '"' :: rest => some (skipSuffix rest)
  | fuel + 1, '\r' :: '\n' :: rest => cookedEnd? k fuel rest
  | _, '\r' :: _ => none
  | fuel + 1, '\\' :: rest =>
    match rest with
    | '\n' :: more => (afterContinuation? false more).bind (cookedEnd? k fuel)
    | '\r' :: more => (afterContinuation? true more).bind (cookedEnd? k fuel)
    | _ => (k.escape? rest).bind (cookedEnd? k fuel)
  | fuel + 1, c :: rest => if k.admits c then cookedEnd? k fuel rest else none

/-- What follows the closing quote and as many hashes as opened the text. -/
def rawBodyEnd? (k : TextKind) (hashes : List Char) : List Char → Option (List Char)
  | [] => none
  | c :: rest =>
    match if c = '"' then afterStart? hashes rest else none with
    | some after => some (skipSuffix after)
    | none =>
      if c = '\r' ∧ rest.head? ≠ some '\n' then none
      else if k.admits c then rawBodyEnd? k hashes rest
      else none

/-- What follows a text without escapes, the `r` having been read. -/
def rawEnd? (k : TextKind) (cs : List Char) : Option (List Char) :=
  let hashes := cs.takeWhile (· == '#')
  match cs.dropWhile (· == '#') with
  | '"' :: rest => if hashes.length ≤ 255 then rawBodyEnd? k hashes rest else none
  | _ => none

/-- What follows a text literal of any kind. -/
def textEnd? (cs : List Char) : Option (List Char) :=
  let n := cs.length + 1
  match cs with
  | '"' :: rest => cookedEnd? ⟨false, false⟩ n rest
  | 'r' :: rest => rawEnd? ⟨false, false⟩ rest
  | 'b' :: '"' :: rest => cookedEnd? ⟨true, false⟩ n rest
  | 'b' :: 'r' :: rest => rawEnd? ⟨true, false⟩ rest
  | 'c' :: '"' :: rest => cookedEnd? ⟨false, true⟩ n rest
  | 'c' :: 'r' :: rest => rawEnd? ⟨false, true⟩ rest
  | _ => none

/-- What follows a character or a byte. -/
def characterEnd? (cs : List Char) : Option (List Char) :=
  let body (bytes : Bool) (cs : List Char) : Option (List Char) :=
    match cs with
    | '\\' :: rest => TextKind.escape? ⟨bytes, false⟩ rest
    | c :: rest => if bytes && 128 ≤ c.toNat then none else some rest
    | [] => none
  let ended (rest : Option (List Char)) : Option (List Char) :=
    match rest with
    | some ('\'' :: rest) => some (skipSuffix rest)
    | _ => none
  match cs with
  | 'b' :: '\'' :: rest => ended (body true rest)
  | '\'' :: rest => ended (body false rest)
  | _ => none

/-! ## Numbers -/

/-- A number may not run into an identifier. -/
def wordBreak? (cs : List Char) : Option (List Char) :=
  match cs with
  | c :: _ => if isIdentifierPart c then none else some cs
  | [] => some cs

/-- The rest of a number after its digits: an optional suffix. -/
def numberSuffix? (cs : List Char) : Option (List Char) :=
  match identifier? cs with
  | some (_, rest) => wordBreak? rest
  | none => wordBreak? cs

/-- Digits and underscores. -/
def isDigitOrUnderscore (c : Char) : Bool := c.isDigit || c == '_'

/-- What follows an exponent, if it has a digit; `before` is what follows if it has none. -/
def exponentEnd? (before : Option (List Char)) : (signed valued : Bool) → List Char → Option (List Char)
  | signed, valued, cs =>
    match cs with
    | [] => if valued then some [] else before
    | c :: rest =>
      if c = '+' ∨ c = '-' then
        if valued then some cs
        else if signed then before
        else exponentEnd? before true valued rest
      else if c.isDigit then exponentEnd? before signed true rest
      else if c = '_' then exponentEnd? before signed valued rest
      else if valued then some cs
      else before

/-- What follows the digits of a number with a point or an exponent. -/
def decimalEnd? (cs : List Char) : Option (List Char) :=
  match cs with
  | c :: _ =>
    if !c.isDigit then none
    else
      match cs.dropWhile isDigitOrUnderscore with
      | '.' :: rest =>
        match rest with
        | d :: _ =>
          if d = '.' ∨ isIdentifierStart d then none
          else
            match rest.dropWhile isDigitOrUnderscore with
            | e :: more =>
              if e = 'e' ∨ e = 'E' then exponentEnd? (some (e :: more)) false false more else some (e :: more)
            | [] => some []
        | [] => some []
      | e :: more => if e = 'e' ∨ e = 'E' then exponentEnd? none false false more else none
      | [] => none
  | [] => none

/-- What follows the digits of an integer in a base. -/
def digitsEnd? (base : Nat) : (empty : Bool) → List Char → Option (List Char)
  | empty, [] => if empty then none else some []
  | empty, c :: rest =>
    match hexValue? c with
    | some d =>
      if d < base then digitsEnd? base false rest
      else if c.isDigit then none
      else if empty then none
      else some (c :: rest)
    | none =>
      if c = '_' then if empty && base = 10 then none else digitsEnd? base empty rest
      else if empty then none
      else some (c :: rest)

/-- What follows the digits of an integer. -/
def integerEnd? (cs : List Char) : Option (List Char) :=
  match cs with
  | '0' :: 'x' :: rest => digitsEnd? 16 true rest
  | '0' :: 'o' :: rest => digitsEnd? 8 true rest
  | '0' :: 'b' :: rest => digitsEnd? 2 true rest
  | _ => digitsEnd? 10 true cs

/-- What follows a number. -/
def numberEnd? (cs : List Char) : Option (List Char) :=
  match (decimalEnd? cs).bind numberSuffix? with
  | some rest => some rest
  | none => (integerEnd? cs).bind numberSuffix?

/-- What follows a literal. -/
def literalEnd? (cs : List Char) : Option (List Char) :=
  match textEnd? cs with
  | some rest => some rest
  | none =>
    match characterEnd? cs with
    | some rest => some rest
    | none => numberEnd? cs

/-! ## Values -/

/-- The characters of a text with escapes, up to its closing quote. -/
def cookedValue : (fuel : Nat) → List Char → List Char
  | 0, _ => []
  | _, [] => []
  | _, '"' :: _ => []
  | fuel + 1, '\r' :: '\n' :: rest => '\n' :: cookedValue fuel rest
  | fuel + 1, '\\' :: 'x' :: rest =>
    match asciiEscape? rest with
    | some (c, rest) => c :: cookedValue fuel rest
    | none => []
  | fuel + 1, '\\' :: 'u' :: rest =>
    match unicodeEscape? rest with
    | some (c, rest) => c :: cookedValue fuel rest
    | none => []
  | fuel + 1, '\\' :: c :: rest =>
    match plainEscape? c with
    | some d => d :: cookedValue fuel rest
    | none => cookedValue fuel (rest.dropWhile isBlank)
  | fuel + 1, c :: rest => c :: cookedValue fuel rest

/-- The text of a string literal; other literals have none. -/
def stringValue? (text : String) : Option String :=
  match text.toList with
  | '"' :: rest => some (.ofList (cookedValue rest.length rest))
  | 'r' :: rest =>
    let hashes := rest.takeWhile (· == '#')
    let body := (rest.dropWhile (· == '#')).drop 1
    (rawBody hashes body).map String.ofList
  | _ => none
where
  /-- The characters before the closing quote and its hashes. -/
  rawBody (hashes : List Char) : List Char → Option (List Char)
    | [] => none
    | c :: rest =>
      if c = '"' && (afterStart? hashes rest).isSome then some []
      else (rawBody hashes rest).map (c :: ·)

end Switchyard.Code
