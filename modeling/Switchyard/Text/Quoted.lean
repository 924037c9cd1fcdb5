import Switchyard.Text.Bytes
import Switchyard.Text.Unprintable

/-!
# Quoted texts

A text between quotes, in which quotes, backslashes and characters that are not shown are escaped. A
message escapes a zero always in the same way; a literal in program text minds the digit after it.
-/

namespace Switchyard

/-- The escape of a character by its number. -/
def unicodeEscape (c : Char) : List Char :=
  '\\' :: 'u' :: '{' :: (Nat.toDigits 16 c.toNat ++ ['}'])

/-- A character other than zero inside quotes. -/
def quotedChar (c : Char) : List Char :=
  if c = '"' then ['\\', '"']
  else if c = '\\' then ['\\', '\\']
  else if c = '\n' then ['\\', 'n']
  else if c = '\r' then ['\\', 'r']
  else if c = '\t' then ['\\', 't']
  else if isUnprintable c then unicodeEscape c
  else [c]

/-- The quoted form of messages. -/
def quoted (s : String) : String :=
  .ofList ('"' :: (s.toList.flatMap fun c => if c.toNat = 0 then ['\\', '0'] else quotedChar c) ++ ['"'])

/-- The characters of a literal; a zero before an octal digit is written with two digits. -/
def literalChars : List Char → List Char
  | [] => []
  | c :: rest =>
    let text :=
      if c.toNat ≠ 0 then quotedChar c
      else
        match rest with
        | d :: _ => if '0' ≤ d ∧ d ≤ '7' then ['\\', 'x', '0', '0'] else ['\\', '0']
        | [] => ['\\', '0']
    text ++ literalChars rest

/-- The literal of a text in program text. -/
def literal (s : String) : String := .ofList ('"' :: literalChars s.toList ++ ['"'])

/-- The quoted form of a text that may be missing. -/
def quotedOption : Option String → String
  | none => "None"
  | some s => s!"Some({quoted s})"

end Switchyard
