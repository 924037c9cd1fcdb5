import Switchyard.Text.Split
import Switchyard.Text.Utf8

/-!
# Request targets

A target is a path with an optional query, an absolute address, or an authority alone. A fragment is cut
off. Text outside ASCII may stand in paths and queries unescaped.
-/

namespace Switchyard

/-- A request target. -/
structure Uri where
  scheme : Option String
  authority : Option String
  path : String
  query : Option String
  deriving DecidableEq, Repr

namespace Uri

/-- The written form of a target. -/
def text (u : Uri) : String :=
  (u.scheme.map (· ++ "://")).getD "" ++ u.authority.getD "" ++ u.path ++ (u.query.map ("?" ++ ·)).getD ""

/-- A character between two others. -/
def isBetween (first last : Nat) (c : Char) : Bool := first ≤ c.toNat && c.toNat ≤ last

/-- A character that a path may hold. -/
def isPathChar (c : Char) : Bool :=
  c == '!' || isBetween 0x24 0x3B c || c == '=' || isBetween 0x40 0x5F c || isBetween 0x61 0x7A c
    || c == '|' || c == '~' || 0x7F ≤ c.toNat || c == '"' || c == '{' || c == '}'

/-- A character that a query may hold. -/
def isQueryChar (c : Char) : Bool :=
  c == '!' || isBetween 0x24 0x3B c || c == '=' || 0x3F ≤ c.toNat

/-- What precedes a fragment. -/
def withoutFragment (cs : List Char) : List Char := cs.takeWhile (· != '#')

/-- The path and the query of a target without its authority; an empty path is the root. -/
def pathAndQuery? (cs : List Char) : Option (String × Option String) :=
  let cs := withoutFragment cs
  let path := cs.takeWhile (· != '?')
  let query := match cs.dropWhile (· != '?') with
    | [] => none
    | _ :: rest => some rest
  if path.all isPathChar && (query.getD []).all isQueryChar then
    some (if path.isEmpty then "/" else .ofList path, query.map .ofList)
  else none

/-! ## Authorities -/

/-- What the characters of an authority have shown so far. -/
structure AuthorityScan where
  colons : Nat
  opened : Bool
  closed : Bool
  percent : Bool
  /-- The last character was the mark after a user. -/
  atEnd : Bool

/-- A character of an authority other than its punctuation. -/
def isAuthorityChar (c : Char) : Bool :=
  isBetween 0x30 0x39 c || isBetween 0x41 0x5A c || isBetween 0x61 0x7A c
    || ['!', '$', '&', '\'', '(', ')', '*', '+', ',', '-', '.', ';', '=', '_', '~'].contains c

/-- Reads an authority up to a slash, a question mark or a fragment; gives it and the rest. -/
def scanAuthority (s : AuthorityScan) (read : List Char) : List Char → Option (List Char × List Char)
  | [] => finish [] s
  | c :: rest =>
    if c = '/' ∨ c = '?' ∨ c = '#' then finish (c :: rest) s
    else if c = ':' then
      if 8 ≤ s.colons then none
      else scanAuthority { s with colons := s.colons + 1, atEnd := false } (c :: read) rest
    else if c = '[' then
      if s.percent || s.opened then none
      else scanAuthority { s with opened := true, atEnd := false } (c :: read) rest
    else if c = ']' then
      if !s.opened || s.closed then none
      else scanAuthority { s with closed := true, colons := 0, percent := false, atEnd := false } (c :: read) rest
    else if c = '@' then
      scanAuthority { s with colons := 0, percent := false, atEnd := true } (c :: read) rest
    else if c = '%' then scanAuthority { s with percent := true, atEnd := false } (c :: read) rest
    else if isAuthorityChar c then scanAuthority { s with atEnd := false } (c :: read) rest
    else none
where
  /-- Accepts what was read if nothing in it is left open. -/
  finish (rest : List Char) (s : AuthorityScan) : Option (List Char × List Char) :=
    if s.opened != s.closed || 1 < s.colons || s.atEnd || s.percent then none else some (read.reverse, rest)

/-- Reads an authority from the front of a text. -/
def authority? (cs : List Char) : Option (List Char × List Char) :=
  scanAuthority ⟨0, false, false, false, false⟩ [] cs

/-- A character of a scheme. -/
def isSchemeChar (c : Char) : Bool :=
  isBetween 0x30 0x39 c || isBetween 0x41 0x5A c || isBetween 0x61 0x7A c || c == '+' || c == '-' || c == '.'

/-- The scheme in front of an absolute address; none if a text has no scheme. -/
def scheme? (cs : List Char) : Option (List Char × List Char) :=
  match cs.dropWhile isSchemeChar with
  | ':' :: '/' :: '/' :: rest => some (cs.takeWhile isSchemeChar, rest)
  | _ => none

/-- A scheme as it is kept: those of the web lose their capitals, and others stay as they are written. -/
def keptScheme (cs : List Char) : List Char :=
  let lower := cs.map Char.toLower
  if lower = "http".toList || lower = "https".toList then lower else cs

/-- Reads a target. -/
def parse? (s : String) : Option Uri :=
  let cs := s.toList
  if 65534 < s.utf8ByteSize then none
  else
    match cs with
    | [] => none
    | ['*'] => some ⟨none, none, "*", none⟩
    | '/' :: _ => (pathAndQuery? cs).map fun (path, query) => ⟨none, none, path, query⟩
    | _ =>
      match scheme? cs with
      | none =>
        match authority? cs with
        | some (authority, []) => some ⟨none, some (.ofList authority), "", none⟩
        | _ => none
      | some (scheme, rest) =>
        if 64 < scheme.length then none
        else
          match authority? rest with
          | none => none
          | some ([], _) => none
          | some (authority, rest) =>
            (pathAndQuery? rest).map fun (path, query) =>
              ⟨some (.ofList (keptScheme scheme)), some (.ofList authority), path, query⟩

end Uri

end Switchyard
