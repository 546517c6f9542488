/-
# Directives, anchors and tags

How the tokens that describe a node or a document are read.  Each function starts at the first
character of its token and gives the token with the place after it.
-/

import LogBalancer.Text.Utf8
import LogBalancer.Yaml.Cursor
import LogBalancer.Yaml.Fault
import LogBalancer.Yaml.Token.Basic

namespace LogBalancer
namespace Yaml

/-- Fails unless a condition holds. -/
def demand (rule : Rule) (condition : Bool) : Except Fault Unit :=
  if condition then .ok () else .error (.malformed rule)

/-- Reads a name of at least one character. -/
def scanName (rule : Rule) (c : Cursor) : Except Fault (String × Cursor) := do
  let (name, c) := c.span isNameChar
  demand rule !name.isEmpty
  return (String.ofList name, c)

/-- Reads the name of an anchor or an alias after its indicator. -/
def scanAnchorName (c : Cursor) : Except Fault (String × Cursor) := do
  let (name, c) ← scanName .anchors c.advance
  let follows := match c.peek with
    | some ch => isGap (some ch) || ['?', ':', ',', ']', '\x7d', '%', '@', '\x60'].contains ch
    | none => true
  demand .anchors follows
  return (name, c)

/-- The value of a hexadecimal digit. -/
def hexValue? (c : Char) : Option Nat :=
  if '0' ≤ c && c ≤ '9' then some (c.toNat - 48)
  else if 'a' ≤ c && c ≤ 'f' then some (c.toNat - 87)
  else if 'A' ≤ c && c ≤ 'F' then some (c.toNat - 55)
  else none

/-- Reads exactly `size` hexadecimal digits. -/
def scanHex (rule : Rule) (size : Nat) (c : Cursor) : Except Fault (Nat × Cursor) :=
  let ds := (c.rest.take size).map hexValue?
  if ds.length = size && ds.all Option.isSome then
    .ok (ds.foldl (fun n d => 16 * n + d.getD 0) 0, c.advanceBy size)
  else .error (.malformed rule)

/-- The octets of a run of percent escapes. -/
def scanOctets : Nat → Cursor → Except Fault (List UInt8 × Cursor)
  | 0, c => .ok ([], c)
  | fuel + 1, c =>
    if c.peek == some '%' then do
      let (n, c) ← scanHex .tags 2 c.advance
      let (octets, c) ← scanOctets fuel c
      return (UInt8.ofNat n :: octets, c)
    else .ok ([], c)

/-- The characters that stand for themselves in a tag. -/
def isTagChar (c : Char) : Bool :=
  isNameChar c || ";/?:@&=+$,.!~*'()[]".toList.contains c

/-- The characters of a tag, its escapes decoded. -/
def scanTagChars : Nat → Cursor → Except Fault (List Char × Cursor)
  | 0, c => .ok ([], c)
  | fuel + 1, c =>
    match c.peek with
    | none => .ok ([], c)
    | some ch =>
      if ch == '%' then do
        let (octets, c) ← scanOctets (c.rest.length + 1) c
        let chars ← match Text.decodeFrom 0 octets with
          | .ok chars => pure chars
          | .error _ => throw (Fault.malformed .tags)
        let (rest, c) ← scanTagChars fuel c
        return (chars ++ rest, c)
      else if isTagChar ch then do
        let (rest, c) ← scanTagChars fuel c.advance
        return (ch :: rest, c)
      else .ok ([], c)

/-- The text of a tag or of what a handle stands for; it is not empty. -/
def scanTagText (c : Cursor) : Except Fault (String × Cursor) := do
  let (chars, c) ← scanTagChars (c.rest.length + 1) c
  demand .tags !chars.isEmpty
  return (String.ofList chars, c)

/-- Reads a handle: an exclamation mark, or a name between two. -/
def scanHandle (c : Cursor) : Except Fault (String × Cursor) := do
  demand .tags (c.peek == some '!')
  if c.peekAt 1 == some ' ' then return ("!", c.advance)
  let (name, after) := c.advance.span isNameChar
  if after.peek == some '!' then
    return (String.ofList ('!' :: (name ++ ['!'])), after.advance)
  else throw (.malformed .tags)

/-- Reads a tag. -/
def scanTag (c : Cursor) : Except Fault (Token × Cursor) := do
  let (handle, suffix, c) ←
    if c.peekAt 1 == some '<' then do
      let (suffix, c) ← scanTagText (c.advanceBy 2)
      demand .tags (c.peek == some '>')
      pure ((none : Option String), suffix, c.advance)
    else if isGap (c.peekAt 1) then pure (none, "!", c.advance)
    else do
      let word := c.rest.tail.takeWhile fun ch => !(ch == ' ' || isBreak ch)
      let (handle, c) ← if word.contains '!' then scanHandle c else pure ("!", c.advance)
      let (suffix, c) ← scanTagText c
      pure (some handle, suffix, c)
  demand .tags (endsWord c.peek)
  return (.tag handle suffix, c)

/-- Reads the rest of a line that may hold only a comment, and its end. -/
def scanLineRest (rule : Rule) (c : Cursor) : Except Fault Cursor := do
  let c := c.skipSpaces
  let c := if c.peek == some '#' then c.toLineEnd else c
  demand rule (endsLine c.peek)
  match c.lineBreak? with
  | some (_, c) => return c
  | none => return c

/-- Reads a number of a version.  Like any decimal number it has at most `Decimal.maxDigits`
digits. -/
def scanVersionNumber (c : Cursor) : Except Fault (Nat × Cursor) := do
  let (ds, c) := c.span Decimal.isDigit
  demand .directives !ds.isEmpty
  if Decimal.maxDigits < ds.length then throw (.misfit (.longInteger ds.length))
  return (Decimal.valueOf ds, c)

/-- Reads a directive. -/
def scanDirective (c : Cursor) : Except Fault (Token × Cursor) := do
  let (name, c) ← scanName .directives c.advance
  demand .directives (endsWord c.peek)
  let (directive, c) ←
    if name == "YAML" then do
      let (major, c) ← scanVersionNumber c.skipSpaces
      demand .directives (c.peek == some '.')
      let (minor, c) ← scanVersionNumber c.advance
      demand .directives (endsWord c.peek)
      pure (Directive.version major minor, c)
    else if name == "TAG" then do
      let (handle, c) ← scanHandle c.skipSpaces
      demand .directives (c.peek == some ' ')
      let (start, c) ← scanTagText c.skipSpaces
      demand .directives (endsWord c.peek)
      pure (.tagHandle handle start, c)
    else pure (.reserved, c.toLineEnd)
  let c ← scanLineRest .directives c
  return (.directive directive, c)

end Yaml
end LogBalancer
