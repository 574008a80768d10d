/-!
# Characters, bytes and places of texts

Every count and every index that the signer reports about a text is in bytes of its UTF-8 form, and
every document it reads from a file is a sequence of bytes first.

* `utf8` is the UTF-8 form of a text, one character after the other;
* `ofUtf8?` reads bytes back and refuses anything that is not well-formed UTF-8;
* `place` is a place as a message names it: by its line, counted from 1, and its column, which is
  the number of bytes since the last line break.  A reader knows where it stands by how much of the
  text is left.

Escapes and numbers of several notations have hexadecimal digits, of either case (`hexDigit?`).
-/

set_option autoImplicit false

namespace HexSigner.Text

/-- The value of a hexadecimal digit of either case. -/
def hexDigit? (c : Char) : Option Nat :=
  if '0' ≤ c ∧ c ≤ '9' then some (c.toNat - 48)
  else if 'a' ≤ c ∧ c ≤ 'f' then some (c.toNat - 87)
  else if 'A' ≤ c ∧ c ≤ 'F' then some (c.toNat - 55)
  else none

/-- The UTF-8 bytes of a list of characters. -/
def utf8OfChars (cs : List Char) : List UInt8 := cs.flatMap String.utf8EncodeChar

/-- The UTF-8 bytes of a text. -/
def utf8 (s : String) : List UInt8 := utf8OfChars s.toList

/-- The number of bytes that a text takes in UTF-8. -/
def byteLength (cs : List Char) : Nat := cs.foldr (fun c n ↦ c.utf8Size + n) 0

/-- The text with these UTF-8 bytes, if there is one: overlong forms, surrogates and code points
past the last plane are refused. -/
def ofUtf8? (bytes : List UInt8) : Option String := String.fromUTF8? ⟨bytes.toArray⟩

/-- The bytes since the last line break. -/
def lastLine (bytes : List UInt8) : List UInt8 := (bytes.reverse.takeWhile (· ≠ 10)).reverse

/-- The line and the column of the place where `left` bytes of a text are left. -/
def place (text : String) (left : Nat) : Nat × Nat :=
  let bytes := utf8 text
  let before := bytes.take (bytes.length - left)
  (1 + before.count 10, (lastLine before).length)

end HexSigner.Text
