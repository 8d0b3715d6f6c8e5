import Tenancy.Text.Property

/-!
# Quoted text

A text is quoted for a report so that its limits and its content can be seen: it
stands between double quotes, and what would end it, hide in it or combine with
the character before it is written as an escape.
-/

namespace Tenancy.Text

/-- The escapes that have a letter of their own. -/
def namedEscapes : List (Char × Char) :=
  [('\x00', '0'), ('\t', 't'), ('\r', 'r'), ('\n', 'n'), ('"', '"'), ('\\', '\\')]

/-- Write a code point as an escape in hexadecimal. -/
def numericEscape (char : Char) : List Char :=
  '\\' :: 'u' :: '\x7b' :: Nat.toDigits 16 char.toNat ++ ['\x7d']

/-- Write one character inside quotes. -/
def quotedChar (char : Char) : List Char :=
  match namedEscapes.lookup char with
  | some letter => ['\\', letter]
  | none =>
    if 0x20 ≤ char.toNat && char.toNat < 0x7f then [char]
    else if extending.holds char || !isPrintable char then numericEscape char
    else [char]

/-- Quote a text. -/
def quoted (text : String) : String :=
  String.ofList ('"' :: text.toList.flatMap quotedChar ++ ['"'])

end Tenancy.Text
