/-!
# JSON pointers

A pointer names a place in a document by the segments on the way to it.  A slash
opens each segment, so slashes within one are escaped, and so is the tilde that
opens an escape.
-/

namespace Tenancy.Json.Pointer

/-- The characters of a segment with its tildes and slashes escaped. -/
def escapeChars : List Char → List Char
  | [] => []
  | '~' :: rest => '~' :: '0' :: escapeChars rest
  | '/' :: rest => '~' :: '1' :: escapeChars rest
  | char :: rest => char :: escapeChars rest

/-- The text that stands for one segment in a pointer, where it is joined with others by hand. -/
def escape (segment : String) : String := String.ofList (escapeChars segment.toList)

/-- The characters of the pointer of some segments. -/
def chars : List String → List Char
  | [] => []
  | segment :: rest => '/' :: escapeChars segment.toList ++ chars rest

/-- The pointer of some segments. -/
def ofSegments (segments : List String) : String := String.ofList (chars segments)

/-- Whether every tilde opens an escape. -/
def isEscaped : List Char → Bool
  | [] => true
  | '~' :: '0' :: rest => isEscaped rest
  | '~' :: '1' :: rest => isEscaped rest
  | '~' :: _ => false
  | _ :: rest => isEscaped rest

/-- Whether a text is a pointer: it is empty or opens with a slash, and every tilde in it
opens an escape. -/
def isPointer (text : String) : Bool :=
  match text.toList with
  | [] => true
  | '/' :: rest => isEscaped rest
  | _ => false

end Tenancy.Json.Pointer
