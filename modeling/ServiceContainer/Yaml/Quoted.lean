import ServiceContainer.Json.Literal
import ServiceContainer.Yaml.Folding

/-!
Quoted scalars. Between single quotes a doubled quote stands for one; between double quotes a backslash
starts an escape.
-/

namespace ServiceContainer.Yaml

/-- Reads on behind a single quote. `text` is what was read, last character first, and `gap` what came since
the last word. -/
def readSingleQuoted (gap : Gap) (text : List Char) (mark : Mark) : List Char → Option (String × Cursor)
  | [] => none
  | '\r' :: '\n' :: cs => readSingleQuoted (gap.addBreak '\n') text (mark.nextLine 2) cs
  | '\'' :: '\'' :: cs => readSingleQuoted {} ('\'' :: gap.text.reverse ++ text) (mark.right 2) cs
  | '\'' :: cs => some (String.ofList (gap.text.reverse ++ text).reverse, ⟨mark.right 1, cs⟩)
  | c :: cs =>
    if isBreak c then readSingleQuoted (gap.addBreak (normalBreak c)) text (mark.nextLine c.utf8Size) cs
    else if isBlank c then readSingleQuoted (gap.addBlank c) text (mark.right 1) cs
    else if mark.column = 0 && atDocumentMark (c :: cs) then none
    else readSingleQuoted {} (c :: gap.text.reverse ++ text) (mark.past c) cs

def escapedChar? : Char → Option Char
  | '0' => some '\x00'
  | 'a' => some '\x07'
  | 'b' => some '\x08'
  | 't' => some '\t'
  | '\t' => some '\t'
  | 'n' => some '\n'
  | 'v' => some '\x0b'
  | 'f' => some '\x0c'
  | 'r' => some '\r'
  | 'e' => some '\x1b'
  | ' ' => some ' '
  | '"' => some '"'
  | '/' => some '/'
  | '\\' => some '\\'
  | 'N' => some '\u0085'
  | '_' => some '\u00a0'
  | 'L' => some '\u2028'
  | 'P' => some '\u2029'
  | _ => none

/-- The character with a hexadecimal number, if there is one. -/
def numberedChar? (digits : List Char) : Option Char :=
  (Json.hexNumber? digits).bind fun n => if n.isValidChar then some (Char.ofNat n) else none

/-- Reads on behind a double quote. -/
def readDoubleQuoted (gap : Gap) (text : List Char) (mark : Mark) : List Char → Option (String × Cursor)
  | [] => none
  | '\r' :: '\n' :: cs => readDoubleQuoted (gap.addBreak '\n') text (mark.nextLine 2) cs
  | '"' :: cs => some (String.ofList (gap.text.reverse ++ text).reverse, ⟨mark.right 1, cs⟩)
  | '\\' :: '\r' :: '\n' :: cs =>
    readDoubleQuoted .escapedBreak (gap.text.reverse ++ text) ((mark.right 1).nextLine 2) cs
  | '\\' :: 'x' :: a :: b :: cs =>
    match numberedChar? [a, b] with
    | some c => readDoubleQuoted {} (c :: gap.text.reverse ++ text) (mark.right 4) cs
    | none => none
  | '\\' :: 'u' :: a :: b :: c :: d :: cs =>
    match numberedChar? [a, b, c, d] with
    | some c => readDoubleQuoted {} (c :: gap.text.reverse ++ text) (mark.right 6) cs
    | none => none
  | '\\' :: 'U' :: a :: b :: c :: d :: e :: f :: g :: h :: cs =>
    match numberedChar? [a, b, c, d, e, f, g, h] with
    | some c => readDoubleQuoted {} (c :: gap.text.reverse ++ text) (mark.right 10) cs
    | none => none
  | '\\' :: c :: cs =>
    if isBreak c then
      readDoubleQuoted .escapedBreak (gap.text.reverse ++ text) ((mark.right 1).nextLine c.utf8Size) cs
    else
      match escapedChar? c with
      | some c => readDoubleQuoted {} (c :: gap.text.reverse ++ text) (mark.right 2) cs
      | none => none
  | c :: cs =>
    if isBreak c then readDoubleQuoted (gap.addBreak (normalBreak c)) text (mark.nextLine c.utf8Size) cs
    else if isBlank c then readDoubleQuoted (gap.addBlank c) text (mark.right 1) cs
    else if mark.column = 0 && atDocumentMark (c :: cs) then none
    else readDoubleQuoted {} (c :: gap.text.reverse ++ text) (mark.past c) cs

end ServiceContainer.Yaml
