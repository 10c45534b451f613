import ServiceContainer.Yaml.Folding

/-!
Plain scalars: words without quotes, perhaps over several lines.
-/

namespace ServiceContainer.Yaml

/-- A plain scalar that has been read: its text, whether a line break lies behind its last word, and the
place of what comes next. -/
structure PlainScalar where
  text : String
  broken : Bool
  next : Cursor

/-- Whether a plain scalar ends in front of the next word: at a comment, at the mark of a document, and in
block style where the indentation falls below `indent`. -/
def plainStopsBefore (inFlow : Bool) (indent : Int) (mark : Mark) (cs : List Char) : Bool :=
  (!inFlow && (mark.column : Int) < indent) || cs.head? = some '#' || (mark.column = 0 && atDocumentMark cs)

/-- Whether a plain scalar ends in front of a character: at a colon that ends a word, and in flow style at an
indicator. -/
def plainStopsAt (inFlow : Bool) (c : Char) (cs : List Char) : Bool :=
  (c = ':' && atWordEnd cs) || (inFlow && c ∈ [',', '[', ']', '\x7b', '\x7d'])

/-- Reads on in a plain scalar. `text` is what was read, last character first, and `gap` what came since the
last word. In flow style, a colon directly in front of an indicator is an error. -/
def readPlain (inFlow : Bool) (indent : Int) (gap : Gap) (text : List Char) (mark : Mark) :
    List Char → Option PlainScalar
  | [] => some ⟨String.ofList text.reverse, gap.broken, ⟨mark, []⟩⟩
  | '\r' :: '\n' :: cs => readPlain inFlow indent (gap.addBreak '\n') text (mark.nextLine 2) cs
  | c :: cs =>
    if isBreak c then readPlain inFlow indent (gap.addBreak (normalBreak c)) text (mark.nextLine c.utf8Size) cs
    else if isBlank c then
      if gap.broken && c = '\t' && (mark.column : Int) < indent then none
      else readPlain inFlow indent (gap.addBlank c) text (mark.right 1) cs
    else if !gap.isEmpty && plainStopsBefore inFlow indent mark (c :: cs) then
      some ⟨String.ofList text.reverse, gap.broken, ⟨mark, c :: cs⟩⟩
    else if inFlow && c = ':' && cs.head?.any (· ∈ [',', '?', '[', ']', '\x7b', '\x7d']) then none
    else if plainStopsAt inFlow c cs then some ⟨String.ofList text.reverse, gap.broken, ⟨mark, c :: cs⟩⟩
    else readPlain inFlow indent {} (c :: gap.text.reverse ++ text) (mark.past c) cs

end ServiceContainer.Yaml
