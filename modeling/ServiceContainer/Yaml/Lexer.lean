import ServiceContainer.Yaml.Block
import ServiceContainer.Yaml.Plain
import ServiceContainer.Yaml.Property
import ServiceContainer.Yaml.Quoted

/-!
A YAML text as tokens. Indentation opens and closes block collections. A key without a `?` shows only at its
colon; so every place where one may start is remembered, and the tokens that announce it are inserted there.
-/

namespace ServiceContainer.Yaml

structure KeyStart where
  /-- How many tokens are in front of it. -/
  position : Nat
  mark : Mark
  /-- Whether nothing but a key can stand there. -/
  required : Bool

structure Lexer where
  cursor : Cursor
  /-- The tokens so far, last one first, and their number. -/
  tokens : List Token := []
  count : Nat := 0
  /-- The column of the innermost open block collection, and those of the ones around it. -/
  indent : Int := -1
  outerIndents : List Int := []
  /-- The key that may have started in the innermost flow collection, and in those around it. -/
  keyStart : Option KeyStart := none
  outerKeyStarts : List (Option KeyStart) := []
  /-- Whether a key may start here. -/
  keyAllowed : Bool := true

namespace Lexer

def ofText (cs : List Char) : Lexer := { cursor := ⟨{}, cs⟩ }

def inFlow (l : Lexer) : Bool := !l.outerKeyStarts.isEmpty

def column (l : Lexer) : Nat := l.cursor.mark.column

def emit (l : Lexer) (token : Token) : Lexer := { l with tokens := token :: l.tokens, count := l.count + 1 }

def insert (l : Lexer) (position : Nat) (tokens : List Token) : Lexer :=
  let later := l.count - position
  { l with
    tokens := l.tokens.take later ++ (tokens.reverse ++ l.tokens.drop later)
    count := l.count + tokens.length }

def right (l : Lexer) (n : Nat) : Lexer := { l with cursor := l.cursor.right n }

/-- Opens a block collection if the column lies behind the current indentation. -/
def openBlock (l : Lexer) (column position : Nat) (token : Token) : Lexer :=
  if !l.inFlow && l.indent < (column : Int) then
    { l.insert position [token] with indent := column, outerIndents := l.indent :: l.outerIndents }
  else l

/-- Closes the block collections that lie behind a column; `outer` holds the columns around the innermost. -/
def closeBlocksFrom (l : Lexer) (column : Int) : List Int → Lexer
  | [] => l
  | outer :: outers =>
    if column < l.indent then
      closeBlocksFrom { l.emit .blockEnd with indent := outer, outerIndents := outers } column outers
    else l

def closeBlocks (l : Lexer) (column : Int) : Lexer :=
  if l.inFlow then l else l.closeBlocksFrom column l.outerIndents

def dropKeyStart? (l : Lexer) : Option Lexer :=
  if l.keyStart.any (·.required) then none else some { l with keyStart := none }

def noteKeyStart? (l : Lexer) : Option Lexer :=
  if l.keyAllowed then
    l.dropKeyStart?.map fun l =>
      { l with keyStart := some ⟨l.count, l.cursor.mark, !l.inFlow && l.indent == (l.column : Int)⟩ }
  else some l

/-- Whether a key that started at `k` could end here: on its line, at most 1024 bytes on. -/
def isFresh (l : Lexer) (k : KeyStart) : Bool :=
  l.cursor.mark.line ≤ k.mark.line && l.cursor.mark.index ≤ k.mark.index + 1024

def dropStaleKeyStarts? (l : Lexer) : Option Lexer :=
  let stale (k : Option KeyStart) := k.any (!l.isFresh ·)
  if (l.keyStart :: l.outerKeyStarts).any fun k => stale k && k.any (·.required) then none
  else
    let fresh (k : Option KeyStart) := k.filter l.isFresh
    some { l with keyStart := fresh l.keyStart, outerKeyStarts := l.outerKeyStarts.map fresh }

/-- Passes what separates tokens: spaces, line breaks, comments to the end of their line, and a byte order mark
at the start of a line. A tab is passed only where no key may start; behind a line break, in block style, one may. -/
def skipSeparation (inFlow inComment keyAllowed : Bool) (mark : Mark) : List Char → Bool × Cursor
  | [] => (keyAllowed, ⟨mark, []⟩)
  | '\r' :: '\n' :: cs => skipSeparation inFlow false (keyAllowed || !inFlow) (mark.nextLine 2) cs
  | c :: cs =>
    if isBreak c then skipSeparation inFlow false (keyAllowed || !inFlow) (mark.nextLine c.utf8Size) cs
    else if inComment || c = ' ' || (c = '\t' && (inFlow || !keyAllowed)) || (c = '\ufeff' && mark.column = 0) then
      skipSeparation inFlow inComment keyAllowed (mark.past c) cs
    else if c = '#' then skipSeparation inFlow true keyAllowed (mark.right 1) cs
    else (keyAllowed, ⟨mark, c :: cs⟩)

def toNextToken (l : Lexer) : Lexer :=
  let (keyAllowed, cursor) := skipSeparation l.inFlow false l.keyAllowed l.cursor.mark l.cursor.rest
  { l with keyAllowed, cursor }

def readEnd (l : Lexer) : Option Lexer := (l.closeBlocks (-1)).dropKeyStart?.map (·.emit .streamEnd)

/-- Reads a directive or the mark of a document, in front of which all block collections close. -/
def readDocumentLevel (l : Lexer) (read : Cursor → Option (Token × Cursor)) : Option Lexer := do
  let l ← (l.closeBlocks (-1)).dropKeyStart?
  let (token, cursor) ← read l.cursor
  return { l.emit token with cursor, keyAllowed := false }

def readFlowStart (l : Lexer) (token : Token) : Option Lexer := do
  let l ← l.noteKeyStart?
  let l := { l with keyStart := none, outerKeyStarts := l.keyStart :: l.outerKeyStarts, keyAllowed := true }
  return (l.emit token).right 1

def readFlowEnd (l : Lexer) (token : Token) : Option Lexer := do
  let l ← l.dropKeyStart?
  let l := { l with keyStart := l.outerKeyStarts.head?.join, outerKeyStarts := l.outerKeyStarts.tail }
  return ({ l with keyAllowed := false }.emit token).right 1

def readFlowEntry (l : Lexer) : Option Lexer := do
  let l ← l.dropKeyStart?
  return ({ l with keyAllowed := true }.emit .flowEntry).right 1

/-- In block style, an indicator that needs a fresh line or indentation opens a collection where it stands. -/
def openBlockHere? (l : Lexer) (token : Token) : Option Lexer :=
  if l.inFlow then some l else if l.keyAllowed then some (l.openBlock l.column l.count token) else none

def readBlockEntry (l : Lexer) : Option Lexer := do
  let l ← (← l.openBlockHere? .blockSequenceStart).dropKeyStart?
  return ({ l with keyAllowed := true }.emit .blockEntry).right 1

def readKey (l : Lexer) : Option Lexer := do
  let l ← (← l.openBlockHere? .blockMappingStart).dropKeyStart?
  return ({ l with keyAllowed := !l.inFlow }.emit .key).right 1

/-- Reads the colon in front of a value. If a key may have started before it, that key is announced now. -/
def readValue (l : Lexer) : Option Lexer := do
  match l.keyStart with
  | some k =>
    let l := (l.insert k.position [.key]).openBlock k.mark.column k.position .blockMappingStart
    return ({ l with keyStart := none, keyAllowed := false }.emit .value).right 1
  | none =>
    let l ← l.openBlockHere? .blockMappingStart
    return ({ l with keyAllowed := !l.inFlow }.emit .value).right 1

/-- Reads a token at which a key may start, and behind which none may. -/
def readWord (l : Lexer) (read : Cursor → Option (Token × Cursor)) : Option Lexer := do
  let l ← l.noteKeyStart?
  let (token, cursor) ← read l.cursor
  return { l.emit token with cursor, keyAllowed := false }

def readBlockScalar (l : Lexer) (folded : Bool) : Option Lexer := do
  let l ← l.dropKeyStart?
  let (text, cursor) ← readBlock folded l.indent (l.cursor.right 1)
  return { l.emit (.scalar false text) with cursor, keyAllowed := true }

/-- A key may start behind a plain scalar only if it ended at a line break. -/
def readPlainScalar (l : Lexer) : Option Lexer := do
  let l ← l.noteKeyStart?
  let s ← readPlain l.inFlow (l.indent + 1) {} [] l.cursor.mark l.cursor.rest
  return { l.emit (.scalar true s.text) with cursor := s.next, keyAllowed := s.broken }

/-- Characters that cannot start a plain scalar. -/
def indicators : List Char :=
  ['-', '?', ':', ',', '[', ']', '\x7b', '\x7d', '#', '&', '*', '!', '|', '>', '\'', '"', '%', '@', '\x60']

/-- A dash, and in block style a question mark or a colon, starts a plain scalar if a word goes on behind it. -/
def startsPlain (l : Lexer) (c : Char) (cs : List Char) : Bool :=
  !(isBlank c || isBreak c || c ∈ indicators) || (c = '-' && !cs.head?.any isBlank) ||
    (!l.inFlow && (c = '?' || c = ':') && !atWordEnd cs)

def readToken (l : Lexer) (c : Char) (cs : List Char) : Option Lexer :=
  let indicates := l.inFlow || atWordEnd cs
  if l.column = 0 && c = '%' then l.readDocumentLevel fun start => readDirective (start.right 1)
  else if l.column = 0 && atDocumentMark (c :: cs) then
    l.readDocumentLevel fun start => some (if c = '-' then .documentStart else .documentEnd, start.right 3)
  else if c = '[' then l.readFlowStart .flowSequenceStart
  else if c = '\x7b' then l.readFlowStart .flowMappingStart
  else if c = ']' then l.readFlowEnd .flowSequenceEnd
  else if c = '\x7d' then l.readFlowEnd .flowMappingEnd
  else if c = ',' then l.readFlowEntry
  else if c = '-' && atWordEnd cs then l.readBlockEntry
  else if c = '?' && indicates then l.readKey
  else if c = ':' && indicates then l.readValue
  else if c = '*' then
    l.readWord fun start => (readName (start.right 1)).map fun (name, next) => (.alias name, next)
  else if c = '&' then
    l.readWord fun start => (readName (start.right 1)).map fun (name, next) => (.anchor name, next)
  else if c = '!' then l.readWord (readTag l.inFlow)
  else if c = '|' && !l.inFlow then l.readBlockScalar false
  else if c = '>' && !l.inFlow then l.readBlockScalar true
  else if c = '\'' then
    l.readWord fun start =>
      (readSingleQuoted {} [] (start.mark.right 1) cs).map fun (s, next) => (.scalar false s, next)
  else if c = '"' then
    l.readWord fun start =>
      (readDoubleQuoted {} [] (start.mark.right 1) cs).map fun (s, next) => (.scalar false s, next)
  else if l.startsPlain c cs then l.readPlainScalar
  else none

/-- Reads the tokens of a text of `size` bytes to its end. Each token takes up some of the text. -/
def run (size : Nat) (l : Lexer) : Option (List Token) :=
  match l.toNextToken.dropStaleKeyStarts? with
  | none => none
  | some here =>
    let here := here.closeBlocks here.column
    match here.cursor.rest with
    | [] => here.readEnd.map (·.tokens.reverse)
    | c :: cs =>
      match here.readToken c cs with
      | none => none
      | some next =>
        if l.cursor.mark.index < next.cursor.mark.index ∧ next.cursor.mark.index ≤ size then run size next
        else none
termination_by size - l.cursor.mark.index
decreasing_by omega

end Lexer

def Token.read? (text : String) : Option (List Token) :=
  let cs := text.toList
  if cs.all isAllowed then (Lexer.ofText cs).run text.utf8ByteSize else none

end ServiceContainer.Yaml
