import ServiceContainer.Yaml.Folding

/-!
Block scalars: lines that keep their breaks, behind `|`, or that are folded, behind `>`.
-/

namespace ServiceContainer.Yaml

inductive Chomping where
  | strip
  | clip
  | keep
  deriving DecidableEq, Repr

structure BlockHeader where
  folded : Bool
  chomping : Chomping
  /-- By how much the lines are indented; found out from the first line if absent. -/
  indentation : Option Nat

def chompingOf? : Char → Option Chomping
  | '+' => some .keep
  | '-' => some .strip
  | _ => none

def indentationOf? (c : Char) : Option Nat :=
  if '1' ≤ c ∧ c ≤ '9' then some (c.toNat - '0'.toNat) else none

/-- Reads the indicators behind `|` or `>`, which come in either order. -/
def readBlockHeader (folded : Bool) (c : Cursor) : BlockHeader × Cursor :=
  match c.rest.head?.bind chompingOf?, c.rest.head?.bind indentationOf? with
  | some chomping, _ =>
    match c.rest.tail.head?.bind indentationOf? with
    | some n => (⟨folded, chomping, some n⟩, c.right 2)
    | none => (⟨folded, chomping, none⟩, c.right 1)
  | none, some n =>
    match c.rest.tail.head?.bind chompingOf? with
    | some chomping => (⟨folded, chomping, some n⟩, c.right 2)
    | none => (⟨folded, .clip, some n⟩, c.right 1)
  | none, none => (⟨folded, .clip, none⟩, c)

/-- The empty lines in front of a line with text. -/
structure EmptyLines where
  /-- Their line breaks, last one first. -/
  breaks : List Char
  /-- The greatest column that was come to. -/
  reach : Nat
  next : Cursor

/-- Passes indentation, up to `indent` if that is known, and empty lines. A tab may not indent. -/
def readEmptyLines (indent : Option Nat) (breaks : List Char) (reach : Nat) (mark : Mark) :
    List Char → Option EmptyLines
  | [] => some ⟨breaks, max reach mark.column, ⟨mark, []⟩⟩
  | '\r' :: '\n' :: cs => readEmptyLines indent ('\n' :: breaks) (max reach mark.column) (mark.nextLine 2) cs
  | c :: cs =>
    let indenting := indent.all (mark.column < ·)
    if isBreak c then
      readEmptyLines indent (normalBreak c :: breaks) (max reach mark.column) (mark.nextLine c.utf8Size) cs
    else if indenting && c = ' ' then readEmptyLines indent breaks reach (mark.right 1) cs
    else if indenting && c = '\t' then none
    else some ⟨breaks, max reach mark.column, ⟨mark, c :: cs⟩⟩

theorem readEmptyLines_length {indent : Option Nat} {breaks : List Char} {reach : Nat} {mark : Mark}
    {cs : List Char} {empty : EmptyLines} (h : readEmptyLines indent breaks reach mark cs = some empty) :
    empty.next.rest.length ≤ cs.length := by
  fun_induction readEmptyLines indent breaks reach mark cs with
  | case1 => cases h; simp
  | case2 _ _ _ _ ih => have := ih h; simp only [List.length_cons]; omega
  | case3 _ _ _ _ _ _ _ ih => have := ih h; simp only [List.length_cons]; omega
  | case4 _ _ _ _ _ _ _ _ _ ih => have := ih h; simp only [List.length_cons]; omega
  | case5 => simp at h
  | case6 => cases h; simp

structure BlockText where
  text : List Char := []
  lastBreak : Option Char := none
  emptyBreaks : List Char := []
  /-- Whether the last line starts with a blank, which keeps it from being folded. -/
  spaced : Bool := false

/-- Adds a line. In folded text a break between lines that start with words becomes a space, or disappears if
empty lines follow it. -/
def BlockText.addLine (folded : Bool) (b : BlockText) (line : List Char) (lineBreak : Option Char)
    (emptyBreaks : List Char) : BlockText :=
  let spaced := line.head?.any isBlank
  let joint :=
    if folded && b.lastBreak = some '\n' && !b.spaced && !spaced then
      if b.emptyBreaks.isEmpty then [' '] else []
    else b.lastBreak.toList
  { text := line.reverse ++ (b.emptyBreaks ++ (joint ++ b.text)), lastBreak := lineBreak, emptyBreaks, spaced }

def readBlockLines (folded : Bool) (indent : Nat) (b : BlockText) (c : Cursor) : Option (BlockText × Cursor) :=
  if _more : c.mark.column = indent ∧ c.rest ≠ [] then
    match _read : c.readLine with
    | (line, lineBreak, next) =>
      match _empty : readEmptyLines (some indent) [] 0 next.mark next.rest with
      | none => none
      | some empty => readBlockLines folded indent (b.addLine folded line lineBreak empty.breaks) empty.next
  else some (b, c)
termination_by c.rest.length
decreasing_by
  have := readEmptyLines_length _empty
  have shorter := Cursor.length_readLine_lt _more.2
  simp only [_read] at shorter
  omega

def BlockText.chomp (b : BlockText) : Chomping → List Char
  | .strip => b.text.reverse
  | .clip => b.text.reverse ++ b.lastBreak.toList
  | .keep => b.text.reverse ++ b.lastBreak.toList ++ b.emptyBreaks.reverse

/-- Reads a block scalar from behind `|` or `>`; the lines around it have the indentation `parent`. -/
def readBlock (folded : Bool) (parent : Int) (c : Cursor) : Option (String × Cursor) := do
  let (header, c) := readBlockHeader folded c
  let c ← c.finishLine?
  let given := header.indentation.map fun n => (max parent 0).toNat + n
  let empty ← readEmptyLines given [] 0 c.mark c.rest
  let indent := given.getD (max empty.reach (max (parent + 1) 1).toNat)
  let (b, c) ← readBlockLines folded indent { emptyBreaks := empty.breaks } empty.next
  return (String.ofList (b.chomp header.chomping), c)

end ServiceContainer.Yaml
