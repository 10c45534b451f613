/-!
Places in a YAML text: the characters that are still to be read, and where the first of them stands.
-/

namespace ServiceContainer.Yaml

def isAllowed (c : Char) : Bool :=
  c = '\t' || c = '\n' || c = '\r' || c = '\u0085' || (0x20 ≤ c.toNat && c.toNat ≤ 0x7E) ||
    (0xA0 ≤ c.toNat && c.toNat ≤ 0xFFFD) || 0x10000 ≤ c.toNat

def isBreak (c : Char) : Bool := c = '\n' || c = '\r' || c = '\u0085' || c = '\u2028' || c = '\u2029'

def isBlank (c : Char) : Bool := c = ' ' || c = '\t'

def isNameChar (c : Char) : Bool := c.isAlphanum || c = '_' || c = '-'

/-- A line break as it counts in text: the separators of lines and paragraphs stay, all others are equal. -/
def normalBreak (c : Char) : Char := if c = '\u2028' ∨ c = '\u2029' then c else '\n'

def atWordEnd (cs : List Char) : Bool := cs.head?.all fun c => isBlank c || isBreak c

def atLineEnd (cs : List Char) : Bool := cs.head?.all isBreak

/-- Whether a line that starts here marks the start or the end of a document. -/
def atDocumentMark : List Char → Bool
  | '-' :: '-' :: '-' :: cs => atWordEnd cs
  | '.' :: '.' :: '.' :: cs => atWordEnd cs
  | _ => false

/-- How many bytes and lines are before a place, and how many characters of its own line. -/
structure Mark where
  index : Nat := 0
  line : Nat := 0
  column : Nat := 0
  deriving DecidableEq, Repr

/-- Behind `n` characters of one byte each. -/
def Mark.right (m : Mark) (n : Nat) : Mark := { m with index := m.index + n, column := m.column + n }

def Mark.past (m : Mark) (c : Char) : Mark := { m with index := m.index + c.utf8Size, column := m.column + 1 }

/-- Behind a line break of `width` bytes. -/
def Mark.nextLine (m : Mark) (width : Nat) : Mark := ⟨m.index + width, m.line + 1, 0⟩

structure Cursor where
  mark : Mark
  rest : List Char

namespace Cursor

/-- Behind `n` characters of one byte each. -/
def right (c : Cursor) (n : Nat) : Cursor := ⟨c.mark.right n, c.rest.drop n⟩

def span (c : Cursor) (p : Char → Bool) : List Char × Cursor :=
  let taken := c.rest.takeWhile p
  (taken, ⟨taken.foldl .past c.mark, c.rest.dropWhile p⟩)

def skipWhile (c : Cursor) (p : Char → Bool) : Cursor := (c.span p).2

def lineBreak? (c : Cursor) : Option (Char × Cursor) :=
  match c.rest with
  | '\r' :: '\n' :: cs => some ('\n', ⟨c.mark.nextLine 2, cs⟩)
  | b :: cs => if isBreak b then some (normalBreak b, ⟨c.mark.nextLine b.utf8Size, cs⟩) else none
  | [] => none

def skipBreak (c : Cursor) : Cursor := c.lineBreak?.elim c (·.2)

/-- The rest of a line, its line break if there is one, and the place behind it. -/
def readLine (c : Cursor) : List Char × Option Char × Cursor :=
  let (line, lineEnd) := c.span (!isBreak ·)
  (line, lineEnd.lineBreak?.map (·.1), lineEnd.skipBreak)

theorem length_lineBreak?_lt {c next : Cursor} {b : Char} (h : c.lineBreak? = some (b, next)) :
    next.rest.length < c.rest.length := by
  unfold lineBreak? at h
  split at h
  case h_1 rest => cases h; simp only [rest, List.length_cons]; omega
  case h_2 rest =>
    split at h
    · cases h; simp [rest]
    · simp at h
  case h_3 => simp at h

theorem length_skipBreak_le (c : Cursor) : c.skipBreak.rest.length ≤ c.rest.length := by
  unfold skipBreak
  cases found : c.lineBreak? with
  | none => simp
  | some p => exact Nat.le_of_lt (length_lineBreak?_lt found)

theorem length_readLine_lt {c : Cursor} (more : c.rest ≠ []) : c.readLine.2.2.rest.length < c.rest.length := by
  obtain ⟨mark, _ | ⟨a, as⟩⟩ := c
  · contradiction
  · have shorter := length_skipBreak_le (span ⟨mark, a :: as⟩ (!isBreak ·)).2
    simp only [readLine, List.length_cons]
    cases stop : isBreak a with
    | false =>
      have := (List.dropWhile_sublist (!isBreak ·) (l := as)).length_le
      simp only [span, List.dropWhile_cons, stop] at *
      simp at *
      omega
    | true =>
      have found : ∃ next, lineBreak? ⟨mark, a :: as⟩ = some next := by
        unfold lineBreak?
        split <;> simp_all
      obtain ⟨⟨b, next⟩, found⟩ := found
      have := length_lineBreak?_lt found
      simpa [span, stop, skipBreak, found] using this

def skipComment (c : Cursor) : Cursor :=
  if c.rest.head? = some '#' then c.skipWhile (!isBreak ·) else c

/-- Passes blanks, a comment and the line break; nothing else may be left on the line. -/
def finishLine? (c : Cursor) : Option Cursor :=
  let c := (c.skipWhile isBlank).skipComment
  if atLineEnd c.rest then some c.skipBreak else none

end Cursor

end ServiceContainer.Yaml
