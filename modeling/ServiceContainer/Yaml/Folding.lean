import ServiceContainer.Yaml.Cursor

/-!
Line folding: what the blanks and line breaks between two words of a scalar contribute to its text.
-/

namespace ServiceContainer.Yaml

/-- Blanks and line breaks since the last word. Lists hold the last character first. -/
structure Gap where
  blanks : List Char := []
  broken : Bool := false
  /-- The first line break; none if it is escaped. -/
  firstBreak : Option Char := none
  moreBreaks : List Char := []

namespace Gap

def escapedBreak : Gap := { broken := true }

def isEmpty (g : Gap) : Bool := !g.broken && g.blanks.isEmpty

/-- Blanks count only before the first line break. -/
def addBlank (g : Gap) (c : Char) : Gap := if g.broken then g else { g with blanks := c :: g.blanks }

def addBreak (g : Gap) (c : Char) : Gap :=
  if g.broken then { g with moreBreaks := c :: g.moreBreaks } else { broken := true, firstBreak := some c }

/-- Blanks stay within a line. One line break becomes a space, and of several the first disappears. -/
def text (g : Gap) : List Char :=
  if !g.broken then g.blanks.reverse
  else
    match g.firstBreak with
    | none => g.moreBreaks.reverse
    | some '\n' => if g.moreBreaks.isEmpty then [' '] else g.moreBreaks.reverse
    | some c => c :: g.moreBreaks.reverse

end Gap

end ServiceContainer.Yaml
