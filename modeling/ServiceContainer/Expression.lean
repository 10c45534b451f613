import ServiceContainer.Tree

/-!
Expressions in configured strings. `%name%` stands for a parameter, `%%` for a percent sign, `@id` for a
service, and a leading `@@` for an at sign.
-/

namespace ServiceContainer

/-- Splits at the first `%`, which is dropped. -/
def splitPercent? (cs : List Char) : Option (List Char × List Char) :=
  match cs.dropWhile (· ≠ '%') with
  | [] => none
  | _ :: rest => some (cs.takeWhile (· ≠ '%'), rest)

theorem splitPercent?_length {cs name rest : List Char} (h : splitPercent? cs = some (name, rest)) :
    rest.length < cs.length := by
  unfold splitPercent? at h
  have split := congrArg List.length (List.takeWhile_append_dropWhile (p := (· ≠ '%')) (l := cs))
  revert h split
  cases cs.dropWhile (· ≠ '%') with
  | nil => simp
  | cons c tail =>
    intro h split
    simp only [Option.some.injEq, Prod.mk.injEq] at h
    simp only [List.length_append, List.length_cons] at split
    rw [← h.2]
    omega

/-- Cuts a string from left to right: `%%` is a percent sign, `%name%` a parameter, and any other character,
a `%` that nothing closes included, stands for itself. -/
def Segment.cut : List Char → List (Segment String)
  | [] => []
  | '%' :: cs =>
    match _h : splitPercent? cs with
    | none => .literal "%" :: cut cs
    | some ([], rest) => .literal "%" :: cut rest
    | some (name, rest) => .parameter (String.ofList name) :: cut rest
  | c :: cs => .literal (String.singleton c) :: cut cs
termination_by cs => cs.length
decreasing_by
  all_goals simp only [List.length_cons]
  · omega
  · have := splitPercent?_length ‹_›
    omega
  · have := splitPercent?_length ‹_›
    omega
  · omega

def Segment.scan (s : String) : List (Segment String) := merge (cut s.toList)

namespace Value

def wholeParameter? (cs : List Char) : Option String :=
  match cs with
  | '%' :: cs =>
    match splitPercent? cs with
    | some (name, []) => if name = [] then none else some (String.ofList name)
    | _ => none
  | _ => none

def ofText (s : String) : Value :=
  match s.toList with
  | '@' :: '@' :: cs => .text (String.ofList ('@' :: cs))
  | '@' :: cs => .service (String.ofList cs)
  | cs =>
    if '%' ∉ cs then .text s
    else
      match wholeParameter? cs with
      | some name => .parameter (.ofName name)
      | none => .ofSegments ((Segment.scan s).map (Segment.map ParameterKey.ofName))

def ofTree : Tree → Value
  | .scalar (.text s) => .ofText s
  | .scalar s => .scalar s
  | .map entries => .list (ofEntries entries)
  | .object tag => .object tag
where
  ofEntries : List (Key × Tree) → List (Key × Value)
    | [] => []
    | (key, tree) :: entries => (key, ofTree tree) :: ofEntries entries

end Value

end ServiceContainer
