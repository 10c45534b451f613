import ServiceContainer.Container

/-!
Parameter resolution. A reference that is a whole value takes the type of what it refers to; parameters
inside a string become text.
-/

namespace ServiceContainer

def Segment.interpolate (find : ParameterKey → Except Failure Value) :
    Segment ParameterKey → Except Failure String
  | .literal s => .ok s
  | .parameter key =>
    match find key with
    | .error failure => .error failure
    | .ok (.scalar s) => .ok s.interpolated
    | .ok value => .error (.invalid (.notInterpolable key value))

def Value.substitute (find : ParameterKey → Except Failure Value) : Value → Except Failure Value
  | .parameter key => find key
  | .template segments => (segments.mapM (Segment.interpolate find)).map fun texts => .text (String.join texts)
  | .list items => (substituteItems items).map .list
  | .scalar s => .ok (.scalar s)
  | .service id => .ok (.service id)
  | .object type => .ok (.object type)
where
  substituteItems : List (Key × Value) → Except Failure (List (Key × Value))
    | [] => .ok []
    | (key, item) :: items => do
      let item ← item.substitute find
      let items ← substituteItems items
      return (key, item) :: items

def Arguments.substitute (find : ParameterKey → Except Failure Value) (arguments : Arguments) :
    Except Failure Arguments :=
  arguments.mapM fun (key, value) => do return (key, ← value.substitute find)

def Configurator.substitute (find : ParameterKey → Except Failure Value) :
    Configurator → Except Failure Configurator
  | .staticMethod target method => (target.substitute find).map (.staticMethod · method)
  | configurator => .ok configurator

/-- Puts the values of parameters into every value of a definition; services stay references. -/
def Definition.substitute (find : ParameterKey → Except Failure Value) (d : Definition) :
    Except Failure Definition := do
  let className ← d.className.substitute find
  let file ← d.file.mapM (·.substitute find)
  let arguments ← Arguments.substitute find d.arguments
  let calls ← d.calls.mapM fun call => do
    return { call with arguments := ← Arguments.substitute find call.arguments }
  let configurator ← d.configurator.mapM (·.substitute find)
  return { d with className, file, arguments, calls, configurator }

namespace Container

/-- The resolved value of a parameter that is needed to resolve those in `pending`. -/
def lookup (c : Container) (pending : List ParameterKey) (key : ParameterKey) : Except Failure Value :=
  if key ∈ pending then .error (.circularReference ((pending ++ [key]).map (·.text)))
  else
    match _found : c.parameters[key]? with
    | none => .error (.notFound .parameter key.text)
    | some value => value.substitute fun key' => c.lookup (pending ++ [key]) key'
termination_by unvisited c.parameters.keys pending
decreasing_by
  apply unvisited_append_lt _ ‹_›
  rw [Std.ExtTreeMap.mem_keys, Std.ExtTreeMap.mem_iff_isSome_getElem?, _found]
  rfl

def resolve (c : Container) (value : Value) : Except Failure Value := value.substitute (c.lookup [])

def resolveAll (c : Container) : Except Failure (List (ParameterKey × Value)) :=
  c.parameters.keys.mapM fun key => do return (key, ← c.lookup [] key)

def resolveDefinition (c : Container) (d : Definition) : Except Failure Definition :=
  d.substitute (c.lookup [])

end Container

end ServiceContainer
