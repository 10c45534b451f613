import ServiceContainer.Container
import ServiceContainer.Text.Alphanumeric
import ServiceContainer.Text.Uppercase

/-!
Accessors: the methods of the generated class that hand out services, named after their ids.
-/

namespace ServiceContainer

/-- Letters and digits stay, the first of each word in upper case. A dot becomes an underscore; every other
character ends a word and is dropped. `start` says that a word starts here. -/
def camelizeFrom (start : Bool) : List Char → List Char
  | [] => []
  | c :: cs =>
    if c = '.' then '_' :: camelizeFrom true cs
    else if Text.isAlphanumeric c then
      (if start then Text.uppercaseChar c else [c]) ++ camelizeFrom false cs
    else camelizeFrom true cs

def camelize (id : ServiceId) : String := String.ofList (camelizeFrom true id.toList)

def accessorName (id : ServiceId) : String := "get" ++ camelize id ++ "Service"

/-- Adds the accessor of one id to a table; no two ids may share one. -/
def addAccessor (table : List (ServiceId × String)) (id : ServiceId) :
    Except Failure (List (ServiceId × String)) :=
  if !id.toList.any Text.isAlphanumeric then .error (.invalid (.unusableServiceId id))
  else
    match table.find? fun (_, accessor) => accessor = accessorName id with
    | some (other, accessor) => .error (.invalid (.accessorClash other id accessor))
    | none => .ok (table ++ [(id, accessorName id)])

def Container.accessors (c : Container) : Except Failure (List (ServiceId × String)) :=
  c.ids.foldlM addAccessor []

end ServiceContainer
