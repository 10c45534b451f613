import ServiceContainer.Text.Lowercase

/-!
Names of parameters. Case does not distinguish them, so a key is always a lower-cased name.
-/

namespace ServiceContainer

structure ParameterKey where
  text : String
  isLowercase : ∃ name, Text.lowercase name = text
  deriving DecidableEq

namespace ParameterKey

def ofName (name : String) : ParameterKey := ⟨Text.lowercase name, name, rfl⟩

instance : Ord ParameterKey := ⟨compareOn (·.text)⟩

instance : Std.TransOrd ParameterKey := inferInstanceAs (Std.TransCmp (compareOn ParameterKey.text))

instance : Std.LawfulEqOrd ParameterKey where
  eq_of_compare {a b} h := by
    have texts : a.text = b.text := Std.compare_eq_iff_eq.mp h
    cases a; cases b; simp_all

end ParameterKey

end ServiceContainer
