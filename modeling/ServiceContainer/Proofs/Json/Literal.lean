import ServiceContainer.Json
import ServiceContainer.Json.Literal

/-!
# Quoted text

What stands between quotes is read as one unit for each character of the text, and spells that text again.
-/

namespace ServiceContainer.Json

/-- Control characters without a letter of their own are given by their numbers. -/
def unit (c : Char) : CharUnit :=
  if c.toNat < 0x20 ∧ c ∉ ['\x08', '\x0c', '\n', '\r', '\t'] then .code c.toNat else .char c

def units (s : String) : List CharUnit := s.toList.map unit

theorem hexValue?_hexDigit {d : Nat} (hd : d < 16) : hexValue? (hexDigit d) = some d := by
  decide +revert

theorem hexNumber?_hexDigit {n : Nat} (hn : n < 0x20) :
    hexNumber? ['0', '0', hexDigit (n / 16), hexDigit (n % 16)] = some n := by
  have hzero : hexValue? '0' = some 0 := rfl
  have hhigh := hexValue?_hexDigit (d := n / 16) (by omega)
  have hlow := hexValue?_hexDigit (d := n % 16) (by omega)
  simp only [hexNumber?, List.foldlM_cons, List.foldlM_nil, hzero, hhigh, hlow, Option.map_some, Option.bind_eq_bind,
    Option.bind_some, Option.pure_def, Option.some.injEq]
  omega

variable (done : List CharUnit) (cs : List Char)

theorem readUnits_escapeChar (c : Char) :
    readUnits done (escapeChar c ++ cs) = readUnits (unit c :: done) cs := by
  unfold escapeChar
  split
  case h_8 hquote hslash hback hform hline hreturn htab =>
      have plain : c ∉ ['\x08', '\x0c', '\n', '\r', '\t'] := by
        simp only [List.mem_cons, List.not_mem_nil, or_false, not_or]
        exact ⟨hback, hform, hline, hreturn, htab⟩
      by_cases control : c.toNat < 0x20
      · have hunit : unit c = .code c.toNat := if_pos ⟨control, plain⟩
        rw [if_pos control, hunit]
        simp only [List.cons_append, List.nil_append, readUnits, hexNumber?_hexDigit control]
      · have hunit : unit c = .char c := if_neg fun h => control h.1
        rw [if_neg control, hunit, List.singleton_append, readUnits, if_neg control]
        · exact hquote
        · exact fun _ _ _ _ _ h _ => hslash h
        · exact fun _ _ h _ => hslash h
  all_goals rfl

theorem readUnits_flatMap (text : List Char) :
    readUnits done (text.flatMap escapeChar ++ '"' :: cs) = some (done.reverse ++ text.map unit, cs) := by
  induction text generalizing done with
  | nil => rw [List.flatMap_nil, List.nil_append, readUnits, List.map_nil, List.append_nil]
  | cons c text ih =>
      rw [List.flatMap_cons, List.append_assoc, readUnits_escapeChar, ih, List.reverse_cons, List.map_cons,
        List.append_assoc, List.singleton_append]

/-- The number of a character that is no surrogate stands for it whatever comes next. -/
theorem spell?_code {n : Nat} (low : n < 0xD800) (us : List CharUnit) :
    spell? (.code n :: us) = (spell? us).map (Char.ofNat n :: ·) := by
  have hhigh : isHighSurrogate n = false := by
    rw [isHighSurrogate, decide_eq_false (by omega), Bool.false_and]
  have hlow : isLowSurrogate n = false := by
    rw [isLowSurrogate, decide_eq_false (by omega), Bool.false_and]
  rw [spell?.eq_def]
  split <;> simp_all

theorem spell?_map_unit (text : List Char) : spell? (text.map unit) = some text := by
  induction text with
  | nil => rfl
  | cons c text ih =>
      rw [List.map_cons, unit]
      split
      · rename_i control
        rw [spell?_code (by omega), ih, Option.map_some, Char.ofNat_toNat]
      · rw [spell?, ih, Option.map_some]

theorem text?_units (s : String) : text? (units s) = some s := by
  rw [text?, units, spell?_map_unit, Option.map_some, String.ofList_toList]

theorem units_injective {s s' : String} (same : units s = units s') : s = s' := by
  have htext : some s = some s' := by rw [← text?_units, ← text?_units, same]
  exact Option.some.inj htext

end ServiceContainer.Json
