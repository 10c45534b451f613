import ServiceContainer.Proofs.Container
import ServiceContainer.Proofs.Php.ReadBack

/-!
# Default parameters in the parameter bag

The text of the default parameters is that of one expression for each, and these denote one value for each
parameter, since resolution succeeds only when no parameter refers back to itself. The bag gives what the
parameters resolve to exactly when each of them can be read back.
-/

namespace ServiceContainer

namespace Container

variable {c : Container} {resolved : List (ParameterKey × Value)}

def readParameter (stored : String → Value) (name : String) : Value := (stored name).unescaped

/-- What the bag stores when it is filled with the default parameters: each value is that of the generated
expression, in which `getParameter` reads from the bag. -/
def Stores (c : Container) (stored : String → Value) : Prop :=
  ∀ {key : ParameterKey} {v : Value}, c.parameters[key]? = some v →
    Php.denote .parameters (readParameter stored) v = some (stored key.text)

/-- The bag gives what the parameters resolve to. -/
def Agrees (stored : String → Value) (resolved : List (ParameterKey × Value)) : Prop :=
  ∀ entry ∈ resolved, readParameter stored entry.1.text = entry.2

theorem Stores.exists_expression {stored : String → Value} (hstored : c.Stores stored) {key : ParameterKey}
    {v : Value} (found : c.parameters[key]? = some v) : ∃ e, Php.expression .parameters v = some e := by
  obtain ⟨e, he, -⟩ := Option.bind_eq_some_iff.mp (hstored found)
  exact ⟨e, he⟩

/-- The text of the default parameters is that of one expression for each, as soon as all of them have one. -/
theorem exists_defaultsText_iff :
    (∃ es, Php.Expressed c.parameters.toList es ∧
        Php.defaultParameters c.parameters.toList = .ok (Php.defaultsText es)) ↔
      ∀ (key : ParameterKey) (v : Value), c.parameters[key]? = some v →
        ∃ e, Php.expression .parameters v = some e := by
  constructor
  · rintro ⟨es, hes, -⟩ key v found
    obtain ⟨e, -, -, he⟩ := exists_of_forall₂ hes (Std.ExtTreeMap.mem_toList_iff_getElem?_eq_some.mpr found)
    exact ⟨e.2, he⟩
  · intro hexpression
    have each : ∀ p ∈ c.parameters.toList, ∃ e : ParameterKey × Php.Expression,
        p.1 = e.1 ∧ Php.expression .parameters p.2 = some e.2 := by
      intro p mem
      obtain ⟨e, he⟩ := hexpression p.1 p.2 (Std.ExtTreeMap.mem_toList_iff_getElem?_eq_some.mp mem)
      exact ⟨(p.1, e), rfl, he⟩
    obtain ⟨es, hes⟩ := exists_forall₂ each
    exact ⟨es, hes, Php.defaultParameters_of_expressions hes⟩

theorem Stores.eq {stored stored' : String → Value} (hresolve : c.resolveAll = .ok resolved)
    (hstored : c.Stores stored) (hstored' : c.Stores stored') {key : ParameterKey}
    (mem : key ∈ c.parameters) : stored key.text = stored' key.text := by
  induction key using (wellFounded_reads hresolve).induction with
  | _ key ih =>
      obtain ⟨v, found⟩ := Option.isSome_iff_exists.mp (Std.ExtTreeMap.mem_iff_isSome_getElem?.mp mem)
      obtain ⟨r, -, hlookup⟩ := exists_lookup_of_resolveAll hresolve mem
      refine Option.some.inj ?_
      rw [← hstored found, ← hstored' found]
      refine Php.denote_congr fun other hother => ?_
      obtain ⟨value, hvalue⟩ :=
        Value.exists_find_of_substitute (substitute_of_lookup found hlookup) hother
      rw [readParameter, ih other ⟨v, found, hother⟩ (mem_parameters_of_lookup hvalue)]
      rfl

open Classical in
/-- The values that the expressions denote, computed along the references. -/
noncomputable def storedAt (wf : WellFounded c.Reads) : ParameterKey → Value :=
  wf.fix fun key stored =>
    match c.parameters[key]? with
    | none => .null
    | some v =>
      (Php.denote .parameters
        (fun name =>
          if reads : c.Reads (.ofName name) key then (stored (.ofName name) reads).unescaped else .null)
        v).getD .null

noncomputable def storedOf (wf : WellFounded c.Reads) (name : String) : Value :=
  storedAt wf (.ofName name)

theorem storedOf_text (wf : WellFounded c.Reads) {key : ParameterKey} {v : Value}
    (found : c.parameters[key]? = some v) :
    storedOf wf key.text = (Php.denote .parameters (readParameter (storedOf wf)) v).getD .null := by
  rw [storedOf, ParameterKey.ofName_text, storedAt, WellFounded.fix_eq]
  simp only [found]
  refine congrArg (Option.getD · Value.null) (Php.denote_congr fun other mem => ?_)
  have reads : c.Reads (.ofName other.text) key := ⟨v, found, by rwa [ParameterKey.ofName_text]⟩
  rw [dif_pos reads]
  rfl

theorem denote_storedOf (wf : WellFounded c.Reads)
    (hexpression : ∀ {key : ParameterKey} {v : Value}, c.parameters[key]? = some v →
      ∃ e, Php.expression .parameters v = some e)
    {key : ParameterKey} {v r : Value} (found : c.parameters[key]? = some v)
    (hlookup : c.lookup [] key = .ok r) :
    Php.denote .parameters (readParameter (storedOf wf)) v = some (storedOf wf key.text) ∧
      ((∃ x, r = .scalar x) → ∃ y, readParameter (storedOf wf) key.text = .scalar y) := by
  induction key using wf.induction generalizing v r with
  | _ key ih =>
      have kinds : ∀ other ∈ v.parameters, ∀ x, c.lookup [] other = .ok (.scalar x) →
          ∃ y, readParameter (storedOf wf) other.text = .scalar y := by
        intro other mem x hother
        obtain ⟨-, v', found', -⟩ := lookup_eq_ok hother
        exact (ih other ⟨v, found, mem⟩ found' hother).2 ⟨x, rfl⟩
      obtain ⟨s, hs, hkind⟩ :=
        Value.exists_denote (hexpression found) kinds (substitute_of_lookup found hlookup)
      have heq : storedOf wf key.text = s := by
        rw [storedOf_text wf found, hs, Option.getD_some]
      rw [readParameter, heq]
      exact ⟨hs, hkind⟩

theorem exists_stores (hresolve : c.resolveAll = .ok resolved)
    (hexpression : ∀ {key : ParameterKey} {v : Value}, c.parameters[key]? = some v →
      ∃ e, Php.expression .parameters v = some e) : ∃ stored, c.Stores stored := by
  refine ⟨storedOf (wellFounded_reads hresolve), fun {key v} found => ?_⟩
  obtain ⟨r, -, hlookup⟩ := exists_lookup_of_resolveAll hresolve (mem_parameters_of_found found)
  exact (denote_storedOf _ hexpression found hlookup).1

def resolvedValue (c : Container) (name : String) : Value :=
  match c.lookup [] (.ofName name) with
  | .ok r => r
  | .error _ => .null

theorem resolvedValue_text {key : ParameterKey} {r : Value} (hlookup : c.lookup [] key = .ok r) :
    c.resolvedValue key.text = r := by
  rw [resolvedValue, ParameterKey.ofName_text, hlookup]

theorem Agrees.readParameter_text (hresolve : c.resolveAll = .ok resolved) {stored : String → Value}
    (hagrees : Agrees stored resolved) {key : ParameterKey} {r : Value}
    (hlookup : c.lookup [] key = .ok r) : readParameter stored key.text = r := by
  obtain ⟨r', mem, hlookup'⟩ := exists_lookup_of_resolveAll hresolve (mem_parameters_of_lookup hlookup)
  cases hlookup.symm.trans hlookup'
  exact hagrees (key, r) mem

def denotedValue (c : Container) (name : String) : Value :=
  ((c.parameters[ParameterKey.ofName name]?).bind (Php.denote .parameters c.resolvedValue)).getD .null

theorem denotedValue_of_readsBack {key : ParameterKey} {v r : Value}
    (found : c.parameters[key]? = some v) (hlookup : c.lookup [] key = .ok r)
    (hreads : v.ReadsBack (c.lookup [])) :
    Php.denote .parameters c.resolvedValue v = some (c.denotedValue key.text) ∧
      readParameter c.denotedValue key.text = r := by
  obtain ⟨s, hs, hunescaped⟩ :=
    (Value.readsBack_iff resolvedValue_text (substitute_of_lookup found hlookup)).mpr hreads
  have hvalue : c.denotedValue key.text = s := by
    rw [denotedValue, ParameterKey.ofName_text, found, Option.bind_some, hs, Option.getD_some]
  rw [readParameter, hvalue]
  exact ⟨hs, hunescaped⟩

/-- The generated default parameters denote one value for each parameter, provided that all of them have an
expression, and then their text is that of the expressions. What the bag gives for them is what they resolve to
exactly when lists have distinct keys that arrays keep and percent signs from parameters never meet. -/
theorem agrees_iff_readsBack (c : Container) (resolved : List (ParameterKey × Value))
    (hresolve : c.resolveAll = .ok resolved) :
    ((∃ stored, c.Stores stored) ↔
      ∀ (key : ParameterKey) (v : Value), c.parameters[key]? = some v →
        ∃ e, Php.expression .parameters v = some e) ∧
    ((∃ stored, c.Stores stored) ↔
      ∃ es, Php.Expressed c.parameters.toList es ∧
        Php.defaultParameters c.parameters.toList = .ok (Php.defaultsText es)) ∧
    (∀ stored stored', c.Stores stored → c.Stores stored' →
      ∀ key ∈ c.parameters, stored key.text = stored' key.text) ∧
    ((∃ stored, c.Stores stored ∧ Agrees stored resolved) ↔
      ∀ (key : ParameterKey) (v : Value), c.parameters[key]? = some v → v.ReadsBack (c.lookup [])) := by
  have stores_iff : (∃ stored, c.Stores stored) ↔
      ∀ (key : ParameterKey) (v : Value), c.parameters[key]? = some v →
        ∃ e, Php.expression .parameters v = some e := by
    constructor
    · rintro ⟨stored, hstored⟩ key v found
      exact hstored.exists_expression found
    · exact fun hexpression => exists_stores hresolve fun found => hexpression _ _ found
  refine ⟨stores_iff, stores_iff.trans exists_defaultsText_iff.symm, ?_, ?_, ?_⟩
  · exact fun stored stored' hstored hstored' key mem => hstored.eq hresolve hstored' mem
  · rintro ⟨stored, hstored, hagrees⟩ key v found
    obtain ⟨r, mem, hlookup⟩ := exists_lookup_of_resolveAll hresolve (mem_parameters_of_found found)
    refine (Value.readsBack_iff (hagrees.readParameter_text hresolve)
      (substitute_of_lookup found hlookup)).mp ⟨stored key.text, hstored found, ?_⟩
    exact hagrees (key, r) mem
  · intro hreads
    refine ⟨c.denotedValue, ?_, ?_⟩
    · intro key v found
      obtain ⟨r, -, hlookup⟩ := exists_lookup_of_resolveAll hresolve (mem_parameters_of_found found)
      rw [← (denotedValue_of_readsBack found hlookup (hreads key v found)).1]
      refine Php.denote_congr fun other mem => ?_
      obtain ⟨value, hvalue⟩ :=
        Value.exists_find_of_substitute (substitute_of_lookup found hlookup) mem
      obtain ⟨-, v', found', -⟩ := lookup_eq_ok hvalue
      have hread := (denotedValue_of_readsBack found' hvalue (hreads other v' found')).2
      rw [hread, resolvedValue_text hvalue]
    · rintro ⟨key, r⟩ mem
      have hlookup := lookup_of_mem_resolveAll hresolve mem
      obtain ⟨-, v, found, -⟩ := lookup_eq_ok hlookup
      exact (denotedValue_of_readsBack found hlookup (hreads key v found)).2

/-! ### A parameter that refers to another -/

def withReference (s : String) : Container :=
  (empty.setParameter "a" (.text s)).setParameter "b" (.parameter (.ofName "a"))

theorem found_withReference {s : String} {key : ParameterKey} {v : Value} :
    (withReference s).parameters[key]? = some v ↔
      (key = .ofName "a" ∧ v = .text s) ∨ (key = .ofName "b" ∧ v = .parameter (.ofName "a")) := by
  have apart : ParameterKey.ofName "a" ≠ .ofName "b" := by decide
  rw [withReference, getElem?_setParameter, getElem?_setParameter]
  split
  · rename_i hb
    subst hb
    simp [apart.symm, eq_comm]
  · rename_i hb
    split
    · rename_i ha
      subst ha
      simp [apart, eq_comm]
    · rename_i ha
      simp [empty, Ne.symm ha, Ne.symm hb]

theorem resolveAll_withReference (s : String) :
    (withReference s).resolveAll = .ok [(.ofName "a", .text s), (.ofName "b", .text s)] := by
  have lookupA : ∀ pending, .ofName "a" ∉ pending →
      (withReference s).lookup pending (.ofName "a") = .ok (.text s) := by
    intro pending new
    rw [lookup_eq_substitute new (found_withReference.mpr (Or.inl ⟨rfl, rfl⟩))]
    rfl
  have lookupB : (withReference s).lookup [] (.ofName "b") = .ok (.text s) := by
    rw [lookup_eq_substitute List.not_mem_nil (found_withReference.mpr (Or.inr ⟨rfl, rfl⟩))]
    exact lookupA [.ofName "b"] (by decide)
  have keys : (withReference s).parameters.keys = [.ofName "a", .ofName "b"] := rfl
  rw [resolveAll_eq_ok_iff, keys]
  exact List.Forall₂.cons ⟨rfl, lookupA [] List.not_mem_nil⟩
    (List.Forall₂.cons ⟨rfl, lookupB⟩ List.Forall₂.nil)

/-- One percent sign is kept. -/
theorem agrees_withReference :
    (withReference "50%").resolveAll = .ok [(.ofName "a", .text "50%"), (.ofName "b", .text "50%")] ∧
      ∃ stored, (withReference "50%").Stores stored ∧
        Agrees stored [(.ofName "a", .text "50%"), (.ofName "b", .text "50%")] := by
  have hresolve := resolveAll_withReference "50%"
  refine ⟨hresolve, (agrees_iff_readsBack (withReference "50%") _ hresolve).2.2.2.mpr ?_⟩
  intro key v found
  rcases found_withReference.mp found with ⟨rfl, rfl⟩ | ⟨rfl, rfl⟩
  · exact trivial
  · intro value hvalue
    cases hvalue.symm.trans (lookup_of_mem_resolveAll hresolve List.mem_cons_self)
    rw [Value.text, Value.texts, List.forall_mem_singleton]
    decide

/-- Of two percent signs that come through a reference, one is lost. -/
theorem disagrees_withReference :
    (∃ text, Php.containerClass {} (withReference "%%") = .ok text) ∧
      (withReference "%%").resolveAll = .ok [(.ofName "a", .text "%%"), (.ofName "b", .text "%%")] ∧
      ∃ stored, (withReference "%%").Stores stored ∧ readParameter stored "b" = .text "%" := by
  refine ⟨?_, resolveAll_withReference "%%", ?_⟩
  · have isOk : (Php.containerClass {} (withReference "%%")).toBool = true := by decide +kernel
    exact exists_eq_ok_of_toBool isOk
  · refine ⟨fun name => if name = "a" then .text "%%%%" else .text "%%", ?_, rfl⟩
    intro key v found
    rcases found_withReference.mp found with ⟨rfl, rfl⟩ | ⟨rfl, rfl⟩
    · rfl
    · rfl

end Container

end ServiceContainer
