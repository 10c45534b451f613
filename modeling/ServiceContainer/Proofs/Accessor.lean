import Mathlib.Data.List.Nodup
import ServiceContainer.Compilation
import ServiceContainer.Proofs.Result
import ServiceContainer.Proofs.Text.AsciiCase

/-!
# Names of accessors

A table of accessors is accepted when every id has a letter or digit and no two accessors are spelled alike.
PHP does not tell methods apart by ASCII case, and for that the spelling is not enough: ids with the same
letters and digits have the same method, wherever their words begin.
-/

namespace ServiceContainer

/-- A name as PHP compares it with the names of other methods. -/
def ignoreCase (name : String) : List Char := name.toList.map Char.toLower

/-- What an accessor keeps of an id when ASCII case is ignored. `start` says that a word starts here, where a
letter outside ASCII is in upper case. -/
def bareFrom (start : Bool) : List Char → List Char
  | [] => []
  | c :: cs =>
    if c = '.' then '_' :: bareFrom true cs
    else if c.isAlphanum then c.toLower :: bareFrom false cs
    else if Text.isAlphanumeric c then
      (if start then (Text.uppercaseChar c).map Char.toLower else [c]) ++ bareFrom false cs
    else bareFrom true cs

def bare (id : ServiceId) : List Char := bareFrom true id.toList

/-- The methods of a generated class that are not accessors. -/
def ownMethods : List String := ["__construct", "hasService", "getService", "getServiceIds", "getDefaultParameters"]

section Table

variable {table table' : List (ServiceId × String)} {ids : List ServiceId} {id : ServiceId}

theorem addAccessor_eq_ok_iff :
    addAccessor table id = .ok table' ↔ id.toList.any Text.isAlphanumeric = true ∧
      accessorName id ∉ table.map (·.2) ∧ table' = table ++ [(id, accessorName id)] := by
  unfold addAccessor
  by_cases usable : id.toList.any Text.isAlphanumeric = true
  · simp only [usable, Bool.not_true, Bool.false_eq_true, if_false, true_and]
    cases found : table.find? fun row => row.2 = accessorName id with
    | some row =>
        have mem := List.mem_of_find?_eq_some found
        have heq : row.2 = accessorName id := by simpa using List.find?_some found
        refine iff_of_false nofun fun both => both.1 ?_
        rw [← heq]
        exact List.mem_map_of_mem mem
    | none =>
        have hnew : accessorName id ∉ table.map (·.2) := by
          intro mem
          obtain ⟨row, hrow, heq⟩ := List.mem_map.mp mem
          simpa [heq] using List.find?_eq_none.mp found row hrow
        simp only [hnew, not_false_eq_true, true_and, Except.ok.injEq]
        exact eq_comm
  · simp [usable]

theorem foldlM_addAccessor_eq_ok_iff :
    ids.foldlM addAccessor table = .ok table' ↔
      (∀ id ∈ ids, id.toList.any Text.isAlphanumeric = true) ∧
      (∀ id ∈ ids, accessorName id ∉ table.map (·.2)) ∧ (ids.map accessorName).Nodup ∧
      table' = table ++ ids.map fun id => (id, accessorName id) := by
  induction ids generalizing table with
  | nil =>
      simp only [List.foldlM_nil, pure, Except.pure, Except.ok.injEq, List.not_mem_nil, false_implies,
        implies_true, List.map_nil, List.nodup_nil, List.append_nil, true_and]
      exact eq_comm
  | cons id ids ih =>
      rw [List.foldlM_cons, bind_eq_ok_iff]
      simp only [addAccessor_eq_ok_iff, ih]
      constructor
      · rintro ⟨_, ⟨usable, new, rfl⟩, usables, news, nodup, rfl⟩
        refine ⟨List.forall_mem_cons.mpr ⟨usable, usables⟩, ?_, ?_, by simp⟩
        · refine List.forall_mem_cons.mpr ⟨new, fun other mem hother => news other mem ?_⟩
          rw [List.map_append]
          exact List.mem_append_left _ hother
        · refine List.nodup_cons.mpr ⟨fun mem => ?_, nodup⟩
          obtain ⟨other, hother, heq⟩ := List.mem_map.mp mem
          exact news other hother (by simp [heq])
      · rintro ⟨usables, news, nodup, rfl⟩
        obtain ⟨usable, usables⟩ := List.forall_mem_cons.mp usables
        obtain ⟨new, news⟩ := List.forall_mem_cons.mp news
        obtain ⟨apart, nodup⟩ := List.nodup_cons.mp nodup
        refine ⟨_, ⟨usable, new, rfl⟩, usables, fun other mem => ?_, nodup, by simp⟩
        have hne : accessorName other ≠ accessorName id := by
          intro heq
          exact apart (heq ▸ List.mem_map_of_mem mem)
        simpa [hne] using news other mem

theorem Container.accessors_eq_ok_iff {c : Container} :
    c.accessors = .ok table ↔ (∀ id ∈ c.ids, id.toList.any Text.isAlphanumeric = true) ∧
      (c.ids.map accessorName).Nodup ∧ table = c.ids.map fun id => (id, accessorName id) := by
  rw [accessors, foldlM_addAccessor_eq_ok_iff]
  simp

theorem accessorName_inj {a b : ServiceId} : accessorName a = accessorName b ↔ camelize a = camelize b := by
  rw [accessorName, accessorName, String.append_left_inj, String.append_right_inj]

/-- There is a table when every id has a letter or digit and no two are the same in camel case. -/
theorem Container.exists_accessors_iff {c : Container} :
    (∃ table, c.accessors = .ok table) ↔ (∀ id ∈ c.entries, id.toList.any Text.isAlphanumeric = true) ∧
      ∀ a ∈ c.entries, ∀ b ∈ c.entries, camelize a = camelize b → a = b := by
  have hnodup : (c.ids.map accessorName).Nodup ↔
      ∀ a ∈ c.ids, ∀ b ∈ c.ids, accessorName a = accessorName b → a = b :=
    List.nodup_map_iff_inj_on Std.ExtTreeMap.nodup_keys
  simp only [accessors_eq_ok_iff, exists_and_left, exists_eq, and_true]
  rw [hnodup]
  simp only [accessorName_inj, ids, Std.ExtTreeMap.mem_keys]

end Table

/-! ### Names without regard to case -/

theorem isAlphanum_of_not_ascii {c : Char} (hc : 128 ≤ c.toNat) : c.isAlphanum = false := by
  have hval : c.toNat = c.val.toNat := rfl
  delta Char.isAlphanum Char.isAlpha Char.isUpper Char.isLower Char.isDigit
  simp [UInt32.le_iff_toNat_le, ← hval]
  omega

theorem map_toLower_camelizeFrom (start : Bool) (cs : List Char) :
    (camelizeFrom start cs).map Char.toLower = bareFrom start cs := by
  induction cs generalizing start with
  | nil => rfl
  | cons c cs ih =>
      unfold camelizeFrom bareFrom
      by_cases dot : c = '.'
      · rw [if_pos dot, if_pos dot, List.map_cons, ih]
        rfl
      rw [if_neg dot, if_neg dot]
      by_cases ascii : c.toNat < 128
      · rw [Text.isAlphanumeric_of_ascii ascii, Text.uppercaseChar_of_ascii ascii]
        by_cases alphanumeric : c.isAlphanum
        · rw [if_pos alphanumeric, if_pos alphanumeric, List.map_append, ih]
          cases start <;> simp [Text.toLower_toUpper_of_ascii ascii]
        · rw [if_neg alphanumeric, if_neg alphanumeric, if_neg alphanumeric, ih]
      · have beyond : 128 ≤ c.toNat := Nat.le_of_not_lt ascii
        rw [isAlphanum_of_not_ascii beyond, if_neg Bool.false_ne_true]
        by_cases alphanumeric : Text.isAlphanumeric c
        · rw [if_pos alphanumeric, if_pos alphanumeric, List.map_append, ih]
          cases start <;> simp [Text.toLower_of_not_ascii beyond]
        · rw [if_neg alphanumeric, if_neg alphanumeric, ih]

theorem ignoreCase_accessorName (id : ServiceId) :
    ignoreCase (accessorName id) = "get".toList ++ (bare id ++ "service".toList) := by
  have hcamelize : (camelize id).toList = camelizeFrom true id.toList := String.toList_ofList
  rw [ignoreCase, accessorName, String.toList_append, String.toList_append, hcamelize, List.map_append,
    List.map_append, map_toLower_camelizeFrom, List.append_assoc]
  rfl

theorem ignoreCase_accessorName_inj {a b : ServiceId} :
    ignoreCase (accessorName a) = ignoreCase (accessorName b) ↔ bare a = bare b := by
  rw [ignoreCase_accessorName, ignoreCase_accessorName, List.append_cancel_left_eq, List.append_cancel_right_eq]

theorem camelizeFrom_ne_nil {cs : List Char} (usable : cs.any Text.isAlphanumeric = true) (start : Bool) :
    camelizeFrom start cs ≠ [] := by
  induction cs generalizing start with
  | nil => cases usable
  | cons c cs ih =>
      rw [camelizeFrom]
      split
      · exact List.cons_ne_nil _ _
      · rw [List.any_cons, Bool.or_eq_true] at usable
        split
        · cases start <;> simp [Text.uppercaseChar_ne_nil]
        · rename_i unusable
          exact ih (usable.resolve_left unusable) true

theorem bare_ne_nil {id : ServiceId} (usable : id.toList.any Text.isAlphanumeric = true) : bare id ≠ [] := by
  rw [bare, ← map_toLower_camelizeFrom]
  exact fun heq => camelizeFrom_ne_nil usable true (List.map_eq_nil_iff.mp heq)

/-- What all accessors look like and no other method does. -/
theorem accessorName_not_own {id : ServiceId} (usable : id.toList.any Text.isAlphanumeric = true) {own : String}
    (mem : own ∈ ownMethods) : ignoreCase (accessorName id) ≠ ignoreCase own := by
  intro heq
  have shape : (ignoreCase own).head? = some 'g' ∧ (ignoreCase own).getLast? = some 'e' ∧
      10 < (ignoreCase own).length := by
    rw [← heq, ignoreCase_accessorName]
    have hlength := List.length_pos_iff.mpr (bare_ne_nil usable)
    refine ⟨rfl, ?_, ?_⟩
    · rw [← List.append_assoc, List.getLast?_append]
      rfl
    · rw [List.length_append, List.length_append, show "get".toList.length = 3 from rfl,
        show "service".toList.length = 7 from rfl]
      omega
  have different : ∀ own ∈ ownMethods, ¬ ((ignoreCase own).head? = some 'g' ∧
      (ignoreCase own).getLast? = some 'e' ∧ 10 < (ignoreCase own).length) := by
    decide
  exact different own mem shape

namespace Container

/-- No two ids have accessors that PHP takes for the same method. -/
def AccessorsApart (c : Container) : Prop :=
  ∀ a ∈ c.ids, ∀ b ∈ c.ids, a ≠ b → ignoreCase (accessorName a) ≠ ignoreCase (accessorName b)

/-- An accepted table names one accessor for each id, all spelled differently and none like another method of
the class; they are different methods exactly when the ids have different letters and digits. -/
theorem accessorsApart_iff (c : Container) (table : List (ServiceId × String)) (hok : c.accessors = .ok table) :
    table = c.ids.map (fun id => (id, accessorName id)) ∧ (table.map (·.2)).Nodup ∧
      (∀ row ∈ table, ∀ own ∈ ownMethods, ignoreCase row.2 ≠ ignoreCase own) ∧
      (c.AccessorsApart ↔ ∀ a ∈ c.ids, ∀ b ∈ c.ids, a ≠ b → bare a ≠ bare b) := by
  obtain ⟨usable, nodup, rfl⟩ := accessors_eq_ok_iff.mp hok
  refine ⟨rfl, ?_, ?_, ?_⟩
  · rwa [List.map_map]
  · rintro row mem own hown
    obtain ⟨id, hid, rfl⟩ := List.mem_map.mp mem
    exact accessorName_not_own (usable id hid) hown
  · simp only [AccessorsApart, ne_eq, ignoreCase_accessorName_inj]

/-! ### Two ids with one method -/

def withIds (a b : ServiceId) : Container :=
  (empty.setDefinition a { className := .text "A" }).setDefinition b { className := .text "B" }

theorem accessorsApart_withIds :
    (withIds "foo.bar" "mailer").accessors =
        .ok [("foo.bar", "getFoo_BarService"), ("mailer", "getMailerService")] ∧
      (withIds "foo.bar" "mailer").AccessorsApart := by
  have ids : (withIds "foo.bar" "mailer").ids = ["foo.bar", "mailer"] := by decide +kernel
  have hok : (withIds "foo.bar" "mailer").accessors =
      .ok [("foo.bar", "getFoo_BarService"), ("mailer", "getMailerService")] := by
    rw [accessors_eq_ok_iff, ids]
    decide +kernel
  refine ⟨hok, (accessorsApart_iff _ _ hok).2.2.2.mpr ?_⟩
  rw [ids]
  decide +kernel

/-- The words of one id begin where the other goes on: a class is generated that declares one method twice. -/
theorem not_accessorsApart_withIds :
    (∃ text, Php.containerClass {} (withIds "foo_bar" "foobar") = .ok text) ∧
      (withIds "foo_bar" "foobar").accessors =
        .ok [("foo_bar", "getFooBarService"), ("foobar", "getFoobarService")] ∧
      ¬ (withIds "foo_bar" "foobar").AccessorsApart := by
  have ids : (withIds "foo_bar" "foobar").ids = ["foo_bar", "foobar"] := by decide +kernel
  have isOk : (Php.containerClass {} (withIds "foo_bar" "foobar")).toBool = true := by decide +kernel
  have hok : (withIds "foo_bar" "foobar").accessors =
      .ok [("foo_bar", "getFooBarService"), ("foobar", "getFoobarService")] := by
    rw [accessors_eq_ok_iff, ids]
    decide +kernel
  refine ⟨exists_eq_ok_of_toBool isOk, hok, fun apart => ?_⟩
  rw [AccessorsApart, ids] at apart
  exact apart "foo_bar" (by decide) "foobar" (by decide) (by decide) (by decide +kernel)

end Container

end ServiceContainer
