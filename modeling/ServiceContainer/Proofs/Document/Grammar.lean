import ServiceContainer.Compilation
import ServiceContainer.Proofs.Document.Service
import ServiceContainer.Proofs.Tree

/-!
# The grammar of documents

Which trees are documents is said by their sections, by the fields of each service and by what may stand in a
field. Reading accepts just these trees. All others fail with a defect that is named, or else because the first
service that is no entry has known fields only, but no class.
-/

namespace ServiceContainer

/-! ### The grammar -/

namespace Tree

/-- A section, or the arguments of a call. Nothing at all counts as an empty map. -/
inductive IsEntries : Tree → Prop
  | null : IsEntries (.scalar .null)
  | map (entries : List (Key × Tree)) : IsEntries (.map entries)

inductive IsConfigurator : Tree → Prop
  | function (name : String) : IsConfigurator (.scalar (.text name))
  | pair (target : Tree) (method : String) :
      IsConfigurator (.map [(.index 0, target), (.index 1, .scalar (.text method))])

inductive IsCall : Tree → Prop
  | plain (method : String) : IsCall (.map [(.index 0, .scalar (.text method))])
  | given (method : String) {arguments : Tree} (entries : arguments.IsEntries) :
      IsCall (.map [(.index 0, .scalar (.text method)), (.index 1, arguments)])

inductive IsCalls : Tree → Prop
  | null : IsCalls (.scalar .null)
  | map {calls : List (Key × Tree)} (each : ∀ call ∈ calls, call.2.IsCall) : IsCalls (.map calls)

def IsField (key : Key) : Prop :=
  ∃ name ∈ ["class", "shared", "constructor", "file", "arguments", "configurator", "calls"], key = .name name

/-- The fields of a service. Of a field that is given twice, the first counts. -/
structure IsService (fields : List (Key × Tree)) : Prop where
  known : ∀ field ∈ fields, IsField field.1
  className : ∃ tree, First fields "class" tree ∧ tree ≠ .scalar .null
  shared : ∀ tree, First fields "shared" tree → ∃ b, tree = .scalar (.bool b)
  factory : ∀ tree, First fields "constructor" tree → ∃ name, tree = .scalar (.text name)
  arguments : ∀ tree, First fields "arguments" tree → tree.IsEntries
  configurator : ∀ tree, First fields "configurator" tree → tree.IsConfigurator
  calls : ∀ tree, First fields "calls" tree → tree.IsCalls

inductive IsEntry : Tree → Prop
  | alias {target : String} (nonempty : target ≠ "") : IsEntry (.scalar (.text ("@" ++ target)))
  | service {fields : List (Key × Tree)} (service : IsService fields) : IsEntry (.map fields)

/-- An entry with the id that it stands under. -/
def IsNamedEntry (service : Key × Tree) : Prop := service.1.text ≠ "" ∧ service.2.IsEntry

structure IsSection (mode : Mode) (entry : Key × Tree) : Prop where
  key : entry.1 = .name "services" ∨ entry.1 = .name "parameters" ∧ mode ≠ .strict
  entries : entry.2.IsEntries

/-- Of a section that is given twice, the last counts. -/
inductive IsDocument (mode : Mode) : Tree → Prop
  | map {sections : List (Key × Tree)} (each : ∀ entry ∈ sections, IsSection mode entry)
      (services : ∀ services, Last sections "services" (.map services) → ∀ service ∈ services, IsNamedEntry service) :
      IsDocument mode (.map sections)

/-- All fields are known, and no class is given. What else the fields hold does not matter. -/
inductive LacksClass : Tree → Prop
  | map {fields : List (Key × Tree)} (known : ∀ field ∈ fields, IsField field.1)
      (null : ∀ className, First fields "class" className → className = .scalar .null) : LacksClass (.map fields)

/-- Everything is as it should be up to a service that lacks a class. -/
inductive LacksClassAt (mode : Mode) (id : ServiceId) : Tree → Prop
  | map {sections front back : List (Key × Tree)} {key : Key} {service : Tree}
      (each : ∀ entry ∈ sections, IsSection mode entry)
      (last : Last sections "services" (.map (front ++ (key, service) :: back)))
      (before : ∀ service ∈ front, IsNamedEntry service)
      (text : key.text = id) (nonempty : id ≠ "") (lacks : service.LacksClass) :
      LacksClassAt mode id (.map sections)

end Tree

/-! ### Failing with a defect -/

def FailsByDefect {α : Type} (x : Except Failure α) : Prop :=
  ∀ failure, x = .error failure → ∃ defect, failure = .invalid defect

namespace FailsByDefect

variable {α β : Type} {x : Except Failure α}

theorem ok (a : α) : FailsByDefect (.ok a) := FailsOnly.ok a

theorem invalid (defect : Defect) : FailsByDefect (.error (.invalid defect) : Except Failure α) :=
  FailsOnly.error ⟨defect, rfl⟩

theorem bind (hx : FailsByDefect x) {f : α → Except Failure β} (hf : ∀ a, FailsByDefect (f a)) :
    FailsByDefect (x >>= f) :=
  FailsOnly.bind hx hf

theorem map (hx : FailsByDefect x) (f : α → β) : FailsByDefect (x.map f) := FailsOnly.map hx f

theorem mapM {f : α → Except Failure β} (hf : ∀ a, FailsByDefect (f a)) (as : List α) :
    FailsByDefect (as.mapM f) :=
  FailsOnly.mapM fun a _ => hf a

theorem foldlM {f : α → β → Except Failure α} (hf : ∀ a b, FailsByDefect (f a b)) (bs : List β) (a : α) :
    FailsByDefect (bs.foldlM f a) :=
  FailsOnly.foldlM hf

theorem forM {f : α → Except Failure Unit} (hf : ∀ a, FailsByDefect (f a)) (as : List α) :
    FailsByDefect (as.forM f) :=
  FailsOnly.forM fun a _ => hf a

end FailsByDefect

/-! ### Fields -/

namespace Definition

variable {id : ServiceId} {field : String} {tree : Tree}

theorem readText_eq_ok_iff {s : String} : readText id field tree = .ok s ↔ tree = .scalar (.text s) := by
  unfold readText Tree.text?
  split
  · simp
  · rename_i hne
    simp only [Option.elim_none, reduceCtorEq, false_iff]
    exact hne s

theorem failsByDefect_readText (id : ServiceId) (field : String) (tree : Tree) :
    FailsByDefect (readText id field tree) := by
  unfold readText
  cases tree.text? with
  | none => exact .invalid _
  | some s => exact .ok s

theorem exists_readShared_iff : (∃ b, readShared id tree = .ok b) ↔ ∃ b, tree = .scalar (.bool b) := by
  unfold readShared
  split
  · simp
  · rename_i hne
    exact iff_of_false nofun fun ⟨b, hb⟩ => hne b hb

theorem failsByDefect_readShared (id : ServiceId) (tree : Tree) : FailsByDefect (readShared id tree) := by
  unfold readShared
  split
  · exact .ok _
  · exact .invalid _

theorem exists_readArguments_iff : (∃ arguments, readArguments id field tree = .ok arguments) ↔ tree.IsEntries := by
  unfold readArguments
  split
  · exact iff_of_true ⟨_, rfl⟩ (.map _)
  · exact iff_of_true ⟨_, rfl⟩ .null
  · rename_i hmap hnull
    refine iff_of_false nofun ?_
    rintro (_ | entries)
    · exact hnull rfl
    · exact hmap entries rfl

theorem failsByDefect_readArguments (id : ServiceId) (field : String) (tree : Tree) :
    FailsByDefect (readArguments id field tree) := by
  unfold readArguments
  split
  · exact .ok _
  · exact .ok _
  · exact .invalid _

theorem exists_readConfigurator_iff :
    (∃ configurator, readConfigurator id tree = .ok configurator) ↔ tree.IsConfigurator := by
  unfold readConfigurator
  split
  · exact iff_of_true ⟨_, rfl⟩ (.function _)
  · simp only [exists_map_eq_ok_iff, readText_eq_ok_iff]
    constructor
    · rintro ⟨method, rfl⟩
      exact .pair _ method
    · rintro ⟨⟩
      exact ⟨_, rfl⟩
  · rename_i hpair
    refine iff_of_false nofun ?_
    rintro (_ | ⟨target, method⟩)
    exact hpair target _ rfl
  · rename_i hname hpair hmap
    refine iff_of_false nofun ?_
    rintro (name | ⟨target, method⟩)
    · exact hname name rfl
    · exact hmap _ rfl

theorem failsByDefect_readConfigurator (id : ServiceId) (tree : Tree) :
    FailsByDefect (readConfigurator id tree) := by
  unfold readConfigurator
  split
  · exact .ok _
  · exact (failsByDefect_readText _ _ _).map _
  · exact .invalid _
  · exact .invalid _

theorem exists_readCall_iff : (∃ call, readCall id tree = .ok call) ↔ tree.IsCall := by
  unfold readCall
  split
  · simp only [exists_bind_eq_ok_iff, readText_eq_ok_iff]
    constructor
    · rintro ⟨method, rfl, -⟩
      exact .plain method
    · rintro ⟨⟩
      exact ⟨_, rfl, _, rfl⟩
  · simp only [exists_bind_eq_ok_iff, readText_eq_ok_iff]
    constructor
    · rintro ⟨method, rfl, arguments, harguments, -⟩
      exact .given method (exists_readArguments_iff.mp ⟨arguments, harguments⟩)
    · rintro (_ | ⟨method, entries⟩)
      obtain ⟨arguments, harguments⟩ := exists_readArguments_iff.mpr entries
      exact ⟨method, rfl, arguments, harguments, _, rfl⟩
  · rename_i hplain hgiven
    refine iff_of_false nofun ?_
    rintro (method | ⟨method, entries⟩)
    · exact hplain _ rfl
    · exact hgiven _ _ rfl

theorem failsByDefect_readCall (id : ServiceId) (tree : Tree) : FailsByDefect (readCall id tree) := by
  unfold readCall
  split
  · exact (failsByDefect_readText _ _ _).bind fun method => .ok _
  · exact (failsByDefect_readText _ _ _).bind fun method =>
      (failsByDefect_readArguments _ _ _).bind fun arguments => .ok _
  · exact .invalid _

theorem exists_readCalls_iff : (∃ calls, readCalls id tree = .ok calls) ↔ tree.IsCalls := by
  unfold readCalls
  split
  · rw [exists_mapM_eq_ok_iff]
    simp only [exists_readCall_iff]
    constructor
    · exact .map
    · rintro (_ | each)
      exact each
  · exact iff_of_true ⟨_, rfl⟩ .null
  · rename_i hmap hnull
    refine iff_of_false nofun ?_
    rintro (_ | each)
    · exact hnull rfl
    · exact hmap _ rfl

theorem failsByDefect_readCalls (id : ServiceId) (tree : Tree) : FailsByDefect (readCalls id tree) := by
  unfold readCalls
  split
  · exact .mapM (fun (_, call) => failsByDefect_readCall id call) _
  · exact .ok _
  · exact .invalid _

theorem failsByDefect_readField {α : Type} {default : α} {read : Tree → Except Failure α}
    (hread : ∀ value, FailsByDefect (read value)) : FailsByDefect (readField tree field default read) := by
  unfold readField
  cases tree.find? field with
  | none => exact .ok default
  | some value => exact hread value

end Definition

end ServiceContainer
