import ServiceContainer.Proofs.Container
import ServiceContainer.Proofs.Resolution
import ServiceContainer.Proofs.Trail

/-!
# Parameters that refer back to themselves

A lookup that comes to a parameter for the second time reports the whole trail to it. From there back to where the
parameter stands first the trail is a round, each parameter of which refers to the next. What stands in front of
that is only the way in, which takes no part in the round.
-/

namespace ServiceContainer

/-- The first parameter that is not found decides how substitution fails, unless something does not go into a
string. It still does so when more is found. -/
theorem Value.exists_failing_parameter {find : ParameterKey → Except Failure Value} {v : Value} {failure : Failure}
    (failed : v.substitute find = .error failure) (unfound : ∀ defect, failure ≠ .invalid defect) :
    ∃ key ∈ v.parameters, find key = .error failure ∧
      ∀ find' : ParameterKey → Except Failure Value,
        (∀ {other value}, find other = .ok value → find' other = .ok value) →
        ∀ {failure'}, find' key = .error failure' → v.substitute find' = .error failure' := by
  induction v generalizing failure with
  | scalar s => cases failed
  | list items ih =>
      rw [substitute, substituteItems_eq_mapM, map_eq_error_iff, mapM_eq_error_iff] at failed
      obtain ⟨front, entry, back, rfl, each, failed⟩ := failed
      have mem : entry ∈ front ++ entry :: back := List.mem_append_right front List.mem_cons_self
      obtain ⟨key, hkey, hfind, decides⟩ := ih entry mem (map_eq_error_iff.mp failed) unfound
      refine ⟨key, ?_, hfind, fun find' mono {failure'} hfind' => ?_⟩
      · rw [parameters_list]
        exact List.mem_flatMap_of_mem mem hkey
      · rw [substitute, substituteItems_eq_mapM, map_eq_error_iff, mapM_eq_error_iff]
        refine ⟨front, entry, back, rfl, fun other hother => ?_, map_eq_error_iff.mpr (decides find' mono hfind')⟩
        obtain ⟨resolved, hresolved⟩ := each other hother
        obtain ⟨r, hr, -⟩ := map_eq_ok_iff.mp hresolved
        exact ⟨(other.1, r), map_eq_ok_iff.mpr ⟨r, substitute_mono mono hr, rfl⟩⟩
  | service id => cases failed
  | parameter key => exact ⟨key, List.mem_singleton_self key, failed, fun find' _ {_} hfind' => hfind'⟩
  | template segments =>
      rw [substitute, map_eq_error_iff, mapM_eq_error_iff] at failed
      obtain ⟨front, segment, back, rfl, each, failed⟩ := failed
      cases segment with
      | literal s => cases failed
      | parameter key =>
          have hfind : find key = .error failure := by
            rw [Segment.interpolate] at failed
            split at failed
            · rename_i hfind
              cases failed
              exact hfind
            · cases failed
            · cases failed
              exact absurd rfl (unfound _)
          refine ⟨key, by simp [mem_parameters_template], hfind, fun find' mono {failure'} hfind' => ?_⟩
          rw [substitute, map_eq_error_iff, mapM_eq_error_iff]
          refine ⟨front, .parameter key, back, rfl, fun other hother => ?_, by rw [Segment.interpolate, hfind']⟩
          obtain ⟨text, htext⟩ := each other hother
          cases other with
          | literal s => exact ⟨s, rfl⟩
          | parameter key' =>
              obtain ⟨s, hs, -⟩ := Segment.interpolate_eq_ok_iff.mp htext
              exact ⟨_, Segment.interpolate_eq_ok_iff.mpr ⟨s, mono hs, rfl⟩⟩
  | object type => cases failed

namespace Container

variable {c : Container} {key other place : ParameterKey} {pending rest : List ParameterKey} {path : List String}

/-- The value of the first parameter refers to the second. -/
def Refers (c : Container) (key other : ParameterKey) : Prop := c.Reads other key

def circular (trail : List ParameterKey) : Failure := .circularReference (trail.map (·.text))

theorem lookup_of_mem (mem : key ∈ pending) : c.lookup pending key = .error (circular (pending ++ [key])) := by
  rw [lookup, if_pos mem]
  rfl

/-- A lookup that fails in a round has gone on to another parameter, which decides when fewer parameters are pending
as well. -/
theorem exists_failing_lookup (new : key ∉ pending) (failed : c.lookup pending key = .error (.circularReference path)) :
    ∃ other, c.Refers key other ∧ c.lookup (pending ++ [key]) other = .error (.circularReference path) ∧
      ∀ pending' ⊆ pending, ∀ failure, c.lookup (pending' ++ [key]) other = .error failure →
        c.lookup pending' key = .error failure := by
  cases found : c.parameters[key]? with
  | none =>
      rw [lookup_of_not_found new found] at failed
      cases failed
  | some v =>
      rw [lookup_eq_substitute new found] at failed
      obtain ⟨other, mem, hother, decides⟩ := Value.exists_failing_parameter failed nofun
      refine ⟨other, ⟨v, found, mem⟩, hother, fun pending' sub failure hfailure => ?_⟩
      rw [lookup_eq_substitute (fun mem => new (sub mem)) found]
      refine decides _ (fun {key' value} hvalue => lookup_of_subset ?_ hvalue) hfailure
      exact List.append_subset.mpr ⟨List.subset_append_of_subset_left _ sub, List.subset_append_right _ _⟩

/-- From each parameter on the trail a lookup goes the rest of the way, as long as the place that it comes back to is
pending or still on the way. -/
def Resumes (c : Container) (pending trail : List ParameterKey) (place : ParameterKey) : Prop :=
  ∀ front start back, trail = front ++ start :: back → ∀ pending' ⊆ pending,
    place ∈ pending' ++ (start :: back).dropLast →
      c.lookup pending' start = .error (circular (pending' ++ start :: back))

theorem resumes_singleton (pending : List ParameterKey) (key : ParameterKey) : c.Resumes pending [key] key := by
  intro front start back hsplit pending' _ mem
  obtain ⟨rfl, hcons⟩ | ⟨front, -, hnil⟩ := List.cons_eq_append_iff.mp hsplit
  · obtain ⟨rfl, rfl⟩ := List.cons_eq_cons.mp hcons
    exact lookup_of_mem (by simpa using mem)
  · simp at hnil

theorem Resumes.cons (resumes : c.Resumes (pending ++ [key]) (other :: rest) place)
    (decides : ∀ pending' ⊆ pending, ∀ failure, c.lookup (pending' ++ [key]) other = .error failure →
      c.lookup pending' key = .error failure) : c.Resumes pending (key :: other :: rest) place := by
  intro front start back hsplit pending' sub mem
  obtain ⟨rfl, hcons⟩ | ⟨front, rfl, hrest⟩ := List.cons_eq_append_iff.mp hsplit
  · obtain ⟨rfl, rfl⟩ := List.cons_eq_cons.mp hcons
    have sub' : pending' ++ [start] ⊆ pending ++ [start] :=
      List.append_subset.mpr ⟨List.subset_append_of_subset_left _ sub, List.subset_append_right _ _⟩
    have hother := resumes [] other rest rfl (pending' ++ [start]) sub' (by simpa using mem)
    rw [List.append_assoc, List.singleton_append] at hother
    exact decides pending' sub _ hother
  · exact resumes front start back hrest pending' (List.subset_append_of_subset_left _ sub) mem

/-- What is reported is the trail, which goes along references up to the first parameter that it comes back to. -/
theorem exists_trail (distinct : pending.Nodup) (failed : c.lookup pending key = .error (.circularReference path)) :
    ∃ rest place, .circularReference path = circular (pending ++ key :: rest) ∧ (key :: rest).IsChain c.Refers ∧
      (pending ++ key :: rest).dropLast.Nodup ∧ place ∈ (pending ++ key :: rest).dropLast ∧
      (key :: rest).getLast? = some place ∧ c.Resumes pending (key :: rest) place := by
  induction pending, key using lookup.induct c with
  | case1 pending key mem =>
      rw [lookup_of_mem mem] at failed
      have hdrop : (pending ++ [key]).dropLast = pending := List.dropLast_concat
      exact ⟨[], key, (Except.error.inj failed).symm, .singleton key, by rwa [hdrop], by rwa [hdrop], rfl,
        resumes_singleton pending key⟩
  | case2 pending key new found =>
      rw [lookup_of_not_found new found] at failed
      cases failed
  | case3 pending key new v found ih =>
      obtain ⟨other, refers, failed, decides⟩ := exists_failing_lookup new failed
      have distinct' : (pending ++ [key]).Nodup := by
        rw [List.nodup_append_comm]
        exact List.nodup_cons.mpr ⟨new, distinct⟩
      obtain ⟨rest, place, hpath, chain, hdistinct, mem, last, resumes⟩ := ih other distinct' failed
      rw [List.append_assoc, List.singleton_append] at hpath hdistinct mem
      exact ⟨other :: rest, place, hpath, chain.cons_cons refers, hdistinct, mem, last, resumes.cons decides⟩

/-- The path is that of a round of parameters. -/
def NamesRound (c : Container) (path : List String) : Prop :=
  ∃ round, path = round.map (·.text) ∧ IsRound c.Refers round

theorem namesRound_map_iff {trail : List ParameterKey} :
    c.NamesRound (trail.map (·.text)) ↔ IsRound c.Refers trail := by
  have injective : Function.Injective ParameterKey.text := by
    intro a b htext
    rw [← ParameterKey.ofName_text a, htext, ParameterKey.ofName_text]
  constructor
  · rintro ⟨round, hround, isRound⟩
    rwa [List.map_injective_iff.mpr injective hround]
  · exact fun isRound => ⟨trail, rfl, isRound⟩

/-- A resolution that fails in a round reports how it came there: from a parameter of the value along references to
the round and once around it, with no parameter twice but the one that the round begins and ends with. The round
is what this parameter reports by itself. The whole path names a round exactly when there is no way in. When
resolving all parameters fails, it reports what one of them does. -/
theorem circularReference_iff_round (c : Container) :
    (∀ v path, c.resolve v = .error (.circularReference path) →
      ∃ lead place middle, path = (lead ++ place :: (middle ++ [place])).map (·.text) ∧
        (∃ start ∈ v.parameters, (lead ++ place :: (middle ++ [place])).head? = some start) ∧
        (lead ++ place :: (middle ++ [place])).IsChain c.Refers ∧ (lead ++ place :: middle).Nodup ∧
        c.resolve (.parameter place) = .error (.circularReference ((place :: (middle ++ [place])).map (·.text))) ∧
        c.NamesRound ((place :: (middle ++ [place])).map (·.text)) ∧
        (c.NamesRound path ↔ lead = [])) ∧
    ∀ path, c.resolveAll = .error (.circularReference path) →
      ∃ key ∈ c.parameters, c.resolve (.parameter key) = .error (.circularReference path) := by
  constructor
  · intro v path failed
    obtain ⟨start, hstart, failed, -⟩ := Value.exists_failing_parameter failed nofun
    obtain ⟨rest, last, hpath, chain, distinct, mem, hlast, resumes⟩ := exists_trail List.nodup_nil failed
    rw [List.nil_append] at hpath distinct mem
    have revisits : Revisits c.Refers (start :: rest) := ⟨chain, distinct, last, mem, hlast⟩
    obtain ⟨lead, place, middle, hsplit⟩ := revisits.exists_round
    obtain rfl : path = (start :: rest).map (·.text) := Failure.circularReference.inj hpath
    have head : (start :: rest).head? = some start := rfl
    rw [hsplit] at revisits chain distinct hlast resumes head ⊢
    rw [Revisits.dropLast_round] at distinct
    rw [Revisits.getLast?_round] at hlast
    obtain rfl := Option.some.inj hlast
    refine ⟨lead, place, middle, rfl, ⟨start, hstart, head⟩, chain, distinct, ?_,
      namesRound_map_iff.mpr revisits.isRound, namesRound_map_iff.trans revisits.isRound_iff⟩
    refine resumes lead place _ rfl [] (List.nil_subset _) ?_
    have hdrop : (place :: (middle ++ [place])).dropLast = place :: middle := Revisits.dropLast_round [] middle place
    rw [List.nil_append, hdrop]
    exact List.mem_cons_self
  · intro path failed
    obtain ⟨front, key, back, hkeys, -, failed⟩ := mapM_eq_error_iff.mp failed
    have mem : key ∈ c.parameters.keys := hkeys ▸ List.mem_append_right front List.mem_cons_self
    refine ⟨key, Std.ExtTreeMap.mem_keys.mp mem, ?_⟩
    exact map_eq_error_iff.mp failed

/-- A parameter that refers to one that refers to itself. -/
def withWayIn : Container :=
  (empty.setParameter "a" (.parameter (.ofName "b"))).setParameter "b" (.parameter (.ofName "b"))

/-- The first parameter takes no part in the round, but is reported with it. -/
theorem not_namesRound_withWayIn :
    ∃ path, withWayIn.resolve (.parameter (.ofName "a")) = .error (.circularReference path) ∧
      ¬ withWayIn.NamesRound path := by
  have foundA : withWayIn.parameters[ParameterKey.ofName "a"]? = some (.parameter (.ofName "b")) := rfl
  have foundB : withWayIn.parameters[ParameterKey.ofName "b"]? = some (.parameter (.ofName "b")) := rfl
  refine ⟨["a", "b", "b"], ?_, ?_⟩
  · calc withWayIn.lookup [] (.ofName "a")
      _ = withWayIn.lookup [.ofName "a"] (.ofName "b") := lookup_eq_substitute List.not_mem_nil foundA
      _ = withWayIn.lookup [.ofName "a", .ofName "b"] (.ofName "b") := lookup_eq_substitute (by decide) foundB
      _ = .error (circular [.ofName "a", .ofName "b", .ofName "b"]) := lookup_of_mem (by decide)
  · rintro ⟨round, hround, isRound⟩
    have closed := congrArg (Option.map ParameterKey.text) isRound.closed
    rw [← List.head?_map, ← List.getLast?_map, ← hround] at closed
    exact absurd closed (by decide)

end Container

end ServiceContainer
