import ServiceContainer.Proofs.Operations
import ServiceContainer.Proofs.Trail

/-!
# Resolving aliases

Following aliases adds each id to the ids that have been seen, and there are finitely many aliases, so it comes to
an end: at the end of the chain if the chain has one, and else at the first id that has been seen before. The error
for a chain without an end is the chain up to there.
-/

namespace ServiceContainer.Container

variable {c : Container} {id last : ServiceId} {seen : List ServiceId} {failure : Failure}

/-- Following goes on from an id that has not been seen yet to the target of its alias. -/
def Continues (c : Container) (next current : List ServiceId × ServiceId) : Prop :=
  current.2 ∉ current.1 ∧ c.Leads current.2 next.2 ∧ next.1 = current.1 ++ [current.2]

/-- Nothing is followed for ever, in chains that go round as well. -/
theorem wellFounded_continues (c : Container) : WellFounded c.Continues := by
  refine Subrelation.wf ?_ (measure fun state => unvisited c.entries.keys state.1).wf
  rintro ⟨_, target⟩ ⟨seen, id⟩ ⟨new, leads, rfl⟩
  exact unvisited_append_lt (Std.ExtTreeMap.mem_keys.mpr (mem_entries_of_found leads)) new

/-- The chain of aliases from an id never comes to an id that is no alias. -/
def Endless (c : Container) (id : ServiceId) : Prop := ∀ last, ¬ c.EndsAt id last

theorem Endless.exists_leads (endless : c.Endless id) : ∃ target, c.Leads id target := by
  by_contra hend
  exact endless id (EndsAt.of_not_leads (not_exists.mp hend))

/-! ### The chain in the error -/

/-- A chain that comes back only at its end, and has not done so yet, goes on to the target of its last id. -/
theorem exists_leads_of_revisits {rest : List ServiceId} (new : id ∉ seen)
    (revisits : Revisits c.Leads (seen ++ [id] ++ rest)) :
    ∃ target back, rest = target :: back ∧ c.Leads id target := by
  cases rest with
  | nil =>
      obtain ⟨place, mem, hlast⟩ := revisits.revisited
      rw [List.append_nil, List.dropLast_concat] at mem
      rw [List.append_nil, List.getLast?_concat] at hlast
      obtain rfl := Option.some.inj hlast
      exact absurd mem new
  | cons target back =>
      have follows := revisits.follows
      rw [List.append_assoc] at follows
      exact ⟨target, back, rfl, List.isChain_cons_cons.mp follows.right_of_append |>.1⟩

/-- Following fails with the one chain that continues the ids that have been seen up to the first repetition. -/
theorem followAlias_eq_error_iff (distinct : seen.Nodup) (follows : (seen ++ [id]).IsChain c.Leads) :
    c.followAlias seen id = .error failure ↔
      ∃ chain, failure = .cyclicAlias chain ∧ seen ++ [id] <+: chain ∧ Revisits c.Leads chain := by
  induction seen, id using followAlias.induct c with
  | case1 seen id mem =>
      rw [followAlias, if_pos mem]
      constructor
      · rintro ⟨⟩
        refine ⟨seen ++ [id], rfl, List.prefix_rfl, follows, ?_, id, ?_, List.getLast?_concat⟩
        · rwa [List.dropLast_concat]
        · rwa [List.dropLast_concat]
      · rintro ⟨_, rfl, ⟨rest, rfl⟩, revisits⟩
        cases rest with
        | nil => rw [List.append_nil]
        | cons target back =>
            -- the repetition would not be the last id
            have hdistinct := revisits.distinct
            rw [List.append_assoc, List.dropLast_append_of_ne_nil (by simp)] at hdistinct
            exact absurd mem (List.disjoint_right.mp (List.disjoint_of_nodup_append hdistinct) (by simp))
  | case2 seen id new target found ih =>
      have leads : c.Leads id target := found
      have hdistinct : (seen ++ [id]).Nodup := List.nodup_append_comm.mp (List.nodup_cons.mpr ⟨new, distinct⟩)
      have hfollows : (seen ++ [id] ++ [target]).IsChain c.Leads := by
        refine List.isChain_append.mpr ⟨follows, List.isChain_singleton target, ?_⟩
        simpa using leads
      rw [followAlias_of_leads new leads, ih hdistinct hfollows]
      refine exists_congr fun chain => and_congr_right fun _ => and_congr_left fun revisits => ?_
      constructor
      · exact (List.prefix_append _ _).trans
      · rintro ⟨rest, rfl⟩
        obtain ⟨other, back, rfl, leads'⟩ := exists_leads_of_revisits new revisits
        obtain rfl := leads.unique leads'
        exact ⟨back, by simp⟩
  | case3 seen id new hend =>
      rw [followAlias_of_not_leads new hend]
      refine iff_of_false (by simp) ?_
      rintro ⟨_, -, ⟨rest, rfl⟩, revisits⟩
      obtain ⟨target, -, -, leads⟩ := exists_leads_of_revisits new revisits
      exact hend target leads

theorem resolveAlias_eq_error_iff :
    c.resolveAlias id = .error failure ↔
      ∃ chain, failure = .cyclicAlias chain ∧ chain.head? = some id ∧ Revisits c.Leads chain := by
  rw [resolveAlias, followAlias_eq_error_iff List.nodup_nil (List.isChain_singleton id)]
  refine exists_congr fun chain => and_congr_right fun _ => and_congr_left fun _ => ?_
  rw [List.head?_eq_some_iff]
  exact exists_congr fun rest => eq_comm

theorem endless_iff : c.Endless id ↔ ∃ failure, c.resolveAlias id = .error failure := by
  simp only [Endless, ← resolveAlias_eq_ok_iff]
  cases c.resolveAlias id <;> simp

/-! ### What is found behind an alias -/

theorem findDefinition_of_endsAt (ends : c.EndsAt id last) : c.findDefinition id = c.definition last := by
  rw [findDefinition, resolveAlias_eq_ok_iff.mpr ends]
  rfl

theorem definition_eq_ok_iff {d : Definition} : c.definition id = .ok d ↔ c.entries[id]? = some (.definition d) := by
  rw [← definition?_eq_some_iff, definition]
  cases c.definition? id <;> simp

theorem definition_eq_error_iff (hend : ∀ target, ¬ c.Leads id target) :
    c.definition id = .error failure ↔ id ∉ c.entries ∧ failure = .notFound .definition id := by
  rw [Std.ExtTreeMap.mem_iff_isSome_getElem?, definition, definition?]
  rcases found : c.entries[id]? with _ | d | target
  · simp [eq_comm]
  · simp
  · exact absurd found (hend target)

/-! ### The check of all aliases -/

/-- The first id, in the order of the bytes, whose chain of aliases has no end. -/
structure FirstEndless (c : Container) (id : ServiceId) : Prop where
  endless : c.Endless id
  least : ∀ other, c.Endless other → other ≠ id → Text.utf8 id < Text.utf8 other

theorem FirstEndless.unique {id' : ServiceId} (first : c.FirstEndless id) (first' : c.FirstEndless id') : id = id' := by
  by_contra hne
  exact List.lt_asymm (first.least id' first'.endless (Ne.symm hne)) (first'.least id first.endless hne)

theorem exists_firstEndless (failed : c.checkAliases = .error failure) :
    ∃ id, c.FirstEndless id ∧ c.resolveAlias id = .error failure := by
  obtain ⟨front, ⟨id, target⟩, back, hsplit, each, failed⟩ := forM_eq_error_iff.mp failed
  have hid : c.resolveAlias id = .error failure := map_eq_error_iff.mp failed
  refine ⟨id, ⟨endless_iff.mpr ⟨failure, hid⟩, fun other endless hne => ?_⟩, hid⟩
  obtain ⟨next, leads⟩ := endless.exists_leads
  have mem : (other, next) ∈ c.aliases := mem_aliases.mpr leads
  have ascending : Ascending (·.1) c.aliases := (consistent c).aliases
  rw [hsplit] at mem ascending
  rcases List.mem_append.mp mem with hfront | hback
  · obtain ⟨last, hlast, -⟩ := bind_eq_ok_iff.mp (each _ hfront)
    exact absurd (resolveAlias_eq_ok_iff.mp hlast) (endless last)
  · rcases List.mem_cons.mp hback with heq | hback
    · exact absurd (congrArg Prod.fst heq) hne
    · exact List.rel_of_pairwise_cons (List.pairwise_append.mp ascending).2.1 hback

theorem checkAliases_eq_error_iff :
    c.checkAliases = .error failure ↔ ∃ id, c.FirstEndless id ∧ c.resolveAlias id = .error failure := by
  refine ⟨exists_firstEndless, ?_⟩
  rintro ⟨id, first, hid⟩
  cases hcheck : c.checkAliases with
  | ok =>
      obtain ⟨last, ends⟩ := checkAliases_eq_ok_iff.mp hcheck id
      exact absurd ends (first.endless last)
  | error failure' =>
      obtain ⟨id', first', hid'⟩ := exists_firstEndless hcheck
      obtain rfl := first.unique first'
      rw [hid] at hid'
      rw [Except.error.inj hid']

/-- Following aliases ends, whatever they refer to. It gives the end of the chain, and what is defined there is what
is found, or else the error for a chain without an end, which is the chain up to the first id that comes again. The
check of all aliases finds the first of these. -/
theorem resolveAlias_complete (c : Container) :
    WellFounded c.Continues ∧
    (∀ id last, c.resolveAlias id = .ok last ↔ c.EndsAt id last) ∧
    (∀ id last, c.EndsAt id last →
      c.resolveAlias last = .ok last ∧
      (∀ d, c.findDefinition id = .ok d ↔ c.entries[last]? = some (.definition d)) ∧
      ∀ failure, c.findDefinition id = .error failure ↔ last ∉ c.entries ∧ failure = .notFound .definition last) ∧
    (∀ id failure, c.resolveAlias id = .error failure ↔
      ∃ chain, failure = .cyclicAlias chain ∧ chain.head? = some id ∧ Revisits c.Leads chain) ∧
    (∀ id failure, c.resolveAlias id = .error failure → c.findDefinition id = .error failure) ∧
    (c.checkAliases = .ok () ↔ ∀ id, ∃ last, c.resolveAlias id = .ok last) ∧
    ∀ failure, c.checkAliases = .error failure ↔
      ∃ id, c.FirstEndless id ∧ c.resolveAlias id = .error failure := by
  refine ⟨wellFounded_continues c, fun id last => resolveAlias_eq_ok_iff, fun id last ends => ⟨?_, ?_, ?_⟩,
    fun id failure => resolveAlias_eq_error_iff, fun id failure failed => ?_, ?_,
    fun failure => checkAliases_eq_error_iff⟩
  · exact resolveAlias_eq_ok_iff.mpr (EndsAt.of_not_leads ends.2)
  · intro d
    rw [findDefinition_of_endsAt ends, definition_eq_ok_iff]
  · intro failure
    rw [findDefinition_of_endsAt ends, definition_eq_error_iff ends.2]
  · exact bind_eq_error_iff.mpr (.inl failed)
  · simp only [checkAliases_eq_ok_iff, resolveAlias_eq_ok_iff]

end ServiceContainer.Container
