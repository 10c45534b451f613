import Mathlib.Logic.Relation
import ServiceContainer.Proofs.Alias
import ServiceContainer.Proofs.Php.Outline

/-!
# Accessors of aliases

The accessor of an alias hands out what its target stands for, the container itself if the target is the id of
the container. So who follows the accessors of a class goes along a chain of aliases, and comes to its end unless
the id of the container stands on the way: there generated code stops, even if that id is an alias in turn.
-/

namespace ServiceContainer

theorem lookup_map_pair {α β : Type} [DecidableEq α] (f : α → β) (as : List α) (a : α) :
    (as.map fun a => (a, f a)).lookup a = if a ∈ as then some (f a) else none := by
  induction as with
  | nil => rfl
  | cons b as ih =>
      by_cases heq : a = b
      · subst heq
        simp
      · have hne : (a == b) = false := beq_eq_false_iff_ne.mpr heq
        simp [List.lookup_cons, ih, hne, heq]

theorem find?_eq_some_of_unique {α : Type} {p : α → Bool} {as : List α} {a : α} (mem : a ∈ as) (hp : p a = true)
    (unique : ∀ b ∈ as, p b = true → b = a) : as.find? p = some a := by
  cases found : as.find? p with
  | none => exact absurd hp (List.find?_eq_none.mp found a mem)
  | some b => rw [unique b (List.mem_of_find?_eq_some found) (List.find?_some found)]

namespace Php

open Relation (ReflTransGen TransGen)

/-- What the accessor of an alias hands out: the container itself, or what the container finds for an id. -/
inductive Handed where
  | container
  | service (id : ServiceId)

def Handed.ofTarget (target : ServiceId) : Handed := if target = containerId then .container else .service target

/-- Reads the body of an accessor that only hands out something else. -/
def handed? : List Token → Option Handed
  | [.word "return", .var "this", .mark ";"] => some .container
  | [.word "return", .var "this", .mark "->", .word "getService", .mark "(", .quoted id, .mark ")", .mark ";"] =>
    some (.service id)
  | _ => none

theorem handed?_alias (id target : ServiceId) :
    handed? ((ShownEntry.alias target).tokens id) = some (.ofTarget target) := by
  rw [ShownEntry.tokens, serviceTokens, Handed.ofTarget]
  split <;> rfl

/-- No definition begins by handing out something. -/
theorem handed?_definition (id : ServiceId) (d : ShownDefinition) : handed? (d.tokens id) = none := by
  have hskip : Reader.skip [.word "return"] (d.tokens id ++ []) = none := Reader.skip_return_definition d id
  unfold handed?
  split
  · rename_i htokens
    simp [htokens] at hskip
  · rename_i htokens
    simp [htokens] at hskip
  · rfl

namespace Outline

def method? (o : Outline) (name : String) : Option Method := o.methods.find? fun m => m.name = name

/-- The method that the table names for an id. -/
def accessor? (o : Outline) (id : ServiceId) : Option Method := (o.table.lookup id).bind o.method?

/-- What the accessor of an id hands out, if it does nothing else. -/
def handsOut? (o : Outline) (id : ServiceId) : Option Handed := (o.accessor? id).bind fun m => handed? m.body

/-- From what one accessor hands out to what the accessor of that hands out. -/
def Forwards (o : Outline) (handed next : Handed) : Prop := ∃ id, handed = .service id ∧ o.handsOut? id = some next

/-- Following accessors from an id comes to something that is not forwarded any more. -/
def StopsAt (o : Outline) (id : ServiceId) (stop : Handed) : Prop :=
  ReflTransGen o.Forwards (.service id) stop ∧ ∀ next, ¬ o.Forwards stop next

variable {o : Outline}

theorem Forwards.unique {handed next other : Handed} (forwards : o.Forwards handed next)
    (forwards' : o.Forwards handed other) : next = other := by
  obtain ⟨id, rfl, hnext⟩ := forwards
  obtain ⟨id', heq, hother⟩ := forwards'
  cases heq
  exact Option.some.inj (hnext.symm.trans hother)

theorem not_forwards_container (next : Handed) : ¬ o.Forwards .container next := by
  rintro ⟨id, heq, -⟩
  cases heq

theorem StopsAt.unique {id : ServiceId} {stop other : Handed} (stops : o.StopsAt id stop)
    (stops' : o.StopsAt id other) : other = stop := by
  have rightUnique : Relator.RightUnique o.Forwards := fun _ _ _ => Forwards.unique
  rcases ReflTransGen.total_of_right_unique rightUnique stops.1 stops'.1 with path | path
  · rcases ReflTransGen.cases_head path with heq | ⟨next, forwards, -⟩
    · exact heq.symm
    · exact absurd forwards (stops.2 next)
  · rcases ReflTransGen.cases_head path with heq | ⟨next, forwards, -⟩
    · exact heq
    · exact absurd forwards (stops'.2 next)

/-- Exactly the accessors of aliases forward, each to its target. -/
def ForwardsAliases (o : Outline) (c : Container) : Prop :=
  ∀ id handed, o.handsOut? id = some handed ↔ ∃ target, c.Leads id target ∧ handed = .ofTarget target

/-- How a class finds what is in a container: `getService` goes by the table for an id without an instance, the
table leads from each entry to its accessor, and the accessors of aliases lead on to their targets. -/
structure Finds (o : Outline) (c : Container) : Prop where
  getService : o.method? "getService" = some .getService
  accessor : ∀ id entry, c.entries[id]? = some entry → o.accessor? id = some (.accessor (id, .ofEntry entry))
  table : ∀ id ∉ c.entries, o.table.lookup id = none
  aliases : o.ForwardsAliases c

section ForwardsAliases

variable {c : Container} {id target last : ServiceId}

theorem ForwardsAliases.forwards (forwardsAliases : o.ForwardsAliases c) (leads : c.Leads id target) :
    o.Forwards (.service id) (.ofTarget target) :=
  ⟨id, rfl, (forwardsAliases id _).mpr ⟨target, leads, rfl⟩⟩

theorem ForwardsAliases.stopsAt_of_not_leads (forwardsAliases : o.ForwardsAliases c)
    (hend : ∀ target, ¬ c.Leads id target) : o.StopsAt id (.service id) := by
  refine ⟨.refl, ?_⟩
  rintro next ⟨id', heq, hnext⟩
  cases heq
  obtain ⟨target, leads, -⟩ := (forwardsAliases id next).mp hnext
  exact hend target leads

theorem StopsAt.head {stop : Handed} (forwards : o.Forwards (.service id) (.service target))
    (stops : o.StopsAt target stop) : o.StopsAt id stop :=
  ⟨ReflTransGen.head forwards stops.1, stops.2⟩

/-- By induction from the head of the chain, along which the accessors go until they come to the container. -/
theorem ForwardsAliases.exists_stopsAt (forwardsAliases : o.ForwardsAliases c) (ends : c.EndsAt id last) :
    TransGen c.Leads id containerId ∧ o.StopsAt id .container ∨
      ¬ TransGen c.Leads id containerId ∧ o.StopsAt id (.service last) := by
  obtain ⟨path, hend⟩ := ends
  induction path using ReflTransGen.head_induction_on with
  | refl =>
      refine Or.inr ⟨fun onWay => ?_, forwardsAliases.stopsAt_of_not_leads hend⟩
      obtain ⟨target, leads, -⟩ := TransGen.head'_iff.mp onWay
      exact hend target leads
  | @head id target leads _ ih =>
      have forwards := forwardsAliases.forwards leads
      by_cases hcontainer : target = containerId
      · subst hcontainer
        rw [Handed.ofTarget, if_pos rfl] at forwards
        exact Or.inl ⟨.single leads, .single forwards, not_forwards_container⟩
      · rw [Handed.ofTarget, if_neg hcontainer] at forwards
        have onWay_iff : TransGen c.Leads id containerId ↔ TransGen c.Leads target containerId := by
          constructor
          · intro onWay
            obtain ⟨next, leads', rest⟩ := TransGen.head'_iff.mp onWay
            obtain rfl := leads.unique leads'
            exact (Relation.reflTransGen_iff_eq_or_transGen.mp rest).resolve_left (Ne.symm hcontainer)
          · exact TransGen.head leads
        rw [onWay_iff]
        exact ih.imp (And.imp_right (StopsAt.head forwards)) (And.imp_right (StopsAt.head forwards))

end ForwardsAliases

end Outline

/-! ### The outline of a generated class -/

theorem name_mem_ownMethods_or {contents : Contents} :
    ∀ m ∈ contents.methods, m.name ∈ ownMethods ∨ ∃ e ∈ contents.entries, m = .accessor e :=
  Contents.forall_mem_methods (Or.inl (by decide)) (fun m mem => Or.inl (by revert m; decide))
    (fun e he => Or.inr ⟨e, he, rfl⟩) (Or.inl (by simp [Method.defaults, ownMethods]))

section OfContainer

variable {names : ClassNames} {c : Container} {id : ServiceId} {table : List (ServiceId × String)}

theorem mem_entries_ofContainer {e : ServiceId × ShownEntry} :
    e ∈ (Contents.ofContainer names c).entries ↔ ∃ entry, c.entries[e.1]? = some entry ∧ e.2 = .ofEntry entry := by
  simp only [Contents.ofContainer, List.mem_map]
  constructor
  · rintro ⟨⟨id, entry⟩, mem, rfl⟩
    exact ⟨entry, Std.ExtTreeMap.mem_toList_iff_getElem?_eq_some.mp mem, rfl⟩
  · rintro ⟨entry, found, heq⟩
    exact ⟨(e.1, entry), Std.ExtTreeMap.mem_toList_iff_getElem?_eq_some.mpr found, Prod.ext rfl heq.symm⟩

theorem lookup_table_ofContainer (names : ClassNames) (c : Container) (id : ServiceId) :
    (Contents.ofContainer names c).outline.table.lookup id =
      if id ∈ c.entries then some (accessorName id) else none := by
  rw [Contents.outline, table_ofContainer, lookup_map_pair]
  simp only [Container.ids, Std.ExtTreeMap.mem_keys]

theorem method?_getService (contents : Contents) : contents.outline.method? "getService" = some .getService := by
  unfold Outline.method? Contents.outline Contents.methods
  split <;> rfl

theorem method?_accessorName (htable : c.accessors = .ok table) {entry : Entry} (found : c.entries[id]? = some entry) :
    (Contents.ofContainer names c).outline.method? (accessorName id) = some (.accessor (id, .ofEntry entry)) := by
  obtain ⟨usable, nodup, -⟩ := Container.accessors_eq_ok_iff.mp htable
  have mem_ids : ∀ {id entry}, c.entries[id]? = some entry → id ∈ c.ids := fun found =>
    Std.ExtTreeMap.mem_keys.mpr (Container.mem_entries_of_found found)
  have mem : Method.accessor (id, .ofEntry entry) ∈ (Contents.ofContainer names c).methods := by
    have hentry : (id, .ofEntry entry) ∈ (Contents.ofContainer names c).entries :=
      mem_entries_ofContainer.mpr ⟨entry, found, rfl⟩
    simp only [Contents.methods, List.mem_append]
    exact Or.inr (Or.inr (Or.inl (List.mem_map_of_mem hentry)))
  refine find?_eq_some_of_unique mem (decide_eq_true rfl) fun m hm hname => ?_
  have hname : m.name = accessorName id := of_decide_eq_true hname
  rcases name_mem_ownMethods_or m hm with own | ⟨e, he, rfl⟩
  · exact absurd (congrArg ignoreCase hname.symm) (accessorName_not_own (usable id (mem_ids found)) own)
  · obtain ⟨entry', found', heq⟩ := mem_entries_ofContainer.mp he
    have hid : e.1 = id := List.inj_on_of_nodup_map nodup (mem_ids found') (mem_ids found) hname
    rw [hid, found] at found'
    cases found'
    rw [← hid, ← heq]

theorem accessor?_of_found (htable : c.accessors = .ok table) {entry : Entry} (found : c.entries[id]? = some entry) :
    (Contents.ofContainer names c).outline.accessor? id = some (.accessor (id, .ofEntry entry)) := by
  rw [Outline.accessor?, lookup_table_ofContainer, if_pos (Container.mem_entries_of_found found), Option.bind_some,
    method?_accessorName htable found]

theorem forwardsAliases_ofContainer (htable : c.accessors = .ok table) :
    (Contents.ofContainer names c).outline.ForwardsAliases c := by
  intro id handed
  cases found : c.entries[id]? with
  | none =>
      have hnot : id ∉ c.entries := fun mem => by
        rw [Std.ExtTreeMap.mem_iff_isSome_getElem?, found] at mem
        cases mem
      rw [Outline.handsOut?, Outline.accessor?, lookup_table_ofContainer, if_neg hnot]
      refine iff_of_false nofun ?_
      rintro ⟨target, leads, -⟩
      cases found.symm.trans leads
  | some entry =>
      rw [Outline.handsOut?, accessor?_of_found htable found, Option.bind_some]
      cases entry with
      | definition d =>
          have hhanded : handed? (Method.accessor (id, ShownEntry.ofEntry (.definition d))).body = none :=
            handed?_definition id _
          rw [hhanded]
          refine iff_of_false nofun ?_
          rintro ⟨target, leads, -⟩
          cases found.symm.trans leads
      | «alias» target =>
          have hhanded : handed? (Method.accessor (id, ShownEntry.ofEntry (.alias target))).body =
              some (.ofTarget target) := handed?_alias id target
          rw [hhanded]
          constructor
          · rintro ⟨⟩
            exact ⟨target, found, rfl⟩
          · rintro ⟨target', leads, rfl⟩
            cases found.symm.trans leads
            rfl

theorem finds_ofContainer (htable : c.accessors = .ok table) : (Contents.ofContainer names c).outline.Finds c where
  getService := method?_getService _
  accessor _ _ found := accessor?_of_found htable found
  table id hnot := by rw [lookup_table_ofContainer, if_neg hnot]
  aliases := forwardsAliases_ofContainer htable

end OfContainer

/-- In a generated class the accessors of aliases, and no others, hand out what their targets stand for. Following
them from an alias comes to one end: to the container if its id stands behind the alias on the chain, and
otherwise to what the alias stands for in the container. As long as the id of the container is no alias, the
first case is that of the aliases that stand for it. -/
theorem aliases_forwarded {names : ClassNames} {c : Container} {text : String}
    (htext : containerClass names c = .ok text) :
    ∃ o, outline? text = some o ∧ o.Finds c ∧ ∀ id target, c.Leads id target →
      ∃ stop, o.StopsAt id stop ∧ (∀ other, o.StopsAt id other → other = stop) ∧
        (stop = .container ↔ TransGen c.Leads id containerId) ∧
        (stop ≠ .container → ∃ last, c.resolveAlias id = .ok last ∧ stop = .service last) ∧
        ((∀ next, ¬ c.Leads containerId next) → (stop = .container ↔ c.resolveAlias id = .ok containerId)) := by
  obtain ⟨table, htable, rest⟩ := bind_eq_ok_iff.mp htext
  obtain ⟨_, haliases, -⟩ := bind_eq_ok_iff.mp rest
  have finds : (Contents.ofContainer names c).outline.Finds c := finds_ofContainer htable
  refine ⟨_, outline?_containerClass htext, finds, fun id target leads => ?_⟩
  obtain ⟨last, ends⟩ := Container.checkAliases_eq_ok_iff.mp haliases id
  have hresolve : c.resolveAlias id = .ok last := Container.resolveAlias_eq_ok_iff.mpr ends
  have onWay_iff : (∀ next, ¬ c.Leads containerId next) →
      (TransGen c.Leads id containerId ↔ c.resolveAlias id = .ok containerId) := by
    intro hend
    have hne : containerId ≠ id := by
      rintro rfl
      exact hend target leads
    rw [Container.resolveAlias_eq_ok_iff, Container.EndsAt, and_iff_left hend, Relation.reflTransGen_iff_eq_or_transGen]
    exact (or_iff_right hne).symm
  rcases finds.aliases.exists_stopsAt ends with ⟨onWay, stops⟩ | ⟨offWay, stops⟩
  · refine ⟨.container, stops, fun other => stops.unique, iff_of_true rfl onWay, fun hne => absurd rfl hne, ?_⟩
    exact fun hend => iff_of_true rfl ((onWay_iff hend).mp onWay)
  · refine ⟨.service last, stops, fun other => stops.unique, iff_of_false nofun offWay, fun _ => ⟨last, hresolve, rfl⟩,
      ?_⟩
    exact fun hend => iff_of_false nofun fun heq => offWay ((onWay_iff hend).mpr heq)

/-! ### An alias of the container -/

def withSelf : Container :=
  ((Container.empty.setDefinition "foo" { className := .text "Foo" }).setAlias "post" "foo").setAlias "self" containerId

/-- The id of the container stands for a service. -/
def withContainerAlias : Container := withSelf.setAlias containerId "foo"

theorem leads_withSelf {id target : ServiceId} :
    withSelf.Leads id target ↔ id = "self" ∧ target = containerId ∨ id = "post" ∧ target = "foo" := by
  simp only [withSelf, Container.leads_setAlias, Container.leads_setDefinition, Container.not_leads_empty]
  grind

theorem leads_withContainerAlias {id target : ServiceId} :
    withContainerAlias.Leads id target ↔ id = containerId ∧ target = "foo" ∨ withSelf.Leads id target := by
  simp only [withContainerAlias, Container.leads_setAlias, leads_withSelf, containerId]
  grind

theorem aliases_forwarded_withSelf : ∃ text, containerClass {} withSelf = .ok text ∧ ∃ o, outline? text = some o ∧
    o.StopsAt "self" .container ∧ o.StopsAt "post" (.service "foo") := by
  have isOk : (containerClass {} withSelf).toBool = true := by decide +kernel
  obtain ⟨text, htext⟩ := exists_eq_ok_of_toBool isOk
  have self : withSelf.Leads "self" containerId := leads_withSelf.mpr (Or.inl ⟨rfl, rfl⟩)
  have post : withSelf.Leads "post" "foo" := leads_withSelf.mpr (Or.inr ⟨rfl, rfl⟩)
  have foo : ∀ target, ¬ withSelf.Leads "foo" target := by simp [leads_withSelf]
  have unaliased : ∀ target, ¬ withSelf.Leads containerId target := by simp [leads_withSelf, containerId]
  have hresolve : withSelf.resolveAlias "post" = .ok "foo" :=
    Container.resolveAlias_eq_ok_iff.mpr (.head post (.of_not_leads foo))
  obtain ⟨o, houtline, -, follow⟩ := aliases_forwarded htext
  refine ⟨text, htext, o, houtline, ?self, ?post⟩
  case self =>
      obtain ⟨stop, stops, -, hcontainer, -⟩ := follow "self" containerId self
      rwa [← hcontainer.mpr (.single self)]
  case post =>
      obtain ⟨stop, stops, -, -, hother, hcontainer⟩ := follow "post" "foo" post
      have hne : stop ≠ .container := by
        intro heq
        have hstands := (hcontainer unaliased).mp heq
        rw [hresolve] at hstands
        exact absurd (Except.ok.inj hstands) (by decide)
      obtain ⟨last, hlast, rfl⟩ := hother hne
      cases hresolve.symm.trans hlast
      exact stops

/-- Generated code hands out the container for an alias that stands for a service in the container. -/
theorem self_withContainerAlias : ∃ text, containerClass {} withContainerAlias = .ok text ∧
    (∃ o, outline? text = some o ∧ o.StopsAt "self" .container) ∧
    withContainerAlias.resolveAlias "self" = .ok "foo" := by
  have isOk : (containerClass {} withContainerAlias).toBool = true := by decide +kernel
  obtain ⟨text, htext⟩ := exists_eq_ok_of_toBool isOk
  have self : withContainerAlias.Leads "self" containerId := by simp [leads_withContainerAlias, leads_withSelf]
  have redirected : withContainerAlias.Leads containerId "foo" := by simp [leads_withContainerAlias]
  have foo : ∀ target, ¬ withContainerAlias.Leads "foo" target := by
    simp [leads_withContainerAlias, leads_withSelf, containerId]
  obtain ⟨table, htable, -⟩ := bind_eq_ok_iff.mp htext
  have forwards : (Contents.ofContainer {} withContainerAlias).outline.Forwards (.service "self") .container :=
    (forwardsAliases_ofContainer htable).forwards self
  refine ⟨text, htext, ⟨_, outline?_containerClass htext, .single forwards, Outline.not_forwards_container⟩, ?_⟩
  exact Container.resolveAlias_eq_ok_iff.mpr (.head self (.head redirected (.of_not_leads foo)))

end Php

end ServiceContainer
