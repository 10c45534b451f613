import ServiceContainer.Proofs.Expression
import ServiceContainer.Proofs.Value

/-!
# Reading a value back from its notation

A value made from a configured string is written in the notation of the configuration. Reading that text
gives the value again, with one exception: behind a leading `@@` percent signs are read as they stand, but
they are written doubled like everywhere else.
-/

namespace ServiceContainer

theorem ParameterKey.isToken_text {name : String} (token : (Segment.parameter name).IsToken) :
    (Segment.parameter (ParameterKey.ofName name).text).IsToken := by
  refine ⟨fun hempty => token.1 ?_, fun mem => token.2 ?_⟩
  · have hnil : Text.lowercaseAfter [] name.toList = [] := by
      simpa [ofName, Text.lowercase] using congrArg String.toList hempty
    simpa using Text.lowercaseAfter_eq_nil_iff.mp hnil
  · exact Text.mem_of_mem_lowercase mem (by decide)

namespace Value

theorem map_ofName_map_text (segment : Segment ParameterKey) :
    (segment.map ParameterKey.text).map ParameterKey.ofName = segment := by
  cases segment with
  | literal s => rfl
  | parameter key => rw [Segment.map, Segment.map, ParameterKey.ofName_text]

theorem isToken_of_mem_segmentsOf {s : String} {segment : Segment ParameterKey}
    (mem : segment ∈ segmentsOf s) : (segment.map ParameterKey.text).IsToken := by
  obtain ⟨token, hscan, rfl⟩ := List.mem_map.mp mem
  have htoken := Segment.isToken_of_mem_scan s token hscan
  cases token with
  | literal t => trivial
  | parameter name => exact ParameterKey.isToken_text htoken

theorem segmentsOf_merged (s : String) : Segment.Merged (segmentsOf s) :=
  (Segment.scan_merged s).map ParameterKey.ofName

theorem firstChar?_segmentsOf {s : String} (hs : s.toList.head? ≠ some '@') :
    Segment.firstChar? (segmentsOf s) ≠ some '@' := by
  intro hfirst
  apply hs
  apply Segment.head?_of_firstChar?_scan (by decide)
  rwa [segmentsOf, Segment.firstChar?_map] at hfirst

/-- Behind a leading at sign there is either a second one or not. -/
theorem eq_at_at_or_eq_at {s : String} (hs : s.toList.head? = some '@') :
    (∃ cs, s.toList = '@' :: '@' :: cs) ∨ ∃ cs, s.toList = '@' :: cs ∧ cs.head? ≠ some '@' := by
  obtain ⟨cs, hcs⟩ : ∃ cs, s.toList = '@' :: cs := ⟨_, List.eq_cons_of_mem_head? hs⟩
  by_cases hat : cs.head? = some '@'
  · obtain ⟨rest, rfl⟩ : ∃ rest, cs = '@' :: rest := ⟨_, List.eq_cons_of_mem_head? hat⟩
    exact .inl ⟨rest, hcs⟩
  · exact .inr ⟨cs, hcs, hat⟩

theorem ofText_at_at {s : String} {cs : List Char} (hs : s.toList = '@' :: '@' :: cs) :
    ofText s = .text (String.ofList ('@' :: cs)) := by
  unfold ofText
  split <;> simp_all

theorem ofText_at {s : String} {cs : List Char} (hs : s.toList = '@' :: cs) (hcs : cs.head? ≠ some '@') :
    ofText s = .service (String.ofList cs) := by
  unfold ofText
  split
  · rename_i tail heq
    obtain rfl : cs = '@' :: tail := by simpa [hs] using heq
    exact absurd rfl hcs
  · simp_all
  · simp_all

theorem source_ofSegments {segments : List (Segment ParameterKey)} (merged : Segment.Merged segments)
    (hat : Segment.firstChar? segments ≠ some '@') :
    (ofSegments segments).source.toList =
      (segments.map (Segment.map ParameterKey.text)).flatMap Segment.written := by
  rw [ofSegments, Segment.merge_of_merged merged]
  split
  · simp [text, source, Scalar.source, doubled]
  · rename_i t
    have hfirst : t.toList.head? ≠ some '@' := hat
    simp [text, source, Scalar.source, hfirst, Segment.map, Segment.written]
  · simp [source, Segment.map, Segment.written]
  · rw [source, String.toList_join, List.flatMap_map, List.flatMap_map]
    refine List.flatMap_congr fun segment _ => ?_
    cases segment <;> simp [Segment.source, Segment.map, Segment.written]

theorem source_text_at (cs : List Char) :
    (Value.text (String.ofList ('@' :: cs))).source.toList = '@' :: '@' :: doubled cs := by
  simp [text, source, Scalar.source, doubled_cons]

theorem head?_written {segments : List (Segment String)} (nonempty : .literal "" ∉ segments)
    (hat : Segment.firstChar? segments ≠ some '@') :
    (segments.flatMap Segment.written).head? ≠ some '@' := by
  cases segments with
  | nil => exact nofun
  | cons segment segments =>
      cases segment with
      | parameter name => simp [Segment.written]
      | literal s =>
          cases hs : s.toList with
          | nil =>
              obtain rfl : s = "" := String.toList_eq_nil_iff.mp hs
              exact absurd List.mem_cons_self nonempty
          | cons c cs =>
              by_cases hc : c = '%'
              · subst hc
                simp [Segment.written, hs, doubled_percent_cons]
              · rw [Segment.firstChar?, hs] at hat
                rw [List.flatMap_cons, Segment.written, hs, doubled_cons hc]
                exact hat

theorem ofText_source_of_head? {s : String} (hs : s.toList.head? ≠ some '@') :
    ofText (ofText s).source = ofText s := by
  have merged := segmentsOf_merged s
  have hat := firstChar?_segmentsOf hs
  have hsource : (ofText s).source.toList =
      ((segmentsOf s).map (Segment.map ParameterKey.text)).flatMap Segment.written := by
    rw [ofText_eq_ofSegments hs, source_ofSegments merged hat]
  have mergedText := merged.map ParameterKey.text
  have tokens : ∀ segment ∈ (segmentsOf s).map (Segment.map ParameterKey.text), segment.IsToken := by
    rw [List.forall_mem_map]
    exact fun segment mem => isToken_of_mem_segmentsOf mem
  have hhead : (ofText s).source.toList.head? ≠ some '@' := by
    rw [hsource]
    refine head?_written mergedText.nonempty ?_
    rwa [Segment.firstChar?_map]
  have hsegments : segmentsOf (ofText s).source = segmentsOf s := by
    rw [segmentsOf_written mergedText tokens hsource, List.map_map]
    exact List.map_id'' map_ofName_map_text _
  rw [ofText_eq_ofSegments hhead, hsegments, ofText_eq_ofSegments hs]

theorem ofText_source_of_at_at {s : String} {cs : List Char} (hs : s.toList = '@' :: '@' :: cs) :
    ofText (ofText s).source = ofText s ↔ '%' ∉ cs := by
  have hreread : ofText (ofText s).source = .text (String.ofList ('@' :: doubled cs)) := by
    rw [ofText_at_at hs, ofText_at_at (source_text_at cs)]
  rw [hreread, ofText_at_at hs, ← doubled_eq_self_iff]
  simp [text, String.ofList_inj]

/-- The value of a configured string comes back from the text that it is written as, unless the string
begins with `@@` and has a percent sign behind it. -/
theorem ofText_source_iff (s : String) :
    ofText (ofText s).source = ofText s ↔ ¬ ∃ cs, s.toList = '@' :: '@' :: cs ∧ '%' ∈ cs := by
  by_cases hs : s.toList.head? = some '@'
  · obtain ⟨cs, hcs⟩ : ∃ cs, s.toList = '@' :: cs := ⟨_, List.eq_cons_of_mem_head? hs⟩
    by_cases hat : cs.head? = some '@'
    · obtain ⟨rest, rfl⟩ : ∃ rest, cs = '@' :: rest := ⟨_, List.eq_cons_of_mem_head? hat⟩
      rw [ofText_source_of_at_at hcs, hcs]
      simp
    · have hsource : (ofText s).source.toList = '@' :: cs := by
        rw [ofText_at hcs hat]
        simp [source]
      refine iff_of_true ?_ ?_
      · rw [ofText_at hsource hat, ofText_at hcs hat]
      · rintro ⟨rest, hrest, -⟩
        rw [hcs] at hrest
        cases hrest
        exact hat rfl
  · refine iff_of_true (ofText_source_of_head? hs) ?_
    rintro ⟨rest, hrest, -⟩
    rw [hrest] at hs
    exact hs rfl

/-- Two at signs and a percent sign stand for `@%`, which is written with two of each. -/
theorem ofText_source_at_at_percent : ofText (ofText "@@%").source ≠ ofText "@@%" := by
  have hs : "@@%".toList = '@' :: '@' :: ['%'] := by decide
  rw [Ne, ofText_source_of_at_at hs, not_not]
  exact List.mem_singleton_self '%'

end Value

end ServiceContainer
