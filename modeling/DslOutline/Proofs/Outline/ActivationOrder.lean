import DslOutline.Proofs.Outline.Activation
import Mathlib.Data.List.Infix

/-!
# The order of activation

The first schema that has a pattern for a line decides what the entry on it is, so the order of the
active schemas matters. They come in the order of the declarations that activate them first, and
those that one declaration activates come in the order of the registry. The loop that collects them
is equal to this order written as a list of blocks, one block for each declaration
(`activeSchemas_eq`); the main statement reads off it that each schema whose pattern occurs is there
once and in its place (`activeSchemas_ordered`).
-/

namespace DslOutline

/-- The search for a part goes through all places of a text. -/
theorem occursIn_iff {part text : List Char} : occursIn part text = true ↔ part <:+: text := by
  induction text with
  | nil => rw [occursIn, List.isEmpty_iff, List.infix_nil]
  | cons c text ih =>
      rw [occursIn, Bool.or_eq_true, List.isPrefixOf_iff_prefix, ih, List.infix_cons_iff]

/-- How many texts come before the first one in which the declaration pattern of a schema occurs;
the number of all texts if it occurs in none. -/
def Schema.firstUse (texts : List (List Char)) (s : Schema) : Nat :=
  texts.findIdx fun text => decide (s.declarationPattern.toList <:+: text)

/-! ### One declaration -/

/-- A declaration adds the schemas that it activates and that are not active yet, in the order in
which they are listed. -/
theorem activate_eq {schemas : List Schema}
    (hschemas : (schemas.map Schema.declarationPattern).Nodup) (active : List Schema)
    (text : List Char) :
    activate active text schemas =
      active ++ schemas.filter fun s =>
        !(active.any fun a => a.declarationPattern == s.declarationPattern) &&
          occursIn s.declarationPattern.toList text := by
  induction schemas generalizing active with
  | nil => simp [activate]
  | cons t schemas ih =>
      obtain ⟨ht, hschemas⟩ := List.nodup_cons.mp hschemas
      rw [activate, List.filter_cons]
      split_ifs with hnew
      · -- no later schema has the pattern of `t`, so `t` does not stand in the way of any
        have hlater : ∀ s ∈ schemas,
            ((active ++ [t]).any fun a => a.declarationPattern == s.declarationPattern) =
              active.any fun a => a.declarationPattern == s.declarationPattern := by
          intro s hs
          have hne : t.declarationPattern ≠ s.declarationPattern := fun heq =>
            ht (heq ▸ List.mem_map_of_mem hs)
          simp [hne]
        rw [ih hschemas, List.append_assoc, List.singleton_append]
        congr 2
        apply List.filter_congr
        intro s hs
        rw [hlater s hs]
      · exact ih hschemas active

/-! ### One declaration after the other -/

/-- A pattern occurs in one of the texts exactly if there is a first one. -/
theorem Schema.firstUse_lt_length_iff {texts : List (List Char)} {s : Schema} :
    s.firstUse texts < texts.length ↔ ∃ text ∈ texts, s.declarationPattern.toList <:+: text := by
  simp [Schema.firstUse, List.findIdx_lt_length]

/-- One more text is the first one only for patterns that do not occur before it. -/
theorem Schema.firstUse_concat (texts : List (List Char)) (text : List Char) (s : Schema) :
    s.firstUse (texts ++ [text]) =
      if s.firstUse texts < texts.length then s.firstUse texts
      else if s.declarationPattern.toList <:+: text then texts.length
      else texts.length + 1 := by
  rw [Schema.firstUse, List.findIdx_append, List.findIdx_singleton, ← Schema.firstUse]
  by_cases hbefore : s.firstUse texts < texts.length
  · rw [if_pos hbefore, if_pos hbefore]
  · rw [if_neg hbefore, if_neg hbefore]
    by_cases hhere : s.declarationPattern.toList <:+: text
    · simp [hhere]
    · simp [hhere, Nat.add_comm 1]

/-- **The active schemas, block by block.** For each text in turn they are the schemas of the
registry whose pattern occurs there first. -/
theorem activeSchemas_eq {r : Registry} (hr : r.patterns.Nodup) (texts : List (List Char)) :
    activeSchemas r texts =
      (List.range texts.length).flatMap fun i =>
        r.schemas.filter fun s => s.firstUse texts = i := by
  induction texts using List.reverseRecOn with
  | nil => rfl
  | append_singleton texts text ih =>
      -- the blocks of the texts before stay as they are
      have hblocks : ∀ i ∈ List.range texts.length,
          (r.schemas.filter fun s => s.firstUse (texts ++ [text]) = i) =
            r.schemas.filter fun s => s.firstUse texts = i := by
        intro i hi
        have hi := List.mem_range.mp hi
        apply List.filter_congr
        intro s _
        rw [Schema.firstUse_concat, decide_eq_decide]
        split_ifs <;> omega
      -- a schema is seen exactly if its pattern occurs in a text before
      have hseen : ∀ s ∈ r.schemas,
          ((activeSchemas r texts).any fun a =>
              a.declarationPattern == s.declarationPattern) = true ↔
            s.firstUse texts < texts.length := by
        intro s hs
        rw [List.any_eq_true, Schema.firstUse_lt_length_iff]
        simp only [mem_activeSchemas_iff hr, occursIn_iff, beq_iff_eq]
        constructor
        · rintro ⟨a, ⟨-, hoccurs⟩, heq⟩
          rwa [heq] at hoccurs
        · intro hoccurs
          exact ⟨s, ⟨hs, hoccurs⟩, rfl⟩
      have hlast : (r.schemas.filter fun s =>
          !((activeSchemas r texts).any fun a => a.declarationPattern == s.declarationPattern) &&
            occursIn s.declarationPattern.toList text) =
          r.schemas.filter fun s => s.firstUse (texts ++ [text]) = texts.length := by
        apply List.filter_congr
        intro s hs
        rw [Bool.eq_iff_iff, Bool.and_eq_true, Bool.not_eq_true', ← Bool.not_eq_true, hseen s hs,
          occursIn_iff, decide_eq_true_eq, Schema.firstUse_concat]
        split_ifs with hbefore hhere
        · simp only [hbefore, not_true_eq_false, false_and, false_iff]
          omega
        · simp [hbefore, hhere]
        · simp [hhere]
      have hstep : activeSchemas r (texts ++ [text]) =
          activate (activeSchemas r texts) text r.schemas := by
        rw [activeSchemas, List.foldl_append]
        rfl
      rw [hstep, activate_eq hr, hlast, List.length_append, List.length_singleton,
        List.range_succ, List.flatMap_append, List.flatMap_singleton, List.flatMap_congr hblocks,
        ← ih]

/-! ### The order -/

/-- Schemas with different patterns are different. -/
theorem Registry.nodup_schemas {r : Registry} (hr : r.patterns.Nodup) : r.schemas.Nodup :=
  List.Nodup.of_map Schema.declarationPattern hr

/-- Schemas are listed in the order of their places in the registry. -/
theorem Registry.pairwise_idxOf {r : Registry} (hr : r.patterns.Nodup) :
    r.schemas.Pairwise fun s t => r.schemas.idxOf s < r.schemas.idxOf t := by
  rw [List.pairwise_iff_getElem]
  intro i j hi hj hij
  rwa [(nodup_schemas hr).idxOf_getElem i hi, (nodup_schemas hr).idxOf_getElem j hj]

/-- **Active schemas are those whose pattern occurs, in the order of their first occurrence.** In a
registry with distinct declaration patterns, a schema is active once if its pattern occurs in one of
the texts, and not at all otherwise. Of two active schemas the one whose pattern occurs in an
earlier text comes first; if both occur in one text for the first time, the one that comes first in
the registry does. -/
theorem activeSchemas_ordered {r : Registry} (hr : r.patterns.Nodup) (texts : List (List Char)) :
    (∀ s, (activeSchemas r texts).count s =
      if s ∈ r.schemas ∧ ∃ text ∈ texts, s.declarationPattern.toList <:+: text then 1 else 0) ∧
    (activeSchemas r texts).Pairwise fun s t =>
      s.firstUse texts < t.firstUse texts ∨
        s.firstUse texts = t.firstUse texts ∧ r.schemas.idxOf s < r.schemas.idxOf t := by
  have hpairwise : (activeSchemas r texts).Pairwise fun s t =>
      s.firstUse texts < t.firstUse texts ∨
        s.firstUse texts = t.firstUse texts ∧ r.schemas.idxOf s < r.schemas.idxOf t := by
    rw [activeSchemas_eq hr, List.pairwise_flatMap]
    constructor
    · intro i _
      rw [List.pairwise_filter]
      refine (Registry.pairwise_idxOf hr).imp ?_
      intro s t hlt hs ht
      exact Or.inr ⟨(of_decide_eq_true hs).trans (of_decide_eq_true ht).symm, hlt⟩
    · refine List.pairwise_lt_range.imp ?_
      intro i j hij s hs t ht
      have hs := of_decide_eq_true (List.mem_filter.mp hs).2
      have ht := of_decide_eq_true (List.mem_filter.mp ht).2
      left
      omega
  have hnodup : (activeSchemas r texts).Nodup := by
    refine hpairwise.imp ?_
    rintro s t hlt rfl
    omega
  refine ⟨?_, hpairwise⟩
  intro s
  rw [hnodup.count]
  simp only [mem_activeSchemas_iff hr, occursIn_iff]

/-- One pattern is part of another one, and the schema listed last is activated first. -/
theorem activeSchemas_ordered_overlapping :
    let ash : Schema := ⟨"A", "Ash", []⟩
    let unused : Schema := ⟨"U", "Ash.Domain", []⟩
    let policy : Schema := ⟨"P", "Ash.Policy", []⟩
    let bel : Schema := ⟨"B", "Bel", []⟩
    let r : Registry := ⟨[ash, unused, policy, bel]⟩
    let texts := ["use Bel".toList, "use Ash.Policy, Bel".toList, "use Ash".toList]
    r.patterns.Nodup ∧ activeSchemas r texts = [bel, ash, policy] ∧
      (activeSchemas r texts).count unused = 0 ∧ (activeSchemas r texts).count ash = 1 ∧
      (activeSchemas r texts).Pairwise fun s t =>
        s.firstUse texts < t.firstUse texts ∨
          s.firstUse texts = t.firstUse texts ∧ r.schemas.idxOf s < r.schemas.idxOf t := by
  intro ash unused policy bel r texts
  have hr : r.patterns.Nodup := by decide +kernel
  have hordered := activeSchemas_ordered hr texts
  refine ⟨hr, by decide +kernel, ?_, ?_, hordered.2⟩
  · rw [hordered.1]
    decide +kernel
  · rw [hordered.1]
    decide +kernel

end DslOutline
