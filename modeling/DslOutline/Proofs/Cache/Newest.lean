import DslOutline.Cache
import Mathlib.Data.List.DropRight
import Mathlib.Data.List.Nodup
import Mathlib.Data.Set.Card

/-!
# The cache holds the newest version

A cache is filled by insertions, which may arrive in any order, and documents are dropped from it in
between. What it then holds of a document depends on the arrivals of that document alone: the
insertions since it was last dropped (`arrivals`). Each insertion keeps the newer of what is held
and what arrives (`held?_insert`), so after a run the document is held in its greatest version, with
the value that came last with that version (`IsNewest`, `held?_ofChanges`).

The main statement is `ofChanges_newest`: look-ups, the number of documents held, the independence
of documents from each other, and that the order in which distinct versions arrive does not matter.
-/

namespace DslOutline.Cache

variable {α : Type}

/-! ### The documents held -/

/-- The documents held. -/
def uris (c : Cache α) : List String :=
  c.entries.map Prod.fst

/-- A look-up succeeds exactly for the version that is held. -/
theorem get?_eq_some_iff {c : Cache α} {key : DocumentKey} {value : α} :
    c.get? key = some value ↔ c.held? key.uri = some (key.version, value) := by
  unfold get?
  cases h : c.held? key.uri with
  | none => simp
  | some held =>
      obtain ⟨version, other⟩ := held
      dsimp only
      split_ifs with hversion
      · simp [hversion]
      · simp [hversion]

/-- A document is held in some version exactly if it is one of those in the cache. -/
theorem isSome_held? {c : Cache α} {uri : String} : (c.held? uri).isSome ↔ uri ∈ c.uris := by
  simp [held?, uris, List.find?_isSome]

theorem mem_entries_of_held? {c : Cache α} {uri : String} {held : Int × α}
    (h : c.held? uri = some held) : (uri, held) ∈ c.entries := by
  obtain ⟨e, he, rfl⟩ := Option.map_eq_some_iff.mp h
  have huri : e.1 = uri := by simpa using List.find?_some he
  rw [← huri]
  exact List.mem_of_find?_eq_some he

/-- Where no document occurs twice, the entries are what is held. -/
theorem mem_entries_iff {c : Cache α} (hc : c.uris.Nodup) {uri : String} {held : Int × α} :
    (uri, held) ∈ c.entries ↔ c.held? uri = some held := by
  refine ⟨fun h => ?_, mem_entries_of_held?⟩
  obtain ⟨other, hother⟩ : ∃ other, c.held? uri = some other :=
    Option.isSome_iff_exists.mp (isSome_held?.mpr (List.mem_map_of_mem h))
  have heq := List.inj_on_of_nodup_map hc h (mem_entries_of_held? hother) rfl
  rw [hother, (Prod.mk.inj heq).2]

/-- Two caches with the same look-ups have the same entries, in whatever order. -/
theorem entries_perm {c c' : Cache α} (hc : c.uris.Nodup) (hc' : c'.uris.Nodup)
    (h : ∀ uri, c.held? uri = c'.held? uri) : c.entries.Perm c'.entries := by
  apply (List.perm_ext_iff_of_nodup hc.of_map hc'.of_map).mpr
  rintro ⟨uri, held⟩
  rw [mem_entries_iff hc, mem_entries_iff hc', h]

/-! ### What one change does -/

/-- An insertion is too late exactly if a newer version is held. -/
theorem newerThan?_eq_some_iff {c : Cache α} {key : DocumentKey} {version : Int} :
    c.newerThan? key = some version ↔
      ∃ value, c.held? key.uri = some (version, value) ∧ key.version < version := by
  unfold newerThan?
  cases h : c.held? key.uri with
  | none => simp
  | some held =>
      obtain ⟨current, other⟩ := held
      dsimp only
      split_ifs with hnewer
      · constructor
        · rintro ⟨⟩
          exact ⟨other, rfl, hnewer⟩
        · rintro ⟨value, ⟨⟩, -⟩
          rfl
      · constructor
        · rintro ⟨⟩
        · rintro ⟨value, ⟨⟩, hless⟩
          exact absurd hless hnewer

/-- What is held of a document when a version of it arrives: what is newer stays. -/
def keepNewer (held : Option (Int × α)) (arrival : Int × α) : Int × α :=
  match held with
  | some current => if arrival.1 < current.1 then current else arrival
  | none => arrival

/-- What is not too late replaces what is held. -/
theorem keepNewer_of_newerThan? {c : Cache α} {key : DocumentKey}
    (h : c.newerThan? key = none) (value : α) :
    keepNewer (c.held? key.uri) (key.version, value) = (key.version, value) := by
  cases hheld : c.held? key.uri with
  | none => rfl
  | some held =>
      have hless : ¬ key.version < held.1 := by
        intro hless
        rw [newerThan?_eq_some_iff.mpr ⟨held.2, hheld, hless⟩] at h
        cases h
      simp [keepNewer, hless]

/-- Dropping a document leaves the others as they are. -/
theorem held?_invalidate (c : Cache α) (dropped uri : String) :
    (c.invalidate dropped).held? uri = if uri = dropped then none else c.held? uri := by
  unfold held? invalidate
  rw [List.find?_filter]
  split_ifs with h
  · rw [Option.map_eq_none_iff, List.find?_eq_none]
    simp [h]
  · congr 2
    funext e
    by_cases he : e.1 = uri
    · simp [he, h]
    · simp [he]

/-- An insertion keeps the newer of what is held and what arrives, and leaves other documents as
they are. -/
theorem held?_insert (c : Cache α) (key : DocumentKey) (value : α) (uri : String) :
    (c.insert key value).held? uri =
      if uri = key.uri then some (keepNewer (c.held? uri) (key.version, value))
      else c.held? uri := by
  unfold insert
  cases hnewer : c.newerThan? key with
  | some version =>
      obtain ⟨other, hheld, hless⟩ := newerThan?_eq_some_iff.mp hnewer
      dsimp only
      split_ifs with huri
      · simp [huri, hheld, keepNewer, hless]
      · rfl
  | none =>
      have hfind : held? ⟨(c.invalidate key.uri).entries ++ [(key.uri, key.version, value)]⟩ uri =
          ((c.invalidate key.uri).held? uri).or
            (if uri = key.uri then some (key.version, value) else none) := by
        unfold held?
        rw [List.find?_append, Option.map_or]
        congr 1
        by_cases h : uri = key.uri
        · simp [h]
        · simp [h, Ne.symm h]
      rw [hfind, held?_invalidate]
      split_ifs with huri
      · rw [huri, keepNewer_of_newerThan? hnewer, Option.none_or]
      · rw [Option.or_none]

/-- What was not too late can be looked up. -/
theorem get?_insert_self {c : Cache α} {key : DocumentKey} (h : c.newerThan? key = none)
    (value : α) : (c.insert key value).get? key = some value := by
  rw [get?_eq_some_iff, held?_insert, if_pos rfl, keepNewer_of_newerThan? h]

/-- Dropping a document leaves the others distinct. -/
theorem nodup_uris_invalidate {c : Cache α} (hc : c.uris.Nodup) (uri : String) :
    (c.invalidate uri).uris.Nodup :=
  hc.sublist (List.filter_sublist.map Prod.fst)

/-- No document comes to be held twice. -/
theorem nodup_uris_insert {c : Cache α} (hc : c.uris.Nodup) (key : DocumentKey) (value : α) :
    (c.insert key value).uris.Nodup := by
  unfold insert
  split
  · exact hc
  · have hout : key.uri ∉ (c.invalidate key.uri).uris := by
      rw [← isSome_held?, held?_invalidate]
      simp
    unfold uris
    rw [List.map_append, List.map_singleton, ← List.concat_eq_append]
    exact (nodup_uris_invalidate hc key.uri).concat hout

/-! ### Runs -/

/-- A change of a cache. -/
inductive Change (α : Type) where
  /-- A value for a version arrives. -/
  | insert (key : DocumentKey) (value : α)
  /-- A document is dropped. -/
  | invalidate (uri : String)

namespace Change

/-- The document that a change is about. -/
def uri : Change α → String
  | insert key _ => key.uri
  | invalidate uri => uri

/-- Whether a change drops a document. -/
def drops (uri : String) : Change α → Bool
  | insert .. => false
  | invalidate dropped => dropped == uri

/-- What arrives of a document by a change. -/
def arrival? (uri : String) : Change α → Option (Int × α)
  | insert key value => if key.uri = uri then some (key.version, value) else none
  | invalidate _ => none

end Change

/-- The cache after a change. -/
def change (c : Cache α) : Change α → Cache α
  | .insert key value => c.insert key value
  | .invalidate uri => c.invalidate uri

/-- The cache after changes to an empty one. -/
def ofChanges (changes : List (Change α)) : Cache α :=
  changes.foldl change {}

/-- What has arrived of a document since it was last dropped, in the order of arrival. -/
def arrivals (uri : String) (changes : List (Change α)) : List (Int × α) :=
  (changes.rtakeWhile fun change => !change.drops uri).filterMap (Change.arrival? uri)

theorem ofChanges_concat (changes : List (Change α)) (last : Change α) :
    ofChanges (changes ++ [last]) = (ofChanges changes).change last :=
  List.foldl_concat ..

/-- The last change adds an arrival, or drops all that were there, or concerns another document. -/
theorem arrivals_concat (uri : String) (changes : List (Change α)) (last : Change α) :
    arrivals uri (changes ++ [last]) =
      if last.drops uri then [] else arrivals uri changes ++ (last.arrival? uri).toList := by
  unfold arrivals
  rw [List.rtakeWhile_concat]
  cases last.drops uri with
  | true => rfl
  | false =>
      simp only [Bool.not_false, if_true, Bool.false_eq_true, if_false, List.filterMap_append]
      cases h : last.arrival? uri <;> simp [h]

/-- No document is held twice. -/
theorem nodup_uris_ofChanges (changes : List (Change α)) : (ofChanges changes).uris.Nodup := by
  induction changes using List.reverseRecOn with
  | nil => exact List.nodup_nil
  | append_singleton changes last ih =>
      rw [ofChanges_concat]
      cases last with
      | insert key value => exact nodup_uris_insert ih key value
      | invalidate uri => exact nodup_uris_invalidate ih uri

/-- The newest of several arrivals, found by keeping the newer one each time. -/
def newest? (arrivals : List (Int × α)) : Option (Int × α) :=
  arrivals.foldl (fun held arrival => some (keepNewer held arrival)) none

/-- The last arrival is compared with the newest of the others. -/
theorem newest?_concat (arrivals : List (Int × α)) (last : Int × α) :
    newest? (arrivals ++ [last]) = some (keepNewer (newest? arrivals) last) :=
  List.foldl_concat ..

/-- There is a newest arrival as soon as there is one at all. -/
theorem newest?_eq_none_iff {arrivals : List (Int × α)} :
    newest? arrivals = none ↔ arrivals = [] := by
  rcases arrivals.eq_nil_or_concat with rfl | ⟨earlier, last, rfl⟩
  · simp [newest?]
  · simp [newest?_concat]

/-- After a run, the newest arrival of each document is held. -/
theorem held?_ofChanges (changes : List (Change α)) (uri : String) :
    (ofChanges changes).held? uri = newest? (arrivals uri changes) := by
  induction changes using List.reverseRecOn with
  | nil => rfl
  | append_singleton changes last ih =>
      rw [ofChanges_concat, arrivals_concat]
      cases last with
      | insert key value =>
          simp only [change, held?_insert, Change.drops, Change.arrival?, Bool.false_eq_true,
            if_false, ih]
          by_cases h : key.uri = uri
          · simp [h, newest?_concat]
          · simp [h, Ne.symm h]
      | invalidate dropped =>
          simp only [change, held?_invalidate, Change.drops, Change.arrival?, beq_iff_eq, ih]
          by_cases h : dropped = uri
          · simp [h, newest?]
          · simp [h, Ne.symm h]

/-- A version that no arrival exceeds, with the value that came last with it. -/
structure IsNewest (arrivals : List (Int × α)) (newest : Int × α) : Prop where
  /-- No arrival is newer. -/
  greatest : ∀ arrival ∈ arrivals, arrival.1 ≤ newest.1
  /-- Among the arrivals of that version it is the last one. -/
  latest : (arrivals.filter fun arrival => arrival.1 = newest.1).getLast? = some newest

theorem IsNewest.mem {arrivals : List (Int × α)} {newest : Int × α}
    (h : IsNewest arrivals newest) : newest ∈ arrivals :=
  (List.mem_filter.mp (List.mem_of_getLast? h.latest)).1

/-- There is at most one newest arrival. -/
theorem IsNewest.unique {arrivals : List (Int × α)} {p q : Int × α} (hp : IsNewest arrivals p)
    (hq : IsNewest arrivals q) : p = q := by
  have hversion : p.1 = q.1 := le_antisymm (hq.greatest p hp.mem) (hp.greatest q hq.mem)
  have hlast := hp.latest
  rw [hversion, hq.latest] at hlast
  exact (Option.some.inj hlast).symm

/-- Keeping the newer one keeps the newest one, and of equal versions the later one. -/
theorem isNewest_of_newest? {arrivals : List (Int × α)} {newest : Int × α}
    (h : newest? arrivals = some newest) : IsNewest arrivals newest := by
  induction arrivals using List.reverseRecOn generalizing newest with
  | nil => cases h
  | append_singleton arrivals last ih =>
      rw [newest?_concat, Option.some.injEq] at h
      subst h
      cases hheld : newest? arrivals with
      | none =>
          rw [newest?_eq_none_iff.mp hheld]
          exact ⟨by simp [keepNewer], by simp [keepNewer]⟩
      | some held =>
          obtain ⟨hgreatest, hlatest⟩ := ih hheld
          by_cases hstale : last.1 < held.1
          · simp only [keepNewer, if_pos hstale]
            refine ⟨?_, ?_⟩
            · intro arrival harrival
              rcases List.mem_append.mp harrival with harrival | harrival
              · exact hgreatest arrival harrival
              · rw [List.mem_singleton.mp harrival]
                exact hstale.le
            · rw [List.filter_append, List.filter_singleton]
              simp [hstale.ne, hlatest]
          · simp only [keepNewer, if_neg hstale]
            refine ⟨?_, ?_⟩
            · intro arrival harrival
              rcases List.mem_append.mp harrival with harrival | harrival
              · exact (hgreatest arrival harrival).trans (not_lt.mp hstale)
              · rw [List.mem_singleton.mp harrival]
            · rw [List.filter_append, List.filter_singleton]
              simp

/-- Keeping the newer one each time finds the greatest version with the value that came last. -/
theorem newest?_eq_some_iff {arrivals : List (Int × α)} {newest : Int × α} :
    newest? arrivals = some newest ↔ IsNewest arrivals newest := by
  refine ⟨isNewest_of_newest?, fun h => ?_⟩
  cases hfound : newest? arrivals with
  | none =>
      have hmem := h.mem
      rw [newest?_eq_none_iff.mp hfound] at hmem
      cases hmem
  | some found => rw [(isNewest_of_newest? hfound).unique h]

/-- A document is held exactly if something has arrived since it was last dropped. -/
theorem mem_uris_ofChanges_iff {changes : List (Change α)} {uri : String} :
    uri ∈ (ofChanges changes).uris ↔ arrivals uri changes ≠ [] := by
  rw [← isSome_held?, held?_ofChanges, Option.isSome_iff_ne_none, ne_eq, newest?_eq_none_iff]

/-- Changes that are about other documents bring nothing of a document and do not drop it. -/
theorem arrivals_append_of_ne {uri : String} (changes : List (Change α)) {more : List (Change α)}
    (h : ∀ change ∈ more, change.uri ≠ uri) :
    arrivals uri (changes ++ more) = arrivals uri changes := by
  induction more using List.reverseRecOn with
  | nil => rw [List.append_nil]
  | append_singleton more last ih =>
      obtain ⟨hmore, hlast⟩ := List.forall_mem_append.mp h
      rw [← List.append_assoc, arrivals_concat, ih hmore]
      have hne := hlast last (List.mem_singleton_self last)
      cases last with
      | insert key value => simp [Change.drops, Change.arrival?, show key.uri ≠ uri from hne]
      | invalidate dropped => simp [Change.drops, Change.arrival?, show dropped ≠ uri from hne]

/-! ### The order of arrival -/

/-- Values that arrive one after the other. -/
def insertions (values : List (DocumentKey × α)) : List (Change α) :=
  values.map fun (key, value) => .insert key value

/-- Without drops, all insertions of a document are its arrivals. -/
theorem arrivals_insertions (uri : String) (values : List (DocumentKey × α)) :
    arrivals uri (insertions values) =
      values.filterMap fun (key, value) =>
        if key.uri = uri then some (key.version, value) else none := by
  have hall : ((insertions values).rtakeWhile fun change => !change.drops uri) =
      insertions values := by
    rw [List.rtakeWhile_eq_self_iff]
    intro change hchange
    obtain ⟨p, -, rfl⟩ := List.mem_map.mp hchange
    rfl
  rw [arrivals, hall, insertions, List.filterMap_map]
  rfl

/-- Distinct keys give each document distinct versions. -/
theorem nodup_versions_insertions {values : List (DocumentKey × α)}
    (h : (values.map Prod.fst).Nodup) (uri : String) :
    ((arrivals uri (insertions values)).map Prod.fst).Nodup := by
  have hversions : (arrivals uri (insertions values)).map Prod.fst =
      (values.map Prod.fst).filterMap fun key =>
        if key.uri = uri then some key.version else none := by
    rw [arrivals_insertions, List.map_filterMap, List.filterMap_map]
    apply List.filterMap_congr
    intro p _
    dsimp only [Function.comp_apply]
    split_ifs <;> rfl
  rw [hversions]
  apply h.filterMap
  intro key key' version hkey hkey'
  simp only [Option.mem_def, Option.ite_none_right_eq_some, Option.some.injEq] at hkey hkey'
  obtain ⟨uri₁, version₁⟩ := key
  obtain ⟨uri₂, version₂⟩ := key'
  obtain ⟨rfl, rfl⟩ := hkey
  obtain ⟨rfl, rfl⟩ := hkey'
  rfl

/-- Among distinct versions, the newest one is the greatest. -/
theorem isNewest_iff_of_nodup {arrivals : List (Int × α)} (h : (arrivals.map Prod.fst).Nodup)
    {newest : Int × α} :
    IsNewest arrivals newest ↔
      newest ∈ arrivals ∧ ∀ arrival ∈ arrivals, arrival.1 ≤ newest.1 := by
  refine ⟨fun hnewest => ⟨hnewest.mem, hnewest.greatest⟩, ?_⟩
  rintro ⟨hmem, hgreatest⟩
  refine ⟨hgreatest, ?_⟩
  have hself : newest ∈ arrivals.filter fun arrival => arrival.1 = newest.1 := by simp [hmem]
  obtain ⟨last, hlast⟩ := Option.ne_none_iff_exists'.mp
    (mt List.getLast?_eq_none_iff.mp (List.ne_nil_of_mem hself))
  obtain ⟨hin, hversion⟩ := List.mem_filter.mp (List.mem_of_getLast? hlast)
  rw [hlast, List.inj_on_of_nodup_map h hin hmem (by simpa using hversion)]

/-- Distinct versions leave the same behind in whatever order they arrive. -/
theorem held?_insertions_perm {values values' : List (DocumentKey × α)} (hperm : values.Perm values')
    (hdistinct : (values.map Prod.fst).Nodup) (uri : String) :
    (ofChanges (insertions values)).held? uri = (ofChanges (insertions values')).held? uri := by
  have hdistinct' : (values'.map Prod.fst).Nodup := (hperm.map Prod.fst).nodup_iff.mp hdistinct
  have harrivals : (arrivals uri (insertions values)).Perm (arrivals uri (insertions values')) := by
    rw [arrivals_insertions, arrivals_insertions]
    exact hperm.filterMap _
  rw [held?_ofChanges, held?_ofChanges]
  apply Option.ext
  intro newest
  rw [newest?_eq_some_iff, newest?_eq_some_iff,
    isNewest_iff_of_nodup (nodup_versions_insertions hdistinct uri),
    isNewest_iff_of_nodup (nodup_versions_insertions hdistinct' uri)]
  simp only [harrivals.mem_iff]

/-- **After any changes, a cache holds the newest version of each document.** A look-up succeeds for
the greatest version that has arrived since the document was last dropped, and gives the value that
came last with it. The documents held are those with such an arrival, each once. Changes that are
about other documents do not matter to a look-up, and neither does the order in which distinct
versions arrive. -/
theorem ofChanges_newest (changes : List (Change α)) :
    (∀ uri version value, (ofChanges changes).get? ⟨uri, version⟩ = some value ↔
      IsNewest (arrivals uri changes) (version, value)) ∧
    (ofChanges changes).uris.Nodup ∧
    (∀ uri, uri ∈ (ofChanges changes).uris ↔ arrivals uri changes ≠ []) ∧
    (ofChanges changes).size = {uri | arrivals uri changes ≠ []}.ncard ∧
    (∀ (key : DocumentKey) (more : List (Change α)), (∀ change ∈ more, change.uri ≠ key.uri) →
      (ofChanges (changes ++ more)).get? key = (ofChanges changes).get? key) ∧
    ∀ values values' : List (DocumentKey × α), values.Perm values' →
      (values.map Prod.fst).Nodup →
      (ofChanges (insertions values)).entries.Perm (ofChanges (insertions values')).entries ∧
      ∀ key, (ofChanges (insertions values)).get? key = (ofChanges (insertions values')).get? key := by
  refine ⟨?_, nodup_uris_ofChanges changes, fun _ => mem_uris_ofChanges_iff, ?_, ?_, ?_⟩
  · intro uri version value
    rw [get?_eq_some_iff, held?_ofChanges, newest?_eq_some_iff]
  · have hset : {uri | arrivals uri changes ≠ []} = ↑(ofChanges changes).uris.toFinset := by
      ext uri
      simp [mem_uris_ofChanges_iff]
    rw [hset, Set.ncard_coe_finset, List.toFinset_card_of_nodup (nodup_uris_ofChanges changes)]
    exact (List.length_map _).symm
  · intro key more hmore
    simp only [get?, held?_ofChanges, arrivals_append_of_ne changes hmore]
  · intro values values' hperm hdistinct
    have hheld := held?_insertions_perm hperm hdistinct
    refine ⟨entries_perm (nodup_uris_ofChanges _) (nodup_uris_ofChanges _) hheld, ?_⟩
    intro key
    simp only [get?, hheld]

/-- A document is dropped and arrives again in an older version, then in a stale one, then once more
in the version held, while another document comes and goes. Three insertions arrive in the opposite
order. -/
theorem ofChanges_newest_after_drop :
    let changes : List (Change Nat) :=
      [.insert ⟨"a", 9⟩ 0, .invalidate "a", .insert ⟨"a", 4⟩ 1, .insert ⟨"b", 7⟩ 2,
        .insert ⟨"a", 3⟩ 3, .insert ⟨"a", 4⟩ 4]
    let more : List (Change Nat) := [.insert ⟨"b", 8⟩ 5, .invalidate "b"]
    let values : List (DocumentKey × Nat) := [(⟨"a", 1⟩, 5), (⟨"a", 2⟩, 6), (⟨"b", 1⟩, 7)]
    (ofChanges (changes ++ more)).get? ⟨"a", 4⟩ = some 4 ∧
      (ofChanges (insertions values)).entries.Perm
        (ofChanges (insertions values.reverse)).entries := by
  intro changes more values
  have hnewest : IsNewest (arrivals "a" changes) (4, 4) := ⟨by decide, by decide⟩
  have hmore : ∀ change ∈ more, change.uri ≠ "a" := by simp [more, Change.uri]
  obtain ⟨hget, -, -, -, hother, horder⟩ := ofChanges_newest changes
  refine ⟨?_, (horder values values.reverse (List.reverse_perm values).symm (by decide)).1⟩
  rw [hother ⟨"a", 4⟩ more hmore]
  exact (hget "a" 4 4).mpr hnewest

end DslOutline.Cache
