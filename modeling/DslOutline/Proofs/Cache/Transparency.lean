import DslOutline.Proofs.Cache.Newest

/-!
# Cached outlines are fresh outlines

If the text of a document is determined by its version, an outline from the cache is the one that
reading the text would give. The reason is an invariant of the entries (`All`): whatever is true of
each value that is put into a cache, together with its key, is true of each value that is held
(`All.insert`, `All.invalidate`), and so of each outline that is answered (`All.cachedOutline`).

`answers_fresh` says this of every run of requests to a cache that is empty at first, also where a
request asks for an older version than the one held.
-/

namespace DslOutline

namespace Cache

variable {α : Type}

/-- `P` is true of each value that is held, with the key under which it is held. -/
def All (P : DocumentKey → α → Prop) (c : Cache α) : Prop :=
  ∀ uri version value, (uri, version, value) ∈ c.entries → P ⟨uri, version⟩ value

variable {P : DocumentKey → α → Prop} {c : Cache α}

theorem All.empty : All P ({} : Cache α) := by
  intro uri version value h
  cases h

theorem All.get? (hc : c.All P) {key : DocumentKey} {value : α} (h : c.get? key = some value) :
    P key value :=
  hc key.uri key.version value (mem_entries_of_held? (get?_eq_some_iff.mp h))

/-- Dropping a document keeps a property of the entries. -/
theorem All.invalidate (hc : c.All P) (uri : String) : (c.invalidate uri).All P := by
  intro other version value h
  exact hc other version value (List.mem_filter.mp h).1

/-- Inserting a value that has the property keeps it. -/
theorem All.insert (hc : c.All P) {key : DocumentKey} {value : α} (h : P key value) :
    (c.insert key value).All P := by
  unfold Cache.insert
  split
  · exact hc
  · intro uri version other hmem
    rcases List.mem_append.mp hmem with hmem | hmem
    · exact hc.invalidate key.uri uri version other hmem
    · cases List.mem_singleton.mp hmem
      exact h

end Cache

/-! ### One outline -/

/-- An outline is either held, and then nothing changes, or it is read and inserted. -/
theorem cachedOutline_cases (r : Registry) (fallback : Bool) (c : Cache Outline) (key : DocumentKey)
    (d : Document) :
    (∃ o, c.get? key = some o ∧ cachedOutline r fallback c key d = (o, c)) ∨
    (c.get? key = none ∧ cachedOutline r fallback c key d =
      (outline r fallback d, c.insert key (outline r fallback d))) := by
  unfold cachedOutline
  cases h : c.get? key with
  | some o => exact Or.inl ⟨o, rfl, rfl⟩
  | none => exact Or.inr ⟨rfl, rfl⟩

/-- What is true of the outlines held and of the outline of the document is true of the answer, and
of the outlines held afterwards. -/
theorem Cache.All.cachedOutline {P : DocumentKey → Outline → Prop} {c : Cache Outline}
    (hc : c.All P) (r : Registry) (fallback : Bool) {key : DocumentKey} (d : Document)
    (h : P key (outline r fallback d)) :
    P key (cachedOutline r fallback c key d).1 ∧ (cachedOutline r fallback c key d).2.All P := by
  rcases cachedOutline_cases r fallback c key d with ⟨o, hget, heq⟩ | ⟨-, heq⟩
  · rw [heq]
    exact ⟨hc.get? hget, hc⟩
  · rw [heq]
    exact ⟨h, hc.insert h⟩

/-- The answer is the outline of the document, if what is held under the key is. -/
theorem fst_cachedOutline {r : Registry} {fallback : Bool} {c : Cache Outline} {key : DocumentKey}
    {d : Document} (h : ∀ o, c.get? key = some o → o = outline r fallback d) :
    (cachedOutline r fallback c key d).1 = outline r fallback d := by
  rcases cachedOutline_cases r fallback c key d with ⟨o, hget, heq⟩ | ⟨-, heq⟩
  · rw [heq]
    exact h o hget
  · rw [heq]

/-- If a newer version is held, the outline is read and the cache stays as it is. -/
theorem cachedOutline_of_newer {c : Cache Outline} {key : DocumentKey} {version : Int}
    (h : c.newerThan? key = some version) (r : Registry) (fallback : Bool) (d : Document) :
    cachedOutline r fallback c key d = (outline r fallback d, c) := by
  obtain ⟨other, hheld, hless⟩ := Cache.newerThan?_eq_some_iff.mp h
  rcases cachedOutline_cases r fallback c key d with ⟨o, hget, -⟩ | ⟨-, heq⟩
  · rw [Cache.get?_eq_some_iff, hheld] at hget
    cases hget
    exact absurd hless (lt_irrefl _)
  · rw [heq, Cache.insert, h]

/-- If no newer version is held, the answer is held afterwards. -/
theorem get?_cachedOutline {c : Cache Outline} {key : DocumentKey} (h : c.newerThan? key = none)
    (r : Registry) (fallback : Bool) (d : Document) :
    (cachedOutline r fallback c key d).2.get? key = some (cachedOutline r fallback c key d).1 := by
  rcases cachedOutline_cases r fallback c key d with ⟨o, hget, heq⟩ | ⟨-, heq⟩
  · rw [heq]
    exact hget
  · rw [heq]
    exact Cache.get?_insert_self h _

/-! ### Runs of requests -/

/-- A request to a cache of outlines. -/
inductive CacheRequest where
  /-- The outline of a version is asked for, and read if it is not held. -/
  | outline (key : DocumentKey)
  /-- The outline of a version is read and inserted. -/
  | insert (key : DocumentKey)
  /-- The outline of a version is looked up. -/
  | get (key : DocumentKey)
  /-- A document is dropped. -/
  | invalidate (uri : String)

section

variable (r : Registry) (fallback : Bool) (content : DocumentKey → String)

/-- The outline of a version, read from its text. -/
def freshOutline (key : DocumentKey) : Outline :=
  outline r fallback (Document.ofString (content key))

namespace CacheRequest

/-- The answer to a request, if it has one, and the cache afterwards. -/
def serve (c : Cache Outline) : CacheRequest → Option Outline × Cache Outline
  | outline key =>
    let (o, c') := cachedOutline r fallback c key (Document.ofString (content key))
    (some o, c')
  | insert key => (none, c.insert key (freshOutline r fallback content key))
  | get key => (c.get? key, c)
  | invalidate uri => (none, c.invalidate uri)

/-- The answers to requests, one after the other. -/
def answers (c : Cache Outline) : List CacheRequest → List (Option Outline)
  | [] => []
  | request :: rest =>
    (request.serve r fallback content c).1 :: answers (request.serve r fallback content c).2 rest

/-- The cache after requests. -/
def cacheAfter (requests : List CacheRequest) : Cache Outline :=
  requests.foldl (fun c request => (request.serve r fallback content c).2) {}

/-- An answer that could do without a cache: the outline of the text, where one is asked for, and
that or nothing, where one is looked up. -/
def Transparent : CacheRequest → Option Outline → Prop
  | outline key, answer => answer = some (freshOutline r fallback content key)
  | get key, answer => ∀ o, answer = some o → o = freshOutline r fallback content key
  | insert _, answer => answer = none
  | invalidate _, answer => answer = none

end CacheRequest

/-- Each outline held is that of the text of its version. -/
def Cache.Fresh (c : Cache Outline) : Prop :=
  c.All fun key o => o = freshOutline r fallback content key

variable {r fallback content}

/-- A cache with fresh outlines answers a request with a fresh one, and still has fresh ones. -/
theorem Cache.Fresh.serve {c : Cache Outline} (hc : c.Fresh r fallback content)
    (request : CacheRequest) :
    request.Transparent r fallback content (request.serve r fallback content c).1 ∧
      (request.serve r fallback content c).2.Fresh r fallback content := by
  cases request with
  | outline key =>
      obtain ⟨hanswer, hafter⟩ :=
        hc.cachedOutline r fallback (Document.ofString (content key)) rfl
      exact ⟨congrArg some hanswer, hafter⟩
  | insert key => exact ⟨rfl, hc.insert rfl⟩
  | get key => exact ⟨fun o ho => hc.get? ho, hc⟩
  | invalidate uri => exact ⟨rfl, hc.invalidate uri⟩

/-- Along a run of requests every answer is as if there were no cache. -/
theorem Cache.Fresh.answers {c : Cache Outline} (hc : c.Fresh r fallback content)
    (requests : List CacheRequest) :
    List.Forall₂ (CacheRequest.Transparent r fallback content) requests
      (CacheRequest.answers r fallback content c requests) := by
  induction requests generalizing c with
  | nil => exact .nil
  | cons request rest ih =>
      obtain ⟨hanswer, hafter⟩ := hc.serve request
      exact .cons hanswer (ih hafter)

/-- Every cache that a run leaves behind is fresh. -/
theorem Cache.Fresh.cacheAfter (requests : List CacheRequest) :
    (CacheRequest.cacheAfter r fallback content requests).Fresh r fallback content := by
  induction requests using List.reverseRecOn with
  | nil => exact All.empty
  | append_singleton requests last ih =>
      unfold CacheRequest.cacheAfter
      rw [List.foldl_concat]
      exact (ih.serve last).2

end

/-- **A cache does not show in the outlines.** Let the text of a document be determined by its
version. In every run of requests to a cache that is empty at first, each outline asked for, and
each one found, is that of the text. Moreover, at any point of a run, an outline asked for is held
afterwards unless a newer version is; then the cache stays as it is, and the outline is the right
one all the same. -/
theorem answers_fresh (r : Registry) (fallback : Bool) (content : DocumentKey → String)
    (requests : List CacheRequest) :
    List.Forall₂ (CacheRequest.Transparent r fallback content) requests
      (CacheRequest.answers r fallback content {} requests) ∧
    ∀ key, let c := CacheRequest.cacheAfter r fallback content requests
      let asked := cachedOutline r fallback c key (Document.ofString (content key))
      asked.1 = freshOutline r fallback content key ∧
      (c.newerThan? key = none → asked.2.get? key = some (freshOutline r fallback content key)) ∧
      ∀ version, c.newerThan? key = some version → asked.2 = c := by
  have hempty : ({} : Cache Outline).Fresh r fallback content := Cache.All.empty
  refine ⟨hempty.answers requests, ?_⟩
  intro key c asked
  have hc : c.Fresh r fallback content := Cache.Fresh.cacheAfter requests
  have hasked : asked.1 = freshOutline r fallback content key := (hc.cachedOutline r fallback _ rfl).1
  refine ⟨hasked, ?_, ?_⟩
  · intro hnewer
    rw [← hasked]
    exact get?_cachedOutline hnewer r fallback _
  · intro version hnewer
    exact congrArg Prod.snd (cachedOutline_of_newer hnewer r fallback _)

/-- The second version is asked for, then the first one, which has another text: it is answered and
not held. Then the third one is asked for: it is answered and held. -/
theorem answers_fresh_older :
    let content : DocumentKey → String := fun key =>
      if key.version = 1 then "use A" else ""
    let c := CacheRequest.cacheAfter {} false content [.outline ⟨"a", 2⟩]
    let first := cachedOutline {} false c ⟨"a", 1⟩ (Document.ofString "use A")
    let third := cachedOutline {} false c ⟨"a", 3⟩ (Document.ofString "")
    c.newerThan? ⟨"a", 1⟩ = some 2 ∧ first = (freshOutline {} false content ⟨"a", 1⟩, c) ∧
      first.1 ≠ freshOutline {} false content ⟨"a", 2⟩ ∧
      c.newerThan? ⟨"a", 3⟩ = none ∧
      third.2.get? ⟨"a", 3⟩ = some (freshOutline {} false content ⟨"a", 3⟩) := by
  intro content c first third
  have hnewer : c.newerThan? ⟨"a", 1⟩ = some 2 := by decide +kernel
  have hnewest : c.newerThan? ⟨"a", 3⟩ = none := by decide +kernel
  have hasked := (answers_fresh {} false content [.outline ⟨"a", 2⟩]).2
  obtain ⟨hfirst, -, hkept⟩ := hasked ⟨"a", 1⟩
  refine ⟨hnewer, Prod.ext hfirst (hkept 2 hnewer), by decide +kernel, hnewest, ?_⟩
  exact (hasked ⟨"a", 3⟩).2.1 hnewest

end DslOutline
