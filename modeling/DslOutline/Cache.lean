import DslOutline.Outline.Notice

/-!
# The outline cache

The cache keeps one outline per document, that of the newest version it has been given. An outline
of an older version than the one held is ignored; one of the same version replaces it. Dropping a
document also forgets its version, so any version may follow.
-/

namespace DslOutline

/-- A version of a document. -/
structure DocumentKey where
  /-- The document. -/
  uri : String
  /-- Its version. -/
  version : Int
deriving Repr, DecidableEq

/-- Values of documents, each for one version. -/
structure Cache (α : Type) where
  /-- For each document the version held and its value; no document occurs twice. -/
  entries : List (String × Int × α) := []
deriving Repr, DecidableEq, Inhabited

namespace Cache

variable {α : Type}

/-- The version of a document that is held, and its value. -/
def held? (c : Cache α) (uri : String) : Option (Int × α) :=
  (c.entries.find? fun e => e.1 == uri).map Prod.snd

/-- The value of a document's version, if that very version is held. -/
def get? (c : Cache α) (key : DocumentKey) : Option α :=
  match c.held? key.uri with
  | some (version, value) => if version = key.version then some value else none
  | none => none

/-- The version held of a document, if it is newer than the key's. -/
def newerThan? (c : Cache α) (key : DocumentKey) : Option Int :=
  match c.held? key.uri with
  | some (version, _) => if key.version < version then some version else none
  | none => none

/-- The cache without a document. -/
def invalidate (c : Cache α) (uri : String) : Cache α :=
  ⟨c.entries.filter fun e => !(e.1 == uri)⟩

/-- The cache with a value for a document's version, unless a newer version is held. -/
def insert (c : Cache α) (key : DocumentKey) (value : α) : Cache α :=
  match c.newerThan? key with
  | some _ => c
  | none => ⟨(c.invalidate key.uri).entries ++ [(key.uri, key.version, value)]⟩

/-- The number of documents held. -/
def size (c : Cache α) : Nat := c.entries.length

/-- The notices of inserting under a key. -/
def insertNotices (c : Cache α) (key : DocumentKey) : List Notice :=
  match c.newerThan? key with
  | some held => [.stale key.uri key.version held]
  | none => []

end Cache

/-- The outline of a document's version: from the cache if it is held, else read from the document
and put into the cache. -/
def cachedOutline (r : Registry) (fallback : Bool) (c : Cache Outline) (key : DocumentKey)
    (d : Document) : Outline × Cache Outline :=
  match c.get? key with
  | some o => (o, c)
  | none =>
    let o := outline r fallback d
    (o, c.insert key o)

/-- The notices that concern the cache when an outline is asked for. -/
def cachedOutlineNotices (c : Cache Outline) (key : DocumentKey) : List Notice :=
  if (c.get? key).isSome then [.cacheHit key.uri key.version] else c.insertNotices key

end DslOutline
