import ProseRules.Pattern.Run

namespace ProseRules

/-!
# Cache of prepared patterns

Patterns are prepared once for a vocabulary and kept for the vocabularies that
were asked for most recently. Each preparation has a number of its own, so that
two answers can be told to be the same one.
-/

/-- Patterns prepared for one vocabulary. -/
structure PreparedPatterns where
  /-- How many preparations were made before. -/
  serial : Nat
  vocabulary : String
  patterns : List (List Step)
  deriving Repr, DecidableEq

/-- A cache for the patterns of one rule. -/
structure PatternCache where
  /-- The greatest number of entries. -/
  capacity : Int
  /-- The patterns without empty ones. -/
  patterns : List (List Token)
  /-- The preparations that are kept, the least recently asked for first. -/
  entries : List PreparedPatterns := []
  /-- The number of preparations so far. -/
  prepared : Nat := 0

namespace PatternCache

/-- The capacity that is used unless another one is given. -/
def defaultCapacity : Int :=
  4

/-- An empty cache; empty patterns are left out. -/
def create (patterns : List (List Token)) (capacity : Int := defaultCapacity) : PatternCache where
  capacity := capacity
  patterns := patterns.filter (!·.isEmpty)

/-- The cache has a pattern. -/
def hasPatterns (cache : PatternCache) : Bool :=
  !cache.patterns.isEmpty

/-- The number of entries. -/
def size (cache : PatternCache) : Nat :=
  cache.entries.length

/-- The entries without those that exceed a capacity, the oldest dropped first. -/
def evict (capacity : Nat) (entries : List PreparedPatterns) : List PreparedPatterns :=
  entries.drop (entries.length - capacity)

/-- Add a new entry. A capacity below zero is refused after all entries are dropped. -/
def add (cache : PatternCache) (entry : PreparedPatterns) :
    Except Failure PreparedPatterns × PatternCache :=
  let cache := { cache with prepared := cache.prepared + 1 }
  if cache.capacity < 0 then
    (.error .noKey, { cache with entries := [] })
  else
    (.ok entry, { cache with entries := evict cache.capacity.toNat (cache.entries ++ [entry]) })

/-- The patterns prepared for a vocabulary, and the cache afterwards. -/
def get (cache : PatternCache) (vocabulary : String) :
    Except Failure PreparedPatterns × PatternCache :=
  match cache.entries.find? (·.vocabulary = vocabulary) with
  | some entry =>
      let others := cache.entries.filter (·.vocabulary ≠ vocabulary)
      (.ok entry, { cache with entries := others ++ [entry] })
  | none =>
      match cache.patterns.mapM Step.ofTokens with
      | .error failure => (.error failure, cache)
      | .ok patterns => cache.add ⟨cache.prepared, vocabulary, patterns⟩

end PatternCache

end ProseRules
