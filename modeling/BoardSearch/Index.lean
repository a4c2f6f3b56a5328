import BoardSearch.Value.Basic

/-!
# Names in the search index

Fields of the documents that the engine searches, and the words by which
metatags refer to them.

## Main definitions

* `TagCategory`: the categories of tags, each with a count in the documents;
* `tagCountField`: the field with the count of a category;
* `countMetatags`: the metatags that are named like the count they ask for;
* `lockField`: the field that holds a lock.
-/

namespace BoardSearch

/-- The categories of tags. -/
inductive TagCategory where
  | general
  | species
  | character
  | copyright
  | artist
  | invalid
  | lore
  | info
deriving DecidableEq

namespace TagCategory

/-- The name of a category. -/
def name : TagCategory → String
  | general => "general"
  | species => "species"
  | character => "character"
  | copyright => "copyright"
  | artist => "artist"
  | invalid => "invalid"
  | lore => "lore"
  | info => "meta"

/-- The short name of a category, as order tokens have it. -/
def shortName : TagCategory → String
  | general => "gen"
  | species => "spec"
  | character => "char"
  | copyright => "copy"
  | artist => "art"
  | invalid => "inv"
  | lore => "lor"
  | info => "meta"

/-- Every category, in the order in which their counts are compared. -/
def all : List TagCategory :=
  [general, species, character, copyright, artist, invalid, lore, info]

/-- There are no other categories. -/
theorem mem_all (category : TagCategory) : category ∈ all := by
  cases category <;> decide

/-- The category with a name. -/
def ofName? (word : String) : Option TagCategory := all.find? fun category => category.name == word

/-- The category with a short name. -/
def ofShortName? (word : String) : Option TagCategory :=
  all.find? fun category => category.shortName == word

end TagCategory

/-- The field that counts the tags of a category. -/
def tagCountField (category : String) : String := "tag_count_" ++ category

/-- The metatags that filter and sort on the field of the same name. -/
def countMetatags : List String := ["comment_count"]

/-- The locks that a post can have, with their fields. -/
def lockFields : List (String × String) :=
  [("rating", "rating_locked"), ("note", "note_locked"), ("status", "status_locked")]

/-- The field of an unknown lock. No document has it. -/
def missingLockField : String := "missing"

/-- The field of the lock that a value names. -/
def lockField (lock : Value) : String :=
  match lockFields.find? fun entry => lock.isText entry.1 with
  | some (_, field) => field
  | none => missingLockField

/-- The rating that searches are restricted to in safe mode. -/
def safeRating : String := "s"

end BoardSearch
