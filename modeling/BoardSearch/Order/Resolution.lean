import BoardSearch.Index
import BoardSearch.Order.Scoring
import BoardSearch.Order.Sort
import BoardSearch.Request.Basic
import BoardSearch.Text.Letter

/-!
# Orders

What an order token resolves to: sort keys, clauses for posts that can be put in
that order at all, and a score where the order is made by one.

## Main definitions

* `Order.keys`: the sort keys of a token;
* `Order.requirements`: the clauses of a token;
* `Resolution`: all that a token resolves to;
* `Request.resolveOrder`: the order that a request asks for.
-/

namespace BoardSearch

namespace Order

/-- The order by a score that is made for it. -/
def rank : String := "rank"

/-- The order without an order. -/
def random : String := "random"

/-- The newest posts first, where nothing else is asked for. -/
def fallback : List SortKey := [.desc "id"]

/-- The highest scores first. -/
def byScore : List SortKey := [.desc "_score"]

/-- The tokens that are spelled out, with their sort keys. -/
def table : List (String × List SortKey) :=
  [("id", [.asc "id"]), ("id_asc", [.asc "id"]), ("id_desc", [.desc "id"]),
    ("change", [.desc "change_seq"]), ("change_desc", [.desc "change_seq"]),
    ("change_asc", [.asc "change_seq"]),
    ("md5", [.desc "md5"]), ("md5_asc", [.asc "md5"]),
    ("score", SortKey.tiesById "score" .desc), ("score_desc", SortKey.tiesById "score" .desc),
    ("score_asc", SortKey.tiesById "score" .asc),
    ("duration", SortKey.tiesById "duration" .desc),
    ("duration_desc", SortKey.tiesById "duration" .desc),
    ("duration_asc", SortKey.tiesById "duration" .asc),
    ("favcount", SortKey.tiesById "fav_count" .desc),
    ("favcount_asc", SortKey.tiesById "fav_count" .asc),
    ("created_at", [.desc "created_at"]), ("created_at_desc", [.desc "created_at"]),
    ("created_at_asc", [.asc "created_at"]),
    ("updated", SortKey.tiesById "updated_at" .desc),
    ("updated_desc", SortKey.tiesById "updated_at" .desc),
    ("updated_asc", SortKey.tiesById "updated_at" .asc),
    ("comment", [(SortKey.desc "commented_at").placing .last, .desc "id"]),
    ("comm", [(SortKey.desc "commented_at").placing .last, .desc "id"]),
    ("comment_asc", [(SortKey.asc "commented_at").placing .last, .asc "id"]),
    ("comm_asc", [(SortKey.asc "commented_at").placing .last, .asc "id"]),
    ("comment_bumped", [(SortKey.desc "comment_bumped_at").placing .last, .desc "id"]),
    ("comment_bumped_asc", [(SortKey.asc "comment_bumped_at").placing .last, .desc "id"]),
    ("note", [(SortKey.desc "noted_at").placing .last]),
    ("note_asc", [(SortKey.asc "noted_at").placing .first]),
    ("mpixels", [.desc "mpixels"]), ("mpixels_desc", [.desc "mpixels"]),
    ("mpixels_asc", [.asc "mpixels"]),
    ("portrait", [.asc "aspect_ratio"]), ("landscape", [.desc "aspect_ratio"]),
    ("filesize", [.desc "file_size"]), ("filesize_desc", [.desc "file_size"]),
    ("filesize_asc", [.asc "file_size"]),
    ("tagcount", [.desc "tag_count"]), ("tagcount_desc", [.desc "tag_count"]),
    ("tagcount_asc", [.asc "tag_count"])]

/-- The tokens that mean nothing for posts without a width and a height. -/
def needsDimensions : List String := ["landscape", "portrait", "mpixels", "mpixels_desc"]

/-- The tokens that mean nothing for posts without a bumping comment. -/
def needsBump : List String := ["comment_bumped", "comment_bumped_asc"]

/-- The order by a count that is a metatag, in letters of either case. -/
def countKeys? (token : String) : Option (List SortKey) :=
  let split := OrderToken.split (Text.lowerCase token)
  if countMetatags.contains split.base then
    some (SortKey.tiesById split.base (split.direction.getD .desc))
  else none

/-- The order by the tags of a category, which goes by its short name. -/
def categoryKeys? (token : String) : Option (List SortKey) := do
  let split := OrderToken.split token
  let shortName ← withoutEnding? ['t', 'a', 'g', 's'] split.base.toList
  let category ← TagCategory.ofShortName? (String.ofList shortName)
  return [⟨tagCountField category.name, split.direction.getD .desc, none⟩]

/-- The sort keys of a token. -/
def keys (token : String) : List SortKey :=
  match table.find? fun entry => entry.1 == token with
  | some (_, keys) => keys
  | none => ((countKeys? token).or (categoryKeys? token)).getD fallback

/-- The moment two days before another. -/
def twoDaysBefore? (now : Moment) : Option Moment := now.dayBefore?.bind Moment.dayBefore?

/-- The clauses that a token needs so that it can be applied. The rank looks at
the last two days only. -/
def requirements (now : Moment) (token : String) : Except Failure (List Query) :=
  if token = rank then
    match twoDaysBefore? now with
    | some start => .ok [.range "score" "gt" (.int 0), .range "created_at" "gte" (.moment start)]
    | none => .error .beyondCalendar
  else if needsDimensions.contains token then .ok [.present "width", .present "height"]
  else if needsBump.contains token then .ok [.present "comment_bumped_at"]
  else .ok []

end Order

/-- What an order resolves to. -/
structure Resolution where
  sort : List SortKey
  must : List Query
  scoring : Option Scoring

namespace Request

/-- The order token of a request, if it has one. It has to be written out. -/
def orderToken? (request : Request) : Except Failure (Option String) :=
  match request.scalar? "order" with
  | none => .ok none
  | some value => value.written.map some

/-- The random score of a request, with the seed that it names. -/
def randomScoring (request : Request) : Except Failure Scoring :=
  match request.scalar? "random" with
  | none => .ok (.random none)
  | some _ => (request.integer "random" 0).map fun seed => .random (some (.int seed))

/-- What the order of a request resolves to. -/
def resolveOrder (request : Request) (now : Moment) : Except Failure Resolution := do
  match ← request.orderToken? with
  | none => return ⟨Order.fallback, [], none⟩
  | some token =>
    let requirements ← Order.requirements now token
    if token = Order.rank then
      return ⟨Order.byScore, requirements ++ [.ranked], none⟩
    else if token = Order.random then
      return ⟨Order.byScore, requirements, some (← request.randomScoring)⟩
    else
      return ⟨Order.keys token, requirements, none⟩

end Request

end BoardSearch
