import BoardSearch.Relation.Metatag
import BoardSearch.Relation.Status

/-!
# Filters

All metatags that filter posts, in the order in which their clauses are
collected.

## Main definitions

* `Request.filterParts`: the parts, each a contribution of the request;
* `Request.filterContribution`: what a request asks for, apart from its order.
-/

namespace BoardSearch

namespace Request

/-- Range metatags with the field that each compares. -/
def rangeMetatags : List (String × String) :=
  [("post_id", "id"), ("mpixels", "mpixels"), ("ratio", "aspect_ratio"), ("width", "width"),
    ("height", "height"), ("duration", "duration"), ("score", "score"),
    ("fav_count", "fav_count"), ("filesize", "file_size"), ("change_seq", "change_seq"),
    ("date", "created_at"), ("age", "created_at")]

/-- Range metatags for the counts of tags and comments. -/
def countRangeMetatags : List (String × String) :=
  TagCategory.all.map (fun category => (category.name ++ "_tag_count", tagCountField category.name))
    ++ [("post_tag_count", "tag_count")] ++ countMetatags.map fun name => (name, name)

/-- List metatags with their field and their toggle. -/
def arrayMetatags : List (String × String × Option String) :=
  [("uploader_ids", "uploader", none), ("approver_ids", "approver", some "approver"),
    ("commenter_ids", "commenters", some "commenter"), ("noter_ids", "noters", some "noter"),
    ("note_updater_ids", "noters", none), ("pool_ids", "pools", some "pool"),
    ("set_ids", "sets", none), ("fav_ids", "faves", none),
    ("parent_ids", "parent", some "parent")]

/-- Single metatags with the query for their value. -/
def singleMetatags : List (String × (Value → Query)) :=
  [("rating", .term "rating"), ("filetype", .term "file_ext"),
    ("description", .matching "description"), ("note", .matching "notes"),
    ("deleter", .term "deleter"), ("upvote", .term "upvotes"), ("downvote", .term "downvotes")]

/-- Metatags that test whether a field has a value. -/
def presenceMetatags : List (String × String) :=
  [("hassource", "source"), ("hasdescription", "description"), ("ischild", "parent"),
    ("inpool", "pools")]

/-- Metatags whose value is compared with a flag. -/
def flagMetatags : List (String × String) :=
  [("isparent", "has_children"), ("pending_replacements", "has_pending_replacements")]

/-- The restriction to safe posts. -/
def safetyContribution (safeMode : Bool) : Contribution :=
  if safeMode then .require [.term "rating" (.text safeRating)] else .none

/-- What is looked at in a request one after another, apart from its order. -/
def filterParts (safeMode adminMode : Bool) : List (Request → Contribution) :=
  [fun _ => safetyContribution safeMode]
    ++ (rangeMetatags ++ countRangeMetatags).map (fun (name, field) (request : Request) =>
      request.rangeContribution name field)
    ++ [checksumContribution, statusContribution,
      fun request => request.visibilityContribution adminMode, sourceContribution]
    ++ arrayMetatags.map (fun (name, field, toggle) (request : Request) =>
      request.arrayContribution name field toggle)
    ++ singleMetatags.map (fun (name, query) (request : Request) =>
      request.singleContribution name query)
    ++ [voteContribution, fun request => request.wildcardContribution "delreason" "del_reason",
      identifierContribution, childContribution, lockContribution]
    ++ presenceMetatags.map (fun (name, field) (request : Request) =>
      request.presenceContribution name field)
    ++ flagMetatags.map (fun (name, field) (request : Request) =>
      request.flagContribution name field)
    ++ [tagContribution]

/-- What a request asks for, apart from its order. -/
def filterContribution (request : Request) (safeMode adminMode : Bool) : Contribution :=
  .all ((filterParts safeMode adminMode).map fun part => part request)

end Request

end BoardSearch
