import BoardSearch.Index
import BoardSearch.Relation.Contribution
import BoardSearch.Relation.Range
import BoardSearch.Request.Basic
import BoardSearch.Wildcard

/-!
# Single metatags

The contribution of each kind of metatag. Most come in pairs: a metatag says
what must match, and the one with `_neg` after its name what must not.

## Main definitions

* `Request.arrayContribution`: lists of identifiers, with `any` and `none`;
* `Request.singleContribution`: single values;
* `Request.wildcardContribution`, `Request.sourceContribution`: patterns;
* `Request.voteContribution`, `Request.lockContribution`: votes and locks;
* `Request.rangeContribution`, `Request.presenceContribution`,
  `Request.flagContribution`: ranges, presence of a field, and flags;
* `TagGrouping.query`: the query for plain tags.
-/

namespace BoardSearch

/-- The name of the metatag that negates another. -/
def negated (name : String) : String := name ++ "_neg"

/-- The query that a tag grouping stands for. Its alternatives come with the
number that has to match; the rest does without. -/
def TagGrouping.query (grouping : TagGrouping) : Query :=
  let has := fun tag => Query.term "tags" tag
  .bool (grouping.included.map has) (grouping.related.map has) (grouping.excluded.map has) []
    (if grouping.included.isEmpty then none else some (.int 1)) .usual

namespace Request

/-- The values of a list must all match, those of its negation must not; and a
toggle says whether the field has any value. -/
def arrayContribution (request : Request) (name field : String) (toggle : Option String) :
    Contribution :=
  let toggled := toggle.bind request.scalar?
  .all [.require ((request.values name).map (.term field)),
    .exclude ((request.values (negated name)).map (.term field)),
    .ofOption toggled fun value =>
      if value.isText "any" then .require [.present field]
      else if value.isText "none" then .exclude [.present field]
      else .none]

/-- A value must match, and that of the negation must not. -/
def singleContribution (request : Request) (name : String) (query : Value → Query) :
    Contribution :=
  .all [.ofOption (request.scalar? name) fun value => .require [query value],
    .ofOption (request.scalar? (negated name)) fun value => .exclude [query value]]

/-- The query for a LIKE pattern in a field. The pattern has to be written out. -/
def likeQuery (field : String) (pattern : Value) : Except Failure Query :=
  pattern.written.map fun text => .wildcard field (Wildcard.ofLikeText text)

/-- A field must match a LIKE pattern, and must not match that of the negation. -/
def wildcardContribution (request : Request) (name field : String) : Contribution :=
  .all [.ofOption (request.scalar? name) fun pattern => .ofQuery (likeQuery field pattern) .require,
    .ofOption (request.scalar? (negated name)) fun pattern =>
      .ofQuery (likeQuery field pattern) .exclude]

/-- The pattern for posts without a source. -/
def sourceNone : String := "none%"

/-- The pattern for posts whose source is an address. -/
def sourceHttp : String := "http%"

/-- What a source pattern asks for. -/
def sourceOf (pattern : Value) : Contribution :=
  if pattern.isText sourceNone then .exclude [.present "source"]
  else if pattern.isText sourceHttp then .require [.beginsWith "source" "http"]
  else .ofQuery (likeQuery "source" pattern) .require

/-- What a negated source pattern asks for. -/
def negatedSourceOf (pattern : Value) : Contribution :=
  if pattern.isText sourceNone then .require [.present "source"]
  else if pattern.isText sourceHttp then .exclude [.beginsWith "source" "http"]
  else .ofQuery (likeQuery "source" pattern) .exclude

/-- Patterns for the source. The two most common ones have clauses of their own. -/
def sourceContribution (request : Request) : Contribution :=
  .all [.ofOption (request.scalar? "source") sourceOf,
    .ofOption (request.scalar? "source_neg") negatedSourceOf]

/-- The two kinds of votes by somebody. -/
def votesOf (voter : Value) : List Query := [.term "upvotes" voter, .term "downvotes" voter]

/-- Votes of either kind. -/
def voteContribution (request : Request) : Contribution :=
  .all [.ofOption (request.scalar? "voted") fun voter => .require [.atLeastOne (votesOf voter)],
    .ofOption (request.scalar? "voted_neg") fun voter => .exclude (votesOf voter)]

/-- Whether a lock is set. A lock is looked up, so it has to be a possible key. -/
def lockOf (isSet : Bool) (lock : Value) : Contribution :=
  if lock.hashable then .require [.term (lockField lock) (.bool isSet)] else .fail .mistyped

/-- Locks that are set and locks that are not. An unknown one is looked up as a
field that no post has. -/
def lockContribution (request : Request) : Contribution :=
  .all [.all ((request.values "locked").map (lockOf true)),
    .all ((request.values "locked_neg").map (lockOf false))]

/-- A range of a field. -/
def rangeContribution (request : Request) (name field : String) : Contribution :=
  .ofOption (request.range? name) fun condition => .require (condition.clauses field)

/-- A field has a value or has none, as a metatag counts as true or not. -/
def presenceContribution (request : Request) (name field : String) : Contribution :=
  .ofOption (request.get? name) fun value =>
    if value.truthy then .require [.present field] else .exclude [.present field]

/-- A flag has the value of a metatag. -/
def flagContribution (request : Request) (name field : String) : Contribution :=
  .ofOption (request.get? name) fun value => .require [.term field value]

/-- One of several checksums. -/
def checksumContribution (request : Request) : Contribution :=
  let checksums := request.values "md5"
  if checksums.isEmpty then .none
  else .require [.atLeastOne (checksums.map (.term "md5"))]

/-- A post is none of those with this identifier. -/
def identifierContribution (request : Request) : Contribution :=
  .ofOption (request.scalar? "post_id_neg") fun value => .exclude [.term "id" value]

/-- A post has children or has none. -/
def childContribution (request : Request) : Contribution :=
  .ofOption (request.scalar? "child") fun value =>
    if value.isText "none" then .require [.term "has_children" (.bool false)]
    else if value.isText "any" then .require [.term "has_children" (.bool true)]
    else .none

/-- Plain tags. -/
def tagContribution (request : Request) : Contribution :=
  .ofOption (request.tags? "tags") fun grouping => .require [grouping.query]

end Request

end BoardSearch
