import BoardSearch.Query.Reading

/-!
# Aggregations

An aggregation is written as a mapping with an entry from its kind to its
parameters. One that sorts documents into buckets may have aggregations within,
which stand beside that entry, as does what it is annotated with.

## Main definitions

* `Aggregation.kinds`: the names of the kinds;
* `Aggregation.readAll`: the aggregations of a search, as they are written.
-/

namespace BoardSearch.Aggregation

/-- The kinds that sort documents into buckets. -/
def bucketKinds : List String :=
  ["adjacency_matrix", "auto_date_histogram", "children", "composite", "date_histogram",
    "date_range", "diversified_sampler", "filter", "filters", "geo_distance", "geohash_grid",
    "geotile_grid", "global", "histogram", "ip_range", "missing", "multi_terms", "nested",
    "parent", "range", "rare_terms", "reverse_nested", "sampler", "significant_terms",
    "significant_text", "terms", "variable_width_histogram"]

/-- The kinds that compute something from documents or from other aggregations. -/
def figureKinds : List String :=
  ["avg", "avg_bucket", "boxplot", "bucket_script", "bucket_selector", "bucket_sort",
    "cardinality", "cumulative_cardinality", "cumulative_sum", "derivative", "extended_stats",
    "extended_stats_bucket", "geo_bounds", "geo_centroid", "inference", "matrix_stats", "max",
    "max_bucket", "median_absolute_deviation", "min", "min_bucket", "moving_avg", "moving_fn",
    "moving_percentiles", "normalize", "percentile_ranks", "percentiles", "percentiles_bucket",
    "scripted_metric", "serial_diff", "stats", "stats_bucket", "string_stats", "sum",
    "sum_bucket", "t_test", "top_hits", "top_metrics", "value_count", "weighted_avg"]

/-- The kinds of aggregations. -/
def kinds : List String := bucketKinds ++ figureKinds

/-- The entries of a mapping. -/
def entriesOf : Value → Except Failure (List (Value × Value))
  | .mapping entries => .ok entries
  | _ => .error .noMapping

/-- A mapping with its values read. -/
def readEntries (reader : Value → Except Failure Value) (value : Value) :
    Except Failure Value := do
  return .mapping (← (← entriesOf value).mapM fun (name, value) => return (name, ← reader value))

/-- A query within an aggregation, as it is written. -/
def readFilter (value : Value) : Except Failure Value := (Query.ofValue value).map (·.toValue)

/-- A parameter of an aggregation, as it is written. -/
def readParameter (inner : Value → Except Failure Value) (kind name : String) (value : Value) :
    Except Failure Value :=
  if name = "aggs" && bucketKinds.contains kind then readEntries inner value
  else if name = "filters" && kind = "filters" then readEntries readFilter value
  else if name = "filter" && kind = "filter" then readFilter value
  else if name = "sources" && kind = "composite" then
    ((Query.rowOf value).mapM (readEntries inner)).map .list
  else .ok value

/-- The parameters as they are written. The query of a filter is written in the place
of its parameters. -/
def unfolded (kind : String) (parameters : List (String × Value)) : List (String × Value) :=
  match kind, Keyed.find? "filter" parameters with
  | "filter", some (.mapping query) =>
    Keyed.ofEntries (Keyed.remove "filter" parameters ++ query.filterMap fun (name, value) =>
      name.asText?.map (·, value))
  | _, _ => parameters

/-- A parameter is left out, since it names nothing. -/
def isIdle (kind name : String) (value : Value) : Bool :=
  !value.truthy && (kind = "filters" && name = "filters" || kind = "composite" && name = "sources"
    || name = "aggs" && bucketKinds.contains kind)

/-- A parameter stands beside the kind and not within it. -/
def isBeside (kind name : String) : Bool :=
  name = "meta" || name = "aggs" && bucketKinds.contains kind

/-- The aggregation of a named kind, as it is written. -/
def readKind (inner : Value → Except Failure Value) (name parameters : Value)
    (beside : List (String × Value)) : Except Failure Value := do
  let kind ← Query.kindOf .aggregation kinds name
  match parameters with
  | .mapping entries =>
    let named := Keyed.ofEntries ((← Query.namedParameters entries) ++ beside)
    let named := named.filter fun (name, value) =>
      !(kind = "filter" && name = "filter" && value.isNull)
    let read ← named.mapM fun (name, value) => return (name, ← readParameter inner kind name value)
    let written := read.filter fun (name, value) => !isIdle kind name value
    let (outer, within) := written.partition fun parameter => isBeside kind parameter.1
    return .record ((kind, .record (unfolded kind within)) :: outer)
  | _ => throw .mistyped

/-- An entry that stands beside the kind, unless it says nothing. -/
def besideEntry (name : String) (entries : List (Value × Value)) : List (String × Value) :=
  match Value.find? name entries with
  | some value => if value.truthy then [(name, value)] else []
  | none => []

/-- An aggregation with at most `depth` of them within each other, as it is written. -/
def readWithin : Nat → Value → Except Failure Value
  | 0, _ => .error .mistyped
  | depth + 1, .mapping entries =>
    let isBeside := fun (key : Value) => key.isText "aggs" || key.isText "meta"
    match entries.filter fun entry => !isBeside entry.1 with
    | [(name, parameters)] =>
      readKind (readWithin depth) name parameters
        (besideEntry "aggs" entries ++ besideEntry "meta" entries)
    | _ => .error (.noSingleAggregation (Value.mapping entries).quoted)
  | depth + 1, name => readKind (readWithin depth) name (.mapping []) []

/-- The aggregations of a search by name, as they are written. -/
def readAll (value : Value) : Except Failure Value :=
  readEntries (readWithin (value.depth + 1)) value

end BoardSearch.Aggregation
