import BoardSearch.Request.Basic

/-!
# Requests that look the same

A metatag is read with one accessor, which takes a value of another shape for absent.
So two requests can differ in much that nobody ever sees of them: in the order of their
metatags, in metatags that nothing reads, and in values that have the wrong shape.

## Main definitions

* `Request.Accessor`: the accessors;
* `Request.AgreesOn`: two requests look the same to the given accessors;
* `Request.isSeen`: some accessor takes the value of a metatag for present.

## Main statements

* `Request.agreesOn_of_perm`: requests with the same seen metatags look the same.
-/

namespace BoardSearch

namespace Request

/-- The accessors of a request. -/
inductive Accessor where
  | range
  | scalar
  | values
  | tags
  /-- The value of whatever shape, and whether there is one. -/
  | raw
deriving DecidableEq

namespace Accessor

/-- A metatag looks the same to an accessor in two requests. -/
def SeesSame (accessor : Accessor) (name : String) (request request' : Request) : Prop :=
  match accessor with
  | range => request.range? name = request'.range? name
  | scalar => request.scalar? name = request'.scalar? name
  | values => request.values? name = request'.values? name
  | tags => request.tags? name = request'.tags? name
  | raw => request.get? name = request'.get? name

/-- The value has the shape that an accessor asks for. -/
def sees (accessor : Accessor) (value : Value) : Bool :=
  match accessor with
  | range => (RangeCondition.ofValue? value).isSome
  | scalar => (scalarOf? value).isSome
  | values => (valuesOf? value).isSome
  | tags => (TagGrouping.ofValue? value).isSome
  | raw => true

theorem seesSame_of_get? {name : String} {request request' : Request}
    (h : request.get? name = request'.get? name) (accessor : Accessor) :
    accessor.SeesSame name request request' := by
  cases accessor with
  | raw => exact h
  | range => simp only [SeesSame, range?, h]
  | scalar => simp only [SeesSame, scalar?, h]
  | values => simp only [SeesSame, values?, h]
  | tags => simp only [SeesSame, tags?, h]

end Accessor

/-- Two requests look the same under every name to the accessor that is given with it. -/
def AgreesOn (known : List (String × Accessor)) (request request' : Request) : Prop :=
  ∀ entry ∈ known, entry.2.SeesSame entry.1 request request'

theorem AgreesOn.mono {known known' : List (String × Accessor)} {request request' : Request}
    (h : request.AgreesOn known request') (hsub : known' ⊆ known) :
    request.AgreesOn known' request' :=
  fun entry hentry => h entry (hsub hentry)

/-! ## Metatags that are seen -/

/-- A metatag is known, and its value has the shape that is asked for. -/
def isSeen (known : List (String × Accessor)) (metatag : String × Value) : Bool :=
  known.any fun entry => entry.1 == metatag.1 && entry.2.sees metatag.2

variable {known : List (String × Accessor)} {request request' : Request}

theorem isSeen_of_sees {name : String} {accessor : Accessor} {value : Value}
    (hknown : (name, accessor) ∈ known) (h : accessor.sees value = true) :
    isSeen known (name, value) = true :=
  List.any_eq_true.mpr ⟨_, hknown, by simpa using h⟩

/-- What is made of a value under a name is the same in two requests that have the same
metatags that are seen, if nothing is made of the values that are not. -/
theorem bind_get?_of_perm {α : Type} {view : Value → Option α} {name : String}
    (hnodup : request.names.Nodup) (hnodup' : request'.names.Nodup)
    (hperm : (request.metatags.filter (isSeen known)).Perm
      (request'.metatags.filter (isSeen known)))
    (hview : ∀ value, (view value).isSome = true → isSeen known (name, value) = true) :
    (request.get? name).bind view = (request'.get? name).bind view := by
  -- both sides are told apart by the seen entries that they come from
  have hmem : ∀ {request : Request}, request.names.Nodup → ∀ a,
      ((request.get? name).bind view = some a ↔
        ∃ value, (name, value) ∈ request.metatags.filter (isSeen known) ∧
          view value = some a) := by
    intro request hnodup a
    rw [Option.bind_eq_some_iff]
    refine exists_congr fun value => and_congr_left fun hvalue => ?_
    have hseen : isSeen known (name, value) = true := hview value (by simp [hvalue])
    rw [List.mem_filter, get?, Keyed.find?_eq_some_iff hnodup]
    exact (and_iff_left hseen).symm
  ext a
  rw [hmem hnodup, hmem hnodup']
  exact exists_congr fun value => and_congr_left fun _ => hperm.mem_iff

/-- Two requests look the same if the same metatags are seen of them, in whatever order. -/
theorem agreesOn_of_perm (hnodup : request.names.Nodup) (hnodup' : request'.names.Nodup)
    (hperm : (request.metatags.filter (isSeen known)).Perm
      (request'.metatags.filter (isSeen known))) : request.AgreesOn known request' := by
  rintro ⟨name, accessor⟩ hknown
  have hseen : ∀ value, accessor.sees value = true → isSeen known (name, value) = true :=
    fun value => isSeen_of_sees hknown
  cases accessor with
  | range => exact bind_get?_of_perm hnodup hnodup' hperm hseen
  | scalar => exact bind_get?_of_perm hnodup hnodup' hperm hseen
  | values => exact bind_get?_of_perm hnodup hnodup' hperm hseen
  | tags => exact bind_get?_of_perm hnodup hnodup' hperm hseen
  | raw =>
    have hraw : (request.get? name).bind some = (request'.get? name).bind some :=
      bind_get?_of_perm hnodup hnodup' hperm fun value _ => hseen value rfl
    rwa [Option.bind_fun_some, Option.bind_fun_some] at hraw

end Request

end BoardSearch
