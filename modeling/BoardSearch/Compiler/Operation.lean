import BoardSearch.Compiler.Basic

/-!
# Operations on a compiler

Everything that can be done with a compiler, as data, so that what holds after
any history of operations can be said.

## Main definitions

* `Compiler.Operation`: the operations;
* `Compiler.run`: what an operation does;
* `Compiler.runAll`: the compiler after a row of operations.
-/

namespace BoardSearch.Compiler

/-- Something that can be done with a compiler. -/
inductive Operation where
  | build (base : Option Search)
  | assemble (base : Option Search)
  | reset
  | setQuery (query : Value)
  | setSession (session : Session)
  /-- The query of a grouping is collected, among what must match or must not. -/
  | addTags (grouping : TagGrouping) (excluded : Bool)
  | stage (stage : Stage)

/-- What an operation leaves to look at. -/
inductive Product where
  | nothing
  | added
  | search (search : Search)

/-- The report of an operation that makes nothing. -/
def silently (c : Compiler) : Report Product := ⟨c, [], .ok .nothing⟩

/-- The effect of an operation. -/
def run (c : Compiler) (clock : Clock) : Operation → Report Product
  | .build base =>
    let report := c.build clock base
    ⟨report.compiler, report.events, report.result.map .search⟩
  | .assemble base => (c.assemble base).andThen fun c search => ⟨c, [], .ok (.search search)⟩
  | .reset => silently c.reset
  | .setQuery query => silently { c with query }
  | .setSession session => silently { c with session }
  | .addTags grouping excluded =>
    let contribution :=
      if excluded then Contribution.exclude [grouping.query]
      else Contribution.require [grouping.query]
    (c.collect contribution).andThen fun c _ => ⟨c, [], .ok .added⟩
  | .stage stage => (c.perform clock.now stage).andThen fun c _ => ⟨c, [], .ok .nothing⟩

/-- The compiler after operations, each with what the clocks then show. -/
def runAll (c : Compiler) (operations : List (Clock × Operation)) : Compiler :=
  operations.foldl (fun c entry => (c.run entry.1 entry.2).compiler) c

end BoardSearch.Compiler
