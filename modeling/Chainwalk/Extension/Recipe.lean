import Chainwalk.Conversion.Plain

/-!
# Recipes of values

A host can say by data what value it wants: a `Recipe`. Every preparation of a recipe
makes its values anew, except those that live in the realm or were saved by name.
-/

namespace Chainwalk

/-- The kinds of objects that a host can have of a world that is gone. -/
inductive Stray
  | location
  | block
  | player
  | mob
  deriving DecidableEq, Repr

/-- What value a host wants. -/
inductive Recipe
  | null
  /-- What a registry of plain values reads. -/
  | literal (c : Class) (text : String)
  | list (items : List Recipe)
  | classRef (c : Class)
  /-- An object of the host's own making. -/
  | hosted (c : Class) (label : String) (isSealed : Bool)
  /-- A value that was saved by name. -/
  | saved (name : String)
  | server
  | world (name : String)
  | player (name : String)
  | stray (kind : Stray)
  deriving Inhabited

namespace Stray

/-- Makes the object, in a world that is dropped at once. -/
def prepare (kind : Stray) : Act Value := do
  let r ← Act.realm (Realm.newWorld (.make "lost" 0 none))
  Act.realm (Realm.dropWorld r)
  let l : Location := ⟨r, 1.5, 2.5, -3.5⟩
  match kind with
  | location => Act.new (.location l)
  | block => Act.new (.block l.block)
  | player => return some (.player (← Act.realm (Realm.newPlayer 7 "ghost" l)))
  | mob => return some (.mob (← Act.realm (Realm.newMob 8 .pig l)))

end Stray

namespace Recipe

variable (h : Hierarchy) (server? : Option (Ref .server))

mutual

/-- Makes the value. -/
def prepare : Recipe → Act Value
  | null => return none
  | literal c text => (Registry.plain.attempt h none c text).toAct
  | list items => do Act.newList (← prepareAll items)
  | classRef c => Act.new (.classRef c)
  | hosted c label isSealed => Act.new (.hosted c label isSealed)
  | saved name => return (← get).saved? name
  | server => return server?.map Object.server
  | world name => do
    let realm ← Act.ask id
    return (server?.bind fun s => realm.world? s name).map Object.world
  | player name => do
    let realm ← Act.ask id
    return (server?.bind fun s => realm.player? s name).map Object.player
  | stray kind => kind.prepare

/-- Makes the values in order. -/
def prepareAll : List Recipe → Act (List Value)
  | [] => return []
  | r :: rs => do
    let v ← prepare r
    return v :: (← prepareAll rs)

end

end Recipe

end Chainwalk
