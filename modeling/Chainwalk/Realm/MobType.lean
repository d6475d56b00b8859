import Chainwalk.Realm.Enumerated

/-!
# Kinds of mobs

The kinds of mobs, with the name a mob of the kind goes by, its temper and the health
it starts with.
-/

namespace Chainwalk

/-- A kind of mob. -/
inductive MobType
  | pig
  | cow
  | sheep
  | chicken
  | villager
  | zombie
  | skeleton
  | spider
  | creeper
  | blaze
  | ghast
  deriving DecidableEq, Repr

instance : Enumerated MobType where
  all := [.pig, .cow, .sheep, .chicken, .villager, .zombie, .skeleton, .spider, .creeper, .blaze,
    .ghast]
  name
    | .pig => "PIG"
    | .cow => "COW"
    | .sheep => "SHEEP"
    | .chicken => "CHICKEN"
    | .villager => "VILLAGER"
    | .zombie => "ZOMBIE"
    | .skeleton => "SKELETON"
    | .spider => "SPIDER"
    | .creeper => "CREEPER"
    | .blaze => "BLAZE"
    | .ghast => "GHAST"
  label
    | .pig => "Pig"
    | .cow => "Cow"
    | .sheep => "Sheep"
    | .chicken => "Chicken"
    | .villager => "Villager"
    | .zombie => "Zombie"
    | .skeleton => "Skeleton"
    | .spider => "Spider"
    | .creeper => "Creeper"
    | .blaze => "Blaze"
    | .ghast => "Ghast"

namespace MobType

/-- Every constant is in the list. -/
theorem mem_all (a : MobType) : a ∈ (Enumerated.all : List MobType) := by
  cases a <;> decide

/-- The name that a mob of the kind goes by. -/
def entityName : MobType → String
  | pig => "pig"
  | cow => "cow"
  | sheep => "sheep"
  | chicken => "chicken"
  | villager => "villager"
  | zombie => "zombie"
  | skeleton => "skeleton"
  | spider => "spider"
  | creeper => "creeper"
  | blaze => "blaze"
  | ghast => "ghast"

/-- Whether mobs of the kind attack players. -/
def isHostile : MobType → Bool
  | zombie | skeleton | spider | creeper | blaze | ghast => true
  | pig | cow | sheep | chicken | villager => false

/-- The health of a new mob of the kind. -/
def maxHealth : MobType → Float
  | pig | cow | ghast => 10
  | sheep => 8
  | chicken => 4
  | spider => 16
  | villager | zombie | skeleton | creeper | blaze => 20

end MobType

end Chainwalk
