import BayeuxChat.Proofs.Json.Reading
import BayeuxChat.Proofs.Settings.RoomName

/-!
# Which source each setting is taken from

Every setting is taken by itself: from the environment if it is given there, or else from
the file, or else it is the default.  The environment is refused for its first variable
that is not acceptable, the flavor coming before the room.  What had been overridden by
then stays, which can only be the flavor.
-/

namespace BayeuxChat

/-! ## Words for flavors -/

namespace Flavor

/-- The words for a flavor. -/
def words : Flavor → List String
  | .personal => ["private", "1"]
  | .collapsing => ["collapsing", "2"]

end Flavor

/-! ## What the environment gives -/

namespace Environment

end Environment

namespace Settings

variable {env : Environment}

/-- The value is the one that is given, or else the one that stands in the file, or else
the default. -/
def Chosen {α : Type} (given : Option α) (inFile : Option Json) (write : α → Json)
    (default value : α) : Prop :=
  match given, inFile with
  | some x, _ => value = x
  | none, some v => v = write value
  | none, none => value = default

/-- A value that is chosen without the environment gives way to what is given there. -/
theorem Chosen.getD
    {α : Type} {inFile : Option Json} {write : α → Json} {default value : α}
    (h : Chosen none inFile write default value) (given : Option α) :
    Chosen given inFile write default (given.getD value) := by
  cases given with
  | none => exact h
  | some x => rfl

/-- What must be known of a member of the file to make settings of it. -/
def Fits (m : Json.Member Json.Kind) (v : Json) : Prop :=
  ∃ word, v = .string word ∧ (m.name = "variant" → ∃ flavor : Flavor, word = flavor.name)

variable {path : Option String} {read : String → Except FileFault ByteArray}

end Settings
end BayeuxChat
