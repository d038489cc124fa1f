/-
# Wrapped values

A group in a configuration file may be a wrapper: it stands for the value of one
reserved member, and its other members do not count. A second reserved member
would mark where a value comes from; no value of a file is such a mark, so a
group with this member cannot be read. The document itself is never a wrapper.

Key definitions: `Document.unwrap?`, `Document.unwrapInside?`.
-/
import Nearfield.Config.Document

namespace Nearfield
namespace Config
namespace Document

/-- The member that holds the value of a wrapper. -/
def wrappedName : String := "___figment_value_value"

/-- The member for the mark of a value. -/
def markName : String := "___figment_value_id"

mutual

/-- The value with every wrapper in it replaced by what it holds. -/
def unwrap? : Document → Option Document
  | .list items => return .list (← unwrapItems? items)
  | .group members => do
    guard (members.lookup markName).isNone
    let members ← unwrapMembers? members
    return (members.lookup wrappedName).getD (.group members)
  | d => some d

def unwrapItems? : List Document → Option (List Document)
  | [] => some []
  | d :: rest => return (← unwrap? d) :: (← unwrapItems? rest)

def unwrapMembers? : List (String × Document) → Option (List (String × Document))
  | [] => some []
  | (name, d) :: rest => return (name, ← unwrap? d) :: (← unwrapMembers? rest)

end

/-- The document with the wrappers inside it replaced. -/
def unwrapInside? : Document → Option Document
  | .group members => return .group (← unwrapMembers? members)
  | d => some d

end Document
end Config
end Nearfield
