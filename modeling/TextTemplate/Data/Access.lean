import TextTemplate.Drop
import TextTemplate.Text.Search

/-!
Reading members of values, and the tests that may look into drops.

Reading never fails: what is not there is nil.
-/

namespace TextTemplate.Data

/-- The member called `key`. A key of a hash comes first; otherwise `size` is the length of a
string, an array or a hash, an array also answers `first`, `last` and decimal indices, and a drop
is read. -/
def member (data : Data) (key : String) : DropM Data :=
  match data with
  | hash entries =>
    match entries.get? key with
    | some value => return value
    | none => return if key = "size" then .ofNat entries.size else nil
  | array items =>
    return match key with
      | "size" => .ofNat items.length
      | "first" => items.headD nil
      | "last" => items.getLastD nil
      | _ =>
        match Number.read? key.toList with
        | some index => (array items).itemAt index.toInt
        | none => nil
  | string text => return if key = "size" then .ofNat text.length else nil
  | drop id => DropM.read id key
  | _ => return nil

/-- The member that a computed key names. An integer indexes an array and names a member of other
values by its decimal text, a string names a member, and any other key names nothing. -/
def index (data key : Data) : DropM Data :=
  match key with
  | int n =>
    match data with
    | array items => return (array items).itemAt n.toInt
    | _ => data.member (Number.decimal n)
  | string name => data.member name
  | _ => return nil

/-- Whether one of the items equals `needle`. -/
def anySame (needle : Data) : List Data → DropM Bool
  | [] => return false
  | item :: items => do
    if ← DropM.same item needle then return true else anySame needle items

/-- Whether a string holds the text of `needle`, an array an item equal to it, or a hash the key
that it is. Nothing else holds anything, and no string holds nil. -/
def containsData (data needle : Data) : DropM Bool :=
  match data with
  | string text =>
    return match needle, needle.coerceString? with
      | nil, _ | _, none => false
      | _, some part => Text.hasInfix part.toList text.toList
  | array items => anySame needle items
  | hash entries =>
    return match needle with
      | string key => entries.contains key
      | _ => false
  | _ => return false

end TextTemplate.Data
