import Restaking.Text.CharSet

/-!
# Labels

Hosts and accounts have names made of labels with dots between them. A text is taken apart at every dot,
and between two dots there is a label too, which may be empty.
-/
namespace Restaking.Text

/-- What stands between the characters that satisfy `p`. -/
def splitWhere (p : Char → Bool) : List Char → List (List Char)
  | [] => [[]]
  | c :: rest =>
    if p c then [] :: splitWhere p rest
    else
      match splitWhere p rest with
      | [] => [[c]]
      | l :: more => (c :: l) :: more

/-- What stands between dots. -/
def labels (cs : List Char) : List (List Char) := splitWhere (· == '.') cs

end Restaking.Text
