import Restaking.Value
import Restaking.Text.Quoted
import Restaking.Decimal.Layout

/-!
# Values in messages

A value is shown quoted when it stands inside another one or where a message must make its type
visible, and plainly otherwise. The two differ for texts alone.
-/
namespace Restaking.Value

open Restaking.Text

/-- Doubles are positional from `1e-4` to below `1e16`, and exponents have a sign and two digits. -/
def floatLayout : Decimal.Layout where
  least := -4
  greatest := 15
  exponentWidth := 2
  nan := "nan"
  infinity := "inf"

def ofBool (b : Bool) : String := if b then "True" else "False"

/-- Elements between brackets. -/
def bracketed (left right : String) (items : List String) : String :=
  left ++ ", ".intercalate items ++ right

/-- Elements between parentheses; a single one is followed by a comma. -/
def parenthesized : List String → String
  | [item] => "(" ++ item ++ ",)"
  | items => bracketed "(" ")" items

/-- Named fields after the name of their type. -/
def fields (name : String) (entries : List (String × String)) : String :=
  name ++ bracketed "(" ")" (entries.map fun e => e.1 ++ "=" ++ e.2)

mutual

/-- The quoted form. -/
def quoted : Value → String
  | null => "None"
  | bool b => ofBool b
  | int n => toString n
  | float x => floatLayout.write x
  | text s => String.ofList (Quoted.ofText s.toList)
  | bytes bs => String.ofList (Quoted.ofBytes bs)
  | buffer bs => "bytearray(" ++ String.ofList (Quoted.ofBuffer bs) ++ ")"
  | list xs => bracketed "[" "]" (quotedAll xs)
  | tuple xs => parenthesized (quotedAll xs)
  | mapping entries => bracketed "\x7b" "\x7d" (quotedEntries entries)
  | operator ⟨address, approver, window⟩ =>
    fields "Operator" [("address", quoted address), ("delegation_approver_address", quoted approver),
      ("staker_opt_out_window_blocks", quoted window)]
  | earnerLeaf ⟨earner, tokenRoot⟩ =>
    fields "EarnerTreeMerkleLeaf" [("earner", quoted earner), ("earner_token_root", quoted tokenRoot)]
  | tokenLeaf ⟨token, earnings⟩ =>
    fields "TokenTreeMerkleLeaf" [("token", quoted token), ("cumulative_earnings", quoted earnings)]
  | claim ⟨rootIndex, earnerIndex, proof, leaf, indices, proofs, leaves⟩ =>
    fields "RewardsMerkleClaim" [("root_index", quoted rootIndex), ("earner_index", quoted earnerIndex),
      ("earner_tree_proof", quoted proof), ("earner_leaf", quoted leaf),
      ("token_indices", quoted indices), ("token_tree_proofs", quoted proofs),
      ("token_leaves", quoted leaves)]

/-- The quoted form of each element. -/
def quotedAll : List Value → List String
  | [] => []
  | x :: rest => quoted x :: quotedAll rest

/-- Each key and value with a colon between them. -/
def quotedEntries : List (String × Value) → List String
  | [] => []
  | (key, x) :: rest =>
    (String.ofList (Quoted.ofText key.toList) ++ ": " ++ quoted x) :: quotedEntries rest

end

/-- The plain form: a text is shown as it is. -/
def plain : Value → String
  | text s => s
  | x => quoted x

end Restaking.Value
