import PackageRepos.Failure

/-!
# Requests for quantities

A caller may hand over a value of any kind as the text of a quantity. A value that does not count
as true stands for a text that was not given.
-/

namespace PackageRepos
namespace Quantity

/-- The quantity that a value handed over denotes. -/
def ofValue (quantity : Quantity) (value : Value) : Except Failure Int :=
  match value with
  | .text text => (quantity.parse text).mapError (Failure.ofQuantity quantity text)
  | other =>
    if other.isTrue then .error (.argument (refusal other))
    else .error (.ofQuantity quantity [] .missing)
where
  /-- What is wrong with a value that is no text. -/
  refusal : Value → ArgumentFault
    | .bytes _ => .quantityAsBytes
    | other => .quantityNotText other.kindName

end Quantity
end PackageRepos
