import VestingContract.Proofs.Run.Results
import VestingContract.Value.Display

/-!
# Values that can be shown

A value whose containers are nested no deeper than there is room for has a
text, unless an integer in it has too many digits.
-/

namespace VestingContract
namespace Value

mutual

/-- The greatest number of containers inside each other. -/
def depth : Value → Nat
  | list items | tuple items | set items => depthOfItems items + 1
  | map pairs => depthOfPairs pairs + 1
  | _ => 0

def depthOfItems : List Value → Nat
  | [] => 0
  | item :: items => max item.depth (depthOfItems items)

/-- The greatest depth of keys and values. -/
def depthOfPairs : List (Value × Value) → Nat
  | [] => 0
  | (key, value) :: pairs =>
      max (max key.depth value.depth) (depthOfPairs pairs)

end

/-- What is shown does not ask for more room than there is. -/
abbrev FitsIn {α : Type} (shown : Except ShowFault α) : Prop :=
  OnlyFails (· ≠ .tooDeep) shown

theorem fitsIn_showWhole (whole : Int) : FitsIn (showWhole whole) :=
  onlyFails_mapError.mpr fun _ _ => nofun

theorem fitsIn_quotedFields (entry : Entry) : FitsIn entry.quotedFields := by
  refine onlyFails_mapM fun field => onlyFails_bind.mpr ⟨?_, fun _ _ => ?_⟩
  · cases field.2 with
    | int whole => exact fitsIn_showWhole whole
    | _ => exact onlyFails_ok
  · exact onlyFails_pure

/-- There is room for one container more. -/
theorem fitsIn_inside {α : Type} {shown : Nat → Except ShowFault α}
    {room depth : Nat} (fits : depth + 1 ≤ room)
    (fitsIn : ∀ room, depth ≤ room → FitsIn (shown room)) :
    FitsIn (inside room shown) := by
  cases room with
  | zero => omega
  | succ room => exact fitsIn room (by omega)

mutual

theorem fitsIn_quoted {room : Nat} (value : Value)
    (fits : value.depth ≤ room) : FitsIn (value.quoted room) := by
  cases value with
  | int whole => exact fitsIn_showWhole whole
  | list items =>
      exact fitsIn_inside fits fun room fits =>
        onlyFails_bind.mpr ⟨fitsIn_quotedItems items fits,
          fun _ _ => onlyFails_pure⟩
  | tuple items =>
      refine fitsIn_inside fits fun room fits =>
        onlyFails_bind.mpr ⟨fitsIn_quotedItems items fits, fun shown _ => ?_⟩
      split <;> exact onlyFails_pure
  | set items =>
      refine fitsIn_inside fits fun room fits =>
        onlyFails_bind.mpr ⟨fitsIn_quotedItems items fits, fun shown _ => ?_⟩
      split <;> exact onlyFails_pure
  | map pairs =>
      exact fitsIn_inside fits fun room fits =>
        onlyFails_bind.mpr ⟨fitsIn_quotedPairs pairs fits,
          fun _ _ => onlyFails_pure⟩
  | entry record =>
      exact onlyFails_bind.mpr ⟨fitsIn_quotedFields record,
        fun _ _ => onlyFails_pure⟩
  | cycle container => cases container <;> exact onlyFails_ok
  | _ => exact onlyFails_ok

theorem fitsIn_quotedItems {room : Nat} (items : List Value)
    (fits : depthOfItems items ≤ room) : FitsIn (quotedItems room items) := by
  cases items with
  | nil => exact onlyFails_ok
  | cons item items =>
      rw [depthOfItems] at fits
      rw [quotedItems]
      have head : FitsIn (item.quoted room) := fitsIn_quoted item (by omega)
      have rest : FitsIn (quotedItems room items) :=
        fitsIn_quotedItems items (by omega)
      exact onlyFails_bind.mpr ⟨head, fun _ _ =>
        onlyFails_bind.mpr ⟨rest, fun _ _ => onlyFails_pure⟩⟩

theorem fitsIn_quotedPairs {room : Nat} (pairs : List (Value × Value))
    (fits : depthOfPairs pairs ≤ room) : FitsIn (quotedPairs room pairs) := by
  cases pairs with
  | nil => exact onlyFails_ok
  | cons pair pairs =>
      obtain ⟨key, value⟩ := pair
      rw [depthOfPairs] at fits
      rw [quotedPairs]
      have ofKey : FitsIn (key.quoted room) := fitsIn_quoted key (by omega)
      have ofValue : FitsIn (value.quoted room) :=
        fitsIn_quoted value (by omega)
      have rest : FitsIn (quotedPairs room pairs) :=
        fitsIn_quotedPairs pairs (by omega)
      exact onlyFails_bind.mpr ⟨ofKey, fun _ _ =>
        onlyFails_bind.mpr ⟨ofValue, fun _ _ =>
          onlyFails_bind.mpr ⟨rest, fun _ _ => onlyFails_pure⟩⟩⟩

end

/-- A value whose containers fit is displayed, unless it is unspellable. -/
theorem fitsIn_display {room : Nat} (value : Value)
    (fits : value.depth ≤ room) : FitsIn (value.display room) := by
  cases value with
  | entry record =>
      exact onlyFails_bind.mpr ⟨fitsIn_quotedFields record,
        fun _ _ => onlyFails_pure⟩
  | decimal | literal | text | date | moment => exact onlyFails_ok
  | _ => exact fitsIn_quoted _ fits

end Value
end VestingContract
