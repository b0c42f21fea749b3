import Lisplet.Value.Basic

/-!
# Data of a host as values and expressions

Integers of up to 32 bits are numbers, truth values are truth values, texts are symbols, and lists
are vectors when they become values and forms when they become expressions.
-/

set_option autoImplicit false

namespace Lisplet

/-- A type whose members can be made values and expressions. -/
class Embeds (α : Type) where
  toValue {Host : Type} : α → Value Host
  toExpr : α → Expr

namespace Embeds

/-- An integer of few enough bits that it is exactly a number. -/
def integerValue {Host : Type} (value : Int) : Value Host := .number (Float.ofInt value)

/-- An integer of at most 64 bits. -/
def integerExpr (value : Int) : Expr := .number (Int64.ofInt value)

instance :
    Embeds Int8 := ⟨fun value => integerValue value.toInt, fun value => integerExpr value.toInt⟩

instance : Embeds Int16 :=
  ⟨fun value => integerValue value.toInt, fun value => integerExpr value.toInt⟩

instance : Embeds Int32 :=
  ⟨fun value => integerValue value.toInt, fun value => integerExpr value.toInt⟩

instance : Embeds UInt8 :=
  ⟨fun value => integerValue value.toNat, fun value => integerExpr value.toNat⟩

instance : Embeds UInt16 :=
  ⟨fun value => integerValue value.toNat, fun value => integerExpr value.toNat⟩

instance : Embeds UInt32 :=
  ⟨fun value => integerValue value.toNat, fun value => integerExpr value.toNat⟩

instance : Embeds Bool := ⟨.bool, .bool⟩

instance : Embeds String := ⟨.symbol, .symbol⟩

instance {α : Type} [Embeds α] : Embeds (List α) :=
  ⟨fun items => .vector (items.map toValue), fun items => .form (items.map toExpr)⟩

end Embeds
end Lisplet
