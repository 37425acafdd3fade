import GrammarAtlas.Grammar
import GrammarAtlas.Symbol

/-!
# Numbering symbols

Symbols are numbered in the order in which they are added, from zero. Some are added as they are:
the symbols of rules and of external tokens, which are known by the names of these. Others, such as
literals, are shared: they are added only if no findable symbol has their kind of node yet.

How far the numbers reach is up to an `Addressing`. A number that is out of reach is written as
`errorId`, and a symbol there cannot be found. `SymbolTable.build` refuses such numberings in the
end; until then they go wrong in this one way.
-/

namespace GrammarAtlas

/-- The number of the error symbol, which lies outside the numbering. -/
def errorId : Nat := 0xFFFF

/-- How far symbol numbers reach. -/
inductive Addressing where
  /-- Up to sixteen bits. -/
  | sixteenBit
  /-- Without a limit. -/
  | unbounded
  deriving DecidableEq, Repr

namespace Addressing

/-- Whether a number is in reach. -/
def reaches : Addressing → Nat → Bool
  | sixteenBit, id => id ≤ errorId
  | unbounded, _ => true

/-- The number that is written for the symbol at an index. -/
def idOf (addressing : Addressing) (index : Nat) : Nat :=
  if addressing.reaches index then index else errorId

end Addressing

/-- Something that is to be numbered. -/
inductive Entry where
  /-- The symbol of a rule or an external token, which is known by the name of its nodes. -/
  | own (symbol : Symbol)
  /-- A symbol that is needed only if no other one has its kind of node. -/
  | shared (symbol : Symbol)
  deriving DecidableEq, Repr

/-- Symbols with their numbers. -/
structure Numbering where
  /-- The symbols in the order of their numbers. -/
  symbols : Array Symbol
  /-- The first index where a kind of node can be found. -/
  first : ByKind Nat
  /-- The numbers of rules and external tokens by name. -/
  ruleIds : ByName Nat
  /-- The index by kind agrees with a search from the front. -/
  first_eq : ∀ node, first[node]? = symbols.toList.findIdx? (·.answersTo node)

namespace Numbering

/-- The numbering of the end of the input alone. -/
def initial : Numbering where
  symbols := #[.endOfInput]
  first := ∅
  ruleIds := ∅
  first_eq node := by
    simp [Symbol.answersTo, Symbol.isFindable, Symbol.endOfInput]

/-- The index by kind with a further symbol at an index. -/
def indexed (first : ByKind Nat) (index : Nat) (symbol : Symbol) : ByKind Nat :=
  if symbol.isFindable then first.insertIfNew symbol.node index else first

/-- A further symbol at the end comes behind all others of its kind. -/
theorem indexed_eq (symbols : Array Symbol) (first : ByKind Nat) (symbol : Symbol)
    (agrees : ∀ node, first[node]? = symbols.toList.findIdx? (·.answersTo node))
    (node : NodeKind) :
    (indexed first symbols.size symbol)[node]? =
      (symbols.push symbol).toList.findIdx? (·.answersTo node) := by
  rw [Array.toList_push, List.findIdx?_append, ← agrees node, indexed]
  by_cases findable : symbol.isFindable
  · rw [if_pos findable, Std.ExtTreeMap.getElem?_insertIfNew]
    by_cases same : symbol.node = node
    · subst same
      cases found : first[symbol.node]? with
      | none =>
        have absent : symbol.node ∉ first := by
          rw [Std.ExtTreeMap.mem_iff_isSome_getElem?, found]
          simp
        simp [absent, Symbol.answersTo, findable, List.findIdx?_cons]
      | some index =>
        have present : symbol.node ∈ first := by
          rw [Std.ExtTreeMap.mem_iff_isSome_getElem?, found]
          simp
        simp [present]
    · simp [same, Symbol.answersTo, List.findIdx?_cons]
  · rw [if_neg findable]
    simp [Symbol.answersTo, findable, List.findIdx?_cons]

/-- The numbering with a further symbol. The index by kind comes first, so that the symbols are
not in use any more when one is added to them. -/
def push (numbering : Numbering) (symbol : Symbol) : Numbering :=
  match numbering with
  | ⟨symbols, first, ruleIds, agrees⟩ =>
    let longer := indexed first symbols.size symbol
    ⟨symbols.push symbol, longer, ruleIds, indexed_eq symbols first symbol agrees⟩

/-- The number that is written for the symbol added last. -/
def lastId (addressing : Addressing) (numbering : Numbering) : Nat :=
  addressing.idOf (numbering.symbols.size - 1)

/-- The number of the first findable symbol of a kind of node, if it is in reach. -/
def find? (addressing : Addressing) (numbering : Numbering) (node : NodeKind) : Option Nat :=
  numbering.first[node]?.filter addressing.reaches

/-- The numbering with a further entry. -/
def add (addressing : Addressing) (numbering : Numbering) : Entry → Numbering
  | .own symbol =>
    let next := numbering.push symbol
    { next with ruleIds := next.ruleIds.insert symbol.node.name (next.lastId addressing) }
  | .shared symbol =>
    if (numbering.find? addressing symbol.node).isSome then numbering else numbering.push symbol

/-- The numbering of the end of the input and then of entries in order. -/
def ofEntries (addressing : Addressing) (entries : List Entry) : Numbering :=
  entries.foldl (add addressing) initial

end Numbering

end GrammarAtlas
