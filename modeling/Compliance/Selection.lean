import Compliance.Rule.Catalog

/-!
# Selections

A selection names categories, rules and SOPs; an SOP stands for a list of
categories.  It resolves to a plan: the touched categories in canonical order,
each with its rules in the order of registration.  The first unknown name fails
the whole selection, categories before SOPs before rules.
-/

namespace Compliance

abbrev SopMap := List (String × List Category)

structure Selection where
  categories : List String := []
  rules : List String := []
  sops : List String := []
  deriving DecidableEq, Repr

abbrev Plan := List (Category × List Rule)

namespace Selection

def all : Selection := {}

def ofCategory (category : Category) : Selection := { categories := [category.id] }

def isEmpty (selection : Selection) : Bool :=
  selection.categories.isEmpty && selection.rules.isEmpty && selection.sops.isEmpty

def findSop (sops : SopMap) (name : String) : Except Error (List Category) :=
  match sops.find? fun entry => sameName entry.1 name with
  | some (_, categories) => .ok categories
  | none => .error (.unknownSop name)

def findRule (catalog : Catalog) (name : String) : Except Error Rule :=
  match catalog.get? name with
  | some rule => .ok rule
  | none => .error (.unknownRule name)

structure Named where
  categories : List Category
  ruleIds : List String
  deriving DecidableEq, Repr

def named (selection : Selection) (catalog : Catalog) (sops : SopMap) : Except Error Named := do
  let direct ← selection.categories.mapM Category.parse
  let grouped ← selection.sops.mapM (findSop sops)
  let rules ← selection.rules.mapM (findRule catalog)
  return ⟨direct ++ grouped.flatten, rules.map (·.id)⟩

def Named.rulesOf (named : Named) (catalog : Catalog) (category : Category) : List Rule :=
  (catalog.byCategory category).filter fun rule =>
    named.categories.contains category || named.ruleIds.contains rule.id

def Named.plan (named : Named) (catalog : Catalog) : Plan :=
  (Category.all.map fun category => (category, named.rulesOf catalog category)).filter
    fun entry => named.categories.contains entry.1 || !entry.2.isEmpty

/-- The empty selection stands for every category that has a rule. -/
def resolve (selection : Selection) (catalog : Catalog) (sops : SopMap) : Except Error Plan :=
  if selection.isEmpty then
    .ok (catalog.categories.map fun category => (category, catalog.byCategory category))
  else (selection.named catalog sops).map (·.plan catalog)

end Selection

end Compliance
