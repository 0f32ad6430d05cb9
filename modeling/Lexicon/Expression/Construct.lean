import Lexicon.Kind.Basic

/-!
# Constructs headed by a keyword

Keywords that open a statement, an accessor, a switch label or a declaration, and the kinds of the
nodes they open.
-/

namespace Lexicon.Kind

/-- Blocks in which arithmetic is checked or not. -/
def checkStatement? : Kind → Option Kind
  | checkedKeyword => some checkedStatement
  | uncheckedKeyword => some uncheckedStatement
  | _ => none

def accessorDeclaration? : Kind → Option Kind
  | getKeyword => some getAccessorDeclaration
  | setKeyword => some setAccessorDeclaration
  | addKeyword => some addAccessorDeclaration
  | removeKeyword => some removeAccessorDeclaration
  | _ => none

def switchLabel? : Kind → Option Kind
  | caseKeyword => some caseSwitchLabel
  | defaultKeyword => some defaultSwitchLabel
  | _ => none

/-- Declarations of types that have members. -/
def typeDeclaration? : Kind → Option Kind
  | classKeyword => some classDeclaration
  | structKeyword => some structDeclaration
  | interfaceKeyword => some interfaceDeclaration
  | _ => none

/-- Declarations of types that have members, and enumerations. -/
def baseTypeDeclaration? : Kind → Option Kind
  | enumKeyword => some enumDeclaration
  | keyword => keyword.typeDeclaration?

/-- Every construct that a keyword opens, with what it is called. -/
def constructs (keyword : Kind) : List (String × Kind) :=
  [("statement", keyword.checkStatement?), ("accessor", keyword.accessorDeclaration?),
    ("switch label", keyword.switchLabel?), ("declaration", keyword.baseTypeDeclaration?)].filterMap
    fun (label, construct) => construct.map fun kind => (label, kind)

end Lexicon.Kind
