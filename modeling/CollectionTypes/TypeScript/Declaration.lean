import CollectionTypes.TypeScript.TypeParameter

/-!
# Declarations

The declarations that a module is made of, as data, and the lines that they are written in. A line
of a declaration never depends on another one.

Specification: the forms shown in sections 4.3 to 4.6.
-/

namespace CollectionTypes.TypeScript

/-- A type that can be the element of an array as it stands. -/
inductive Scalar where
  | string
  | number
  | boolean
  | declared (name : String)
  deriving DecidableEq, Repr

/-- The types that fields have: a scalar, an array of it, or a parameter that may be null. -/
inductive TypeExpr where
  | one (type : Scalar)
  | many (type : Scalar)
  | nullOr (parameter : String)
  deriving DecidableEq, Repr

/-- A property of an object type. Its name is any text; how it is spelled shows in its line. -/
structure Property where
  name : String
  optional : Bool
  type : TypeExpr
  deriving DecidableEq, Repr

/-- The name of an enum member: an identifier, or any text as a literal. -/
inductive EnumKey where
  | bare (name : String)
  | quoted (text : String)
  deriving DecidableEq, Repr

/-- A member of an enum, whose value is always a text. -/
structure EnumMember where
  key : EnumKey
  value : String
  deriving DecidableEq, Repr

structure EnumDeclaration where
  name : String
  members : List EnumMember
  deriving DecidableEq, Repr

/-- An object type with the parameters that its properties may use. -/
structure ObjectDeclaration where
  name : String
  parameters : List String
  properties : List Property
  deriving DecidableEq, Repr

/-- A record type applied to its parameters, with the system fields of the collection, and with the
records that relations may be expanded to. -/
structure ResponseDeclaration where
  name : String
  parameters : List String
  record : String
  systemFields : String
  expand : List Property
  deriving DecidableEq, Repr

/-- Lines are joined by breaks, so the last one has none behind it. -/
def joinLines (lines : List String) : String :=
  "\n".intercalate lines

/-- Parts with a blank line between one and the next. -/
def separated (parts : List (List String)) : List String :=
  [""].intercalate parts

/-- Every part but the first has a blank line before it. -/
theorem separated_cons (first : List String) (others : List (List String)) :
    separated (first :: others) = first ++ others.flatMap ("" :: ·) := by
  induction others generalizing first with
  | nil => simp [separated]
  | cons second others ih =>
    rw [separated, List.intercalate_cons_cons]
    change first ++ [""] ++ separated (second :: others) = _
    rw [ih, List.flatMap_cons, List.append_assoc]
    rfl

theorem separated_append {front : List (List String)} (some : front ≠ [])
    (back : List (List String)) :
    separated (front ++ back) = separated front ++ back.flatMap ("" :: ·) := by
  cases front with
  | nil => exact absurd rfl some
  | cons first others =>
    rw [List.cons_append, separated_cons, separated_cons, List.flatMap_append, List.append_assoc]

/-- What stands between the lines of two brackets; without content there is a blank line. -/
def bodyLines (lines : List String) : List String :=
  if lines.isEmpty then [""] else lines

def Scalar.text : Scalar → String
  | .string => "string"
  | .number => "number"
  | .boolean => "boolean"
  | .declared name => name

def TypeExpr.text : TypeExpr → String
  | .one type => type.text
  | .many type => type.text ++ "[]"
  | .nullOr parameter => "null | " ++ parameter

/-- One or many values of a type. -/
def TypeExpr.ofCount (many : Bool) (type : Scalar) : TypeExpr :=
  if many then .many type else .one type

namespace Property

def marker (p : Property) : String :=
  if p.optional then "?" else ""

/-- The key is spelled as it has to be, then come the mark and the type. -/
def text (p : Property) : String :=
  propertyKey p.name ++ p.marker ++ ": " ++ p.type.text

/-- Properties are indented by a tab. -/
def line (p : Property) : String :=
  "\t" ++ p.text

end Property

def EnumKey.text : EnumKey → String
  | .bare name => name
  | .quoted text => literal text

/-- Enum members are indented by a tab and end with a comma. -/
def EnumMember.line (m : EnumMember) : String :=
  "\t" ++ m.key.text ++ " = " ++ literal m.value ++ ","

namespace EnumDeclaration

def header (d : EnumDeclaration) : String :=
  "export enum " ++ d.name ++ " \x7b"

def lines (d : EnumDeclaration) : List String :=
  d.header :: (bodyLines (d.members.map (·.line)) ++ ["\x7d"])

end EnumDeclaration

namespace ObjectDeclaration

def header (d : ObjectDeclaration) : String :=
  "export type " ++ d.name ++ parameterDeclaration d.parameters ++ " = \x7b"

def lines (d : ObjectDeclaration) : List String :=
  d.header :: (bodyLines (d.properties.map (·.line)) ++ ["\x7d"])

end ObjectDeclaration

namespace ResponseDeclaration

def header (d : ResponseDeclaration) : String :=
  "export type " ++ d.name ++ parameterDeclaration d.parameters ++ " = " ++ d.record ++
    parameterReference d.parameters ++ " & " ++ d.systemFields

def lines (d : ResponseDeclaration) : List String :=
  if d.expand.isEmpty then [d.header]
  else
    (d.header ++ " & \x7b") :: "\texpand?: \x7b" ::
      (d.expand.map (fun p => "\t" ++ p.line) ++ ["\t\x7d", "\x7d"])

end ResponseDeclaration

end CollectionTypes.TypeScript
