import SwiftDevEnv.Cursor.Documentation
import SwiftDevEnv.Cursor.Info

/-!
# Hover contents

A hover shows the symbol under the cursor: its name, its declaration, the type it is declared
in, its module and its documentation. There is a hover only when the cursor information names
a symbol.

The declaration is shown only when the information has an annotated declaration; its text is
then taken from the `Declaration` element of the documentation XML, else from the annotated
declaration read as XML, else from the annotated declaration as it is, trimmed.
-/

namespace SwiftDevEnv.Cursor

open SwiftDevEnv.Json

/-- What a hover shows. -/
structure Hover where
  name : String
  declaration : Option String
  containerType : Option String
  module : Option String
  documentation : List String
  deriving Repr, DecidableEq, Inhabited

/-- A string field of the cursor information. -/
def stringField (info : Value) (key : String) : Option String :=
  (info.get? key).bind Value.asString?

/-- The hover for cursor information, given the enclosing type's name if known. -/
def hoverOf (info : Value) (containerType : Option String) : Option Hover := do
  let name ← stringField info "key.name"
  let fullAsXml := stringField info "key.doc.full_as_xml"
  let annotated := stringField info "key.annotated_decl"
  let declaration := annotated.map fun a =>
    match fullAsXml.bind declarationText with
    | some d => d
    | none => (declarationText a).getD (Text.trim a)
  pure { name, declaration, containerType, module := stringField info "key.modulename",
         documentation := (fullAsXml.map documentationFromXml).getD [] }

/-- The hover as one markdown document: the name alone without a declaration, otherwise the
declaration in a code block, then the enclosing type, the module and the documentation. -/
def Hover.markdown (h : Hover) : String :=
  match h.declaration with
  | none => h.name
  | some d =>
    "**Declaration:**\n```swift\n" ++ d ++ "\n```\n" ++
      (match h.containerType with
        | some c => "**Declared In**:  " ++ c ++ "\n\n"
        | none => "") ++
      (match h.module with
        | some m => "**Module**:  " ++ m
        | none => "") ++
      String.join (h.documentation.map fun p => "\n\n" ++ p)

/-- The JSON form of a hover. -/
def Hover.toJson (h : Hover) : Value :=
  .ofMembers [("name", .string h.name), ("declaration", .ofOption h.declaration),
    ("container_type", .ofOption h.containerType), ("module", .ofOption h.module),
    ("documentation", .ofStrings h.documentation)]

end SwiftDevEnv.Cursor
