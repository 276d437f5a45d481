-- Identities of tracked resources. An identity is plain data: it keeps nothing alive, and says only
-- which registry gave it out, as the how-manieth, and for what kind of resource.

namespace SyntaxHandles

inductive ResourceKind
  | index
  | translationUnit
  deriving DecidableEq, Repr

namespace ResourceKind

def text : ResourceKind → String
  | .index => "index"
  | .translationUnit => "translation-unit"

def name : ResourceKind → String
  | .index => "Index"
  | .translationUnit => "TranslationUnit"

end ResourceKind

structure ResourceId where
  registry : UInt32
  serial : UInt32
  kind : ResourceKind
  deriving DecidableEq, Repr

namespace ResourceId

def text (id : ResourceId) : String :=
  id.kind.text ++ "#" ++ toString id.serial ++ "@" ++ toString id.registry

-- All parts by name, for reports.
def inspect (id : ResourceId) : String :=
  "ResourceId \x7b registry: " ++ toString id.registry ++ ", serial: " ++ toString id.serial ++
    ", kind: " ++ id.kind.name ++ " \x7d"

end ResourceId

end SyntaxHandles
